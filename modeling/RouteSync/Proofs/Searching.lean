import RouteSync.Proofs.Places

/-!
# Searching a tree

The nodes of a tree can be listed, each with its own path, in depth-first order of slots. A search
goes along that list: it tests one node after another, hands the state of the test on, and ends at
the first node that the test accepts. `RouteTree.find_exact` says so for every test and every state,
so also for a test that writes down on what it was called.
-/

namespace RouteSync.RouteTree

/-! ### The nodes of a tree -/

/-- The node at a place, with its own path. The steps `above` lead to the root. -/
def located? (t : RouteTree) (above : List Step) (keys : List String) :
    Option (SegmentPath × RouteTree) :=
  (t.place? keys).map fun node => (⟨above ++ t.stepsTo keys, node.segment⟩, node)

/-- The nodes of a tree with their paths, in depth-first order of slots. -/
def nodesFrom (t : RouteTree) (above : List Step) : List (SegmentPath × RouteTree) :=
  t.places.filterMap (t.located? above)

/-- The nodes of a tree with their paths from its root. -/
def nodes (t : RouteTree) : List (SegmentPath × RouteTree) := t.nodesFrom []

theorem located?_cons_of_get? {t child : RouteTree} {key : String}
    (found : t.slots.get? key = some child) (above : List Step) (keys : List String) :
    t.located? above (key :: keys) = child.located? (above ++ [⟨t.segment, key⟩]) keys := by
  rw [located?, located?, place?_cons_of_get? found, stepsTo_cons_of_get? found]
  simp

theorem keys_of_located? {t node : RouteTree} {above : List Step} {keys : List String}
    {path : SegmentPath} (located : t.located? above keys = some (path, node)) :
    path.keys = above.map Step.key ++ keys := by
  obtain ⟨last, place, equal⟩ := Option.map_eq_some_iff.1 located
  cases equal
  rw [SegmentPath.keys, List.map_append, map_key_stepsTo place]

/-- The nodes of a tree are its root and those of the trees in its slots. -/
theorem nodesFrom_eq (t : RouteTree) (above : List Step) :
    t.nodesFrom above = (⟨above, t.segment⟩, t) :: t.slots.keys.flatMap fun key =>
      (t.slots.get? key).elim [] fun child => child.nodesFrom (above ++ [⟨t.segment, key⟩]) := by
  have root : t.located? above [] = some (⟨above, t.segment⟩, t) := by simp [located?]
  rw [nodesFrom, places_eq, List.filterMap_cons_some root, List.filterMap_flatMap]
  congr
  funext key
  cases found : t.slots.get? key with
  | none => rfl
  | some child =>
    rw [Option.elim_some, Option.elim_some, List.filterMap_map, nodesFrom]
    congr
    funext keys
    exact located?_cons_of_get? found above keys

theorem mem_nodesFrom_iff (t : RouteTree) (above : List Step) (path : SegmentPath)
    (node : RouteTree) :
    (path, node) ∈ t.nodesFrom above ↔
      ∃ keys, t.place? keys = some node ∧ path = ⟨above ++ t.stepsTo keys, node.segment⟩ := by
  simp only [nodesFrom, List.mem_filterMap, mem_places_iff, located?, Option.map_eq_some_iff,
    Prod.mk.injEq]
  constructor
  · rintro ⟨keys, -, _, place, rfl, rfl⟩
    exact ⟨keys, place, rfl⟩
  · rintro ⟨keys, place, rfl⟩
    exact ⟨keys, ⟨node, place⟩, node, place, rfl, rfl⟩

theorem map_keys_nodesFrom (t : RouteTree) (above : List Step) :
    (t.nodesFrom above).map (fun located => located.1.keys) =
      t.places.map (above.map Step.key ++ ·) := by
  induction t using slotInduction generalizing above with
  | node t ih =>
    rw [nodesFrom_eq, places_eq, List.map_cons, List.map_cons, List.map_flatMap, List.map_flatMap]
    congr 1
    · simp [SegmentPath.keys]
    · apply List.flatMap_congr
      intro key inside
      obtain ⟨child, found⟩ := (Dict.mem_keys_iff ..).1 inside
      simp [found, Function.comp_def, ih key child found]

theorem length_nodesFrom (t : RouteTree) (above : List Step) :
    (t.nodesFrom above).length = t.nodeCount := by
  induction t using slotInduction generalizing above with
  | node t ih =>
    rw [nodesFrom_eq, nodeCount_eq, List.length_cons, List.length_flatMap]
    congr 2
    apply List.map_congr_left
    intro key inside
    obtain ⟨child, found⟩ := (Dict.mem_keys_iff ..).1 inside
    rw [found, Option.elim_some, Option.elim_some]
    exact ih key child found _

/-- The steps to a place of a tree can be taken. -/
theorem follows_stepsTo {t node : RouteTree} {keys : List String}
    (found : t.place? keys = some node) : t.Follows (t.stepsTo keys) := by
  induction keys generalizing t with
  | nil => exact follows_nil t
  | cons key keys ih =>
    obtain ⟨child, inside, found⟩ := (place?_cons_eq_some_iff ..).1 found
    rw [stepsTo_cons_of_get? inside, follows_cons_iff]
    exact ⟨Segment.matchesSegment_refl _, child, inside, ih found⟩

/-- The path of a node leads to it. -/
theorem nodeAt?_of_mem_nodes {t node : RouteTree} {path : SegmentPath}
    (member : (path, node) ∈ t.nodes) : t.nodeAt? path = some node := by
  obtain ⟨keys, found, rfl⟩ := (mem_nodesFrom_iff ..).1 member
  rw [nodeAt?_eq_some_iff, SegmentPath.keys, List.nil_append, map_key_stepsTo found]
  exact ⟨follows_stepsTo found, found, Segment.matchesSegment_refl _⟩

theorem map_keys_nodes (t : RouteTree) :
    t.nodes.map (fun located => located.1.keys) = t.places := by
  rw [nodes, map_keys_nodesFrom]
  simp

theorem length_nodes (t : RouteTree) : t.nodes.length = t.nodeCount := t.length_nodesFrom []

/-- No two nodes of a tree have the same path. -/
theorem nodup_paths (t : RouteTree) : (t.nodes.map Prod.fst).Nodup := by
  apply List.Nodup.of_map SegmentPath.keys
  rw [List.map_map]
  exact (map_keys_nodes t).symm ▸ nodup_places t

/-! ### Along a list -/

section Search

variable {σ : Type}

theorem firstFound_append {α β : Type} (search : α → σ → Option β × σ) (xs ys : List α)
    (state : σ) : firstFound search (xs ++ ys) state =
      match firstFound search xs state with
      | (some b, state) => (some b, state)
      | (none, state) => firstFound search ys state := by
  induction xs generalizing state with
  | nil => rfl
  | cons x xs ih =>
    rw [List.cons_append, firstFound, firstFound]
    split
    · rfl
    · exact ih _

/-- Searching one list after another is searching them as one list. -/
theorem firstFound_flatMap {α β γ : Type} (search : β → σ → Option γ × σ) (f : α → List β)
    (xs : List α) (state : σ) :
    firstFound search (xs.flatMap f) state =
      firstFound (fun x => firstFound search (f x)) xs state := by
  induction xs generalizing state with
  | nil => rfl
  | cons x xs ih =>
    rw [List.flatMap_cons, firstFound_append, firstFound]
    split <;> simp_all

variable (test : RouteTree → σ → Bool × σ)

/-- Tests a node, and gives its path if it is accepted. -/
def visit (located : SegmentPath × RouteTree) (state : σ) : Option SegmentPath × σ :=
  match test located.2 state with
  | (true, state) => (some located.1, state)
  | (false, state) => (none, state)

theorem findFrom_eq (t : RouteTree) (steps : List Step) (state : σ) :
    t.findFrom test steps state =
      if (test t state).1 then (some ⟨steps, t.segment⟩, (test t state).2)
      else firstFound (fun key state =>
        (t.slots.value key.1 key.2).findFrom test (steps ++ [⟨t.segment, key.1⟩]) state)
        t.slots.keys.attach (test t state).2 := by
  obtain ⟨_, ⟨_, _, _⟩, _, _, _⟩ := t
  delta findFrom findFrom._f
  dsimp only
  generalize test _ state = answer
  obtain ⟨accepted, after⟩ := answer
  cases accepted with
  | true => rfl
  | false => rfl

/-- A search tests the nodes of a tree in turn. -/
theorem findFrom_eq_firstFound (t : RouteTree) (steps : List Step) (state : σ) :
    t.findFrom test steps state = firstFound (visit test) (t.nodesFrom steps) state := by
  induction t using RouteTree.induction generalizing steps state with
  | node t ih =>
    have below : (fun (key : { key // key ∈ t.slots.keys }) state =>
        (t.slots.value key.1 key.2).findFrom test (steps ++ [⟨t.segment, key.1⟩]) state) =
        fun key => firstFound (visit test)
          ((t.slots.value key.1 key.2).nodesFrom (steps ++ [⟨t.segment, key.1⟩])) := by
      funext key state
      exact ih key.1 key.2 _ state
    rw [findFrom_eq, below, nodesFrom_eq, firstFound, visit, ← Dict.flatMap_attach t.slots
      fun key child => child.nodesFrom (steps ++ [Step.mk t.segment key])]
    obtain ⟨accepted, after⟩ := test t state
    cases accepted with
    | true => rfl
    | false => exact (firstFound_flatMap ..).symm

/-- The test is called on the nodes in turn, each time with the state of the call before, and refuses
all of them. -/
inductive Refuses (test : RouteTree → σ → Bool × σ) : List RouteTree → σ → σ → Prop
  | nil (state : σ) : Refuses test [] state state
  | cons {node : RouteTree} {rest : List RouteTree} {before between after : σ}
      (refused : test node before = (false, between)) (others : Refuses test rest between after) :
      Refuses test (node :: rest) before after

variable {test}

theorem refuses_nil_iff {before after : σ} : Refuses test [] before after ↔ before = after := by
  constructor
  · rintro ⟨⟩
    rfl
  · rintro rfl
    exact .nil before

theorem refuses_cons_iff {node : RouteTree} {rest : List RouteTree} {before after : σ} :
    Refuses test (node :: rest) before after ↔
      ∃ between, test node before = (false, between) ∧ Refuses test rest between after := by
  constructor
  · rintro ⟨⟩
    exact ⟨_, ‹_›, ‹_›⟩
  · rintro ⟨between, refused, others⟩
    exact .cons refused others

/-- Nothing is found exactly if the test refuses all nodes. -/
theorem firstFound_visit_eq_none_iff (located : List (SegmentPath × RouteTree)) (before after : σ) :
    firstFound (visit test) located before = (none, after) ↔
      Refuses test (located.map Prod.snd) before after := by
  induction located generalizing before with
  | nil => simp [firstFound, refuses_nil_iff]
  | cons first rest ih =>
    rw [List.map_cons, refuses_cons_iff, firstFound, visit]
    obtain ⟨accepted, between⟩ := test first.2 before
    cases accepted with
    | true => simp
    | false => simp [ih]

/-- The first node that the test accepts is found, once it has refused all before it. -/
theorem firstFound_visit_eq_some_iff (located : List (SegmentPath × RouteTree)) (path : SegmentPath)
    (before after : σ) :
    firstFound (visit test) located before = (some path, after) ↔
      ∃ front node back between, located = front ++ (path, node) :: back ∧
        Refuses test (front.map Prod.snd) before between ∧ test node between = (true, after) := by
  induction located generalizing before with
  | nil => simp [firstFound]
  | cons first rest ih =>
    simp only [List.cons_eq_append_iff]
    rw [firstFound, visit]
    cases answer : test first.2 before with
    | mk accepted between =>
      cases accepted with
      | true =>
        constructor
        · intro found
          cases found
          exact ⟨[], first.2, rest, before, .inl ⟨rfl, rfl⟩, .nil before, answer⟩
        · rintro ⟨front, node, back, last, ⟨rfl, same⟩ | ⟨others, rfl, -⟩, refuses, accepts⟩
          · cases same
            cases refuses
            rw [answer] at accepts
            cases accepts
            rfl
          · obtain ⟨_, refused, -⟩ := refuses_cons_iff.1 refuses
            rw [answer] at refused
            cases refused
      | false =>
        dsimp only
        rw [ih]
        constructor
        · rintro ⟨front, node, back, last, rfl, refuses, accepts⟩
          exact ⟨first :: front, node, back, last, .inr ⟨front, rfl, rfl⟩, .cons answer refuses,
            accepts⟩
        · rintro ⟨front, node, back, last, ⟨rfl, same⟩ | ⟨others, rfl, same⟩, refuses, accepts⟩
          · cases same
            cases refuses
            rw [answer] at accepts
            cases accepts
          · obtain ⟨_, refused, refuses⟩ := refuses_cons_iff.1 refuses
            rw [answer] at refused
            cases refused
            exact ⟨others, node, back, last, same, refuses, accepts⟩

end Search

/-! ### Stopping at a call -/

/-- The test that refuses as many nodes as its state says, and accepts the next one. -/
def countdown : RouteTree → Nat → Bool × Nat
  | _, 0 => (true, 0)
  | _, n + 1 => (false, n)

theorem firstFound_countdown (located : List (SegmentPath × RouteTree)) (n : Nat) :
    (firstFound (visit countdown) located n).1 = located[n]?.map Prod.fst := by
  induction located generalizing n with
  | nil => rfl
  | cons first rest ih =>
    cases n with
    | zero => rfl
    | succ n => exact ih n

theorem find_eq (t : RouteTree) {σ : Type} (test : RouteTree → σ → Bool × σ) (state : σ) :
    t.find test state = firstFound (visit test) t.nodes state :=
  findFrom_eq_firstFound test t [] state

/-- A search calls its test on the nodes of a tree in depth-first order of slots, once on each, and
up to the first one that the test accepts; the path that it gives leads to that node. It gives none
exactly if the test refuses all the nodes that the tree has. Stopped at different calls, it gives
different paths. -/
theorem find_exact (t : RouteTree) :
    (∀ (σ : Type) (test : RouteTree → σ → Bool × σ) (before after : σ),
      (t.find test before = (none, after) ↔ Refuses test (t.nodes.map Prod.snd) before after) ∧
      ∀ path, t.find test before = (some path, after) ↔
        ∃ front node back between, t.nodes = front ++ (path, node) :: back ∧
          Refuses test (front.map Prod.snd) before between ∧ test node between = (true, after) ∧
          t.nodeAt? path = some node) ∧
      t.nodes.map (fun located => located.1.keys) = t.places ∧
      t.nodes.length = t.nodeCount ∧
      ∀ n, n < t.nodeCount → ∃ path, (t.find countdown n).1 = some path ∧
        ∀ m, m < n → (t.find countdown m).1 ≠ some path := by
  refine ⟨?_, map_keys_nodes t, length_nodes t, ?_⟩
  · intro σ test before after
    rw [find_eq, firstFound_visit_eq_none_iff]
    refine ⟨Iff.rfl, ?_⟩
    intro path
    rw [firstFound_visit_eq_some_iff]
    constructor
    · rintro ⟨front, node, back, between, cut, refuses, accepts⟩
      have member : (path, node) ∈ t.nodes := by simp [cut]
      exact ⟨front, node, back, between, cut, refuses, accepts, nodeAt?_of_mem_nodes member⟩
    · rintro ⟨front, node, back, between, cut, refuses, accepts, -⟩
      exact ⟨front, node, back, between, cut, refuses, accepts⟩
  · intro n inside
    rw [← length_nodes] at inside
    have stopped (m : Nat) : (t.find countdown m).1 = (t.nodes.map Prod.fst)[m]? := by
      rw [find_eq, firstFound_countdown, List.getElem?_map]
    refine ⟨(t.nodes[n]).1, by simp [stopped, inside], ?_⟩
    intro m before same
    rw [stopped] at same
    have here : (t.nodes.map Prod.fst)[n]? = some (t.nodes[n]).1 := by simp [inside]
    have equal := (List.getElem?_inj (by simpa using Nat.lt_trans before inside) t.nodup_paths).1
      (same.trans here.symm)
    omega

/-- Four nodes with one segment, and a test that writes down their URLs and accepts the third node:
it is called on three of them. -/
theorem find_exact_third :
    let node (url : String) : RouteTree := { RouteTree.leaf (.fixed "a") with url := some url }
    let t := ((node "/0").withSlot "left" (node "/1")).withSlot "right"
      ((node "/2").withSlot "left" (node "/3"))
    let test (node : RouteTree) (log : List (Option String)) : Bool × List (Option String) :=
      (log.length == 2, log ++ [node.url])
    let path : SegmentPath := ⟨[⟨.fixed "a", "right"⟩], .fixed "a"⟩
    t.find test [] = (some path, [some "/0", some "/1", some "/2"]) ∧
      (∃ node, t.nodeAt? path = some node ∧ node.url = some "/2") ∧
      3 < t.nodeCount ∧ 1 < 3 ∧
      ∃ last, (t.find countdown 3).1 = some last ∧ (t.find countdown 1).1 ≠ some last := by
  intro node t test path
  have found : t.find test [] = (some path, [some "/0", some "/1", some "/2"]) := rfl
  obtain ⟨searched, -, -, stopped⟩ := find_exact t
  obtain ⟨front, third, back, between, -, -, accepts, leads⟩ := ((searched _ test _ _).2 path).1 found
  have logged : between ++ [third.url] = [some "/0", some "/1"] ++ [some "/2"] :=
    (Prod.mk.inj accepts).2
  have inside : 3 < t.nodeCount := by decide
  obtain ⟨last, given, others⟩ := stopped 3 inside
  exact ⟨found, ⟨third, leads, by simpa using (List.append_inj' logged rfl).2⟩, inside,
    by decide, last, given, others 1 (by decide)⟩

end RouteSync.RouteTree
