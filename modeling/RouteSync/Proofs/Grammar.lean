import Mathlib.Tactic.Choose
import RouteSync.Proofs.Reading

/-!
# The grammar of trees in wire form

Which values spell a tree can be said without the tree: `RouteTree.WireForm` is the grammar of the
wire form, node by node. `RouteTree.inFull` writes a value of the grammar in full, and what it gives
is the wire form of the tree that the value spells. So reading accepts just the grammar, as far as
words can count what is read, and writing a tree that was read puts the value in full.
-/

namespace RouteSync

/-- A value that stands for a segment: a text, or three texts of which the last names a kind. -/
inductive Segment.WireForm : Json → Prop where
  | fixed (name : String) : WireForm (.string name)
  | param (name value code : String) (known : code ∈ ["d", "oc", "c"]) :
      WireForm (.array [.string name, .string value, .string code])

theorem Segment.wireForm_iff (v : Json) : WireForm v ↔ ∃ segment : Segment, v = segment.toJson := by
  constructor
  · intro form
    cases form with
    | fixed name => exact ⟨.fixed name, rfl⟩
    | param name value code known =>
      have named : ∃ kind : ParamKind, code = kind.code := by
        simp only [List.mem_cons, List.not_mem_nil, or_false] at known
        rcases known with rfl | rfl | rfl
        · exact ⟨.single, rfl⟩
        · exact ⟨.optionalRest, rfl⟩
        · exact ⟨.rest, rfl⟩
      obtain ⟨kind, rfl⟩ := named
      exact ⟨.param name value kind, rfl⟩
  · rintro ⟨segment, rfl⟩
    cases segment with
    | fixed name => exact .fixed name
    | param name value kind =>
      exact .param name value kind.code (by cases kind <;> simp [ParamKind.code])

namespace RouteTree

/-- A value that stands for a tree: an array of a segment, of an object all of whose members stand
for trees, and of at most three more elements, a text or null, the word `refetch` or null, and a
flag. -/
inductive WireForm : Json → Prop where
  | node {first : Json} {members : Dict Json} {rest : List Json}
      (segment : Segment.WireForm first)
      (children : ∀ key v, members.get? key = some v → WireForm v)
      (size : rest.length ≤ 3)
      (url : ∀ v, rest[0]? = some v → v = .null ∨ ∃ text, v = .string text)
      (refetch : ∀ v, rest[1]? = some v → v = .null ∨ v = .string "refetch")
      (rootLayout : ∀ v, rest[2]? = some v → ∃ flag, v = .bool flag) :
      WireForm (.array (first :: .object members :: rest))

/-! ### The values that spell a tree -/

/-- An element that may be left out stands for something, if leaving it out does. -/
theorem forall_eq_some_iff {α : Type} {form : α → Json} {good : Json → Prop}
    (good_iff : ∀ v, good v ↔ ∃ a, v = form a) (missing : α) (element : Option Json) :
    (∀ v, element = some v → good v) ↔ ∃ a, element.getD (form missing) = form a := by
  cases element with
  | none => simp
  | some v => simp [good_iff]

theorem eq_urlForm_iff (v : Json) :
    (v = .null ∨ ∃ text, v = .string text) ↔ ∃ url, v = urlForm url := by
  rw [Option.exists]
  rfl

theorem eq_refetchForm_iff (v : Json) :
    (v = .null ∨ v = .string "refetch") ↔ ∃ refetch, v = refetchForm refetch := by
  rw [Bool.exists_bool]
  rfl

theorem wireForm_iff_spells (v : Json) : WireForm v ↔ ∃ t, Spells v t := by
  constructor
  · intro form
    induction form with
    | @node first members rest segment children size url refetch rootLayout ih =>
      obtain ⟨own, rfl⟩ := (Segment.wireForm_iff first).1 segment
      obtain ⟨url, urlRead⟩ := (forall_eq_some_iff eq_urlForm_iff none rest[0]?).1 url
      obtain ⟨refetch, refetchRead⟩ :=
        (forall_eq_some_iff eq_refetchForm_iff false rest[1]?).1 refetch
      obtain ⟨rootLayout, flagRead⟩ :=
        (forall_eq_some_iff (fun _ => Iff.rfl) false rest[2]?).1 rootLayout
      -- Each member spells some tree: the choices are put together into the slots of the node.
      have spelled : ∀ key (member : key ∈ members.keys),
          ∃ child, Spells (members.value key member) child :=
        fun key member => ih key _ (Dict.get?_value members member)
      choose child spelled using spelled
      refine ⟨⟨own, ⟨members.keys, members.nodup, child⟩, url, refetch, rootLayout⟩,
        .node size rfl rfl ?_ urlRead refetchRead flagRead⟩
      intro key v c found found'
      have member := (Dict.mem_keys_iff ..).2 ⟨v, found⟩
      rw [← Dict.value_eq_of_get? members member found,
        ← Dict.value_eq_of_get? ⟨members.keys, members.nodup, child⟩ member found']
      exact spelled key member
  · rintro ⟨t, spelled⟩
    induction spelled with
    | @node t first members rest size segment keys children url refetch rootLayout ih =>
      refine .node ((Segment.wireForm_iff first).2 ⟨_, segment⟩) ?_ size
        ((forall_eq_some_iff eq_urlForm_iff none _).2 ⟨_, url⟩)
        ((forall_eq_some_iff eq_refetchForm_iff false _).2 ⟨_, refetch⟩)
        ((forall_eq_some_iff (fun _ => Iff.rfl) false _).2 ⟨_, rootLayout⟩)
      intro key v found
      obtain ⟨child, found'⟩ := Dict.exists_get?_of_keys_eq keys.symm found
      exact ih key v child found found'

/-! ### Wire forms in full -/

/-- The elements of a node after the first two, in full: null where one of the first two is missing,
and no flag that is false. -/
def restInFull : List Json → List Json
  | [] => [.null, .null]
  | [url] => [url, .null]
  | [url, refetch, .bool false] => [url, refetch]
  | rest => rest

/-- A wire form in full, at every node of the tree. -/
def inFull : Json → Json
  | .array (first :: .object ⟨keys, nodup, member⟩ :: rest) =>
    .array (first :: .object ⟨keys, nodup, fun key h => inFull (member key h)⟩ :: restInFull rest)
  | v => v
termination_by structural v => v

theorem inFull_node (first : Json) (members : Dict Json) (rest : List Json) :
    inFull (.array (first :: .object members :: rest)) =
      .array (first :: .object (members.map inFull) :: restInFull rest) := by
  obtain ⟨keys, nodup, member⟩ := members
  rfl

theorem restInFull_eq {rest : List Json} {url : Option String} {refetch rootLayout : Bool}
    (size : rest.length ≤ 3) (urlRead : rest[0]?.getD .null = urlForm url)
    (refetchRead : rest[1]?.getD .null = refetchForm refetch)
    (flagRead : rest[2]?.getD (.bool false) = .bool rootLayout) :
    restInFull rest =
      urlForm url :: refetchForm refetch :: if rootLayout then [.bool true] else [] := by
  match rest with
  | [] => simp_all [restInFull]
  | [_] => simp_all [restInFull]
  | [_, _] => simp_all [restInFull]
  | [_, _, _] => cases rootLayout <;> simp_all [restInFull]
  | _ :: _ :: _ :: _ :: _ =>
    simp only [List.length_cons] at size
    omega

/-- The wire form of a tree is what any value that spells the tree is in full. -/
theorem toJson_of_spells {v : Json} {t : RouteTree} (spelled : Spells v t) :
    t.toJson = inFull v := by
  induction spelled with
  | @node t first members rest size segment keys children url refetch rootLayout ih =>
    have slots : t.slots.map toJson = members.map inFull := by
      apply Dict.ext_get? keys
      intro key
      rw [Dict.get?_map, Dict.get?_map]
      have both : key ∈ t.slots.keys ↔ key ∈ members.keys := by rw [keys]
      rcases Dict.get?_cases both with ⟨missing, missing'⟩ | ⟨child, v, found', found⟩
      · rw [missing, missing']
        rfl
      · rw [found', found, Option.map_some, Option.map_some, ih key v child found found']
    rw [inFull_node, toJson_eq, restInFull_eq size url refetch rootLayout, segment, slots]

/-! ### What words can count -/

/-- The value that stands for the node in the slots of the given keys, one below the other. -/
def formAt? (v : Json) : List String → Option Json
  | [] => some v
  | key :: keys =>
    match v with
    | .array (_ :: .object members :: _) =>
      match members.get? key with
      | some child => formAt? child keys
      | none => none
    | _ => none

/-- A value in which words can count what reading counts: the steps to the value of a node, the
members of the object in it, and the bytes of the segment in front of it. -/
structure CountableForm (v : Json) : Prop where
  depth : ∀ keys w, formAt? v keys = some w → keys.length < UInt64.size
  slots : ∀ keys first members rest,
    formAt? v keys = some (.array (first :: .object members :: rest)) → members.size < UInt64.size
  segments : ∀ keys (segment : Segment) rest,
    formAt? v keys = some (.array (segment.toJson :: rest)) → segment.byteLength < UInt64.size

/-- A value that spells a tree has a value at each place of the tree, which spells the node there, and
none elsewhere. -/
theorem Spells.formAt?_cases {v : Json} {t : RouteTree} (spelled : Spells v t)
    (keys : List String) : (formAt? v keys = none ∧ t.place? keys = none) ∨
      ∃ w node, formAt? v keys = some w ∧ t.place? keys = some node ∧ Spells w node := by
  induction keys generalizing v t with
  | nil => exact .inr ⟨v, t, rfl, rfl, spelled⟩
  | cons key keys ih =>
    cases spelled with
    | @node _ first members rest size segment same children url refetch rootLayout =>
      rw [formAt?, place?]
      have both : key ∈ members.keys ↔ key ∈ t.slots.keys := by rw [same]
      rcases Dict.get?_cases both with ⟨missing, missing'⟩ | ⟨v, child, found, found'⟩
      · rw [missing, missing']
        exact .inl ⟨rfl, rfl⟩
      · rw [found, found']
        exact ih (children key v child found found')

theorem Spells.formAt?_of_place? {v : Json} {t node : RouteTree} {keys : List String}
    (spelled : Spells v t) (found : t.place? keys = some node) :
    ∃ w, formAt? v keys = some w ∧ Spells w node := by
  rcases spelled.formAt?_cases keys with ⟨-, missing⟩ | ⟨w, other, place, found', inner⟩
  · rw [missing] at found
    cases found
  · rw [found'] at found
    cases found
    exact ⟨w, place, inner⟩

theorem Spells.place?_of_formAt? {v w : Json} {t : RouteTree} {keys : List String}
    (spelled : Spells v t) (place : formAt? v keys = some w) :
    ∃ node, t.place? keys = some node ∧ Spells w node := by
  rcases spelled.formAt?_cases keys with ⟨missing, -⟩ | ⟨other, node, place', found, inner⟩
  · rw [missing] at place
    cases place
  · rw [place'] at place
    cases place
    exact ⟨node, found, inner⟩

/-- Words can count a value that spells a tree exactly if they can count the tree. -/
theorem Spells.countable_iff {v : Json} {t : RouteTree} (spelled : Spells v t) :
    CountableForm v ↔ t.Countable := by
  constructor
  · intro countable
    refine ⟨?_, ?_, ?_⟩
    · have places : t.depth ≤ UInt64.size - 1 := by
        rw [depth_le_iff_places]
        intro keys node found
        obtain ⟨w, place, -⟩ := spelled.formAt?_of_place? found
        exact Nat.le_sub_one_of_lt (countable.depth keys w place)
      exact Nat.lt_of_le_of_lt places (by decide)
    · intro keys node found
      obtain ⟨w, place, inner⟩ := spelled.formAt?_of_place? found
      cases inner with
      | node size segment same =>
        rw [Dict.size, same]
        exact countable.slots keys _ _ _ place
    · intro keys node found
      obtain ⟨w, place, inner⟩ := spelled.formAt?_of_place? found
      cases inner with
      | node size segment =>
        rw [segment] at place
        exact countable.segments keys _ _ place
  · intro countable
    refine ⟨?_, ?_, ?_⟩
    · intro keys w place
      obtain ⟨node, found, -⟩ := spelled.place?_of_formAt? place
      have inside := add_depth_le_of_place? found
      have shallow := countable.depth
      omega
    · intro keys first members rest place
      obtain ⟨node, found, inner⟩ := spelled.place?_of_formAt? place
      cases inner with
      | node size segment same =>
        rw [Dict.size, ← same]
        exact countable.slots keys node found
    · intro keys segment rest place
      obtain ⟨node, found, inner⟩ := spelled.place?_of_formAt? place
      cases inner with
      | node size first =>
        rw [Segment.toJson_injective first]
        exact countable.segments keys node found

/-! ### Reading and the grammar -/

/-- As far as words can count it, a value is read as a tree exactly if it is in the grammar; and the
wire form of the tree is the value in full. -/
theorem ofJson_exact {v : Json} (countable : CountableForm v) :
    ((∃ t, ofJson v = .ok t) ↔ WireForm v) ∧ ∀ t, ofJson v = .ok t → t.toJson = inFull v := by
  have read_iff (t : RouteTree) : ofJson v = .ok t ↔ Spells v t := by
    rw [ofJson, ofJsonWithin_eq_ok_iff_spells, ← countable_iff_checkWithin]
    exact ⟨And.left, fun spelled => ⟨spelled, spelled.countable_iff.1 countable⟩⟩
  constructor
  · rw [wireForm_iff_spells]
    exact exists_congr read_iff
  · intro t read
    exact toJson_of_spells ((read_iff t).1 read)

/-- A tree with elements left out in one place and a flag that is false in another: the first are
filled in, the second is dropped. -/
theorem ofJson_exact_short :
    let id := Json.array [.string "id", .string "42", .string "c"]
    let page := Json.array [id, .ofMembers [], .string "/42", .string "refetch", .bool false]
    let v := Json.array [.string "", .ofMembers [("modal", .array [.string "x", .ofMembers []]),
      ("children", page)], .null, .null, .bool true]
    CountableForm v ∧ WireForm v ∧ ∃ t, ofJson v = .ok t ∧ t.toJson = inFull v ∧
      (∃ slots, formAt? t.toJson ["modal"] = some (.array [.string "x", slots, .null, .null])) ∧
      ∃ slots, formAt? t.toJson ["children"] =
        some (.array [id, slots, .string "/42", .string "refetch"]) := by
  intro id page v
  obtain ⟨t, read⟩ : ∃ t, ofJson v = .ok t := ⟨_, rfl⟩
  obtain ⟨spelled, passes⟩ := (ofJsonWithin_eq_ok_iff_spells ..).1 read
  have countable : CountableForm v :=
    spelled.countable_iff.2 ((countable_iff_checkWithin t).2 passes)
  have full : t.toJson = inFull v := (ofJson_exact countable).2 t read
  refine ⟨countable, (ofJson_exact countable).1.1 ⟨t, read⟩, t, read, full, ?_, ?_⟩
  · rw [full]
    exact ⟨_, rfl⟩
  · rw [full]
    exact ⟨_, rfl⟩

end RouteTree

end RouteSync
