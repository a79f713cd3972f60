import RouteSync.Proofs.Bounds
import RouteSync.RouteTree.Wire

/-!
# Reading trees

Reading the wire form of a tree is checking the tree: it succeeds within the limits and fails with
the fault of the check. Other values than the wire form are read too, since a node may leave out what
says nothing: `RouteTree.Spells` is the relation between a value and the tree that it stands for,
without regard to limits. A value is read within limits as the tree that it spells, if that tree
keeps to them.
-/

namespace RouteSync

namespace Segment

theorem ofJson_toJson (segment : Segment) : ofJson segment.toJson = .ok segment := by
  cases segment with
  | fixed name => rfl
  | param name value kind => cases kind <;> rfl

theorem stringOfJson_eq_ok_iff (v : Json) (text : String) :
    stringOfJson v = .ok text ↔ v = .string text := by
  cases v <;> simp [stringOfJson]

/-- A segment is read from nothing but its wire form. -/
theorem ofJson_eq_ok_iff (v : Json) (segment : Segment) :
    ofJson v = .ok segment ↔ v = segment.toJson := by
  constructor
  · intro read
    unfold ofJson at read
    split at read
    · cases read
      rfl
    · simp only [bind_eq_ok_iff, Fault.locate_eq_ok_iff, stringOfJson_eq_ok_iff] at read
      obtain ⟨name, rfl, value, rfl, code, rfl, read⟩ := read
      split at read
      · rename_i found
        cases read
        rw [(ParamKind.ofCode?_eq_some_iff ..).1 found]
        rfl
      · cases read
    · cases read
    · cases read
  · rintro rfl
    exact ofJson_toJson segment

theorem toJson_injective {s t : Segment} (equal : s.toJson = t.toJson) : s = t := by
  have read := (ofJson_eq_ok_iff _ t).2 equal
  rw [ofJson_toJson] at read
  exact Except.ok.inj read

end Segment

namespace RouteTree

/-! ### Values taken apart as nodes -/

/-- What holds of a value that cannot be taken apart as a node, and of one that can when it holds of
what is in its slots, holds of every value. -/
theorem formInduction {P : Json → Prop}
    (array : ∀ first second rest, (∀ members key child, second = .object members →
      members.get? key = some child → P child) → P (.array (first :: second :: rest)))
    (single : ∀ v, (∀ first second rest, v ≠ .array (first :: second :: rest)) → P v)
    (v : Json) : P v := by
  -- A node holds its slots one level further in, so the induction looks at an object's members.
  suffices both : P v ∧ ∀ members key child, v = .object members →
      members.get? key = some child → P child from both.1
  induction v using Json.induction with
  | atom v noArray noObject =>
    constructor
    · apply single
      rintro first second rest rfl
      exact noArray rfl
    · rintro members key child rfl
      exact absurd rfl noObject
  | object members ih =>
    refine ⟨single _ nofun, ?_⟩
    rintro _ key child ⟨⟩ found
    rw [← Dict.value_eq_of_get? members ((Dict.mem_keys_iff ..).2 ⟨child, found⟩) found]
    exact (ih key _).1
  | array items ih =>
    refine ⟨?_, nofun⟩
    match items, ih with
    | first :: second :: rest, ih => exact array first second rest (ih second (by simp)).2
    | [], _ | [_], _ => exact single _ nofun

/-- Reads the slots of a node that stands at a depth. -/
def readSlots (limits : Limits) (depth : Nat) : Json → Except Fault (Dict RouteTree)
  | .object members => do
    Fault.locate [.index 1] (limits.checkSlotCount members.size)
    let child ← Dict.traverse members.keys fun key h => do
      Fault.locate [.index 1] (limits.checkSlotKey key)
      Fault.locate [.index 1, .name key] (readFrom limits (members.value key h) (depth + 1))
    .ok ⟨members.keys, members.nodup, child⟩
  | v => .error (.misshapen [.index 1] (.slotsExpected v.kind))

/-- A node is read element by element. -/
theorem readFrom_array (limits : Limits) (first second : Json) (rest : List Json) (depth : Nat) :
    readFrom limits (.array (first :: second :: rest)) depth = (do
      limits.checkDepth depth
      if 3 < rest.length then .error (.misshapen [] (.nodeSize (rest.length + 2))) else
      let segment ← Fault.locate [.index 0] (Segment.ofJson first)
      Fault.locate [.index 0] (limits.checkSegment segment)
      let slots ← readSlots limits depth second
      let url ← Fault.locate [.index 2] (urlOfJson rest[0]?)
      let refetch ← Fault.locate [.index 3] (refetchOfJson rest[1]?)
      let rootLayout ← Fault.locate [.index 4] (flagOfJson rest[2]?)
      .ok ⟨segment, slots, url, refetch, rootLayout⟩) := by
  cases second with
  | object members =>
    obtain ⟨keys, distinct, member⟩ := members
    rw [readFrom, readSlots]
    simp only [bind_assoc, ok_bind]
    rfl
  | _ => rfl

/-- A value that cannot be taken apart as a node is refused as a whole. -/
theorem readFrom_single (limits : Limits) (depth : Nat) {v : Json}
    (single : ∀ first second rest, v ≠ .array (first :: second :: rest)) :
    readFrom limits v depth = (do
      limits.checkDepth depth
      .error (.misshapen [] (match v with
        | .array items => .nodeSize items.length
        | v => .nodeExpected v.kind))) := by
  cases v with
  | array items =>
    match items, single with
    | [], _ | [_], _ => rfl
    | first :: second :: rest, single => exact absurd rfl (single first second rest)
  | _ => rfl

/-! ### What is written can be read -/

theorem refetchOfJson_toJson (refetch : Bool) :
    refetchOfJson (some (if refetch then .string refetchWord else .null)) = .ok refetch := by
  cases refetch <;> rfl

theorem flagOfJson_toJson (flag : Bool) :
    flagOfJson (if flag then [Json.bool true] else [])[0]? = .ok flag := by
  cases flag <;> rfl

/-- Reading the wire form of a tree is checking the tree. -/
theorem readFrom_toJson (limits : Limits) (t : RouteTree) (depth : Nat) :
    readFrom limits t.toJson depth = (t.checkFrom limits depth).map fun _ => t := by
  induction t using RouteTree.induction generalizing depth with
  | node t ih =>
    obtain ⟨segment, ⟨keys, distinct, child⟩, url, refetch, rootLayout⟩ := t
    have children : (Dict.traverse keys fun key member => do
          Fault.locate [.index 1] (limits.checkSlotKey key)
          Fault.locate [.index 1, .name key]
            (readFrom limits (child key member).toJson (depth + 1))) =
        (Dict.traverse keys fun key member => do
          Fault.locate [.index 1] (limits.checkSlotKey key)
          Fault.locate [.index 1, .name key]
            ((child key member).checkFrom limits (depth + 1))).map fun _ => child := by
      apply Dict.traverse_eq_map
      intro key member
      have inner : readFrom limits (child key member).toJson (depth + 1) =
          ((child key member).checkFrom limits (depth + 1)).map fun _ => child key member :=
        ih key member (depth + 1)
      rw [inner, Fault.locate_map, map_bind]
    have size (a b : Json) :
        ¬3 < (a :: b :: if rootLayout then [Json.bool true] else []).length := by
      cases rootLayout <;> simp
    simp only [toJson, readFrom, checkFrom, List.cons_append, List.nil_append,
      Segment.ofJson_toJson, Fault.locate_ok, if_neg (size _ _), children, ok_bind, map_bind,
      bind_of_map, map_ok, List.getElem?_cons_zero, List.getElem?_cons_succ, refetchOfJson_toJson,
      flagOfJson_toJson]
    cases url <;> rfl

theorem ofJsonWithin_toJson (limits : Limits) (t : RouteTree) :
    ofJsonWithin limits t.toJson = (t.checkWithin limits).map fun _ => t :=
  readFrom_toJson limits t 0

/-! ### What is read keeps within the limits -/

/-- What the parts of a node must be, and what of it the limits must accept, for it to be read. -/
structure NodeRead (limits : Limits) (depth : Nat) (first : Json) (members : Dict Json)
    (rest : List Json) (t : RouteTree) : Prop where
  atDepth : depth ≤ limits.maxDepth.toNat
  size : rest.length ≤ 3
  segment : Segment.ofJson first = .ok t.segment
  allowed : limits.Allows t
  keys : t.slots.keys = members.keys
  children : ∀ key v child, members.get? key = some v → t.slots.get? key = some child →
    readFrom limits v (depth + 1) = .ok child
  url : urlOfJson rest[0]? = .ok t.url
  refetch : refetchOfJson rest[1]? = .ok t.refetch
  rootLayout : flagOfJson rest[2]? = .ok t.rootLayout

/-- Slots are read from the members of an object, key by key. -/
theorem readSlots_eq_ok_iff (limits : Limits) (depth : Nat) (members : Dict Json)
    (slots : Dict RouteTree) :
    readSlots limits depth (.object members) = .ok slots ↔
      slots.keys = members.keys ∧ slots.size ≤ limits.maxSlots.toNat ∧
        (∀ key ∈ slots.keys, limits.allowsSlot key = true) ∧
        ∀ key v child, members.get? key = some v → slots.get? key = some child →
          readFrom limits v (depth + 1) = .ok child := by
  obtain ⟨names, distinct, member⟩ := members
  rw [readSlots, check_bind_eq_ok_iff, bind_eq_ok_iff]
  simp only [check_bind_eq_ok_iff, Fault.locate_eq_ok_iff, Dict.traverse_eq_ok_iff,
    Limits.checkSlotCount_eq_ok_iff, Limits.checkSlotKey_eq_ok_iff]
  constructor
  · rintro ⟨count, child, children, equal⟩
    cases equal
    refine ⟨rfl, count, fun key inside => (children key inside).1, ?_⟩
    intro key v c found found'
    have inside := (Dict.mem_keys_iff _ key).2 ⟨v, found⟩
    have equal : member key inside = v := Dict.value_eq_of_get? _ inside found
    have equal' : child key inside = c :=
      Dict.value_eq_of_get? ⟨names, distinct, child⟩ inside found'
    rw [← equal, ← equal']
    exact (children key inside).2
  · obtain ⟨keys, distinct', child⟩ := slots
    rintro ⟨equal, count, allowed, children⟩
    have equal : keys = names := equal
    subst equal
    refine ⟨count, child, ?_, rfl⟩
    intro key inside
    exact ⟨allowed key inside,
      children key _ _ (Dict.get?_value _ inside) (Dict.get?_value _ inside)⟩

/-- A tree is read from an array of a segment, an object and at most three more elements. -/
theorem readFrom_eq_ok_iff (limits : Limits) (v : Json) (depth : Nat) (t : RouteTree) :
    readFrom limits v depth = .ok t ↔ ∃ first members rest,
      v = .array (first :: .object members :: rest) ∧
        NodeRead limits depth first members rest t := by
  constructor
  · intro found
    induction v using formInduction with
    | array first second rest =>
      rw [readFrom_array, check_bind_eq_ok_iff] at found
      obtain ⟨atDepth, found⟩ := found
      split at found
      · cases found
      · rename_i size
        simp only [bind_eq_ok_iff, Fault.locate_eq_ok_iff] at found
        obtain ⟨segment, segmentRead, _, short, slots, slotsRead, url, urlRead, refetch, refetchRead,
          rootLayout, flagRead, equal⟩ := found
        cases equal
        cases second with
        | object members =>
          obtain ⟨keys, count, allowed, children⟩ := (readSlots_eq_ok_iff ..).1 slotsRead
          exact ⟨first, members, rest, rfl, (limits.checkDepth_eq_ok_iff depth).1 atDepth,
            Nat.not_lt.1 size, segmentRead,
            ⟨(limits.checkSegment_eq_ok_iff segment).1 short, count, allowed⟩, keys, children,
            urlRead, refetchRead, flagRead⟩
        | _ => cases slotsRead
    | single v single =>
      rw [readFrom_single limits depth single, check_bind_eq_ok_iff] at found
      cases found.2
  · rintro ⟨first, members, rest, rfl, node⟩
    have slots := (readSlots_eq_ok_iff ..).2
      ⟨node.keys, node.allowed.slots, node.allowed.keys, node.children⟩
    simp only [readFrom_array, (limits.checkDepth_eq_ok_iff depth).2 node.atDepth,
      if_neg (Nat.not_lt.2 node.size), node.segment,
      (limits.checkSegment_eq_ok_iff _).2 node.allowed.segment, slots, node.url, node.refetch,
      node.rootLayout, Fault.locate_ok, ok_bind]
    cases t
    rfl

/-! ### What a value spells -/

/-- A URL or its absence in wire form. -/
def urlForm : Option String → Json
  | some url => .string url
  | none => .null

/-- The mark of a node to be fetched again, or its absence, in wire form. -/
def refetchForm (refetch : Bool) : Json := if refetch then .string refetchWord else .null

theorem toJson_eq (t : RouteTree) :
    t.toJson = .array (t.segment.toJson :: .object (t.slots.map toJson) :: urlForm t.url ::
      refetchForm t.refetch :: if t.rootLayout then [.bool true] else []) := by
  obtain ⟨segment, ⟨keys, nodup, child⟩, url, refetch, rootLayout⟩ := t
  rfl

theorem urlOfJson_eq_ok_iff (v : Option Json) (url : Option String) :
    urlOfJson v = .ok url ↔ v.getD .null = urlForm url := by
  unfold urlOfJson
  split <;> cases url <;> simp_all [urlForm]

theorem refetchOfJson_eq_ok_iff (v : Option Json) (refetch : Bool) :
    refetchOfJson v = .ok refetch ↔ v.getD .null = refetchForm refetch := by
  unfold refetchOfJson
  split
  · cases refetch <;> simp [refetchForm]
  · cases refetch <;> simp [refetchForm]
  · rename_i word
    by_cases known : word = refetchWord <;> cases refetch <;> simp [refetchForm, known]
  · cases refetch <;> simp_all [refetchForm]

theorem flagOfJson_eq_ok_iff (v : Option Json) (flag : Bool) :
    flagOfJson v = .ok flag ↔ v.getD (.bool false) = .bool flag := by
  unfold flagOfJson
  split
  · simp
  · simp
  · rename_i noFlag
    simpa using noFlag flag

/-- A value spells a tree if it is an array of the tree's segment, of an object that spells the
children in the order of their slots, and of at most three more elements. Those that are missing
stand for null, null and false. -/
inductive Spells : Json → RouteTree → Prop where
  | node {t : RouteTree} {first : Json} {members : Dict Json} {rest : List Json}
      (size : rest.length ≤ 3)
      (segment : first = t.segment.toJson)
      (keys : t.slots.keys = members.keys)
      (children : ∀ key v child, members.get? key = some v → t.slots.get? key = some child →
        Spells v child)
      (url : rest[0]?.getD .null = urlForm t.url)
      (refetch : rest[1]?.getD .null = refetchForm t.refetch)
      (rootLayout : rest[2]?.getD (.bool false) = .bool t.rootLayout) :
      Spells (.array (first :: .object members :: rest)) t

/-- A value is read as the tree that it spells, if the tree passes the check. -/
theorem readFrom_eq_ok_iff_spells (limits : Limits) (v : Json) (depth : Nat) (t : RouteTree) :
    readFrom limits v depth = .ok t ↔ Spells v t ∧ t.checkFrom limits depth = .ok () := by
  -- The induction is on the tree: that the value is a node is known only once it has been read.
  induction t using slotInduction generalizing v depth with
  | node t ih =>
    rw [readFrom_eq_ok_iff, checkFrom_eq_ok_iff]
    constructor
    · rintro ⟨first, members, rest, rfl, node⟩
      have inside : ∀ key v child, members.get? key = some v → t.slots.get? key = some child →
          Spells v child ∧ child.checkFrom limits (depth + 1) = .ok () := by
        intro key v child found found'
        exact (ih key child found' v (depth + 1)).1 (node.children key v child found found')
      have spelled : Spells (.array (first :: .object members :: rest)) t :=
        .node node.size ((Segment.ofJson_eq_ok_iff ..).1 node.segment) node.keys
          (fun key v child found found' => (inside key v child found found').1)
          ((urlOfJson_eq_ok_iff ..).1 node.url) ((refetchOfJson_eq_ok_iff ..).1 node.refetch)
          ((flagOfJson_eq_ok_iff ..).1 node.rootLayout)
      refine ⟨spelled, node.atDepth, node.allowed, ?_⟩
      intro key child found'
      obtain ⟨v, found⟩ := Dict.exists_get?_of_keys_eq node.keys found'
      exact (inside key v child found found').2
    · rintro ⟨spelled, atDepth, allowed, checked⟩
      cases spelled with
      | node size segment keys children url refetch rootLayout =>
        refine ⟨_, _, _, rfl, atDepth, size, (Segment.ofJson_eq_ok_iff ..).2 segment, allowed, keys,
          ?_, (urlOfJson_eq_ok_iff ..).2 url, (refetchOfJson_eq_ok_iff ..).2 refetch,
          (flagOfJson_eq_ok_iff ..).2 rootLayout⟩
        intro key v child found found'
        exact (ih key child found' v (depth + 1)).2
          ⟨children key v child found found', checked key child found'⟩

theorem ofJsonWithin_eq_ok_iff_spells (limits : Limits) (v : Json) (t : RouteTree) :
    ofJsonWithin limits v = .ok t ↔ Spells v t ∧ t.checkWithin limits = .ok () :=
  readFrom_eq_ok_iff_spells limits v 0 t

/-- What is read from a value keeps within the limits it was read under. -/
theorem checkWithin_of_ofJsonWithin {limits : Limits} {v : Json} {t : RouteTree}
    (found : ofJsonWithin limits v = .ok t) : t.checkWithin limits = .ok () :=
  ((ofJsonWithin_eq_ok_iff_spells ..).1 found).2

end RouteTree

end RouteSync
