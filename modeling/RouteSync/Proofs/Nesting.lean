import RouteSync.Proofs.Messages
import RouteSync.Proofs.Printed

/-!
# How deep wire forms are nested

The wire form of a node is an array with an object for its slots, so that each step down in a tree
opens two brackets. Data paths, flight data and envelopes each put one array around that. The wire
forms of trees have no numbers at all, and all others have those of the content they carry.
-/

namespace RouteSync

theorem Json.nesting_array_le_iff (items : List Json) (most : Nat) :
    (Json.array items).nesting ≤ most + 1 ↔ ∀ v ∈ items, v.nesting ≤ most := by
  rw [nesting_array, Nat.add_le_add_iff_right, nestingItems_le_iff]

/-! ### Trees -/

theorem Segment.exact_toJson (segment : Segment) : segment.toJson.Exact := by
  cases segment with
  | fixed name => exact .string name
  | param name value kind =>
    refine .array ?_
    simp only [List.forall_mem_cons, List.not_mem_nil, false_implies, implies_true, and_true]
    exact ⟨.string _, .string _, .string _⟩

theorem Segment.nesting_toJson_le (segment : Segment) : segment.toJson.nesting ≤ 1 := by
  cases segment with
  | fixed name => exact Nat.zero_le 1
  | param name value kind => exact Nat.le_refl 1

namespace RouteTree

/-- What follows the slots in the wire form of a node. -/
def marksForm (t : RouteTree) : List Json :=
  urlForm t.url :: refetchForm t.refetch :: if t.rootLayout then [.bool true] else []

theorem marksForm_atoms (t : RouteTree) : ∀ v ∈ t.marksForm, v.Exact ∧ v.nesting = 0 := by
  have url : (urlForm t.url).Exact ∧ (urlForm t.url).nesting = 0 := by
    cases t.url with
    | none => exact ⟨.null, rfl⟩
    | some url => exact ⟨.string url, rfl⟩
  have refetch : (refetchForm t.refetch).Exact ∧ (refetchForm t.refetch).nesting = 0 := by
    cases t.refetch with
    | false => exact ⟨.null, rfl⟩
    | true => exact ⟨.string _, rfl⟩
  have flag : ∀ v ∈ if t.rootLayout then [Json.bool true] else [], v.Exact ∧ v.nesting = 0 := by
    intro v member
    cases rootLayout : t.rootLayout with
    | false => simp [rootLayout] at member
    | true =>
      have only : v = .bool true := by simpa [rootLayout] using member
      rw [only]
      exact ⟨.bool true, rfl⟩
  exact List.forall_mem_cons.2 ⟨url, List.forall_mem_cons.2 ⟨refetch, flag⟩⟩

theorem exact_toJson (t : RouteTree) : t.toJson.Exact := by
  induction t using slotInduction with
  | node t ih =>
    rw [toJson_eq]
    refine .array (List.forall_mem_cons.2 ⟨t.segment.exact_toJson, List.forall_mem_cons.2 ⟨?_, ?_⟩⟩)
    · refine .object fun key v found => ?_
      rw [Dict.get?_map, Option.map_eq_some_iff] at found
      obtain ⟨child, found, rfl⟩ := found
      exact ih key child found
    · exact fun v member => (t.marksForm_atoms v member).1

/-- Besides its slots, which are an object at least, nothing in a node is nested deeper. -/
theorem nesting_toJson_le_iff (t : RouteTree) (most : Nat) :
    t.toJson.nesting ≤ most + 2 ↔
      ∀ key child, t.slots.get? key = some child → child.toJson.nesting ≤ most := by
  have segment : t.segment.toJson.nesting ≤ most + 1 :=
    Nat.le_trans t.segment.nesting_toJson_le (Nat.le_add_left 1 most)
  have marks : ∀ v ∈ t.marksForm, v.nesting ≤ most + 1 := by
    intro v member
    rw [(t.marksForm_atoms v member).2]
    exact Nat.zero_le _
  have slots : (Json.object (t.slots.map toJson)).nesting ≤ most + 1 ↔
      ∀ key child, t.slots.get? key = some child → child.toJson.nesting ≤ most := by
    rw [Json.nesting_object_le_iff]
    simp only [Dict.get?_map, Option.map_eq_some_iff]
    constructor
    · intro bounded key child found
      exact bounded key _ ⟨child, found, rfl⟩
    · rintro bounded key _ ⟨child, found, rfl⟩
      exact bounded key child found
  rw [toJson_eq, Json.nesting_array_le_iff, List.forall_mem_cons, List.forall_mem_cons, slots]
  exact ⟨fun h => h.2.1, fun h => ⟨segment, h, marks⟩⟩

theorem two_le_nesting_toJson (t : RouteTree) : 2 ≤ t.toJson.nesting := by
  have slots : Json.object (t.slots.map toJson) ∈ t.segment.toJson ::
      .object (t.slots.map toJson) :: t.marksForm := List.mem_cons_of_mem _ List.mem_cons_self
  have inside := (Json.nestingItems_le_iff _ _).1 (Nat.le_refl _) _ slots
  rw [Json.nesting_object] at inside
  rw [toJson_eq, Json.nesting_array]
  exact Nat.succ_le_succ (Nat.le_trans (Nat.le_add_left 1 _) inside)

/-- Each step down in a tree is two brackets in its wire form. -/
theorem nesting_toJson (t : RouteTree) : t.toJson.nesting = 2 * t.depth + 2 := by
  induction t using slotInduction with
  | node t ih =>
    apply Nat.le_antisymm
    · rw [nesting_toJson_le_iff]
      intro key child found
      have below := (depth_le_iff t t.depth).1 (Nat.le_refl _) key child found
      rw [ih key child found]
      omega
    · -- The node takes two brackets of its own, so what is in its slots has two less.
      obtain ⟨most, total⟩ := Nat.exists_eq_add_of_le' t.two_le_nesting_toJson
      have within := (nesting_toJson_le_iff t most).1 (Nat.le_of_eq total)
      have depth : t.depth ≤ most / 2 := by
        rw [depth_le_iff]
        intro key child found
        have below := within key child found
        rw [ih key child found] at below
        omega
      omega

end RouteTree

/-! ### Messages -/

namespace SegmentPath

theorem toJsonItems_forms (path : SegmentPath) :
    ∀ v ∈ path.toJsonItems, v.Exact ∧ v.nesting ≤ 1 := by
  intro v member
  rw [toJsonItems, List.mem_append, List.mem_flatMap, List.mem_singleton] at member
  rcases member with ⟨step, -, member⟩ | rfl
  · rw [List.mem_cons, List.mem_singleton] at member
    rcases member with rfl | rfl
    · exact ⟨step.segment.exact_toJson, step.segment.nesting_toJson_le⟩
    · exact ⟨.string step.key, Nat.zero_le 1⟩
  · exact ⟨path.target.exact_toJson, path.target.nesting_toJson_le⟩

end SegmentPath

namespace DataPath

/-- The data path carries neither content nor a head. -/
def Withheld (d : DataPath) : Prop := d.patch.content = none ∧ d.patch.head = none

theorem Withheld.toJson_eq {d : DataPath} (withheld : d.Withheld) :
    d.toJson = .array (d.path.toJsonItems ++ [d.patch.tree.toJson, .null, .null]) := by
  rw [toJson, withheld.1, withheld.2]
  rfl

theorem Withheld.exact_toJson {d : DataPath} (withheld : d.Withheld) : d.toJson.Exact := by
  rw [withheld.toJson_eq]
  refine .array (List.forall_mem_append.2 ⟨fun v member => (d.path.toJsonItems_forms v member).1, ?_⟩)
  simp only [List.forall_mem_cons, List.not_mem_nil, false_implies, implies_true, and_true]
  exact ⟨d.patch.tree.exact_toJson, .null, .null⟩

/-- Without content a data path is nested one deeper than its tree. -/
theorem Withheld.nesting_toJson_le_iff {d : DataPath} (withheld : d.Withheld) (most : Nat) :
    d.toJson.nesting ≤ most + 1 ↔ d.patch.tree.toJson.nesting ≤ most := by
  rw [withheld.toJson_eq, Json.nesting_array_le_iff, List.forall_mem_append]
  simp only [List.forall_mem_cons, List.not_mem_nil, false_implies, implies_true, and_true]
  constructor
  · intro bounded
    exact bounded.2.1
  · intro tree
    have two := Nat.le_trans d.patch.tree.two_le_nesting_toJson tree
    refine ⟨fun v member => ?_, tree, Nat.zero_le most, Nat.zero_le most⟩
    exact Nat.le_trans (d.path.toJsonItems_forms v member).2 (Nat.le_of_succ_le two)

end DataPath

namespace Envelope

variable {asked : Context} {buildId : String} {ds : List DataPath}

theorem exact_navigation (withheld : ∀ d ∈ ds, d.Withheld) :
    (navigation asked buildId (.paths ds)).toJson.Exact := by
  refine .array (List.forall_mem_cons.2 ⟨.string buildId, ?_⟩)
  rw [List.forall_mem_singleton]
  refine .array fun v member => ?_
  obtain ⟨d, inside, rfl⟩ := List.mem_map.1 member
  exact (withheld d inside).exact_toJson

/-- A response has three arrays around its trees. -/
theorem nesting_navigation_le_iff (withheld : ∀ d ∈ ds, d.Withheld) (most : Nat) :
    (navigation asked buildId (.paths ds)).toJson.nesting ≤ most + 3 ↔
      ∀ d ∈ ds, d.patch.tree.toJson.nesting ≤ most := by
  have unfolded : (navigation asked buildId (.paths ds)).toJson =
      .array [.string buildId, .array (ds.map DataPath.toJson)] := rfl
  rw [unfolded, Json.nesting_array_le_iff, List.forall_mem_cons, List.forall_mem_singleton,
    Json.nesting_array_le_iff, List.forall_mem_map]
  constructor
  · intro bounded d member
    exact ((withheld d member).nesting_toJson_le_iff most).1 (bounded.2 d member)
  · intro bounded
    refine ⟨Nat.zero_le _, fun d member => ?_⟩
    exact ((withheld d member).nesting_toJson_le_iff most).2 (bounded d member)

end Envelope

end RouteSync
