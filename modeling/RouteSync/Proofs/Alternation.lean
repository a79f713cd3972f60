import RouteSync.Proofs.Grammar
import RouteSync.Proofs.Messages

/-!
# Paths in wire form

The wire form of a path alternates segments with slot keys. A slot key is written as a fixed segment
of that name would be, so an element alone does not show which of the two it is; its index does. The
lists with a segment at every even index, a text at every odd one and a segment at the end are just
the wire forms of paths, and no two paths have the same one.
-/

namespace RouteSync.SegmentPath

/-- The elements of a list are what the wire form of a path has at their indices: segments at the even
ones, and slot keys at the odd ones. -/
def Alternates (items : List Json) : Prop :=
  ∀ i v, items[i]? = some v →
    (i % 2 = 0 → Segment.WireForm v) ∧ (i % 2 = 1 → ∃ key, v = .string key)

theorem alternates_singleton_iff (v : Json) : Alternates [v] ↔ Segment.WireForm v := by
  constructor
  · intro alternates
    exact (alternates 0 v rfl).1 rfl
  · intro form i w found
    cases i with
    | zero =>
      cases found
      exact ⟨fun _ => form, nofun⟩
    | succ i => cases found

/-- Two elements in front move the others from even indices to even ones. -/
theorem alternates_cons_cons_iff (first second : Json) (rest : List Json) :
    Alternates (first :: second :: rest) ↔
      Segment.WireForm first ∧ (∃ key, second = .string key) ∧ Alternates rest := by
  constructor
  · intro alternates
    refine ⟨(alternates 0 first rfl).1 rfl, (alternates 1 second rfl).2 rfl, ?_⟩
    intro i v found
    have moved := alternates (i + 2) v found
    rwa [Nat.add_mod_right] at moved
  · rintro ⟨form, named, alternates⟩ i v found
    match i, found with
    | 0, found =>
      cases found
      exact ⟨fun _ => form, nofun⟩
    | 1, found =>
      cases found
      exact ⟨nofun, fun _ => named⟩
    | i + 2, found =>
      rw [Nat.add_mod_right]
      exact alternates i v found

theorem alternates_toJsonItems (path : SegmentPath) : Alternates path.toJsonItems := by
  obtain ⟨steps, target⟩ := path
  induction steps with
  | nil => exact (alternates_singleton_iff _).2 ((Segment.wireForm_iff _).2 ⟨target, rfl⟩)
  | cons step steps ih =>
    rw [toJsonItems_cons, alternates_cons_cons_iff]
    exact ⟨(Segment.wireForm_iff _).2 ⟨step.segment, rfl⟩, ⟨step.key, rfl⟩, ih⟩

/-- A list of odd length is taken apart two elements at a time, and the last one is the target. -/
theorem exists_eq_toJsonItems : ∀ {items : List Json}, items.length % 2 = 1 → Alternates items →
    ∃ path : SegmentPath, items = path.toJsonItems
  | [], odd, _ => by cases odd
  | [v], _, alternates => by
    obtain ⟨target, rfl⟩ := (Segment.wireForm_iff v).1 ((alternates_singleton_iff v).1 alternates)
    exact ⟨root target, (toJsonItems_root target).symm⟩
  | first :: second :: rest, odd, alternates => by
    obtain ⟨form, ⟨key, rfl⟩, others⟩ := (alternates_cons_cons_iff ..).1 alternates
    obtain ⟨segment, rfl⟩ := (Segment.wireForm_iff first).1 form
    have oddRest : rest.length % 2 = 1 := by
      rw [List.length_cons, List.length_cons] at odd
      omega
    obtain ⟨⟨steps, target⟩, rfl⟩ := exists_eq_toJsonItems oddRest others
    exact ⟨⟨⟨segment, key⟩ :: steps, target⟩, (toJsonItems_cons ⟨segment, key⟩ steps target).symm⟩

/-- A path is read from its wire form, which has an odd number of elements. A list that is read is the
wire form of what is read from it, and the lists that are read are those of odd length that have
segments at the even indices and texts at the odd ones. -/
theorem ofJsonItems_bijective :
    (∀ path : SegmentPath, ofJsonItems path.toJsonItems = .ok path ∧
      path.toJsonItems.length = path.size ∧ path.size % 2 = 1) ∧
      ∀ items : List Json,
        (∀ path, ofJsonItems items = .ok path → path.toJsonItems = items) ∧
        ((∃ path, ofJsonItems items = .ok path) ↔ items.length % 2 = 1 ∧ Alternates items) := by
  have length (path : SegmentPath) : path.toJsonItems.length = path.size := by
    rw [length_toJsonItems, size, Nat.mul_comm]
  have odd (path : SegmentPath) : path.size % 2 = 1 := by
    rw [size]
    omega
  refine ⟨fun path => ⟨ofJsonItems_toJsonItems path, length path, odd path⟩, ?_⟩
  intro items
  simp only [ofJsonItems_eq_ok_iff]
  constructor
  · rintro path rfl
    rfl
  · constructor
    · rintro ⟨path, rfl⟩
      rw [length]
      exact ⟨odd path, alternates_toJsonItems path⟩
    · rintro ⟨oddLength, alternates⟩
      exact exists_eq_toJsonItems oddLength alternates

/-- A path whose keys and segments are one text, and which ends on a parameter. Its list is read as it
was written; with a kind that there is not, or with its last element left out, it is not read. -/
theorem ofJsonItems_bijective_slug :
    let slug (code : String) : Json := .array [.string "slug", .string "a/b", .string code]
    let front : List Json := [.string "a", .string "a", .string "a", .string "a"]
    (∃ path, ofJsonItems (front ++ [slug "oc"]) = .ok path ∧
      path.toJsonItems = front ++ [slug "oc"]) ∧
      (¬∃ path, ofJsonItems (front ++ [slug "x"]) = .ok path) ∧
      ¬∃ path, ofJsonItems front = .ok path := by
  intro slug front
  obtain ⟨written, read⟩ := ofJsonItems_bijective
  let step : Step := ⟨.fixed "a", "a"⟩
  have accepted : ofJsonItems (front ++ [slug "oc"]) = .ok ⟨[step, step], _⟩ :=
    (written ⟨[step, step], .param "slug" "a/b" .optionalRest⟩).1
  refine ⟨⟨_, accepted, (read _).1 _ accepted⟩, ?_, ?_⟩
  · intro found
    obtain ⟨-, alternates⟩ := (read _).2.1 found
    cases (alternates 4 (slug "x") rfl).1 rfl with
    | param name value code known => exact absurd known (by decide)
  · intro found
    obtain ⟨odd, -⟩ := (read _).2.1 found
    exact absurd odd (by decide)

end RouteSync.SegmentPath
