import RouteSync.Proofs.Grammar

/-!
# Below the depth limit

A node that stands too deep is refused before anything of it is read. What stands in its place is
therefore never looked at: with null in all these places a value is read as before, for the same tree
or with the same fault, and there is a fault as soon as there is such a place.
-/

namespace RouteSync.RouteTree

/-- The value with null in every place where a node of the given depth would stand. The slots that
lead there stay, and so does all else. -/
def cutAt : Nat → Json → Json
  | 0, _ => .null
  | n + 1, v =>
    match v with
    | .array (first :: .object members :: rest) =>
      .array (first :: .object (members.map (cutAt n)) :: rest)
    | v => v

theorem cutAt_node (n : Nat) (first : Json) (members : Dict Json) (rest : List Json) :
    cutAt (n + 1) (.array (first :: .object members :: rest)) =
      .array (first :: .object (members.map (cutAt n)) :: rest) := rfl

theorem cutAt_of_not_node (n : Nat) {v : Json}
    (noNode : ∀ first members rest, v ≠ .array (first :: .object members :: rest)) :
    cutAt (n + 1) v = v := by
  unfold cutAt
  split
  · exact absurd rfl (noNode _ _ _)
  · rfl

/-- Too deep a node is refused for its depth, whatever it is. -/
theorem readFrom_of_deep {limits : Limits} {depth : Nat} (deep : limits.maxDepth.toNat < depth)
    (v : Json) : readFrom limits v depth = .error (.overLimit (.depth limits.maxDepth [])) := by
  have refused : limits.checkDepth depth = .error (.overLimit (.depth limits.maxDepth [])) :=
    if_pos deep
  induction v using formInduction with
  | array first second rest =>
    rw [readFrom_array, refused]
    rfl
  | single v single =>
    rw [readFrom_single limits depth single, refused]
    rfl

/-- Reading does not tell a value from what is left of it above the nodes that are too deep. -/
theorem readFrom_cutAt {limits : Limits} {n depth : Nat}
    (cut : depth + n = limits.maxDepth.toNat + 1) (v : Json) :
    readFrom limits (cutAt n v) depth = readFrom limits v depth := by
  induction n generalizing depth v with
  | zero =>
    have deep : limits.maxDepth.toNat < depth := by omega
    rw [readFrom_of_deep deep, readFrom_of_deep deep]
  | succ n ih =>
    have below (w : Json) : readFrom limits (cutAt n w) (depth + 1) = readFrom limits w (depth + 1) :=
      ih (by omega) w
    by_cases node : ∃ first members rest, v = .array (first :: .object members :: rest)
    · obtain ⟨first, members, rest, rfl⟩ := node
      have slots : readSlots limits depth (.object (members.map (cutAt n))) =
          readSlots limits depth (.object members) := by
        simp only [readSlots, Dict.map, Dict.size, below]
      rw [cutAt_node, readFrom_array, readFrom_array, slots]
    · rw [cutAt_of_not_node n fun first members rest equal => node ⟨first, members, rest, equal⟩]

/-- Two values that differ in nothing but what stands where nodes too deep by one would stand are read
alike, as one tree or with one fault; and if there is such a place, there is a fault. -/
theorem ofJsonWithin_eq_of_cutAt (limits : Limits) :
    (∀ v w, cutAt (limits.maxDepth.toNat + 1) v = cutAt (limits.maxDepth.toNat + 1) w →
      ofJsonWithin limits v = ofJsonWithin limits w) ∧
    ∀ v keys w, keys.length = limits.maxDepth.toNat + 1 → formAt? v keys = some w →
      ∃ fault, ofJsonWithin limits v = .error fault := by
  constructor
  · intro v w same
    rw [ofJsonWithin, ofJsonWithin, ← readFrom_cutAt (Nat.zero_add _) v, same,
      readFrom_cutAt (Nat.zero_add _)]
  · intro v keys w deep place
    cases read : ofJsonWithin limits v with
    | error fault => exact ⟨fault, rfl⟩
    | ok t =>
      obtain ⟨spelled, passes⟩ := (ofJsonWithin_eq_ok_iff_spells ..).1 read
      obtain ⟨node, found, -⟩ := spelled.place?_of_formAt? place
      have shallow := ((checkFrom_eq_ok_iff_places limits t 0).1 passes keys node found).1
      omega

/-- A client that goes one step deep is sent a page below a slot, a value that no tree has there, and a
number beside them that is no URL: it refuses all of them for the depth alone. Where a kind in front of
the slots is unknown, it refuses them for that kind. -/
theorem ofJsonWithin_eq_of_cutAt_modal :
    let limits : Limits := { Limits.strict with maxDepth := 1 }
    let page : Json := .array [.string "__PAGE__", .ofMembers []]
    let v (kind : String) (below : Json) : Json := .array [.string "a",
      .object ⟨["children"], by decide, fun _ _ => .array [
        .array [.string "id", .string "7", .string kind],
        .object ⟨["modal"], by decide, fun _ _ => below⟩, .word 5]⟩]
    cutAt (limits.maxDepth.toNat + 1) (v "d" page) = cutAt (limits.maxDepth.toNat + 1) (v "d" .null) ∧
      ofJsonWithin limits (v "d" page) = ofJsonWithin limits (v "d" .null) ∧
      ofJsonWithin limits (v "x" page) = ofJsonWithin limits (v "x" .null) ∧
      formAt? (v "d" page) ["children", "modal"] = some page ∧
      (∃ fault, ofJsonWithin limits (v "d" page) = .error fault ∧
        fault.message = "Limit exceeded: tree depth exceeds 1 at /1/children/1/modal") ∧
      ofJsonWithin limits (v "x" page) = .error (.unknownKind "x") := by
  intro limits page v
  obtain ⟨alike, refused⟩ := ofJsonWithin_eq_of_cutAt limits
  have place : formAt? (v "d" page) ["children", "modal"] = some page := rfl
  obtain ⟨fault, read⟩ := refused (v "d" page) ["children", "modal"] page rfl place
  have deep : ofJsonWithin limits (v "d" page) = .error (.overLimit (.depth 1
    [.index 1, .name "children", .index 1, .name "modal"])) := rfl
  refine ⟨rfl, alike _ _ rfl, alike _ _ rfl, place, ⟨fault, read, ?_⟩, rfl⟩
  rw [deep] at read
  cases read
  decide +kernel

end RouteSync.RouteTree
