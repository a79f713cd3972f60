import RouteSync.Proofs.Reading

/-!
# Limits as filters

Limits only decide whether a value is read, never as what: within limits it is read as the tree that
it is read as without them, if that tree keeps to them. Looser limits therefore accept whatever
tighter ones accept, and read it alike.
-/

namespace RouteSync

namespace Limits

/-- Limits that allow nothing that the others forbid. -/
structure Within (limits other : Limits) : Prop where
  depth : limits.maxDepth ≤ other.maxDepth
  slots : limits.maxSlots ≤ other.maxSlots
  segment : limits.maxSegmentBytes ≤ other.maxSegmentBytes
  keys : ∀ key, limits.allowsSlot key = true → other.allowsSlot key = true

theorem within_permissive (limits : Limits) : limits.Within .permissive := by
  have widest (word : UInt64) : word ≤ 0xFFFFFFFFFFFFFFFF := by
    rw [UInt64.le_iff_toNat_le]
    exact Nat.le_of_lt_succ word.toNat_lt
  exact ⟨widest _, widest _, widest _, fun _ _ => rfl⟩

theorem Within.allows {limits other : Limits} {t : RouteTree} (within : limits.Within other)
    (allowed : limits.Allows t) : other.Allows t := by
  refine ⟨?_, ?_, fun key inside => within.keys key (allowed.keys key inside)⟩
  · intro text inside
    exact Nat.le_trans (allowed.segment text inside) (UInt64.le_iff_toNat_le.1 within.segment)
  · exact Nat.le_trans allowed.slots (UInt64.le_iff_toNat_le.1 within.slots)

end Limits

namespace RouteTree

theorem checkWithin_of_within {limits other : Limits} {t : RouteTree} (within : limits.Within other)
    (passes : t.checkWithin limits = .ok ()) : t.checkWithin other = .ok () := by
  rw [checkWithin_eq_ok_iff] at passes ⊢
  obtain ⟨shallow, allowed⟩ := passes
  refine ⟨Nat.le_trans shallow (UInt64.le_iff_toNat_le.1 within.depth), ?_⟩
  intro keys node found
  exact within.allows (allowed keys node found)

/-- Reading within limits is reading without them and checking the tree. -/
theorem ofJsonWithin_eq_ok_iff (limits : Limits) (v : Json) (t : RouteTree) :
    ofJsonWithin limits v = .ok t ↔ ofJson v = .ok t ∧ t.checkWithin limits = .ok () := by
  rw [ofJson, ofJsonWithin_eq_ok_iff_spells, ofJsonWithin_eq_ok_iff_spells]
  constructor
  · rintro ⟨spelled, passes⟩
    exact ⟨⟨spelled, checkWithin_of_within limits.within_permissive passes⟩, passes⟩
  · rintro ⟨⟨spelled, -⟩, passes⟩
    exact ⟨spelled, passes⟩

/-- A value is read within limits as the tree that it is read as without them, if the tree is no
deeper than they say and they allow every node of it; and limits that allow more read it alike. -/
theorem ofJsonWithin_filters (v : Json) :
    (∀ limits t, ofJsonWithin limits v = .ok t ↔
      ofJson v = .ok t ∧ t.depth ≤ limits.maxDepth.toNat ∧
        ∀ keys node, t.place? keys = some node → limits.Allows node) ∧
    ∀ limits other t, limits.Within other → ofJsonWithin limits v = .ok t →
      ofJsonWithin other v = .ok t := by
  constructor
  · intro limits t
    rw [ofJsonWithin_eq_ok_iff, checkWithin_eq_ok_iff]
  · intro limits other t within read
    rw [ofJsonWithin_eq_ok_iff] at read ⊢
    exact ⟨read.1, checkWithin_of_within within read.2⟩

/-- A parameter in a modal slot, in the shortest form: limits that just hold the tree read it, so do
the standard ones, and limits one byte tighter refuse it. -/
theorem ofJsonWithin_filters_modal :
    let v := Json.array [.string "", .ofMembers [("modal",
      .array [.array [.string "id", .string "42", .string "oc"], .ofMembers []])]]
    let t := (RouteTree.leaf (.fixed "")).withSlot "modal" (.leaf (.param "id" "42" .optionalRest))
    let limits : Limits := ⟨1, 1, 2, some (.ofList ["modal"])⟩
    let tighter : Limits := { limits with maxSegmentBytes := 1 }
    ofJson v = .ok t ∧ limits.Within .standard ∧ ofJsonWithin limits v = .ok t ∧
      t.depth ≤ limits.maxDepth.toNat ∧ ofJsonWithin .standard v = .ok t ∧
      ¬ofJsonWithin tighter v = .ok t := by
  intro v t limits tighter
  have within : limits.Within .standard :=
    ⟨by decide, by decide, by decide, fun _ _ => rfl⟩
  have read : ofJsonWithin limits v = .ok t := rfl
  have both := ((ofJsonWithin_filters v).1 limits t).1 read
  refine ⟨both.1, within, read, both.2.1, (ofJsonWithin_filters v).2 _ _ _ within read, ?_⟩
  intro readTighter
  have allowed := (((ofJsonWithin_filters v).1 tighter t).1 readTighter).2.2 ["modal"] _ rfl
  exact absurd (allowed.segment "42" (by decide)) (by decide)

end RouteTree

end RouteSync
