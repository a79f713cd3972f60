import RouteSync.Proofs.Patching
import RouteSync.RouteTree.Bounded

/-!
# Trees within limits, place by place

Checking a tree against limits succeeds when every node of it is allowed and no place has more keys
than the limits allow. So a tree within limits has only such trees below its places, and it is no
deeper than the limits say.
-/

namespace RouteSync

namespace Limits

/-- What limits ask of a node by itself. -/
structure Allows (limits : Limits) (t : RouteTree) : Prop where
  segment : ∀ text ∈ t.segment.texts, text.utf8ByteSize ≤ limits.maxSegmentBytes.toNat
  slots : t.slots.size ≤ limits.maxSlots.toNat
  keys : ∀ key ∈ t.slots.keys, limits.allowsSlot key = true

theorem Allows.byteLength_le {limits : Limits} {t : RouteTree} (allows : limits.Allows t) :
    t.segment.byteLength ≤ limits.maxSegmentBytes.toNat :=
  (t.segment.byteLength_le_iff _).2 allows.segment

theorem checkDepth_eq_ok_iff (limits : Limits) (depth : Nat) :
    limits.checkDepth depth = .ok () ↔ depth ≤ limits.maxDepth.toNat := by
  rw [checkDepth]
  split <;> simp <;> omega

theorem checkSegment_eq_ok_iff (limits : Limits) (segment : Segment) :
    limits.checkSegment segment = .ok () ↔
      ∀ text ∈ segment.texts, text.utf8ByteSize ≤ limits.maxSegmentBytes.toNat := by
  rw [← Segment.byteLength_le_iff, checkSegment]
  split <;> simp <;> omega

theorem checkSlotCount_eq_ok_iff (limits : Limits) (count : Nat) :
    limits.checkSlotCount count = .ok () ↔ count ≤ limits.maxSlots.toNat := by
  rw [checkSlotCount]
  split <;> simp <;> omega

theorem checkSlotKey_eq_ok_iff (limits : Limits) (key : String) :
    limits.checkSlotKey key = .ok () ↔ limits.allowsSlot key = true := by
  rw [checkSlotKey]
  split <;> simp_all

end Limits

namespace RouteTree

/-- Limits allow a node by itself whatever the order of its slots. -/
theorem Alike.allows {t u : RouteTree} {limits : Limits} (alike : t.Alike u)
    (allows : limits.Allows t) : limits.Allows u where
  segment := alike.segment ▸ allows.segment
  slots := Nat.le_trans (Nat.le_of_eq alike.keys_perm.length_eq.symm) allows.slots
  keys := fun key inside => allows.keys key ((alike.keys key).2 inside)

/-- The check of a slot and of the tree in it, where the node stands at a depth. -/
def checkSlot (limits : Limits) (t : RouteTree) (depth : Nat) (key : String) :
    Except Fault Unit := do
  Fault.locate [.index 1] (limits.checkSlotKey key)
  (t.slots.get? key).elim (.ok ()) fun child =>
    Fault.locate [.index 1, .name key] (child.checkFrom limits (depth + 1))

/-- A check goes through the slots in order. -/
theorem checkFrom_eq (limits : Limits) (t : RouteTree) (depth : Nat) :
    t.checkFrom limits depth = (do
      limits.checkDepth depth
      Fault.locate [.index 0] (limits.checkSegment t.segment)
      Fault.locate [.index 1] (limits.checkSlotCount t.slots.size)
      forM t.slots.keys (t.checkSlot limits depth)) := by
  have slots : (Dict.traverse t.slots.keys fun key h => do
        Fault.locate [.index 1] (limits.checkSlotKey key)
        Fault.locate [.index 1, .name key]
          ((t.slots.value key h).checkFrom limits (depth + 1))).map (fun _ => ()) =
      forM t.slots.keys (t.checkSlot limits depth) := by
    apply Dict.traverse_eq_forM
    intro key member
    rw [map_check, checkSlot, Dict.get?_value t.slots member]
    rfl
  rw [← slots]
  obtain ⟨_, ⟨_, _, _⟩, _, _, _⟩ := t
  rfl

/-- A tree passes when its root is allowed where it stands and the trees in its slots pass one step
further down. -/
theorem checkFrom_eq_ok_iff (limits : Limits) (t : RouteTree) (depth : Nat) :
    t.checkFrom limits depth = .ok () ↔ depth ≤ limits.maxDepth.toNat ∧ limits.Allows t ∧
      ∀ key child, t.slots.get? key = some child →
        child.checkFrom limits (depth + 1) = .ok () := by
  have slot (key : String) (child : RouteTree) (found : t.slots.get? key = some child) :
      t.checkSlot limits depth key = .ok () ↔
        limits.allowsSlot key = true ∧ child.checkFrom limits (depth + 1) = .ok () := by
    rw [checkSlot, found, check_bind_eq_ok_iff, Option.elim_some, Fault.locate_eq_ok_iff,
      Fault.locate_eq_ok_iff, Limits.checkSlotKey_eq_ok_iff]
  rw [checkFrom_eq]
  simp only [check_bind_eq_ok_iff, Fault.locate_eq_ok_iff, forM_eq_ok_iff,
    Limits.checkDepth_eq_ok_iff, Limits.checkSegment_eq_ok_iff, Limits.checkSlotCount_eq_ok_iff]
  constructor
  · rintro ⟨atDepth, segment, count, slots⟩
    refine ⟨atDepth, ⟨segment, count, ?_⟩, ?_⟩
    · intro key inside
      obtain ⟨child, found⟩ := (Dict.mem_keys_iff ..).1 inside
      exact ((slot key child found).1 (slots key inside)).1
    · intro key child found
      exact ((slot key child found).1 (slots key ((Dict.mem_keys_iff ..).2 ⟨child, found⟩))).2
  · rintro ⟨atDepth, allowed, children⟩
    refine ⟨atDepth, allowed.segment, allowed.slots, ?_⟩
    intro key inside
    obtain ⟨child, found⟩ := (Dict.mem_keys_iff ..).1 inside
    exact (slot key child found).2 ⟨allowed.keys key inside, children key child found⟩

/-- A tree passes when every node of it is allowed and stands no deeper than it may. -/
theorem checkFrom_eq_ok_iff_places (limits : Limits) (t : RouteTree) (depth : Nat) :
    t.checkFrom limits depth = .ok () ↔ ∀ keys node, t.place? keys = some node →
      depth + keys.length ≤ limits.maxDepth.toNat ∧ limits.Allows node := by
  induction t using slotInduction generalizing depth with
  | node t ih =>
    rw [checkFrom_eq_ok_iff]
    constructor
    · rintro ⟨atDepth, allowed, children⟩ keys node found
      cases keys with
      | nil =>
        cases found
        exact ⟨atDepth, allowed⟩
      | cons key keys =>
        obtain ⟨child, inside, found⟩ := (place?_cons_eq_some_iff ..).1 found
        have passes :=
          (ih key child inside (depth + 1)).1 (children key child inside) keys node found
        rw [List.length_cons]
        exact ⟨by omega, passes.2⟩
    · intro places
      have root := places [] t rfl
      refine ⟨root.1, root.2, ?_⟩
      intro key child inside
      apply (ih key child inside (depth + 1)).2
      intro keys node found
      have passes := places (key :: keys) node ((place?_cons_of_get? inside keys).trans found)
      rw [List.length_cons] at passes
      exact ⟨by omega, passes.2⟩

/-- A tree that passes has only trees below its places that pass. -/
theorem checkWithin_of_place? {limits : Limits} {t node : RouteTree} {keys : List String}
    (passes : t.checkWithin limits = .ok ()) (found : t.place? keys = some node) :
    node.checkWithin limits = .ok () := by
  rw [checkWithin, checkFrom_eq_ok_iff_places] at passes ⊢
  intro more below inside
  have deeper := passes (keys ++ more) below ((place?_append_of_eq_some found more).trans inside)
  rw [List.length_append] at deeper
  exact ⟨by omega, deeper.2⟩

theorem depth_le_of_checkWithin {limits : Limits} {t : RouteTree}
    (passes : t.checkWithin limits = .ok ()) : t.depth ≤ limits.maxDepth.toNat := by
  rw [checkWithin, checkFrom_eq_ok_iff_places] at passes
  rw [depth_le_iff_places]
  intro keys node found
  have here := (passes keys node found).1
  omega

/-- A tree passes when it is no deeper than it may be and every node of it is allowed. -/
theorem checkWithin_eq_ok_iff (limits : Limits) (t : RouteTree) :
    t.checkWithin limits = .ok () ↔ t.depth ≤ limits.maxDepth.toNat ∧
      ∀ keys node, t.place? keys = some node → limits.Allows node := by
  rw [depth_le_iff_places, checkWithin, checkFrom_eq_ok_iff_places]
  constructor
  · intro places
    refine ⟨?_, fun keys node found => (places keys node found).2⟩
    intro keys node found
    have here := (places keys node found).1
    omega
  · rintro ⟨shallow, allowed⟩ keys node found
    have here := shallow keys node found
    exact ⟨by omega, allowed keys node found⟩

/-- A tree whose depth, numbers of slots and lengths of segments can be counted by a word. -/
structure Countable (t : RouteTree) : Prop where
  depth : t.depth < UInt64.size
  slots : ∀ keys node, t.place? keys = some node → node.slots.size < UInt64.size
  segments : ∀ keys node, t.place? keys = some node → node.segment.byteLength < UInt64.size

theorem countable_iff_checkWithin (t : RouteTree) :
    t.Countable ↔ t.checkWithin .permissive = .ok () := by
  have widest (n : Nat) : n < UInt64.size ↔ n ≤ (0xFFFFFFFFFFFFFFFF : UInt64).toNat :=
    Nat.lt_succ_iff
  rw [checkWithin_eq_ok_iff]
  constructor
  · intro countable
    refine ⟨(widest _).1 countable.depth, ?_⟩
    intro keys node found
    have segment := (widest _).1 (countable.segments keys node found)
    exact ⟨(node.segment.byteLength_le_iff _).1 segment,
      (widest _).1 (countable.slots keys node found), fun _ _ => rfl⟩
  · rintro ⟨shallow, allowed⟩
    exact ⟨(widest _).2 shallow, fun keys node found => (widest _).2 (allowed keys node found).slots,
      fun keys node found => (widest _).2 (allowed keys node found).byteLength_le⟩

end RouteTree

end RouteSync
