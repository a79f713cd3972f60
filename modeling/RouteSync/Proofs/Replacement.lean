import RouteSync.Proofs.Sameness

/-!
# Replacing the tree at a place

`RouteTree.put` sets the tree at a place and leaves a tree without that place alone. The laws say
what a replacement shows at, above and beside its place, when two replacements can change order, how
deep the result is, and which steps can still be taken afterwards.
-/

namespace RouteSync.RouteTree

/-! ### One slot -/

section WithSlot

variable {t child : RouteTree} {key : String}

@[simp] theorem get?_withSlot_self (t : RouteTree) (key : String) (child : RouteTree) :
    (t.withSlot key child).slots.get? key = some child :=
  Dict.get?_insert_self t.slots key child

theorem get?_withSlot_of_ne (t : RouteTree) (child : RouteTree) {other : String}
    (different : other ≠ key) :
    (t.withSlot key child).slots.get? other = t.slots.get? other :=
  Dict.get?_insert_of_ne t.slots child different

@[simp] theorem segment_withSlot (t : RouteTree) (key : String) (child : RouteTree) :
    (t.withSlot key child).segment = t.segment := rfl

/-- Filling a slot anew keeps all of the node but what is in the slot. -/
theorem withSlot_alikeInOrder {old : RouteTree} (found : t.slots.get? key = some old)
    (child : RouteTree) : (t.withSlot key child).AlikeInOrder t :=
  ⟨rfl, rfl, rfl, rfl, Dict.keys_insert_of_get? t.slots found child⟩

theorem withSlot_eq_self (found : t.slots.get? key = some child) : t.withSlot key child = t := by
  rw [withSlot, Dict.insert_eq_self t.slots found]
  cases t
  rfl

theorem withSlot_withSlot (t : RouteTree) (key : String) (child other : RouteTree) :
    (t.withSlot key child).withSlot key other = t.withSlot key other := by
  simp only [withSlot, Dict.insert_insert]

theorem withSlot_comm {other : String} {old old' : RouteTree} (different : key ≠ other)
    (found : t.slots.get? key = some old) (found' : t.slots.get? other = some old')
    (child child' : RouteTree) :
    (t.withSlot key child).withSlot other child' =
      (t.withSlot other child').withSlot key child := by
  simp only [withSlot, Dict.insert_comm t.slots different found found']

end WithSlot

/-! ### One place -/

/-- The tree with another one at a place, if it has that place. -/
def put (t : RouteTree) : List String → RouteTree → RouteTree
  | [], new => new
  | key :: keys, new =>
    match t.slots.get? key with
    | some child => t.withSlot key (child.put keys new)
    | none => t

@[simp] theorem put_nil (t new : RouteTree) : t.put [] new = new := by rw [put]

theorem put_cons_of_get? {t child : RouteTree} {key : String}
    (found : t.slots.get? key = some child) (keys : List String) (new : RouteTree) :
    t.put (key :: keys) new = t.withSlot key (child.put keys new) := by
  rw [put, found]

theorem put_cons_of_missing {t : RouteTree} {key : String} (missing : t.slots.get? key = none)
    (keys : List String) (new : RouteTree) : t.put (key :: keys) new = t := by
  rw [put, missing]

/-- Below the place stands what stands in the new tree. -/
theorem place?_put_append {t old : RouteTree} {keys : List String} (new : RouteTree)
    (found : t.place? keys = some old) (more : List String) :
    (t.put keys new).place? (keys ++ more) = new.place? more := by
  induction keys generalizing t with
  | nil => simp
  | cons key keys ih =>
    obtain ⟨child, inside, found⟩ := (place?_cons_eq_some_iff ..).1 found
    rw [put_cons_of_get? inside, List.cons_append, place?_cons_of_get? (get?_withSlot_self ..)]
    exact ih found

theorem place?_put_self {t old : RouteTree} {keys : List String} (new : RouteTree)
    (found : t.place? keys = some old) : (t.put keys new).place? keys = some new := by
  simpa using place?_put_append new found []

/-- Places beside the one that is replaced stay as they are. -/
theorem place?_put_of_apart (t new : RouteTree) {keys other : List String}
    (notBelow : ¬keys <+: other) (notAbove : ¬other <+: keys) :
    (t.put keys new).place? other = t.place? other := by
  induction keys generalizing t other with
  | nil => exact absurd List.nil_prefix notBelow
  | cons key keys ih =>
    cases other with
    | nil => exact absurd List.nil_prefix notAbove
    | cons key' other =>
      cases found : t.slots.get? key with
      | none => rw [put_cons_of_missing found]
      | some child =>
        rw [put_cons_of_get? found, place?_cons, place?_cons]
        by_cases equal : key' = key
        · subst equal
          rw [get?_withSlot_self, found]
          exact ih child (fun h => notBelow (List.cons_prefix_cons.2 ⟨rfl, h⟩))
            (fun h => notAbove (List.cons_prefix_cons.2 ⟨rfl, h⟩))
        · rw [get?_withSlot_of_ne t _ equal]

/-- A node that is not below the place keeps all but what is in its slots. -/
theorem place?_put_of_not_below (t new : RouteTree) {keys other : List String}
    (notBelow : ¬keys <+: other) :
    Option.Rel AlikeInOrder ((t.put keys new).place? other) (t.place? other) := by
  induction keys generalizing t other with
  | nil => exact absurd List.nil_prefix notBelow
  | cons key keys ih =>
    cases found : t.slots.get? key with
    | none =>
      rw [put_cons_of_missing found]
      exact AlikeInOrder.rel_refl _
    | some child =>
      rw [put_cons_of_get? found]
      cases other with
      | nil => exact .some (withSlot_alikeInOrder found _)
      | cons key' other =>
        rw [place?_cons, place?_cons]
        by_cases equal : key' = key
        · subst equal
          rw [get?_withSlot_self, found]
          exact ih child fun h => notBelow (List.cons_prefix_cons.2 ⟨rfl, h⟩)
        · rw [get?_withSlot_of_ne t _ equal]
          exact AlikeInOrder.rel_refl _

/-- A node of the result that is not below the place was there before. -/
theorem exists_place?_of_put {t new node : RouteTree} {keys other : List String}
    (notBelow : ¬keys <+: other) (found : (t.put keys new).place? other = some node) :
    ∃ old, t.place? other = some old ∧ node.AlikeInOrder old := by
  have alike := place?_put_of_not_below t new notBelow
  rw [found] at alike
  generalize t.place? other = place at alike ⊢
  cases alike with
  | some alike => exact ⟨_, rfl, alike⟩

/-- Of two trees put at one place the last one stays. -/
theorem put_put (t first second : RouteTree) (keys : List String) :
    (t.put keys first).put keys second = t.put keys second := by
  induction keys generalizing t with
  | nil => simp
  | cons key keys ih =>
    cases found : t.slots.get? key with
    | none => rw [put_cons_of_missing found, put_cons_of_missing found]
    | some child =>
      rw [put_cons_of_get? found, put_cons_of_get? (get?_withSlot_self ..), withSlot_withSlot, ih,
        put_cons_of_get? found]

/-- Putting back what is there changes nothing. -/
theorem put_eq_self {t node : RouteTree} {keys : List String} (found : t.place? keys = some node) :
    t.put keys node = t := by
  induction keys generalizing t with
  | nil => rw [put_nil, ← Option.some.inj found]
  | cons key keys ih =>
    obtain ⟨child, inside, found⟩ := (place?_cons_eq_some_iff ..).1 found
    rw [put_cons_of_get? inside, ih found, withSlot_eq_self inside]

/-- Trees may be put at two places in either order, unless one place is below the other. -/
theorem put_comm (t new new' : RouteTree) {keys other : List String} (notBelow : ¬keys <+: other)
    (notAbove : ¬other <+: keys) :
    (t.put keys new).put other new' = (t.put other new').put keys new := by
  induction keys generalizing t other with
  | nil => exact absurd List.nil_prefix notBelow
  | cons key keys ih =>
    cases other with
    | nil => exact absurd List.nil_prefix notAbove
    | cons key' other =>
      by_cases equal : key' = key
      · subst equal
        cases found : t.slots.get? key' with
        | none => simp only [put_cons_of_missing found]
        | some child =>
          have inner := ih child (fun h => notBelow (List.cons_prefix_cons.2 ⟨rfl, h⟩))
            (fun h => notAbove (List.cons_prefix_cons.2 ⟨rfl, h⟩))
          rw [put_cons_of_get? found, put_cons_of_get? found,
            put_cons_of_get? (get?_withSlot_self ..), put_cons_of_get? (get?_withSlot_self ..),
            withSlot_withSlot, withSlot_withSlot, inner]
      · cases found : t.slots.get? key with
        | none =>
          cases found' : t.slots.get? key' with
          | none => simp only [put_cons_of_missing found, put_cons_of_missing found']
          | some child' =>
            have still :=
              (get?_withSlot_of_ne t (child'.put other new') (Ne.symm equal)).trans found
            rw [put_cons_of_missing found, put_cons_of_get? found', put_cons_of_missing still]
        | some child =>
          cases found' : t.slots.get? key' with
          | none =>
            have still := (get?_withSlot_of_ne t (child.put keys new) equal).trans found'
            rw [put_cons_of_missing found', put_cons_of_get? found, put_cons_of_missing still]
          | some child' =>
            have still := (get?_withSlot_of_ne t (child.put keys new) equal).trans found'
            have still' :=
              (get?_withSlot_of_ne t (child'.put other new') (Ne.symm equal)).trans found
            rw [put_cons_of_get? found, put_cons_of_get? found', put_cons_of_get? still,
              put_cons_of_get? still', withSlot_comm (Ne.symm equal) found found']

/-! ### Steps after a replacement -/

/-- Steps that do not go on below the place come to the same end as before. -/
theorem checkSteps_put (t new : RouteTree) (depth : Nat) {keys : List String} {steps : List Step}
    (outside : keys <+: steps.map Step.key → keys = steps.map Step.key) :
    (t.put keys new).checkSteps depth steps = t.checkSteps depth steps := by
  induction keys generalizing t depth steps with
  | nil =>
    have empty : steps = [] := List.map_eq_nil_iff.1 (outside List.nil_prefix).symm
    subst empty
    rfl
  | cons key keys ih =>
    cases found : t.slots.get? key with
    | none => rw [put_cons_of_missing found]
    | some child =>
      rw [put_cons_of_get? found]
      cases steps with
      | nil => rfl
      | cons step steps =>
        rw [checkSteps, checkSteps, segment_withSlot]
        by_cases equal : step.key = key
        · subst equal
          have inner : (child.put keys new).checkSteps (depth + 1) steps =
              child.checkSteps (depth + 1) steps :=
            ih child (depth + 1) fun h =>
              (List.cons.inj (outside (List.cons_prefix_cons.2 ⟨rfl, h⟩))).2
          simp only [get?_withSlot_self, found, inner]
        · rw [get?_withSlot_of_ne t _ equal]

theorem follows_put_iff (t new : RouteTree) {keys : List String} {steps : List Step}
    (outside : keys <+: steps.map Step.key → keys = steps.map Step.key) :
    (t.put keys new).Follows steps ↔ t.Follows steps := by
  rw [← checkSteps_eq_ok_iff _ 0, checkSteps_put t new 0 outside, checkSteps_eq_ok_iff]

/-- Steps that go on below the place go on in the new tree. -/
theorem follows_put_append_iff (t new : RouteTree) (steps more : List Step) :
    (t.put (steps.map Step.key) new).Follows (steps ++ more) ↔
      t.Follows steps ∧ new.Follows more := by
  rw [follows_append_iff, follows_put_iff t new fun _ => rfl]
  constructor
  · intro holds
    rcases holds with ⟨follows, node, place, back⟩
    obtain ⟨old, found⟩ := follows.exists_place?
    rw [place?_put_self new found] at place
    cases place
    exact ⟨follows, back⟩
  · intro holds
    rcases holds with ⟨follows, back⟩
    obtain ⟨old, found⟩ := follows.exists_place?
    exact ⟨follows, new, place?_put_self new found, back⟩

/-! ### Depth after a replacement -/

theorem depth_put_le {t old : RouteTree} {keys : List String} (new : RouteTree)
    (found : t.place? keys = some old) :
    (t.put keys new).depth ≤ max t.depth (keys.length + new.depth) := by
  rw [depth_le_iff_places]
  intro other node place
  by_cases below : keys <+: other
  · obtain ⟨more, rfl⟩ := below
    rw [place?_put_append new found] at place
    have short := (depth_le_iff_places new _).1 (Nat.le_refl _) more node place
    rw [List.length_append]
    omega
  · obtain ⟨kept, before, -⟩ := exists_place?_of_put below place
    have short := (depth_le_iff_places t _).1 (Nat.le_refl _) other kept before
    omega

end RouteSync.RouteTree
