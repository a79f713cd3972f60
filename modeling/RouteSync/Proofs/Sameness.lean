import Mathlib.Data.List.Perm.Subperm
import RouteSync.Proofs.Places

/-!
# Trees that are the same but for the order of slots

`RouteTree.Alike` compares two nodes without what their slots hold. Trees are the same when they
have the same places and the nodes at each place are alike; that sameness is an equivalence, and
that no walk can tell the same trees apart, is read off from the places.
-/

namespace RouteSync

/-- Of two lists without repeats, as long as one another, one has all elements of the other if it
has only such elements. -/
private theorem mem_iff_of_subset {names others : List String} (distinct : names.Nodup)
    (size : names.length = others.length) (subset : ∀ key ∈ names, key ∈ others) (key : String) :
    key ∈ names ↔ key ∈ others := by
  have perm : names.Perm others :=
    (List.subperm_of_subset distinct subset).perm_of_length_le (Nat.le_of_eq size.symm)
  exact perm.mem_iff

private theorem length_eq_of_mem_iff {names others : List String} (distinct : names.Nodup)
    (distinct' : others.Nodup) (both : ∀ key, key ∈ names ↔ key ∈ others) :
    names.length = others.length :=
  ((List.perm_ext_iff_of_nodup distinct distinct').2 both).length_eq

/-- Comparing the numbers of keys, and the values of one dictionary with those of the other, compares
the keys and the values of both. -/
theorem Dict.all_iff {α β : Type} (d : Dict α) (e : Dict β) (alike : α → β → Bool) :
    (d.keys.length == e.size && d.keys.attach.all fun key =>
      if member : key.1 ∈ e.keys then alike (d.value key.1 key.2) (e.value key.1 member)
      else false) = true ↔
      (∀ key, key ∈ d.keys ↔ key ∈ e.keys) ∧
        ∀ key a b, d.get? key = some a → e.get? key = some b → alike a b = true := by
  have unfolded : (d.keys.length == e.size && d.keys.attach.all fun key =>
      if member : key.1 ∈ e.keys then alike (d.value key.1 key.2) (e.value key.1 member)
      else false) = true ↔ d.keys.length = e.keys.length ∧ ∀ key, (member : key ∈ d.keys) →
        ∃ member' : key ∈ e.keys, alike (d.value key member) (e.value key member') = true := by
    simp [Dict.size]
  rw [unfolded]
  constructor
  · rintro ⟨size, values⟩
    have keys := mem_iff_of_subset d.nodup size fun key member => (values key member).1
    refine ⟨keys, ?_⟩
    intro key a b found found'
    have member := (Dict.mem_keys_iff d key).2 ⟨a, found⟩
    obtain ⟨member', equal⟩ := values key member
    rwa [Dict.value_eq_of_get? d member found, Dict.value_eq_of_get? e member' found'] at equal
  · rintro ⟨keys, values⟩
    refine ⟨length_eq_of_mem_iff d.nodup e.nodup keys, ?_⟩
    intro key member
    have member' := (keys key).1 member
    exact ⟨member', values key _ _ (Dict.get?_value d member) (Dict.get?_value e member')⟩

namespace RouteTree

/-- Nodes that are equal but for what is in their slots and for the order of the slots. -/
structure Alike (t u : RouteTree) : Prop where
  segment : t.segment = u.segment
  url : t.url = u.url
  refetch : t.refetch = u.refetch
  rootLayout : t.rootLayout = u.rootLayout
  keys : ∀ key, key ∈ t.slots.keys ↔ key ∈ u.slots.keys

/-- Nodes that are equal but for what is in their slots. -/
structure AlikeInOrder (t u : RouteTree) : Prop where
  segment : t.segment = u.segment
  url : t.url = u.url
  refetch : t.refetch = u.refetch
  rootLayout : t.rootLayout = u.rootLayout
  keys : t.slots.keys = u.slots.keys

namespace Alike

variable {t u v : RouteTree}

theorem refl (t : RouteTree) : t.Alike t := ⟨rfl, rfl, rfl, rfl, fun _ => Iff.rfl⟩

theorem symm (alike : t.Alike u) : u.Alike t :=
  ⟨alike.segment.symm, alike.url.symm, alike.refetch.symm, alike.rootLayout.symm,
    fun key => (alike.keys key).symm⟩

theorem trans (first : t.Alike u) (second : u.Alike v) : t.Alike v :=
  ⟨first.segment.trans second.segment, first.url.trans second.url,
    first.refetch.trans second.refetch, first.rootLayout.trans second.rootLayout,
    fun key => (first.keys key).trans (second.keys key)⟩

theorem rel_refl (a : Option RouteTree) : Option.Rel Alike a a := by
  cases a with
  | none => exact .none
  | some node => exact .some (.refl node)

theorem rel_symm {a b : Option RouteTree} (related : Option.Rel Alike a b) :
    Option.Rel Alike b a := by
  cases related with
  | none => exact .none
  | some alike => exact .some alike.symm

theorem rel_trans {a b c : Option RouteTree} (first : Option.Rel Alike a b)
    (second : Option.Rel Alike b c) : Option.Rel Alike a c := by
  cases first with
  | none => exact second
  | some alike =>
    cases second with
    | some alike' => exact .some (alike.trans alike')

end Alike

namespace AlikeInOrder

variable {t u v : RouteTree}

theorem refl (t : RouteTree) : t.AlikeInOrder t := ⟨rfl, rfl, rfl, rfl, rfl⟩

theorem trans (first : t.AlikeInOrder u) (second : u.AlikeInOrder v) : t.AlikeInOrder v :=
  ⟨first.segment.trans second.segment, first.url.trans second.url,
    first.refetch.trans second.refetch, first.rootLayout.trans second.rootLayout,
    first.keys.trans second.keys⟩

theorem symm (inOrder : t.AlikeInOrder u) : u.AlikeInOrder t :=
  ⟨inOrder.segment.symm, inOrder.url.symm, inOrder.refetch.symm, inOrder.rootLayout.symm,
    inOrder.keys.symm⟩

theorem alike (inOrder : t.AlikeInOrder u) : t.Alike u :=
  ⟨inOrder.segment, inOrder.url, inOrder.refetch, inOrder.rootLayout,
    fun key => by rw [inOrder.keys]⟩

theorem rel_refl (a : Option RouteTree) : Option.Rel AlikeInOrder a a := by
  cases a with
  | none => exact .none
  | some node => exact .some (.refl node)

theorem rel_symm {a b : Option RouteTree} (related : Option.Rel AlikeInOrder a b) :
    Option.Rel AlikeInOrder b a := by
  cases related with
  | none => exact .none
  | some inOrder => exact .some inOrder.symm

theorem rel_trans {a b c : Option RouteTree} (first : Option.Rel AlikeInOrder a b)
    (second : Option.Rel AlikeInOrder b c) : Option.Rel AlikeInOrder a c := by
  cases first with
  | none => exact second
  | some inOrder =>
    cases second with
    | some inOrder' => exact .some (inOrder.trans inOrder')

theorem rel_alike {a b : Option RouteTree} (related : Option.Rel AlikeInOrder a b) :
    Option.Rel Alike a b := by
  cases related with
  | none => exact .none
  | some inOrder => exact .some inOrder.alike

end AlikeInOrder

/-- The one-sided test of slot keys, together with their number, compares the keys of both. -/
theorem sameShape_iff (t u : RouteTree) : t.sameShape u = true ↔ t.Alike u := by
  simp only [sameShape, Bool.and_eq_true, beq_iff_eq, List.all_eq_true, List.contains_iff_mem,
    Dict.size]
  constructor
  · intro holds
    rcases holds with ⟨⟨⟨⟨⟨segment, url⟩, refetch⟩, rootLayout⟩, size⟩, subset⟩
    exact ⟨segment, url, refetch, rootLayout, mem_iff_of_subset t.slots.nodup size subset⟩
  · intro alike
    have size := length_eq_of_mem_iff t.slots.nodup u.slots.nodup alike.keys
    exact ⟨⟨⟨⟨⟨alike.segment, alike.url⟩, alike.refetch⟩, alike.rootLayout⟩, size⟩,
      fun key member => (alike.keys key).1 member⟩

/-- Trees are the same when their roots are alike and each slot of one holds the same tree as that
slot of the other. -/
theorem same_iff (t u : RouteTree) :
    t.same u = true ↔ t.Alike u ∧ ∀ key child other, t.slots.get? key = some child →
      u.slots.get? key = some other → child.same other = true := by
  have unfolded : t.same u = true ↔ (t.segment = u.segment ∧ t.url = u.url ∧
      t.refetch = u.refetch ∧ t.rootLayout = u.rootLayout) ∧
      (t.slots.keys.length == u.slots.size && t.slots.keys.attach.all fun key =>
        if member : key.1 ∈ u.slots.keys then
          (t.slots.value key.1 key.2).same (u.slots.value key.1 member) else false) = true := by
    obtain ⟨segment, ⟨keys, distinct, child⟩, url, refetch, rootLayout⟩ := t
    show (segment == u.segment && url == u.url && refetch == u.refetch &&
      rootLayout == u.rootLayout && keys.length == u.slots.size && keys.attach.all fun key =>
        if member : key.1 ∈ u.slots.keys then
          (child key.1 key.2).same (u.slots.value key.1 member) else false) = true ↔ _
    simp only [Bool.and_eq_true, beq_iff_eq, and_assoc]
  rw [unfolded, Dict.all_iff]
  constructor
  · rintro ⟨⟨segment, url, refetch, rootLayout⟩, keys, children⟩
    exact ⟨⟨segment, url, refetch, rootLayout, keys⟩, children⟩
  · rintro ⟨alike, children⟩
    exact ⟨⟨alike.segment, alike.url, alike.refetch, alike.rootLayout⟩, alike.keys, children⟩

theorem Alike.keys_perm {t u : RouteTree} (alike : t.Alike u) :
    t.slots.keys.Perm u.slots.keys :=
  (List.perm_ext_iff_of_nodup t.slots.nodup u.slots.nodup).2 alike.keys

/-- A slot of one of two alike nodes is a slot of both. -/
theorem Alike.exists_get? {t u : RouteTree} (alike : t.Alike u) {key : String}
    (inside : key ∈ u.slots.keys) :
    ∃ child other, t.slots.get? key = some child ∧ u.slots.get? key = some other :=
  ⟨_, _, Dict.get?_value _ ((alike.keys key).2 inside), Dict.get?_value _ inside⟩

/-- Slots of alike nodes are filled in both or in neither. -/
theorem Alike.get?_cases {t u : RouteTree} (alike : t.Alike u) (key : String) :
    (t.slots.get? key = none ∧ u.slots.get? key = none) ∨
      ∃ child other, t.slots.get? key = some child ∧ u.slots.get? key = some other :=
  Dict.get?_cases (alike.keys key)

/-- Trees are the same when they have alike nodes at the same places. -/
theorem same_iff_places (t u : RouteTree) :
    t.same u = true ↔ ∀ keys, Option.Rel Alike (t.place? keys) (u.place? keys) := by
  induction t using slotInduction generalizing u with
  | node t ih =>
    rw [same_iff]
    constructor
    · rintro ⟨alike, children⟩ keys
      cases keys with
      | nil => exact .some alike
      | cons key keys =>
        rw [place?_cons, place?_cons]
        rcases alike.get?_cases key with ⟨missing, missing'⟩ | ⟨child, other, found, found'⟩
        · rw [missing, missing']
          exact .none
        · rw [found, found']
          exact (ih key child found other).1 (children key child other found found') keys
    · intro places
      have alike : t.Alike u := by
        cases places [] with
        | some alike => exact alike
      refine ⟨alike, ?_⟩
      intro key child other found found'
      apply (ih key child found other).2
      intro keys
      rw [← place?_cons_of_get? found, ← place?_cons_of_get? found']
      exact places (key :: keys)

/-- Trees whose nodes at each place are alike, slots in order, are equal. -/
theorem eq_of_alikeInOrder {t u : RouteTree}
    (alike : ∀ keys, Option.Rel AlikeInOrder (t.place? keys) (u.place? keys)) : t = u := by
  induction t using slotInduction generalizing u with
  | node t ih =>
    have root : t.AlikeInOrder u := by
      cases alike [] with
      | some root => exact root
    have slots : t.slots = u.slots := by
      apply Dict.ext_get? root.keys
      intro key
      rcases root.alike.get?_cases key with ⟨missing, missing'⟩ | ⟨child, other, found, found'⟩
      · rw [missing, missing']
      · rw [found, found']
        congr
        apply ih key child found
        intro keys
        rw [← place?_cons_of_get? found, ← place?_cons_of_get? found']
        exact alike (key :: keys)
    obtain ⟨_, _, _, _, _⟩ := t
    obtain ⟨_, _, _, _, _⟩ := u
    obtain ⟨rfl, rfl, rfl, rfl, -⟩ := root
    obtain rfl : _ = _ := slots
    rfl

/-! ### An equivalence -/

theorem same_refl (t : RouteTree) : t.same t = true := by
  rw [same_iff_places]
  intro keys
  exact Alike.rel_refl (t.place? keys)

theorem same_symm {t u : RouteTree} (same : t.same u = true) : u.same t = true := by
  rw [same_iff_places] at same ⊢
  intro keys
  exact Alike.rel_symm (same keys)

theorem same_trans {t u v : RouteTree} (first : t.same u = true) (second : u.same v = true) :
    t.same v = true := by
  rw [same_iff_places] at first second ⊢
  intro keys
  exact Alike.rel_trans (first keys) (second keys)

/-- Alike nodes can be left by the same steps. -/
theorem Follows.of_same {t u : RouteTree} {steps : List Step} (same : t.same u = true)
    (follows : t.Follows steps) : u.Follows steps := by
  induction steps generalizing t u with
  | nil => exact follows_nil u
  | cons step steps ih =>
    obtain ⟨alike, children⟩ := (same_iff t u).1 same
    obtain ⟨agrees, child, found, follows⟩ := (follows_cons_iff ..).1 follows
    rw [follows_cons_iff, ← alike.segment]
    rcases alike.get?_cases step.key with ⟨missing, -⟩ | ⟨_, other, -, found'⟩
    · rw [missing] at found
      cases found
    · exact ⟨agrees, other, found', ih (children step.key child other found found') follows⟩

end RouteTree

end RouteSync
