import RouteSync.Proofs.Grammar
import RouteSync.Proofs.Sameness

/-!
# What the wire form keeps

Nothing of a tree is lost in its wire form: the tree is read back from it just as it was, the order
of slots included. And the wire form tells no more of two trees than whether they are the same: as
JSON values, without regard to the order of members, they are equal exactly if the trees are the
same.
-/

namespace RouteSync

/-! ### The same value -/

theorem Json.same_object_iff (d e : Dict Json) :
    (object d).same (object e) = true ↔ (∀ key, key ∈ d.keys ↔ key ∈ e.keys) ∧
      ∀ key v w, d.get? key = some v → e.get? key = some w → v.same w = true := by
  rw [← Dict.all_iff]
  obtain ⟨names, distinct, value⟩ := d
  exact Iff.rfl

theorem Json.same_refl (v : Json) : v.same v = true := by
  induction v using Json.induction with
  | atom v noArray noObject =>
    cases v with
    | null => rfl
    | bool b => exact beq_self_eq_true b
    | number n => cases n <;> simp [same, Number.same, Double.same]
    | string s => exact beq_self_eq_true s
    | array items => exact absurd rfl noArray
    | object members => exact absurd rfl noObject
  | array items ih =>
    rw [same_array]
    induction items with
    | nil => rfl
    | cons item items others =>
      obtain ⟨first, rest⟩ := List.forall_mem_cons.1 ih
      rw [sameItems_cons, first, others rest, Bool.and_self]
  | object members ih =>
    rw [same_object_iff]
    refine ⟨fun _ => Iff.rfl, ?_⟩
    intro key v w found found'
    rw [found] at found'
    cases found'
    rw [← Dict.value_eq_of_get? members ((Dict.mem_keys_iff ..).2 ⟨v, found⟩) found]
    exact ih key _

theorem Segment.same_toJson_iff (s t : Segment) : s.toJson.same t.toJson = true ↔ s = t := by
  cases s with
  | fixed name =>
    cases t with
    | fixed other => simp [toJson]
    | param => exact iff_of_false Bool.false_ne_true nofun
  | param name value kind =>
    cases t with
    | fixed => exact iff_of_false Bool.false_ne_true nofun
    | param name' value' kind' =>
      have codes : kind.code = kind'.code ↔ kind = kind' := by
        cases kind <;> cases kind' <;> decide
      simp [toJson, codes]

namespace RouteTree

theorem same_urlForm_iff (a b : Option String) : (urlForm a).same (urlForm b) = true ↔ a = b := by
  cases a <;> cases b <;> simp [urlForm]

theorem same_refetchForm_iff (a b : Bool) :
    (refetchForm a).same (refetchForm b) = true ↔ a = b := by
  cases a <;> cases b <;> simp [refetchForm]

theorem sameItems_flag_iff (a b : Bool) :
    Json.sameItems (if a then [.bool true] else []) (if b then [.bool true] else []) = true ↔
      a = b := by
  cases a <;> cases b <;> simp [Json.sameItems]

/-- Two trees are the same exactly if their wire forms are the same value. -/
theorem same_toJson_iff (t u : RouteTree) : t.toJson.same u.toJson = true ↔ t.same u = true := by
  induction t using slotInduction generalizing u with
  | node t ih =>
    -- The two equalities differ only in what they compare in the slots: children, or their forms.
    have slots : (Json.object (t.slots.map toJson)).same (.object (u.slots.map toJson)) = true ↔
        (∀ key, key ∈ t.slots.keys ↔ key ∈ u.slots.keys) ∧ ∀ key child other,
          t.slots.get? key = some child → u.slots.get? key = some other →
            child.same other = true := by
      rw [Json.same_object_iff]
      apply and_congr Iff.rfl
      constructor
      · intro members key child other found found'
        apply (ih key child found other).1
        apply members key
        · rw [Dict.get?_map, found, Option.map_some]
        · rw [Dict.get?_map, found', Option.map_some]
      · intro children key v w member member'
        rw [Dict.get?_map, Option.map_eq_some_iff] at member member'
        obtain ⟨child, found, rfl⟩ := member
        obtain ⟨other, found', rfl⟩ := member'
        exact (ih key child found other).2 (children key child other found found')
    rw [toJson_eq, toJson_eq, same_iff]
    simp only [Json.same_array, Json.sameItems_cons, Bool.and_eq_true, slots,
      Segment.same_toJson_iff, same_urlForm_iff, same_refetchForm_iff, sameItems_flag_iff]
    constructor
    · rintro ⟨segment, ⟨keys, children⟩, url, refetch, rootLayout⟩
      exact ⟨⟨segment, url, refetch, rootLayout, keys⟩, children⟩
    · rintro ⟨alike, children⟩
      exact ⟨alike.segment, ⟨alike.keys, children⟩, alike.url, alike.refetch, alike.rootLayout⟩

/-- A tree whose sizes words can count is valid in wire form, and is read back just as it was, in the
order of its slots too. So the wire forms of two trees are the same value, but for the order of
members, exactly if the trees are the same but for the order of slots. -/
theorem toJson_faithful :
    (∀ t : RouteTree, t.Countable →
      validate .permissive t.toJson = .ok () ∧ ofJson t.toJson = .ok t) ∧
    ∀ t u : RouteTree, t.same u = true ↔ t.toJson.same u.toJson = true := by
  constructor
  · intro t countable
    have read : ofJson t.toJson = .ok t := by
      rw [ofJson, ofJsonWithin_toJson, (countable_iff_checkWithin t).1 countable]
      rfl
    have valid : validate .permissive t.toJson = .ok () := by
      rw [validate, ← ofJson, read]
      rfl
    exact ⟨valid, read⟩
  · intro t u
    exact (same_toJson_iff t u).symm

/-- The same tree with its slots in two orders: each comes back in its own order, and the wire forms
are the same value. -/
theorem toJson_faithful_reordered :
    let modal : RouteTree := ⟨.param "id" "42" .rest, .empty, some "/42", true, false⟩
    let layout : RouteTree := ⟨.fixed "", .empty, none, false, true⟩
    let t := (layout.withSlot "children" (.leaf .page)).withSlot "modal" modal
    let u := (layout.withSlot "modal" modal).withSlot "children" (.leaf .page)
    t.Countable ∧ u.Countable ∧ ofJson t.toJson = .ok t ∧ ofJson u.toJson = .ok u ∧
      t.slots.keys ≠ u.slots.keys ∧ t.same u = true ∧ t.toJson.same u.toJson = true := by
  intro modal layout t u
  have countable : t.Countable := (countable_iff_checkWithin t).2 rfl
  have countable' : u.Countable := (countable_iff_checkWithin u).2 rfl
  have same : t.same u = true := by decide
  exact ⟨countable, countable', (toJson_faithful.1 t countable).2,
    (toJson_faithful.1 u countable').2, by decide, same, (toJson_faithful.2 t u).1 same⟩

end RouteTree

end RouteSync
