/-!
# Dictionaries in order of insertion

A `Dict` is a list of keys without repeats together with a value for every key of the list. The
order of the keys is part of the dictionary; two dictionaries that differ in it alone hold the
same values. `Dict.entries` is the view as a list of pairs and `Dict.get?` the view as a partial
function.

Because the keys carry the proof that they do not repeat, and every key has a value, no operation
needs a well-formedness hypothesis.
-/

namespace RouteSync

/-- Keys in a fixed order, none of them twice, and a value for each. -/
structure Dict (α : Type) where
  keys : List String
  nodup : keys.Nodup
  value : (key : String) → key ∈ keys → α

namespace Dict

variable {α β : Type}

/-- The dictionary without keys. -/
def empty : Dict α := ⟨[], List.nodup_nil, fun _ h => absurd h List.not_mem_nil⟩

instance : Inhabited (Dict α) := ⟨empty⟩

/-- The number of keys. -/
def size (d : Dict α) : Nat := d.keys.length

/-- The value at `key`, if the dictionary has that key. -/
def get? (d : Dict α) (key : String) : Option α :=
  if h : key ∈ d.keys then some (d.value key h) else none

/-- The keys with their values, in order. -/
def entries (d : Dict α) : List (String × α) :=
  d.keys.attach.map fun k => (k.1, d.value k.1 k.2)

/-- The values, in the order of their keys. -/
def values (d : Dict α) : List α :=
  d.keys.attach.map fun k => d.value k.1 k.2

/-- A new key may follow distinct ones. -/
theorem nodup_append_singleton {keys : List String} (distinct : keys.Nodup) {key : String}
    (fresh : key ∉ keys) : (keys ++ [key]).Nodup := by
  rw [List.nodup_append]
  refine ⟨distinct, by simp, ?_⟩
  intro a member b last equal
  rw [List.mem_singleton] at last
  subst equal last
  exact fresh member

/-- Sets the value at `key`: a key that is already there keeps its place, a new one goes last. -/
def insert (d : Dict α) (key : String) (a : α) : Dict α :=
  if h : key ∈ d.keys then
    { d with value := fun k hk => if k = key then a else d.value k hk }
  else
    { keys := d.keys ++ [key]
      nodup := nodup_append_singleton d.nodup h
      value := fun k hk =>
        if e : k = key then a
        else
          d.value k ((List.mem_append.1 hk).resolve_right fun hs => e (List.mem_singleton.1 hs)) }

/-- Enters the pairs one after another, so that a repeated key keeps its first place and takes its
last value. -/
def ofList (pairs : List (String × α)) : Dict α :=
  pairs.foldl (fun d pair => d.insert pair.1 pair.2) empty

/-- The same keys with other values. -/
def map (f : α → β) (d : Dict α) : Dict β :=
  ⟨d.keys, d.nodup, fun k h => f (d.value k h)⟩

/-! ### What the operations show -/

@[simp] theorem map_fst_entries (d : Dict α) : d.entries.map Prod.fst = d.keys := by
  simp [entries, List.map_map, Function.comp_def]

/-- The pairs of a dictionary are its keys with what `get?` finds there. -/
theorem mem_entries_iff (d : Dict α) (key : String) (a : α) :
    (key, a) ∈ d.entries ↔ d.get? key = some a := by
  rw [entries, List.mem_map, get?]
  constructor
  · rintro ⟨⟨k, member⟩, -, equal⟩
    obtain ⟨rfl, rfl⟩ := Prod.mk.inj equal
    rw [dif_pos member]
  · intro found
    by_cases member : key ∈ d.keys
    · rw [dif_pos member] at found
      exact ⟨⟨key, member⟩, List.mem_attach .., by rw [Option.some.inj found]⟩
    · rw [dif_neg member] at found
      exact absurd found (by simp)

@[simp] theorem get?_value (d : Dict α) {key : String} (member : key ∈ d.keys) :
    d.get? key = some (d.value key member) := by
  rw [get?, dif_pos member]

theorem get?_eq_none_iff (d : Dict α) (key : String) : d.get? key = none ↔ key ∉ d.keys := by
  by_cases member : key ∈ d.keys
  · simp [member]
  · simp [get?, member]

theorem get?_map (f : α → β) (d : Dict α) (key : String) :
    (d.map f).get? key = (d.get? key).map f := by
  by_cases member : key ∈ d.keys
  · simp [get?, map, member]
  · simp [get?, map, member]

theorem keys_insert (d : Dict α) (key : String) (a : α) :
    (d.insert key a).keys = if key ∈ d.keys then d.keys else d.keys ++ [key] := by
  rw [insert]
  by_cases member : key ∈ d.keys <;> simp [member]

theorem mem_keys_insert_iff (d : Dict α) (key : String) (a : α) (other : String) :
    other ∈ (d.insert key a).keys ↔ other = key ∨ other ∈ d.keys := by
  rw [keys_insert]
  by_cases member : key ∈ d.keys
  · rw [if_pos member]
    constructor
    · exact .inr
    · rintro (rfl | inside)
      · exact member
      · exact inside
  · simp [member, or_comm]

theorem get?_insert_self (d : Dict α) (key : String) (a : α) :
    (d.insert key a).get? key = some a := by
  by_cases member : key ∈ d.keys
  · simp [insert, get?, member]
  · simp [insert, get?, member]

theorem get?_insert_of_ne (d : Dict α) {key other : String} (a : α) (different : other ≠ key) :
    (d.insert key a).get? other = d.get? other := by
  by_cases member : key ∈ d.keys
  · simp [insert, get?, member, different]
  · simp [insert, get?, member, different]

/-- Dictionaries with the same keys in the same order and the same values are equal. -/
theorem ext_get? {d e : Dict α} (keys : d.keys = e.keys)
    (values : ∀ key, d.get? key = e.get? key) : d = e := by
  obtain ⟨names, distinct, value⟩ := d
  obtain ⟨names', distinct', value'⟩ := e
  have equal : names = names' := keys
  subst equal
  congr
  funext key member
  have found := values key
  rw [get?_value _ (by exact member), get?_value _ (by exact member)] at found
  exact Option.some.inj found

theorem mem_keys_iff (d : Dict α) (key : String) : key ∈ d.keys ↔ ∃ a, d.get? key = some a := by
  constructor
  · intro member
    exact ⟨d.value key member, get?_value d member⟩
  · rintro ⟨a, found⟩
    apply Classical.byContradiction
    intro missing
    rw [(get?_eq_none_iff d key).2 missing] at found
    cases found

theorem value_eq_of_get? (d : Dict α) {key : String} {a : α} (member : key ∈ d.keys)
    (found : d.get? key = some a) : d.value key member = a := by
  rw [get?_value d member] at found
  exact Option.some.inj found

theorem mem_values_iff (d : Dict α) (a : α) : a ∈ d.values ↔ ∃ key, d.get? key = some a := by
  rw [values, List.mem_map]
  constructor
  · rintro ⟨⟨key, member⟩, -, rfl⟩
    exact ⟨key, get?_value d member⟩
  · rintro ⟨key, found⟩
    have member : key ∈ d.keys := (mem_keys_iff d key).2 ⟨a, found⟩
    exact ⟨⟨key, member⟩, List.mem_attach .., value_eq_of_get? d member found⟩

/-- A key that two dictionaries share, or that neither of them has, has a value in both or in
neither. -/
theorem get?_cases {d : Dict α} {e : Dict β} {key : String} (both : key ∈ d.keys ↔ key ∈ e.keys) :
    (d.get? key = none ∧ e.get? key = none) ∨
      ∃ a b, d.get? key = some a ∧ e.get? key = some b := by
  by_cases member : key ∈ e.keys
  · exact .inr ⟨_, _, get?_value d (both.2 member), get?_value e member⟩
  · refine .inl ⟨(get?_eq_none_iff d key).2 ?_, (get?_eq_none_iff e key).2 member⟩
    exact fun member' => member (both.1 member')

theorem exists_get?_of_keys_eq {d : Dict α} {e : Dict β} {key : String} {a : α}
    (keys : d.keys = e.keys) (found : d.get? key = some a) : ∃ b, e.get? key = some b := by
  rw [← mem_keys_iff, ← keys, mem_keys_iff]
  exact ⟨a, found⟩

/-- Setting the value of a key that is there does not touch the order of the keys. -/
theorem keys_insert_of_get? (d : Dict α) {key : String} {old : α} (found : d.get? key = some old)
    (a : α) : (d.insert key a).keys = d.keys := by
  rw [keys_insert, if_pos ((mem_keys_iff d key).2 ⟨old, found⟩)]

/-- Setting a key to the value that it has changes nothing. -/
theorem insert_eq_self (d : Dict α) {key : String} {a : α} (found : d.get? key = some a) :
    d.insert key a = d := by
  apply ext_get? (keys_insert_of_get? d found a)
  intro other
  by_cases equal : other = key
  · subst equal
    rw [get?_insert_self, found]
  · rw [get?_insert_of_ne d a equal]

/-- Of two values set at one key the last one stays. -/
theorem insert_insert (d : Dict α) (key : String) (a b : α) :
    (d.insert key a).insert key b = d.insert key b := by
  have keys : ((d.insert key a).insert key b).keys = (d.insert key b).keys := by
    rw [keys_insert_of_get? _ (get?_insert_self d key a), keys_insert, keys_insert]
  apply ext_get? keys
  intro other
  by_cases equal : other = key
  · subst equal
    rw [get?_insert_self, get?_insert_self]
  · rw [get?_insert_of_ne _ b equal, get?_insert_of_ne _ a equal, get?_insert_of_ne _ b equal]

/-- The values of two different keys may be set in either order. -/
theorem insert_comm (d : Dict α) {key other : String} {old old' : α} (different : key ≠ other)
    (found : d.get? key = some old) (found' : d.get? other = some old') (a b : α) :
    (d.insert key a).insert other b = (d.insert other b).insert key a := by
  have after : (d.insert key a).get? other = some old' := by
    rw [get?_insert_of_ne d a (Ne.symm different), found']
  have after' : (d.insert other b).get? key = some old := by
    rw [get?_insert_of_ne d b different, found]
  have keys : ((d.insert key a).insert other b).keys = ((d.insert other b).insert key a).keys := by
    rw [keys_insert_of_get? _ after, keys_insert_of_get? _ found, keys_insert_of_get? _ after',
      keys_insert_of_get? _ found']
  apply ext_get? keys
  intro k
  by_cases first : k = key
  · subst first
    rw [get?_insert_of_ne _ b different, get?_insert_self, get?_insert_self]
  · by_cases second : k = other
    · subst second
      rw [get?_insert_self, get?_insert_of_ne _ a first, get?_insert_self]
    · rw [get?_insert_of_ne _ b second, get?_insert_of_ne _ a first, get?_insert_of_ne _ a first,
        get?_insert_of_ne _ b second]

/-- Going through the values by their keys is going through what is found at the keys. -/
theorem flatMap_attach (d : Dict α) (f : String → α → List β) :
    (d.keys.attach.flatMap fun key => f key.1 (d.value key.1 key.2)) =
      d.keys.flatMap fun key => (d.get? key).elim [] (f key) := by
  have found (key : String) (member : key ∈ d.keys) :
      f key (d.value key member) = (d.get? key).elim [] (f key) := by
    rw [get?_value d member, Option.elim_some]
  rw [List.flatMap_subtype found, List.unattach_attach]

/-! ### The greatest measure of a value -/

private theorem foldl_max_le_iff (numbers : List Nat) (start most : Nat) :
    numbers.foldl max start ≤ most ↔ start ≤ most ∧ ∀ n ∈ numbers, n ≤ most := by
  induction numbers generalizing start with
  | nil => simp
  | cons n rest ih =>
    rw [List.foldl_cons, ih, Nat.max_le, List.forall_mem_cons, and_assoc]

theorem foldl_max_values_le_iff (d : Dict α) (measure : α → Nat) (most : Nat) :
    (d.values.map measure).foldl max 0 ≤ most ↔
      ∀ key a, d.get? key = some a → measure a ≤ most := by
  rw [foldl_max_le_iff]
  constructor
  · rintro ⟨-, bounded⟩ key a found
    exact bounded _ (List.mem_map_of_mem ((mem_values_iff d a).2 ⟨key, found⟩))
  · intro bounded
    refine ⟨Nat.zero_le _, ?_⟩
    intro n member
    obtain ⟨a, inside, rfl⟩ := List.mem_map.1 member
    obtain ⟨key, found⟩ := (mem_values_iff d a).1 inside
    exact bounded key a found

/-! ### From pairs and back -/

/-- Pairs with new and distinct keys go last, in their order. -/
theorem keys_foldl_insert (pairs : List (String × α)) (d : Dict α)
    (distinct : (d.keys ++ pairs.map Prod.fst).Nodup) :
    (pairs.foldl (fun d pair => d.insert pair.1 pair.2) d).keys = d.keys ++ pairs.map Prod.fst := by
  induction pairs generalizing d with
  | nil => simp
  | cons pair rest ih =>
    have fresh : pair.1 ∉ d.keys := by
      intro member
      exact (List.nodup_append.1 distinct).2.2 _ member _ (by simp) rfl
    have keys : (d.insert pair.1 pair.2).keys = d.keys ++ [pair.1] := by
      rw [keys_insert, if_neg fresh]
    have moved : (d.keys ++ [pair.1]) ++ rest.map Prod.fst =
        d.keys ++ (pair :: rest).map Prod.fst := by simp
    rw [List.foldl_cons, ih, keys, moved]
    rw [keys, moved]
    exact distinct

/-- What is entered once stays. -/
theorem get?_foldl_insert (pairs : List (String × α)) (d : Dict α)
    (distinct : (pairs.map Prod.fst).Nodup) {key : String} {a : α}
    (found : (key, a) ∈ pairs ∨ key ∉ pairs.map Prod.fst ∧ d.get? key = some a) :
    (pairs.foldl (fun d pair => d.insert pair.1 pair.2) d).get? key = some a := by
  induction pairs generalizing d with
  | nil =>
    rcases found with member | ⟨-, found⟩
    · exact absurd member List.not_mem_nil
    · exact found
  | cons pair rest ih =>
    obtain ⟨fresh, distinct⟩ := List.nodup_cons.1 distinct
    apply ih (d.insert pair.1 pair.2) distinct
    rcases found with member | ⟨missing, found⟩
    · rcases List.mem_cons.1 member with rfl | member
      · exact .inr ⟨fresh, get?_insert_self d key a⟩
      · exact .inl member
    · rw [List.map_cons, List.mem_cons, not_or] at missing
      refine .inr ⟨missing.2, ?_⟩
      rw [get?_insert_of_ne d pair.2 missing.1, found]

/-- A dictionary is made again from its pairs. -/
theorem ofList_entries (d : Dict α) : ofList d.entries = d := by
  have distinct : (d.entries.map Prod.fst).Nodup := by
    rw [map_fst_entries]
    exact d.nodup
  have keys : (ofList d.entries).keys = d.keys := by
    rw [ofList, keys_foldl_insert _ _ (by simpa [empty] using distinct), map_fst_entries]
    rfl
  apply ext_get? keys
  intro key
  cases found : d.get? key with
  | none =>
    rw [get?_eq_none_iff, keys, ← get?_eq_none_iff]
    exact found
  | some a => exact get?_foldl_insert _ _ distinct (.inl ((mem_entries_iff d key a).2 found))

/-- A dictionary made from pairs with distinct keys has just these pairs. -/
theorem entries_ofList {pairs : List (String × α)} (distinct : (pairs.map Prod.fst).Nodup) :
    (ofList pairs).entries = pairs := by
  have keys : (ofList pairs).keys = pairs.map Prod.fst :=
    keys_foldl_insert pairs empty (by simpa [empty] using distinct)
  have found (pair : String × α) (member : pair ∈ pairs) :
      (ofList pairs).get? pair.1 = some pair.2 :=
    get?_foldl_insert pairs empty distinct (.inl member)
  calc (ofList pairs).entries
    _ = (ofList pairs).keys.flatMap fun key =>
          ((ofList pairs).get? key).elim [] fun a => [(key, a)] := by
        rw [← flatMap_attach (ofList pairs) fun key a => [(key, a)], entries, List.map_eq_flatMap]
    _ = pairs.flatMap fun pair =>
          ((ofList pairs).get? pair.1).elim [] fun a => [(pair.1, a)] := by
        rw [keys, List.flatMap_map]
    _ = pairs.flatMap fun pair => [pair] := by
        rw [List.flatMap_def, List.flatMap_def, List.map_congr_left]
        intro pair member
        rw [found pair member, Option.elim_some]
    _ = pairs := List.flatMap_singleton' pairs

/-! ### Computing values key by key -/

/-- Computes a value for every key of the list in turn, and stops at the first failure. -/
def traverse {m : Type → Type} [Monad m] :
    (keys : List String) → ((key : String) → key ∈ keys → m α) → m ((key : String) → key ∈ keys → α)
  | [], _ => pure fun _ h => absurd h List.not_mem_nil
  | first :: rest, f => do
    let a ← f first (List.mem_cons_self ..)
    let values ← traverse rest fun k h => f k (List.mem_cons_of_mem _ h)
    pure fun k h =>
      if e : k = first then a else values k ((List.mem_cons.1 h).resolve_left e)

/-- All values are found when each of them is. -/
theorem traverse_eq_ok_iff {ε : Type} {keys : List String}
    {f : (key : String) → key ∈ keys → Except ε α} {values : (key : String) → key ∈ keys → α} :
    traverse keys f = .ok values ↔ ∀ key member, f key member = .ok (values key member) := by
  induction keys with
  | nil =>
    constructor
    · intro _ key member
      exact absurd member List.not_mem_nil
    · intro _
      rw [traverse]
      show Except.ok _ = Except.ok _
      congr
      funext key member
      exact absurd member List.not_mem_nil
  | cons first rest ih =>
    rw [traverse]
    constructor
    · intro found
      cases front : f first (List.mem_cons_self ..) with
      | error fault =>
        rw [front] at found
        exact nomatch found
      | ok a =>
        cases back : traverse rest fun k h => f k (List.mem_cons_of_mem _ h) with
        | error fault =>
          rw [front, back] at found
          exact nomatch found
        | ok others =>
          rw [front, back] at found
          obtain rfl := Except.ok.inj found
          intro key member
          by_cases equal : key = first
          · subst equal
            simpa using front
          · have tail := (List.mem_cons.1 member).resolve_left equal
            simpa [equal] using ih.1 back key tail
    · intro found
      have back := ih.2 fun key member => found key (List.mem_cons_of_mem _ member)
      rw [found first, back]
      show Except.ok _ = Except.ok _
      congr
      funext key member
      by_cases equal : key = first
      · subst equal
        simp
      · simp [equal]

/-- Two computations that go through the same keys fail alike when they fail alike at each key. -/
theorem traverse_eq_map {ε : Type} {keys : List String}
    {f : (key : String) → key ∈ keys → Except ε α} {g : (key : String) → key ∈ keys → Except ε β}
    (values : (key : String) → key ∈ keys → α)
    (step : ∀ key member, f key member = (g key member).map fun _ => values key member) :
    traverse keys f = (traverse keys g).map fun _ => values := by
  induction keys with
  | nil =>
    rw [traverse, traverse]
    show Except.ok _ = Except.ok _
    congr
    funext key member
    exact absurd member List.not_mem_nil
  | cons first rest ih =>
    have tail := ih (fun key member => values key (List.mem_cons_of_mem _ member))
      fun key member => step key (List.mem_cons_of_mem _ member)
    rw [traverse, traverse, step first, tail]
    cases g first (List.mem_cons_self ..) with
    | error fault => rfl
    | ok b =>
      cases traverse rest fun key member => g key (List.mem_cons_of_mem _ member) with
      | error fault => rfl
      | ok others =>
        show Except.ok _ = Except.ok _
        congr
        funext key member
        by_cases equal : key = first
        · subst equal
          simp
        · simp [equal]

/-- Going through the keys fails as checks of the keys do that fail alike at each key. -/
theorem traverse_eq_forM {ε : Type} {keys : List String}
    {f : (key : String) → key ∈ keys → Except ε α} {check : String → Except ε Unit}
    (step : ∀ key member, (f key member).map (fun _ => ()) = check key) :
    (traverse keys f).map (fun _ => ()) = forM keys check := by
  induction keys with
  | nil => rfl
  | cons first rest ih =>
    have tail := ih fun key member => step key (List.mem_cons_of_mem _ member)
    rw [traverse, List.forM_cons, ← tail, ← step first (List.mem_cons_self ..)]
    cases f first (List.mem_cons_self ..) with
    | error fault => rfl
    | ok => cases traverse rest fun key member => f key (List.mem_cons_of_mem _ member) <;> rfl

end Dict

end RouteSync
