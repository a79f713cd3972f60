/-!
# Maps in ascending order of keys

A `SortedMap` lists its entries by strictly ascending keys, strings being ordered by code points,
which is also the order of their UTF-8 bytes. Equal maps are equal lists.
-/

namespace RouteSync

/-- Entries by strictly ascending keys. -/
structure SortedMap (α : Type) where
  entries : List (String × α)
  sorted : (entries.map Prod.fst).Pairwise (· < ·)
  deriving DecidableEq

namespace SortedMap

variable {α : Type}

/-- The map without entries. -/
def empty : SortedMap α := ⟨[], .nil⟩

instance : Inhabited (SortedMap α) := ⟨empty⟩

/-- Puts an entry in its place among ascending ones, over an entry with its key. -/
def insertEntry (key : String) (a : α) : List (String × α) → List (String × α)
  | [] => [(key, a)]
  | entry :: rest =>
    if key < entry.1 then (key, a) :: entry :: rest
    else if entry.1 < key then entry :: insertEntry key a rest
    else (key, a) :: rest

/-- Insertion brings in no key but its own. -/
theorem mem_keys_insertEntry {key k : String} {a : α} {entries : List (String × α)}
    (member : k ∈ (insertEntry key a entries).map Prod.fst) :
    k = key ∨ k ∈ entries.map Prod.fst := by
  induction entries with
  | nil => simpa [insertEntry] using member
  | cons entry rest ih =>
    rw [List.map_cons, List.mem_cons]
    by_cases below : key < entry.1
    · rw [insertEntry, if_pos below] at member
      simpa using member
    · by_cases above : entry.1 < key
      · rw [insertEntry, if_neg below, if_pos above, List.map_cons, List.mem_cons] at member
        rcases member with equal | member
        · exact .inr (.inl equal)
        · rcases ih member with equal | member
          · exact .inl equal
          · exact .inr (.inr member)
      · rw [insertEntry, if_neg below, if_neg above, List.map_cons, List.mem_cons] at member
        rcases member with equal | member
        · exact .inl equal
        · exact .inr (.inr member)

/-- Insertion keeps the keys in ascending order. -/
theorem sorted_insertEntry (key : String) (a : α) {entries : List (String × α)}
    (ordered : (entries.map Prod.fst).Pairwise (· < ·)) :
    ((insertEntry key a entries).map Prod.fst).Pairwise (· < ·) := by
  induction entries with
  | nil => simp [insertEntry]
  | cons entry rest ih =>
    obtain ⟨least, restOrdered⟩ := List.pairwise_cons.1 ordered
    by_cases below : key < entry.1
    · rw [insertEntry, if_pos below]
      refine List.pairwise_cons.2 ⟨fun k member => ?_, ordered⟩
      rcases List.mem_cons.1 member with equal | member
      · subst equal
        exact below
      · exact String.lt_trans below (least k member)
    · by_cases above : entry.1 < key
      · rw [insertEntry, if_neg below, if_pos above]
        refine List.pairwise_cons.2 ⟨fun k member => ?_, ih restOrdered⟩
        rcases mem_keys_insertEntry member with equal | member
        · subst equal
          exact above
        · exact least k member
      · rw [insertEntry, if_neg below, if_neg above]
        have equal : entry.1 = key :=
          String.le_antisymm (String.not_lt.1 below) (String.not_lt.1 above)
        rw [equal] at least
        exact List.pairwise_cons.2 ⟨least, restOrdered⟩

/-- Sets the value at a key. -/
def insert (m : SortedMap α) (key : String) (a : α) : SortedMap α :=
  ⟨insertEntry key a m.entries, sorted_insertEntry key a m.sorted⟩

/-- Enters the pairs one after another: the last value of a key stays. -/
def ofList (pairs : List (String × α)) : SortedMap α :=
  pairs.foldl (fun m pair => m.insert pair.1 pair.2) empty

/-- The keys, ascending. -/
def keys (m : SortedMap α) : List String := m.entries.map Prod.fst

/-- Whether the map has the key. -/
def contains (m : SortedMap α) (key : String) : Bool := m.keys.contains key

/-! ### From entries and back -/

/-- An entry whose key is above all others goes last. -/
theorem insertEntry_of_above {key : String} (a : α) {entries : List (String × α)}
    (above : ∀ k ∈ entries.map Prod.fst, k < key) :
    insertEntry key a entries = entries ++ [(key, a)] := by
  induction entries with
  | nil => rfl
  | cons entry rest ih =>
    obtain ⟨here, others⟩ := List.forall_mem_cons.1 above
    rw [insertEntry, if_neg (String.lt_asymm here), if_pos here, ih others, List.cons_append]

/-- Entries that go on ascending stay in their order. -/
theorem entries_foldl_insert (pairs : List (String × α)) (m : SortedMap α)
    (ordered : (m.entries.map Prod.fst ++ pairs.map Prod.fst).Pairwise (· < ·)) :
    (pairs.foldl (fun m pair => m.insert pair.1 pair.2) m).entries = m.entries ++ pairs := by
  induction pairs generalizing m with
  | nil => simp
  | cons pair rest ih =>
    have above : ∀ k ∈ m.entries.map Prod.fst, k < pair.1 := by
      intro k member
      exact (List.pairwise_append.1 ordered).2.2 k member pair.1 List.mem_cons_self
    have inserted : (m.insert pair.1 pair.2).entries = m.entries ++ [pair] :=
      insertEntry_of_above pair.2 above
    rw [List.foldl_cons, ih, inserted, List.append_assoc, List.singleton_append]
    rw [inserted, List.map_append, List.append_assoc]
    exact ordered

/-- A map is made again from its entries. -/
theorem ofList_entries (m : SortedMap α) : ofList m.entries = m := by
  have entries : (ofList m.entries).entries = m.entries :=
    entries_foldl_insert m.entries empty m.sorted
  cases made : ofList m.entries with
  | mk list sorted =>
    rw [made] at entries
    cases m
    cases entries
    rfl

end SortedMap

/-- A set of strings: a map that only has keys. -/
abbrev SortedSet := SortedMap Unit

/-- The set of the strings in a list. -/
def SortedSet.ofList (keys : List String) : SortedSet :=
  SortedMap.ofList (keys.map fun key => (key, ()))

/-- A set is made again from its keys. -/
theorem SortedSet.ofList_keys (keys : SortedSet) : SortedSet.ofList keys.keys = keys := by
  have entries : (keys.keys.map fun key => (key, ())) = keys.entries := by
    rw [SortedMap.keys, List.map_map]
    exact List.map_id _
  rw [SortedSet.ofList, entries, SortedMap.ofList_entries]

end RouteSync
