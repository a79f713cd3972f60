import RouteSync.Json.Record
import RouteSync.Proofs.Written

/-!
# Reading written records

`Json.ReadsBack` says of a writer and a reader of documents that the one takes back what the other
writes, however it is spelled. The readers of single fields do, and a record that is written from
named values is read field by field: under the name of each field stands a document of the value
that was written under it, and none where the value was left out.
-/

namespace RouteSync.Json

variable {α : Type}

/-- The reader takes back what the writer writes, which has no doubles in it. -/
structure ReadsBack (toJson : α → Json) (read : Document → Option α) : Prop where
  exact : ∀ a, (toJson a).Exact
  reads : ∀ a document, WrittenAs (toJson a) document → read document = some a

variable {toJson : α → Json} {read : Document → Option α} {v : Json} {document : Document}

theorem WrittenAs.value?_eq (written : WrittenAs v document) {room : Nat} (fits : v.nesting ≤ room) :
    document.value? room = some v := by
  rw [written.hasValue, if_pos fits]

/-! ### Readers of single fields -/

theorem readsBack_string : ReadsBack string Document.string? where
  exact := .string
  reads := by
    intro s document written
    cases written with
    | string spelled => exact spelled

theorem readsBack_bool : ReadsBack bool Document.bool? where
  exact := .bool
  reads := by
    intro b document written
    cases written
    rfl

theorem readsBack_word : ReadsBack word Document.word? where
  exact := fun _ => .integer _ _
  reads := by
    intro n document written
    rw [word, Number.ofWord] at written
    cases written with
    | integer spelled =>
      rw [Document.word?, Number.Literal.word?, spelled]
      exact congrArg some UInt64.ofNat_toNat

/-- A choice is read back from its word. -/
theorem readsBack_choice {toWord : α → String} {ofWord? : String → Option α}
    (back : ∀ a, ofWord? (toWord a) = some a) :
    ReadsBack (fun a => string (toWord a)) (Document.choice? ofWord?) where
  exact := fun _ => .string _
  reads := by
    intro a document written
    cases written with
    | string spelled => rw [Document.choice?, spelled, Option.bind_some, back]

/-- Items are read in turn. -/
theorem mapM_eq_some_of_forall₂ {β : Type} {f : β → Option α} {as : List α} {bs : List β}
    (each : List.Forall₂ (fun a b => f b = some a) as bs) : bs.mapM f = some as := by
  induction each with
  | nil => rfl
  | cons first _ ih =>
    rw [List.mapM_cons, first, ih]
    rfl

theorem readsBack_strings :
    ReadsBack (fun texts : List String => array (texts.map string)) Document.strings? where
  exact := fun texts => .array (List.forall_mem_map.2 fun text _ => .string text)
  reads := by
    intro texts document written
    cases written with
    | array each =>
      apply mapM_eq_some_of_forall₂
      exact (List.forall₂_map_left_iff.1 each).imp readsBack_string.reads

/-! ### Objects member by member -/

section Members

variable {pairs : List (String × Json)}

theorem exact_ofMembers (distinct : (pairs.map Prod.fst).Nodup)
    (each : ∀ pair ∈ pairs, pair.2.Exact) : (ofMembers pairs).Exact := by
  refine .object fun key v found => ?_
  rw [← Dict.mem_entries_iff, Dict.entries_ofList distinct] at found
  exact each _ found

theorem exists_members_of_written (distinct : (pairs.map Prod.fst).Nodup)
    (written : WrittenAs (ofMembers pairs) document) :
    ∃ members, document = .object members ∧ List.Forall₂ MemberWrittenAs pairs members := by
  rw [ofMembers] at written
  cases written with
  | object each =>
    rw [Dict.entries_ofList distinct] at each
    exact ⟨_, rfl, each⟩

end Members

section StringMembers

variable {pairs : List (String × String)}

theorem nodup_stringMembers (distinct : (pairs.map Prod.fst).Nodup) :
    ((pairs.map fun (name, text) => (name, string text)).map Prod.fst).Nodup := by
  rw [List.map_map]
  exact distinct

theorem exact_stringMembers (distinct : (pairs.map Prod.fst).Nodup) :
    (ofMembers (pairs.map fun (name, text) => (name, string text))).Exact :=
  exact_ofMembers (nodup_stringMembers distinct) (List.forall_mem_map.2 fun pair _ => .string pair.2)

/-- Members that are strings are read back in their order. -/
theorem stringMembers?_of_written (distinct : (pairs.map Prod.fst).Nodup)
    (written : WrittenAs (ofMembers (pairs.map fun (name, text) => (name, string text))) document) :
    document.stringMembers? = some pairs := by
  obtain ⟨members, rfl, each⟩ := exists_members_of_written (nodup_stringMembers distinct) written
  apply mapM_eq_some_of_forall₂
  refine (List.forall₂_map_left_iff.1 each).imp fun pair member first => ?_
  have name : Piece.string? member.1 = some pair.1 := first.name
  have value : member.2.string? = some pair.2 := readsBack_string.reads _ _ first.value
  simp only [name, value]
  rfl

end StringMembers

/-! ### Members that are left out -/

section Present

variable {members : List (String × Option Json)}

theorem map_fst_present_sublist (members : List (String × Option Json)) :
    ((present members).map Prod.fst).Sublist (members.map Prod.fst) := by
  induction members with
  | nil => exact .slnil
  | cons member rest ih =>
    obtain ⟨name, v⟩ := member
    cases v with
    | none => exact ih.cons name
    | some v => exact ih.cons_cons name

theorem forall_mem_present_iff (P : String × Json → Prop) :
    (∀ pair ∈ present members, P pair) ↔ ∀ member ∈ members, ∀ v ∈ member.2, P (member.1, v) := by
  constructor
  · intro each member inside v value
    exact each _ (List.mem_filterMap.2 ⟨member, inside, Option.map_eq_some_iff.2 ⟨v, value, rfl⟩⟩)
  · intro each pair inside
    obtain ⟨member, listed, made⟩ := List.mem_filterMap.1 inside
    obtain ⟨v, value, rfl⟩ := Option.map_eq_some_iff.1 made
    exact each member listed v value

theorem exact_of_mem_map (each : ∀ a, (toJson a).Exact) (a : Option α) :
    ∀ v ∈ a.map toJson, v.Exact := by
  intro v made
  obtain ⟨a, -, rfl⟩ := Option.map_eq_some_iff.1 made
  exact each a

theorem lookup_present (distinct : (members.map Prod.fst).Nodup) (key : String) :
    (present members).lookup key = (members.lookup key).join := by
  induction members with
  | nil => rfl
  | cons member rest ih =>
    obtain ⟨name, v⟩ := member
    obtain ⟨fresh, others⟩ := List.nodup_cons.1 distinct
    by_cases here : key = name
    · subst here
      rw [List.lookup_cons_self, Option.join_some]
      cases v with
      | some v => exact List.lookup_cons_self
      | none =>
        -- What is left out here is not among the others either.
        have missing : rest.lookup key = none := by
          rw [List.lookup_eq_none_iff]
          intro pair inside
          rw [bne_iff_ne]
          intro same
          have listed : pair.1 ∈ rest.map Prod.fst := List.mem_map_of_mem inside
          exact fresh (same ▸ listed)
        show (present rest).lookup key = none
        rw [ih others, missing, Option.join_none]
    · have other : (key == name) = false := beq_eq_false_iff_ne.2 here
      rw [List.lookup_cons, other, ← ih others]
      cases v with
      | some v =>
        show ((name, v) :: present rest).lookup key = _
        rw [List.lookup_cons, other]
      | none => rfl

end Present

/-- A null is no value. -/
theorem WrittenAs.nullable?_eq (written : WrittenAs v document) (value : v ≠ .null) :
    Document.nullable? read document = (read document).map some := by
  cases written with
  | null => exact absurd rfl value
  | _ => rfl

/-! ### Records -/

namespace Record

/-- Under each name stands a document of the value that was written under it. -/
def Holds (record : Record) (members : List (String × Option Json)) : Prop :=
  ∀ name, Option.Rel WrittenAs (members.lookup name).join (record.lookup name)

namespace Holds

variable {record : Record} {members : List (String × Option Json)}

/-- What was written is read from a document of it. -/
theorem always (holds : record.Holds members) (name : String) {missing a : Option α}
    (reads : ∀ document, WrittenAs v document → read document = a)
    (found : members.lookup name = some (some v)) : record.field? name read missing = a := by
  have related := holds name
  rw [found, Option.join_some] at related
  rw [field?]
  generalize record.lookup name = entered at related
  cases related with
  | some written => exact reads _ written

/-- What was left out is missing. -/
theorem missing (holds : record.Holds members) (name : String) {missing : Option α}
    (found : members.lookup name = some none) : record.field? name read missing = missing := by
  have related := holds name
  rw [found, Option.join_some] at related
  rw [field?]
  generalize record.lookup name = entered at related
  cases related with
  | none => rfl

/-- A field that may be left out comes back, and is missing where it was left out. -/
theorem optional (holds : record.Holds members) (name : String) (back : ReadsBack toJson read)
    (value : ∀ a, toJson a ≠ .null) {a : Option α}
    (found : members.lookup name = some (a.map toJson)) :
    record.field? name (Document.nullable? read) (some none) = some a := by
  cases a with
  | none => exact holds.missing name found
  | some a =>
    refine holds.always name (fun document written => ?_) found
    rw [written.nullable?_eq (value a), back.reads a document written, Option.map_some]

end Holds

/-- No field has the name of another one. -/
structure Proper (fields : List FieldName) : Prop where
  distinct : (fields.map FieldName.name).Nodup
  declared : ∀ name ∈ fields.map FieldName.name, declared? fields name = some name

/-- Written members with new and distinct names go last, each under its own name. -/
theorem exists_addMembers? {fields : List FieldName} {pairs : List (String × Json)}
    {members : List (List Piece × Document)}
    (written : List.Forall₂ MemberWrittenAs pairs members)
    (declared : ∀ pair ∈ pairs, declared? fields pair.1 = some pair.1) (found : Record)
    (distinct : (found.map Prod.fst ++ pairs.map Prod.fst).Nodup) :
    ∃ record : Record, addMembers? fields found members = some (found ++ record) ∧
      ∀ name, Option.Rel WrittenAs (pairs.lookup name) (record.lookup name) := by
  induction written generalizing found with
  | nil => exact ⟨[], by rw [addMembers?, List.append_nil], fun _ => .none⟩
  | @cons pair member pairs members first _ ih =>
    obtain ⟨pieces, document⟩ := member
    obtain ⟨own, others⟩ := List.forall_mem_cons.1 declared
    have name : Piece.string? pieces = some pair.1 := first.name
    have fresh : found.any (·.1 == pair.1) = false := by
      rw [List.any_eq_false]
      intro field inside
      rw [beq_iff_eq]
      exact (List.nodup_append.1 distinct).2.2 _ (List.mem_map_of_mem inside) _ List.mem_cons_self
    have moved : ((found ++ [(pair.1, document)]).map Prod.fst ++ pairs.map Prod.fst).Nodup := by
      simpa using distinct
    obtain ⟨record, added, related⟩ := ih others (found ++ [(pair.1, document)]) moved
    refine ⟨(pair.1, document) :: record, ?_, ?_⟩
    · simp only [addMembers?, name, own, Option.bind_eq_bind, Option.bind_some, fresh]
      rw [if_neg Bool.false_ne_true, added, List.append_assoc, List.singleton_append]
    · intro key
      rw [List.lookup_cons, List.lookup_cons]
      split
      · exact .some first.value
      · exact related key

section Members

variable {fields : List FieldName} {members : List (String × Option Json)}

theorem exact_present (proper : Proper fields)
    (listed : members.map Prod.fst = fields.map FieldName.name)
    (each : ∀ member ∈ members, ∀ v ∈ member.2, v.Exact) : (ofMembers (present members)).Exact := by
  have names : (members.map Prod.fst).Nodup := listed ▸ proper.distinct
  apply exact_ofMembers (names.sublist (map_fst_present_sublist members))
  exact (forall_mem_present_iff fun pair => pair.2.Exact).2 each

/-- A record with proper fields is found in every document of its members. -/
theorem exists_record (proper : Proper fields)
    (listed : members.map Prod.fst = fields.map FieldName.name)
    (written : WrittenAs (ofMembers (present members)) document) :
    ∃ record : Record, ofDocument? fields document = some record ∧ record.Holds members := by
  have names : (members.map Prod.fst).Nodup := listed ▸ proper.distinct
  have part := map_fst_present_sublist members
  obtain ⟨_, rfl, each⟩ := exists_members_of_written (names.sublist part) written
  have declared : ∀ pair ∈ present members, declared? fields pair.1 = some pair.1 := by
    intro pair inside
    apply proper.declared
    rw [← listed]
    exact part.subset (List.mem_map_of_mem inside)
  obtain ⟨record, added, related⟩ := exists_addMembers? each declared [] (names.sublist part)
  refine ⟨record, added, fun name => ?_⟩
  rw [← lookup_present names]
  exact related name

end Members

end Record

end RouteSync.Json
