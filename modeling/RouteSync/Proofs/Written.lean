import Mathlib.Data.List.Forall2
import RouteSync.Json.Reader

/-!
# Values in writing

A value without doubles is written as many documents: its strings may be spelled in several ways, but
its parts are written in their order and no member is repeated. Any such document has the value,
where there is room for its arrays and objects. That is all that is asked of the texts between a
printer and a reader: the one writes a value, and the other finds a document of it.
-/

namespace RouteSync.Json

/-- A value all of whose numbers are integers. -/
inductive Exact : Json → Prop where
  | null : Exact null
  | bool (b : Bool) : Exact (bool b)
  | integer (n : Int) (fits : FitsWord n) : Exact (number (.integer n fits))
  | string (s : String) : Exact (string s)
  | array {items : List Json} (each : ∀ v ∈ items, Exact v) : Exact (array items)
  | object {members : Dict Json} (each : ∀ key v, members.get? key = some v → Exact v) :
      Exact (object members)

/-! ### Nesting -/

theorem nesting_array (items : List Json) : (array items).nesting = nestingItems items + 1 := rfl

theorem nestingItems_le_iff (items : List Json) (most : Nat) :
    nestingItems items ≤ most ↔ ∀ v ∈ items, v.nesting ≤ most := by
  induction items with
  | nil => simp [nestingItems]
  | cons v rest ih =>
    rw [nestingItems, Nat.max_le, ih, List.forall_mem_cons]

theorem nesting_object (members : Dict Json) :
    (object members).nesting = (members.values.map nesting).foldl max 0 + 1 := by
  obtain ⟨_, _, _⟩ := members
  rw [Dict.values, List.map_map]
  rfl

theorem nesting_object_le_iff (members : Dict Json) (most : Nat) :
    (object members).nesting ≤ most + 1 ↔
      ∀ key v, members.get? key = some v → v.nesting ≤ most := by
  rw [nesting_object, Nat.add_le_add_iff_right, Dict.foldl_max_values_le_iff]

/-! ### Documents of a value -/

mutual

/-- The document is one way to write the value. -/
inductive WrittenAs : Json → Document → Prop where
  | null : WrittenAs .null .null
  | bool (b : Bool) : WrittenAs (.bool b) (.bool b)
  | integer {n : Int} {fits : FitsWord n} {literal : Number.Literal}
      (spelled : literal.integer? = some n) :
      WrittenAs (.number (.integer n fits)) (.number literal)
  | string {s : String} {pieces : List Piece} (spelled : Piece.string? pieces = some s) :
      WrittenAs (.string s) (.string pieces)
  | array {items : List Json} {documents : List Document}
      (each : List.Forall₂ WrittenAs items documents) : WrittenAs (.array items) (.array documents)
  | object {entries : Dict Json} {members : List (List Piece × Document)}
      (each : List.Forall₂ MemberWrittenAs entries.entries members) :
      WrittenAs (.object entries) (.object members)

/-- The member is one way to write an entry of an object. -/
inductive MemberWrittenAs : String × Json → List Piece × Document → Prop where
  | intro {key : String} {v : Json} {pieces : List Piece} {document : Document}
      (name : Piece.string? pieces = some key) (value : WrittenAs v document) :
      MemberWrittenAs (key, v) (pieces, document)

end

variable {v : Json} {document : Document}

namespace MemberWrittenAs

variable {entry : String × Json} {member : List Piece × Document}

theorem name (written : MemberWrittenAs entry member) : Piece.string? member.1 = some entry.1 := by
  cases written with
  | intro name value => exact name

theorem value (written : MemberWrittenAs entry member) : WrittenAs entry.2 member.2 := by
  cases written with
  | intro name value => exact value

end MemberWrittenAs

/-- The document has the value where there is room for its arrays and objects, and none elsewhere. -/
def Document.HasValue (document : Document) (v : Json) : Prop :=
  ∀ room, document.value? room = if v.nesting ≤ room then some v else none

theorem valueItems?_of_hasValue {items : List Json} {documents : List Document}
    (each : List.Forall₂ (fun v document => document.HasValue v) items documents) (room : Nat) :
    Document.valueItems? room documents =
      if nestingItems items ≤ room then some items else none := by
  induction each with
  | nil => rfl
  | @cons item document items documents first _ ih =>
    rw [Document.valueItems?, first, ih, nestingItems]
    by_cases here : item.nesting ≤ room
    · by_cases others : nestingItems items ≤ room
      · rw [if_pos here, if_pos others, if_pos (Nat.max_le.2 ⟨here, others⟩)]
        rfl
      · rw [if_pos here, if_neg others, if_neg (fun both => others (Nat.max_le.1 both).2)]
        rfl
    · rw [if_neg here, if_neg (fun both => here (Nat.max_le.1 both).1)]
      rfl

theorem valueMembers?_of_hasValue {entries : List (String × Json)}
    {members : List (List Piece × Document)}
    (each : List.Forall₂ (fun entry member =>
      Piece.string? member.1 = some entry.1 ∧ member.2.HasValue entry.2) entries members)
    (room : Nat) :
    Document.valueMembers? room members =
      if ∀ entry ∈ entries, entry.2.nesting ≤ room then some entries else none := by
  induction each with
  | nil => rfl
  | @cons entry member entries members first _ ih =>
    obtain ⟨pieces, document⟩ := member
    obtain ⟨name, value⟩ := first
    simp only [Document.valueMembers?, name, value room, ih, List.forall_mem_cons]
    by_cases here : entry.2.nesting ≤ room
    · simp only [here, true_and, if_true]
      split <;> rfl
    · simp only [here, false_and, if_false]
      rfl

theorem hasValue_array {items : List Json} {documents : List Document}
    (each : List.Forall₂ (fun v document => document.HasValue v) items documents) :
    (Document.array documents).HasValue (.array items) := by
  intro room
  rw [Document.value?, valueItems?_of_hasValue each, nesting_array]
  cases room with
  | zero => rfl
  | succ room =>
    rw [if_neg (Nat.succ_ne_zero room), Nat.add_sub_cancel]
    simp only [Nat.add_le_add_iff_right]
    split <;> rfl

theorem hasValue_object {entries : Dict Json} {members : List (List Piece × Document)}
    (each : List.Forall₂ (fun entry member =>
      Piece.string? member.1 = some entry.1 ∧ member.2.HasValue entry.2) entries.entries members) :
    (Document.object members).HasValue (.object entries) := by
  intro room
  rw [Document.value?, valueMembers?_of_hasValue each]
  cases room with
  | zero => rw [if_pos rfl, nesting_object, if_neg (Nat.not_succ_le_zero _)]
  | succ room =>
    have fits : (object entries).nesting ≤ room + 1 ↔
        ∀ entry ∈ entries.entries, entry.2.nesting ≤ room := by
      rw [nesting_object_le_iff, Prod.forall]
      simp only [Dict.mem_entries_iff]
    rw [if_neg (Nat.succ_ne_zero room), Nat.add_sub_cancel]
    simp only [fits]
    split
    · rw [Option.map_some, ofMembers, Dict.ofList_entries]
    · rfl

/-- What a value is written as has that value. -/
theorem WrittenAs.hasValue (written : WrittenAs v document) : document.HasValue v := by
  induction v using Json.induction generalizing document with
  | atom v noArray noObject =>
    cases written with
    | null => exact fun _ => rfl
    | bool b => exact fun _ => rfl
    | @integer n fits literal spelled =>
      intro room
      rw [Document.value?, Number.Literal.value?, spelled]
      simp only [dif_pos fits]
      rfl
    | string spelled =>
      intro room
      rw [Document.value?, spelled]
      rfl
    | array => exact absurd rfl noArray
    | object => exact absurd rfl noObject
  | array items ih =>
    cases written with
    | array each =>
      apply hasValue_array
      exact ((List.forall₂_and_left ..).2 ⟨ih, each⟩).imp fun _ _ both => both.1 both.2
  | object entries ih =>
    cases written with
    | object each =>
      apply hasValue_object
      have below : ∀ entry ∈ entries.entries, ∀ {document}, WrittenAs entry.2 document →
          document.HasValue entry.2 := by
        intro entry inside
        obtain ⟨key, -, rfl⟩ := List.mem_map.1 inside
        exact ih key.1 key.2
      exact ((List.forall₂_and_left ..).2 ⟨below, each⟩).imp fun _ _ both =>
        ⟨both.2.name, both.1 both.2.value⟩

/-! ### Printers and readers -/

section Texts

variable {print : Json → String} {read? : String → Option Json}
  {document? : String → Option Document}

/-- The reader takes back what the printer makes of a value without doubles if the value is nested no
deeper than a text may be, and refuses the text of a value nested deeper. -/
def RoundTrips (print : Json → String) (read? : String → Option Json) : Prop :=
  ∀ v, v.Exact → read? (print v) = if v.nesting ≤ Document.maxNesting then some v else none

/-- The reader finds in what the printer makes of a value without doubles a document that is one way
to write the value. -/
def Legible (print : Json → String) (document? : String → Option Document) : Prop :=
  ∀ v, v.Exact → ∃ document, document? (print v) = some document ∧ WrittenAs v document

/-- The values of the documents that are found are the values that were printed. -/
theorem Legible.roundTrips (legible : Legible print document?) :
    RoundTrips print fun text => (document? text).bind (Document.value? Document.maxNesting) := by
  intro v exact
  obtain ⟨document, found, written⟩ := legible v exact
  simp only [found, Option.bind_some]
  exact written.hasValue Document.maxNesting

variable {ε α : Type} (read : Json → Except ε α)

/-- Reads something from the value that a reader takes from a text. -/
def ofTextBy (read? : String → Option Json) (text : String) : Except (TextFault ε) α :=
  match read? text with
  | some v => (read v).mapError .refused
  | none => .error .notJson

theorem RoundTrips.ofTextBy_print (roundTrips : RoundTrips print read?) (exact : v.Exact) :
    ofTextBy read read? (print v) =
      if v.nesting ≤ Document.maxNesting then (read v).mapError .refused else .error .notJson := by
  rw [ofTextBy, roundTrips v exact]
  by_cases shallow : v.nesting ≤ Document.maxNesting
  · rw [if_pos shallow, if_pos shallow]
  · rw [if_neg shallow, if_neg shallow]

end Texts

end RouteSync.Json
