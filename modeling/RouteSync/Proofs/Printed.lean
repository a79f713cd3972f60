import RouteSync.Proofs.Scanning
import RouteSync.Proofs.Written

/-!
# Reading back what is printed

The reader takes the text of a value for one document, and takes it up to its end, wherever the value
stands inside others. The document is one way to write the value, and so the value comes back as it
was, as long as no more arrays and objects are open at once than the reader allows. Values with
doubles are left aside.
-/

namespace RouteSync.Json

/-! ### Documents of printed values -/

open ReaderState

/-- What the text of a value is read as: the text is read up to its end, wherever a value may stand,
and the document is one way to write the value. -/
structure PrintedAs (v : Json) (document : Document) : Prop where
  written : WrittenAs v document
  head : ∀ rest, ∃ c cs, v.print rest = c :: cs ∧ isBlank c = false ∧ c ≠ ']'
  scanned : ∀ frames rest, AwaitsValue frames → Ends rest →
    resultOn (reading frames .value) (v.print rest) = resultOn (complete frames document) rest

theorem printedAs_null : PrintedAs .null .null where
  written := .null
  head := fun _ => ⟨'n', _, rfl, rfl, by decide⟩
  scanned := fun _ _ _ _ => rfl

theorem printedAs_bool (b : Bool) : PrintedAs (.bool b) (.bool b) where
  written := .bool b
  head := by
    intro rest
    cases b with
    | false => exact ⟨'f', _, rfl, rfl, by decide⟩
    | true => exact ⟨'t', _, rfl, rfl, by decide⟩
  scanned := by
    intro frames rest _ _
    cases b <;> rfl

theorem exists_printedAs_string (s : String) : ∃ document, PrintedAs (.string s) document := by
  obtain ⟨pieces, spells⟩ := exists_spells s.toList
  refine ⟨.string pieces, .string spells.string?_eq, fun _ => ⟨'"', _, rfl, rfl, by decide⟩, ?_⟩
  · intro frames rest awaits _
    have ended : endString frames pieces = complete frames (.string pieces) := by
      unfold endString
      split
      · exact awaits.elim
      · rfl
    have scanned := spells.scanned frames [] rest
    rw [List.reverse_nil, List.nil_append, ended] at scanned
    exact scanned

theorem integer?_of_natural {n : Int} (fits : FitsWord n) {digits : List Nat}
    (natural : Number.Literal.natural digits = n.natAbs) :
    Number.Literal.integer? ⟨decide (n < 0), digits, none, none⟩ = some n := by
  obtain ⟨least, most⟩ := fits
  simp only [Number.Literal.integer?, natural, Option.isSome_none, Bool.or_self,
    Bool.false_eq_true, if_false, decide_eq_true_eq]
  by_cases negative : n < 0
  · rw [if_pos negative, if_pos (by omega)]
    congr
    omega
  · have size : n.natAbs < UInt64.size := by
      have word : UInt64.size = 18446744073709551616 := rfl
      omega
    rw [if_neg negative, if_pos size]
    congr
    omega

theorem exists_printedAs_integer (n : Int) (fits : FitsWord n) :
    ∃ document, PrintedAs (.number (.integer n fits)) document := by
  obtain ⟨digits, natural, scanned⟩ := exists_literal n.natAbs
  have printed (rest : List Char) : (Json.number (.integer n fits)).print rest =
      (if n < 0 then ['-'] else []) ++ (Nat.toDigits 10 n.natAbs ++ rest) :=
    List.append_assoc ..
  refine ⟨.number ⟨decide (n < 0), digits, none, none⟩, .integer (integer?_of_natural fits natural),
    ?_, ?_⟩
  · intro rest
    rw [printed]
    by_cases negative : n < 0
    · rw [if_pos negative]
      exact ⟨'-', _, rfl, rfl, by decide⟩
    · obtain ⟨first, others, chars, small, -, -⟩ := exists_digits n.natAbs
      have digit : ∀ d < 10, isBlank (Nat.digitChar d) = false ∧ Nat.digitChar d ≠ ']' := by decide
      rw [if_neg negative, chars]
      exact ⟨first.digitChar, _, rfl, digit first (small first List.mem_cons_self)⟩
  · intro frames rest _ ends
    rw [printed, ← scanned frames _ rest ends]
    by_cases negative : n < 0
    · rw [if_pos negative, decide_eq_true negative]
      rfl
    · rw [if_neg negative, decide_eq_false negative]
      rfl

/-! ### Arrays -/

theorem print_array_cons (item : Json) (items : List Json) (rest : List Char) :
    (array (item :: items)).print rest = '[' :: item.print (printItems items (']' :: rest)) := rfl

theorem printItems_cons (item : Json) (items : List Json) (rest : List Char) :
    printItems (item :: items) rest = ',' :: item.print (printItems items rest) := rfl

theorem ends_printItems (items : List Json) (rest : List Char) :
    Ends (printItems items (']' :: rest)) := by
  cases items with
  | nil => exact .inr (.inl rfl)
  | cons item items => exact .inl rfl

/-- Before the first item a value begins as it does elsewhere, since no value begins with a closing
bracket. -/
theorem PrintedAs.resultOn_firstItem {v : Json} {document : Document} (printed : PrintedAs v document)
    (frames : List Frame) (rest : List Char) :
    resultOn (reading frames .firstItem) (v.print rest) =
      resultOn (reading frames .value) (v.print rest) := by
  obtain ⟨c, cs, starts, noBlank, noEnd⟩ := printed.head rest
  rw [starts, resultOn_cons, resultOn_cons]
  simp [step, noBlank, noEnd]

/-- Behind an item the others are read in turn, and then the array is complete. -/
theorem resultOn_printItems {items : List Json} {documents : List Document}
    (printed : List.Forall₂ PrintedAs items documents) (frames : List Frame)
    (front : List Document) (last : Document) (rest : List Char) :
    resultOn (complete (.array front :: frames) last) (printItems items (']' :: rest)) =
      resultOn (complete frames (.array (front.reverse ++ last :: documents))) rest := by
  -- The open array holds what has been read so far, the last item first.
  induction printed generalizing front last with
  | nil =>
    show resultOn (complete frames (.array (last :: front).reverse)) rest = _
    rw [List.reverse_cons]
  | @cons item document items documents first _ ih =>
    rw [printItems_cons, resultOn_cons]
    calc resultOn (reading (.array (last :: front) :: frames) .value)
          (item.print (printItems items (']' :: rest)))
      _ = resultOn (complete (.array (last :: front) :: frames) document)
            (printItems items (']' :: rest)) :=
          first.scanned _ _ trivial (ends_printItems items rest)
      _ = resultOn (complete frames (.array ((last :: front).reverse ++ document :: documents)))
            rest := ih (last :: front) document
      _ = _ := by rw [List.reverse_cons, List.append_assoc, List.singleton_append]

theorem printedAs_array {items : List Json} {documents : List Document}
    (printed : List.Forall₂ PrintedAs items documents) :
    PrintedAs (.array items) (.array documents) := by
  refine ⟨.array (printed.imp fun _ _ each => each.written), ?_, ?_⟩
  · intro rest
    cases items with
    | nil => exact ⟨'[', _, rfl, rfl, by decide⟩
    | cons item items => exact ⟨'[', _, rfl, rfl, by decide⟩
  · intro frames rest _ ends
    cases printed with
    | nil => rfl
    | @cons item document items documents first others =>
      rw [print_array_cons, resultOn_cons]
      calc resultOn (reading (.array [] :: frames) .firstItem)
            (item.print (printItems items (']' :: rest)))
        _ = resultOn (complete (.array [] :: frames) document) (printItems items (']' :: rest)) := by
            rw [first.resultOn_firstItem]
            exact first.scanned _ _ trivial (ends_printItems items rest)
        _ = resultOn (complete frames (.array (document :: documents))) rest :=
            resultOn_printItems others frames [] document rest

/-! ### Objects -/

/-- The text of a member. -/
def memberText (entry : String × Json) (rest : List Char) : List Char :=
  stringText entry.1 (':' :: entry.2.print rest)

theorem print_object (members : Dict Json) (rest : List Char) :
    (object members).print rest =
      '{' :: printSeparated (members.entries.map memberText) ('}' :: rest) := by
  obtain ⟨_, _, _⟩ := members
  rw [Dict.entries, List.map_map]
  rfl

theorem printSeparated_cons (printer next : List Char → List Char)
    (printers : List (List Char → List Char)) (rest : List Char) :
    printSeparated (printer :: next :: printers) rest =
      printer (',' :: printSeparated (next :: printers) rest) := rfl

/-- What the text of a member is read as. -/
structure MemberPrintedAs (entry : String × Json) (member : List Piece × Document) : Prop where
  name : Spells member.1 entry.1.toList
  value : PrintedAs entry.2 member.2

theorem MemberPrintedAs.written {entry : String × Json} {member : List Piece × Document}
    (printed : MemberPrintedAs entry member) : MemberWrittenAs entry member :=
  .intro printed.name.string?_eq printed.value.written

theorem MemberPrintedAs.scanned {entry : String × Json} {member : List Piece × Document}
    (printed : MemberPrintedAs entry member) (frames : List Frame)
    (front : List (List Piece × Document)) {rest : List Char} (ends : Ends rest) :
    resultOn (reading (.object front none :: frames) .name) (memberText entry rest) =
      resultOn (complete (.object front (some member.1) :: frames) member.2) rest := by
  calc resultOn (reading (.object front none :: frames) .name) (memberText entry rest)
    _ = resultOn (reading (.object front none :: frames) (.string [] none))
          (entry.1.toList.flatMap charText ++ '"' :: ':' :: entry.2.print rest) := rfl
    _ = resultOn (endString (.object front none :: frames) member.1)
          (':' :: entry.2.print rest) := printed.name.scanned _ [] _
    _ = resultOn (reading (.object front (some member.1) :: frames) .value)
          (entry.2.print rest) := rfl
    _ = _ := printed.value.scanned _ rest trivial ends

/-- Members are read in turn, and then the object is complete. -/
theorem resultOn_members {entry : String × Json} {member : List Piece × Document}
    {entries : List (String × Json)} {members : List (List Piece × Document)}
    (first : MemberPrintedAs entry member)
    (others : List.Forall₂ MemberPrintedAs entries members) (frames : List Frame)
    (front : List (List Piece × Document)) (rest : List Char) :
    resultOn (reading (.object front none :: frames) .name)
        (printSeparated ((entry :: entries).map memberText) ('}' :: rest)) =
      resultOn (complete frames (.object (front.reverse ++ member :: members))) rest := by
  induction others generalizing entry member front with
  | nil =>
    have ends : Ends ('}' :: rest) := .inr (.inr rfl)
    refine (first.scanned frames front ends).trans ?_
    show resultOn (complete frames (.object (member :: front).reverse)) rest = _
    rw [List.reverse_cons]
  | @cons next document entries members second _ ih =>
    rw [List.map_cons, List.map_cons, printSeparated_cons, ← List.map_cons]
    have ends : Ends (',' :: printSeparated ((next :: entries).map memberText) ('}' :: rest)) :=
      .inl rfl
    refine (first.scanned frames front ends).trans ?_
    calc resultOn (reading (.object (member :: front) none :: frames) .name)
          (printSeparated ((next :: entries).map memberText) ('}' :: rest))
      _ = resultOn (complete frames (.object ((member :: front).reverse ++ document :: members)))
            rest := ih second (member :: front)
      _ = _ := by rw [List.reverse_cons, List.append_assoc, List.singleton_append]

theorem printedAs_object {entries : Dict Json} {members : List (List Piece × Document)}
    (printed : List.Forall₂ MemberPrintedAs entries.entries members) :
    PrintedAs (.object entries) (.object members) := by
  refine ⟨.object (printed.imp fun _ _ each => each.written), ?_, ?_⟩
  · intro rest
    exact ⟨'{', _, print_object entries rest, rfl, by decide⟩
  · intro frames rest _ _
    rw [print_object, resultOn_cons]
    generalize entries.entries = pairs at printed
    cases printed with
    | nil => rfl
    | @cons entry member entries members first others =>
      calc resultOn (reading (.object [] none :: frames) .firstName)
            (printSeparated ((entry :: entries).map memberText) ('}' :: rest))
        _ = resultOn (reading (.object [] none :: frames) .name)
              (printSeparated ((entry :: entries).map memberText) ('}' :: rest)) := by
            cases entries <;> rfl
        _ = resultOn (complete frames (.object (member :: members))) rest :=
            resultOn_members first others frames [] rest

/-! ### Texts of values -/

private theorem exists_forall₂ {α β : Type} {R : α → β → Prop} {xs : List α}
    (each : ∀ x ∈ xs, ∃ y, R x y) : ∃ ys, List.Forall₂ R xs ys := by
  induction xs with
  | nil => exact ⟨[], .nil⟩
  | cons x rest ih =>
    obtain ⟨⟨y, first⟩, others⟩ := List.forall_mem_cons.1 each
    obtain ⟨ys, related⟩ := ih others
    exact ⟨y :: ys, .cons first related⟩

theorem Exact.exists_printedAs {v : Json} (exact : v.Exact) : ∃ document, PrintedAs v document := by
  induction exact with
  | null => exact ⟨_, printedAs_null⟩
  | bool b => exact ⟨_, printedAs_bool b⟩
  | integer n fits => exact exists_printedAs_integer n fits
  | string s => exact exists_printedAs_string s
  | array _ ih =>
    obtain ⟨documents, printed⟩ := exists_forall₂ ih
    exact ⟨_, printedAs_array printed⟩
  | @object members _ ih =>
    have each : ∀ entry ∈ members.entries, ∃ member, MemberPrintedAs entry member := by
      rintro ⟨key, v⟩ inside
      obtain ⟨pieces, name⟩ := exists_spells key.toList
      obtain ⟨document, printed⟩ := ih key v ((Dict.mem_entries_iff ..).1 inside)
      exact ⟨(pieces, document), name, printed⟩
    obtain ⟨documents, printed⟩ := exists_forall₂ each
    exact ⟨_, printedAs_object printed⟩

/-- The text of a value is one document, with nothing behind it. -/
theorem PrintedAs.scan?_text {v : Json} {document : Document} (printed : PrintedAs v document) :
    Document.scan? v.text.toList = some (document, true) := by
  rw [text, String.toList_ofList]
  exact printed.scanned [] [] trivial trivial

/-- What is printed can be read. -/
theorem legible_text : Legible text Document.ofText? := by
  intro v exact
  obtain ⟨document, printed⟩ := exact.exists_printedAs
  refine ⟨document, ?_, printed.written⟩
  rw [Document.ofText?, printed.scan?_text]

/-- A value without doubles is read back from its text exactly if the reader allows its nesting;
the text of a value that is nested deeper is not read at all. -/
theorem ofText?_text {v : Json} (exact : v.Exact) :
    ofText? v.text = if v.nesting ≤ Document.maxNesting then some v else none :=
  legible_text.roundTrips v exact

theorem roundTrips_text : RoundTrips text ofText? := fun _ => ofText?_text

/-- Nothing stands behind the text of a value, so that what is read from the text is read from its
value. -/
theorem ofTextWith_text {ε α : Type} (read : Json → Except ε α) {v : Json} (exact : v.Exact) :
    ofTextWith read v.text = ofTextBy read ofText? v.text := by
  obtain ⟨document, printed⟩ := exact.exists_printedAs
  have found : ofText? v.text = document.value? Document.maxNesting := by
    rw [ofText?, Document.ofText?, printed.scan?_text, Option.bind_some]
  rw [ofTextBy, found, ofTextWith]
  simp only [printed.scan?_text]
  cases document.value? Document.maxNesting with
  | none => rfl
  | some v => cases read v <;> rfl

end RouteSync.Json
