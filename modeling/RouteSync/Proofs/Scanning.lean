import Mathlib.Tactic.IntervalCases
import RouteSync.Json.Printer
import RouteSync.Json.Reader

/-!
# What the reader makes of printed characters

The reader takes each character of a printed string for one piece of it, and the digits of a printed
integer for one number. What it has open around them makes no difference, and is still open behind
them.
-/

namespace RouteSync.Json

namespace ReaderState

/-! ### Where a value may stand -/

/-- What has been read when the characters end. -/
def resultOn (state : ReaderState) (cs : List Char) : Option (Document × Bool) :=
  (cs.foldl step state).result?

theorem resultOn_cons (state : ReaderState) (c : Char) (cs : List Char) :
    resultOn state (c :: cs) = resultOn (state.step c) cs := rfl

theorem resultOn_append (state : ReaderState) (front back : List Char) :
    resultOn state (front ++ back) = resultOn (front.foldl step state) back := by
  rw [resultOn, List.foldl_append]
  rfl

/-- Nothing that follows goes on with the value before it: it is the end of the text, or of an item,
an array or an object. -/
def Ends : List Char → Prop
  | [] => True
  | c :: _ => c = ',' ∨ c = ']' ∨ c = '}'

/-- The innermost open object, if that is what is open, has read the name of its next member. -/
def AwaitsValue : List Frame → Prop
  | .object _ none :: _ => False
  | _ => True

theorem step_complete (frames : List Frame) (document : Document) (c : Char) :
    (complete frames document).step c = stepAfter frames document c := by
  cases frames with
  | nil => simp [complete, step, stepAfter]
  | cons frame outer => rfl

/-- A whole number ends with the text or with the character behind it. -/
theorem resultOn_number {frames : List Frame} {part : NumberPart} {literal : Number.Literal}
    {rest : List Char} (whole : part = .zero ∨ part = .whole) (ends : Ends rest) :
    resultOn (reading frames (.number part literal)) rest =
      resultOn (complete frames (.number literal)) rest := by
  cases rest with
  | nil =>
    cases frames with
    | nil => rcases whole with rfl | rfl <;> rfl
    | cons frame outer => rfl
  | cons c cs =>
    rw [resultOn_cons, resultOn_cons, step_complete]
    rcases ends with rfl | rfl | rfl <;> rcases whole with rfl | rfl <;> rfl

/-! ### Strings -/

theorem hexValue?_hexDigit {n : Nat} (small : n < 16) : hexValue? (hexDigit n) = some n := by
  revert n
  decide

theorem step_unit {d : Nat} (small : d < 16) (frames : List Frame) (pieces : List Piece)
    (digits code : Nat) :
    (reading frames (.string pieces (some (.unit digits code)))).step (hexDigit d) =
      if digits = 3 then reading frames (.string (.unit (16 * code + d) :: pieces) none)
      else reading frames (.string pieces (some (.unit (digits + 1) (16 * code + d)))) := by
  show stepEscape frames pieces (.unit digits code) (hexDigit d) = _
  rw [stepEscape, hexValue?_hexDigit small]

/-- A printed character is read as one piece of a string: as an escaped unit if it is a control
character without a letter of its own, and as itself otherwise. -/
theorem exists_piece (c : Char) : ∃ piece,
    (piece = .char c ∨ piece = .unit c.toNat ∧ c.toNat < 0x20) ∧
      ∀ frames pieces, (charText c).foldl step (reading frames (.string pieces none)) =
        reading frames (.string (piece :: pieces) none) := by
  -- Only a control character without a letter of its own is written by its code, in two digits.
  by_cases short : c ∈ ['"', '\\', '\x08', '\x0c', '\n', '\r', '\t']
  · refine ⟨.char c, .inl rfl, ?_⟩
    simp only [List.mem_cons, List.not_mem_nil, or_false] at short
    rcases short with rfl | rfl | rfl | rfl | rfl | rfl | rfl <;> exact fun _ _ => rfl
  · simp only [List.mem_cons, List.not_mem_nil, or_false, not_or] at short
    by_cases control : c.toNat < 0x20
    · have printed : charText c =
          ['\\', 'u', '0', '0', hexDigit (c.toNat / 16), hexDigit (c.toNat % 16)] := by
        simp [charText, short, control]
      refine ⟨.unit c.toNat, .inr ⟨rfl, control⟩, ?_⟩
      intro frames pieces
      have value : 16 * (16 * 0 + c.toNat / 16) + c.toNat % 16 = c.toNat := by omega
      calc (charText c).foldl step (reading frames (.string pieces none))
        _ = [hexDigit (c.toNat / 16), hexDigit (c.toNat % 16)].foldl step
              (reading frames (.string pieces (some (.unit 2 0)))) := by rw [printed]; rfl
        _ = reading frames (.string (.unit c.toNat :: pieces) none) := by
            rw [List.foldl_cons, List.foldl_cons, step_unit (by omega), if_neg (by decide),
              step_unit (by omega), if_pos rfl, value, List.foldl_nil]
    · have printed : charText c = [c] := by simp [charText, short, control]
      refine ⟨.char c, .inl rfl, ?_⟩
      intro frames pieces
      simp [printed, step, stepString, short, control]

/-- The pieces are what the text of a string is read as, up to the quote at its end. -/
structure Spells (pieces : List Piece) (cs : List Char) : Prop where
  chars : Piece.chars? pieces = some cs
  scanned : ∀ frames front rest,
    resultOn (reading frames (.string front none)) (cs.flatMap charText ++ '"' :: rest) =
      resultOn (endString frames (front.reverse ++ pieces)) rest

theorem Spells.string?_eq {pieces : List Piece} {s : String} (spells : Spells pieces s.toList) :
    Piece.string? pieces = some s := by
  rw [Piece.string?, spells.chars, Option.map_some, String.ofList_toList]

theorem chars?_control {code : Nat} (control : code < 0x20) (rest : List Piece) :
    Piece.chars? (.unit code :: rest) = (Piece.chars? rest).map (Char.ofNat code :: ·) := by
  have lone : (Piece.isLeading code || Piece.isTrailing code) = false := by
    simp [Piece.isLeading, Piece.isTrailing]
    omega
  obtain ⟨leading, trailing⟩ : Piece.isLeading code = false ∧ Piece.isTrailing code = false := by
    simpa using lone
  match rest with
  | [] => simp [Piece.chars?, lone]
  | .char c :: rest =>
    rw [Piece.chars?, Piece.chars?, lone, Option.map_map]
    rfl
  | .unit next :: rest => simp [Piece.chars?, leading, trailing]

/-- Every string is read back from its text. -/
theorem exists_spells (cs : List Char) : ∃ pieces, Spells pieces cs := by
  induction cs with
  | nil =>
    refine ⟨[], rfl, ?_⟩
    intro frames front rest
    rw [List.append_nil]
    rfl
  | cons c cs ih =>
    obtain ⟨pieces, spells⟩ := ih
    obtain ⟨piece, spelled, scanned⟩ := exists_piece c
    refine ⟨piece :: pieces, ?_, ?_⟩
    · rcases spelled with rfl | ⟨rfl, control⟩
      · rw [Piece.chars?, spells.chars]
        rfl
      · rw [chars?_control control, spells.chars, Char.ofNat_toNat]
        rfl
    · intro frames front rest
      rw [List.flatMap_cons, List.append_assoc, resultOn_append, scanned, spells.scanned]
      simp

/-! ### Integers -/

theorem digit?_digitChar {d : Nat} (small : d < 10) : digit? d.digitChar = some d := by
  revert d
  decide

/-- The first digit of a number is not zero, unless it is the only one. -/
theorem exists_digits (n : Nat) : ∃ first rest,
    Nat.toDigits 10 n = (first :: rest).map Nat.digitChar ∧ (∀ d ∈ first :: rest, d < 10) ∧
      Number.Literal.natural (first :: rest) = n ∧ (first = 0 → rest = []) := by
  -- All digits but the last are those of the tenth part, which has the same first digit.
  induction n using Nat.strongRecOn with
  | ind n ih =>
    rw [Nat.toDigits_eq_if (by decide)]
    split
    · rename_i small
      exact ⟨n, [], rfl, by simpa using small, by simp [Number.Literal.natural], fun _ => rfl⟩
    · rename_i large
      obtain ⟨first, rest, printed, small, natural, leading⟩ := ih (n / 10) (by omega)
      have last : n % 10 < 10 := Nat.mod_lt n (by decide)
      refine ⟨first, rest ++ [n % 10], by simp [printed], ?_, ?_, ?_⟩
      · intro d member
        rw [← List.cons_append, List.mem_append, List.mem_singleton] at member
        rcases member with member | rfl
        · exact small d member
        · exact last
      · rw [← List.cons_append]
        have appended : Number.Literal.natural ((first :: rest) ++ [n % 10]) =
            10 * Number.Literal.natural (first :: rest) + n % 10 := by
          rw [Number.Literal.natural, List.foldl_append]
          rfl
        rw [appended, natural]
        omega
      · intro zero
        rw [zero, leading zero] at natural
        have nothing : n / 10 = 0 := natural.symm
        omega

theorem foldl_digits {digits : List Nat} (small : ∀ d ∈ digits, d < 10) (frames : List Frame)
    (literal : Number.Literal) :
    (digits.map Nat.digitChar).foldl step (reading frames (.number .whole literal)) =
      reading frames (.number .whole { literal with whole := literal.whole ++ digits }) := by
  induction digits generalizing literal with
  | nil => simp
  | cons d rest ih =>
    obtain ⟨here, others⟩ := List.forall_mem_cons.1 small
    have first : (reading frames (.number .whole literal)).step d.digitChar =
        reading frames (.number .whole { literal with whole := literal.whole ++ [d] }) := by
      show stepNumber frames .whole literal d.digitChar = _
      rw [stepNumber, digit?_digitChar here]
      rfl
    rw [List.map_cons, List.foldl_cons, first, ih others]
    simp

/-- The reader before the digits of a number, behind its sign if it has one. -/
def beforeDigits (frames : List Frame) (negative : Bool) : ReaderState :=
  if negative then reading frames (.number .minus ⟨true, [], none, none⟩) else reading frames .value

theorem step_beforeDigits {d : Nat} (small : d < 10) (frames : List Frame) (negative : Bool) :
    (beforeDigits frames negative).step d.digitChar =
      reading frames (.number (if d = 0 then .zero else .whole) ⟨negative, [d], none, none⟩) := by
  cases negative <;> interval_cases d <;> rfl

/-- The digits of a natural number are read up to their end. -/
theorem exists_literal (n : Nat) : ∃ digits, Number.Literal.natural digits = n ∧
    ∀ frames negative rest, Ends rest →
      resultOn (beforeDigits frames negative) (Nat.toDigits 10 n ++ rest) =
        resultOn (complete frames (.number ⟨negative, digits, none, none⟩)) rest := by
  obtain ⟨first, others, printed, small, natural, leading⟩ := exists_digits n
  obtain ⟨here, below⟩ := List.forall_mem_cons.1 small
  refine ⟨first :: others, natural, ?_⟩
  intro frames negative rest ends
  rw [resultOn_append, printed, List.map_cons, List.foldl_cons, step_beforeDigits here]
  by_cases zero : first = 0
  · rw [if_pos zero, leading zero]
    exact resultOn_number (.inl rfl) ends
  · rw [if_neg zero, foldl_digits below]
    exact resultOn_number (.inr rfl) ends

end ReaderState

end RouteSync.Json
