import RouteSync.Json.Document

/-!
# Reading JSON text

The reader takes one character at a time and keeps the arrays and objects that are still open on a
stack, so that reading a text is a left fold over its characters. After the outermost value it
notes whether anything but blanks follows: a value with characters behind it is found all the
same, and it is for the caller to refuse them. So `Json.ofTextWith`, which reads something from
the value of a text, finds what is wrong with the value before what is wrong behind it.
-/

namespace RouteSync.Json

/-- An open array or object: what it holds so far, the last first. An object that has read the name
of its next member but not its value keeps that name. -/
inductive Frame where
  | array (items : List Document)
  | object (members : List (List Piece × Document)) (name : Option (List Piece))

/-- How much of a number has been read. -/
inductive NumberPart where
  | minus
  | zero
  | whole
  | point
  | fraction
  | mark
  | exponentSign
  | exponent
  deriving DecidableEq

/-- An escape sequence in a string, after its backslash: the digits read so far once `u` is read. -/
inductive Escape where
  | start
  | unit (digits : Nat) (code : Nat)

/-- What the reader is in the middle of. -/
inductive Phase where
  /-- before a value -/
  | value
  /-- before a value or the end of an empty array -/
  | firstItem
  /-- before a member name or the end of an empty object -/
  | firstName
  /-- before a member name -/
  | name
  /-- between a member name and its value -/
  | colon
  /-- behind a value in an array or object -/
  | after (value : Document)
  /-- inside a string, with its pieces so far, the last first -/
  | string (pieces : List Piece) (escape : Option Escape)
  /-- inside a number, with its digits so far in order -/
  | number (part : NumberPart) (literal : Number.Literal)
  /-- inside one of the three words, with the letters still to come -/
  | word (letters : List Char) (value : Document)

/-- The state of the reader between characters. -/
inductive ReaderState where
  | reading (frames : List Frame) (phase : Phase)
  /-- the outermost value has ended; `clean` while only blanks have followed it -/
  | finished (value : Document) (clean : Bool)
  | failed

namespace ReaderState

/-- The blanks between tokens. -/
def isBlank (c : Char) : Bool := c == ' ' || c == '\t' || c == '\n' || c == '\r'

/-- The value of a hexadecimal digit. -/
def hexValue? (c : Char) : Option Nat :=
  if '0' ≤ c ∧ c ≤ '9' then some (c.toNat - '0'.toNat)
  else if 'a' ≤ c ∧ c ≤ 'f' then some (c.toNat - 'a'.toNat + 10)
  else if 'A' ≤ c ∧ c ≤ 'F' then some (c.toNat - 'A'.toNat + 10)
  else none

/-- The value of a decimal digit. -/
def digit? (c : Char) : Option Nat :=
  if '0' ≤ c ∧ c ≤ '9' then some (c.toNat - '0'.toNat) else none

/-- A value has ended inside the given frames. -/
def complete (frames : List Frame) (value : Document) : ReaderState :=
  match frames with
  | [] => finished value true
  | frames => reading frames (.after value)

/-- The character behind a value. -/
def stepAfter (frames : List Frame) (value : Document) (c : Char) : ReaderState :=
  match frames with
  | [] => finished value (isBlank c)
  | .array items :: outer =>
    if isBlank c then reading frames (.after value)
    else if c = ',' then reading (.array (value :: items) :: outer) .value
    else if c = ']' then complete outer (.array (value :: items).reverse)
    else failed
  | .object members (some name) :: outer =>
    if isBlank c then reading frames (.after value)
    else if c = ',' then reading (.object ((name, value) :: members) none :: outer) .name
    else if c = '}' then complete outer (.object ((name, value) :: members).reverse)
    else failed
  | .object _ none :: _ => failed

/-- The first character of a value. -/
def stepValue (frames : List Frame) (c : Char) : ReaderState :=
  if isBlank c then reading frames .value
  else if c = '"' then reading frames (.string [] none)
  else if c = '[' then reading (.array [] :: frames) .firstItem
  else if c = '{' then reading (.object [] none :: frames) .firstName
  else if c = 'n' then reading frames (.word ['u', 'l', 'l'] .null)
  else if c = 't' then reading frames (.word ['r', 'u', 'e'] (.bool true))
  else if c = 'f' then reading frames (.word ['a', 'l', 's', 'e'] (.bool false))
  else if c = '-' then reading frames (.number .minus ⟨true, [], none, none⟩)
  else match digit? c with
    | some d => reading frames (.number (if d = 0 then .zero else .whole) ⟨false, [d], none, none⟩)
    | none => failed

/-- The first character of a member name. -/
def stepName (frames : List Frame) (c : Char) : ReaderState :=
  if isBlank c then reading frames .name
  else if c = '"' then reading frames (.string [] none)
  else failed

/-- A string has ended: it is a member name where an object waits for one, and a value elsewhere. -/
def endString (frames : List Frame) (pieces : List Piece) : ReaderState :=
  match frames with
  | .object members none :: outer => reading (.object members (some pieces) :: outer) .colon
  | frames => complete frames (.string pieces)

/-- The character behind a backslash, or a digit of an escaped unit. -/
def stepEscape (frames : List Frame) (pieces : List Piece) (escape : Escape) (c : Char) :
    ReaderState :=
  match escape with
  | .start =>
    let plain (c : Char) : ReaderState := reading frames (.string (.char c :: pieces) none)
    match c with
    | '"' => plain '"'
    | '\\' => plain '\\'
    | '/' => plain '/'
    | 'b' => plain '\x08'
    | 'f' => plain '\x0c'
    | 'n' => plain '\n'
    | 'r' => plain '\r'
    | 't' => plain '\t'
    | 'u' => reading frames (.string pieces (some (.unit 0 0)))
    | _ => failed
  | .unit digits code =>
    match hexValue? c with
    | none => failed
    | some d =>
      if digits = 3 then reading frames (.string (.unit (16 * code + d) :: pieces) none)
      else reading frames (.string pieces (some (.unit (digits + 1) (16 * code + d))))

/-- A character inside a string. -/
def stepString (frames : List Frame) (pieces : List Piece) (escape : Option Escape) (c : Char) :
    ReaderState :=
  match escape with
  | some escape => stepEscape frames pieces escape c
  | none =>
    if c = '"' then endString frames pieces.reverse
    else if c = '\\' then reading frames (.string pieces (some .start))
    else if c.toNat < 0x20 then failed
    else reading frames (.string (.char c :: pieces) none)

/-- A digit inside a number. -/
def stepDigit (frames : List Frame) (part : NumberPart) (literal : Number.Literal) (d : Nat) :
    ReaderState :=
  match part with
  | .minus =>
    reading frames (.number (if d = 0 then .zero else .whole) { literal with whole := [d] })
  | .zero => failed
  | .whole => reading frames (.number .whole { literal with whole := literal.whole ++ [d] })
  | .point | .fraction =>
    reading frames (.number .fraction
      { literal with fraction := some (literal.fraction.getD [] ++ [d]) })
  | .mark | .exponentSign | .exponent =>
    let (negative, digits) := literal.exponent.getD (false, [])
    reading frames (.number .exponent { literal with exponent := some (negative, digits ++ [d]) })

/-- A character inside a number, or the one that ends it. -/
def stepNumber (frames : List Frame) (part : NumberPart) (literal : Number.Literal) (c : Char) :
    ReaderState :=
  match digit? c with
  | some d => stepDigit frames part literal d
  | none =>
    match part with
    | .minus | .point | .exponentSign => failed
    | .mark =>
      if c = '+' then reading frames (.number .exponentSign literal)
      else if c = '-' then
        reading frames (.number .exponentSign { literal with exponent := some (true, []) })
      else failed
    | .exponent => stepAfter frames (.number literal) c
    | .zero | .whole | .fraction =>
      if c = 'e' ∨ c = 'E' then reading frames (.number .mark literal)
      else if c = '.' ∧ part ≠ .fraction then reading frames (.number .point literal)
      else stepAfter frames (.number literal) c

/-- A letter of one of the three words. -/
def stepWord (frames : List Frame) (letters : List Char) (value : Document) (c : Char) :
    ReaderState :=
  match letters with
  | [] => failed
  | [last] => if c = last then complete frames value else failed
  | letter :: letters => if c = letter then reading frames (.word letters value) else failed

/-- One character. -/
def step (state : ReaderState) (c : Char) : ReaderState :=
  match state with
  | failed => failed
  | finished value clean => finished value (clean && isBlank c)
  | reading frames phase =>
    match phase with
    | .value => stepValue frames c
    | .firstItem =>
      if isBlank c then reading frames .firstItem
      else if c = ']' then complete frames.tail (.array [])
      else stepValue frames c
    | .firstName =>
      if isBlank c then reading frames .firstName
      else if c = '}' then complete frames.tail (.object [])
      else stepName frames c
    | .name => stepName frames c
    | .colon =>
      if isBlank c then state else if c = ':' then reading frames .value else failed
    | .after value => stepAfter frames value c
    | .string pieces escape => stepString frames pieces escape c
    | .number part literal => stepNumber frames part literal c
    | .word letters value => stepWord frames letters value c

/-- What has been read when the text ends here: the outermost value, and whether only blanks follow
it. A number may end with the text. -/
def result? : ReaderState → Option (Document × Bool)
  | finished value clean => some (value, clean)
  | reading [] (.number part literal) =>
    if part = .zero ∨ part = .whole ∨ part = .fraction ∨ part = .exponent then
      some (.number literal, true)
    else none
  | _ => none

end ReaderState

/-- The reader before any character. -/
def ReaderState.start : ReaderState := .reading [] .value

/-- Reads characters; the second component says whether only blanks follow the value. -/
def Document.scan? (cs : List Char) : Option (Document × Bool) :=
  (cs.foldl ReaderState.step .start).result?

/-- The document that a text is, blanks around it apart. -/
def Document.ofText? (text : String) : Option Document :=
  match scan? text.toList with
  | some (document, true) => some document
  | _ => none

/-- The value that a text is. -/
def ofText? (text : String) : Option Json :=
  (Document.ofText? text).bind (Document.value? Document.maxNesting)

/-- Why nothing is read from a text: it is not JSON, or its value is refused. -/
inductive TextFault (ε : Type) where
  | notJson
  | refused (reason : ε)

/-- Reads a value from a text and something from the value. Characters behind the value make the
text no JSON, unless the value has been refused before. -/
def ofTextWith {ε α : Type} (read : Json → Except ε α) (text : String) : Except (TextFault ε) α :=
  match Document.scan? text.toList with
  | none => .error .notJson
  | some (document, clean) =>
    match document.value? Document.maxNesting with
    | none => .error .notJson
    | some v =>
      match read v with
      | .error reason => .error (.refused reason)
      | .ok a => if clean then .ok a else .error .notJson

end RouteSync.Json
