import RouteSync.Json.Basic

/-!
# JSON documents

A `Document` is JSON as it is written: numbers by their digits, strings by their characters and
escaped units, and the members of an object with any repetitions. It has a shape only; whether a
number is in range, whether the units of a string pair up and whether the nesting is allowed is
asked when its value is taken, so that parts whose value nobody needs may break these rules.

A repeated member name keeps its first place and takes its last value.
-/

namespace RouteSync.Json

/-- A piece of a written string: a character, or an escaped 16-bit unit. -/
inductive Piece where
  | char (c : Char)
  | unit (code : Nat)
  deriving DecidableEq

namespace Piece

/-- Whether a 16-bit unit is the first half of a pair. -/
def isLeading (code : Nat) : Bool := 0xD800 ≤ code && code < 0xDC00

/-- Whether a 16-bit unit is the second half of a pair. -/
def isTrailing (code : Nat) : Bool := 0xDC00 ≤ code && code < 0xE000

/-- The characters of the pieces; none if half of a pair stands alone. -/
def chars? : List Piece → Option (List Char)
  | [] => some []
  | .char c :: rest => (chars? rest).map (c :: ·)
  | [.unit code] => if isLeading code || isTrailing code then none else some [Char.ofNat code]
  | .unit code :: .char c :: rest =>
    if isLeading code || isTrailing code then none
    else (chars? rest).map fun cs => Char.ofNat code :: c :: cs
  | .unit code :: .unit next :: rest =>
    if isLeading code then
      if isTrailing next then
        (chars? rest).map (Char.ofNat (0x10000 + (code - 0xD800) * 0x400 + (next - 0xDC00)) :: ·)
      else none
    else if isTrailing code then none
    else (chars? (.unit next :: rest)).map (Char.ofNat code :: ·)

/-- The string that the pieces spell. -/
def string? (pieces : List Piece) : Option String := (chars? pieces).map String.ofList

end Piece

/-- JSON as written. -/
inductive Document where
  | null
  | bool (b : Bool)
  | number (literal : Number.Literal)
  | string (pieces : List Piece)
  | array (items : List Document)
  | object (members : List (List Piece × Document))

namespace Document

instance : Inhabited Document := ⟨null⟩

mutual

/-- The value of a document that may open at most `room` arrays and objects inside one another. -/
def value? (room : Nat) : Document → Option Json
  | null => some .null
  | bool b => some (.bool b)
  | number literal => literal.value?.map .number
  | string pieces => (Piece.string? pieces).map .string
  | array items =>
    if room = 0 then none else (valueItems? (room - 1) items).map .array
  | object members =>
    if room = 0 then none else (valueMembers? (room - 1) members).map .ofMembers

/-- The values of the items. -/
def valueItems? (room : Nat) : List Document → Option (List Json)
  | [] => some []
  | item :: items => do
    let first ← item.value? room
    let rest ← valueItems? room items
    return first :: rest

/-- The names and values of the members, as written. -/
def valueMembers? (room : Nat) : List (List Piece × Document) → Option (List (String × Json))
  | [] => some []
  | (name, member) :: members => do
    let name ← Piece.string? name
    let first ← member.value? room
    let rest ← valueMembers? room members
    return (name, first) :: rest

end

/-- How many arrays and objects a text may open inside one another. -/
def maxNesting : Nat := 127

end Document

end RouteSync.Json
