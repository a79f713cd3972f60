import RouteSync.Json.Basic

/-!
# Compact JSON text

The text of a value has no blanks, keeps the order of members, and escapes in strings only the
quote, the backslash and the characters below U+0020, those with a short escape by it. Each printer
puts the text of its value in front of the characters that follow.
-/

namespace RouteSync.Json

/-- A digit of a number below sixteen. -/
def hexDigit (n : Nat) : Char := Nat.digitChar n

/-- One character inside a string. -/
def charText (c : Char) : List Char :=
  if c = '"' then ['\\', '"']
  else if c = '\\' then ['\\', '\\']
  else if c = '\x08' then ['\\', 'b']
  else if c = '\x0c' then ['\\', 'f']
  else if c = '\n' then ['\\', 'n']
  else if c = '\r' then ['\\', 'r']
  else if c = '\t' then ['\\', 't']
  else if c.toNat < 0x20 then
    ['\\', 'u', '0', '0', hexDigit (c.toNat / 16), hexDigit (c.toNat % 16)]
  else [c]

/-- A string in quotes. -/
def stringText (s : String) (rest : List Char) : List Char :=
  '"' :: s.toList.flatMap charText ++ '"' :: rest

/-- Printers one after another with commas between them. -/
def printSeparated : List (List Char → List Char) → List Char → List Char
  | [], rest => rest
  | [printer], rest => printer rest
  | printer :: printers, rest => printer (',' :: printSeparated printers rest)

mutual

/-- The text of a value in front of `rest`. -/
def print : Json → List Char → List Char
  | null, rest => 'n' :: 'u' :: 'l' :: 'l' :: rest
  | bool true, rest => 't' :: 'r' :: 'u' :: 'e' :: rest
  | bool false, rest => 'f' :: 'a' :: 'l' :: 's' :: 'e' :: rest
  | number n, rest => n.chars ++ rest
  | string s, rest => stringText s rest
  | array [], rest => '[' :: ']' :: rest
  | array (item :: items), rest => '[' :: item.print (printItems items (']' :: rest))
  | object ⟨names, _, value⟩, rest =>
    let member (name : { n // n ∈ names }) (rest : List Char) : List Char :=
      stringText name.1 (':' :: (value name.1 name.2).print rest)
    '{' :: printSeparated (names.attach.map fun name => member name) ('}' :: rest)

/-- Values each after a comma. -/
def printItems : List Json → List Char → List Char
  | [], rest => rest
  | item :: items, rest => ',' :: item.print (printItems items rest)

end

/-- The compact text of a value. -/
def text (v : Json) : String := String.ofList (v.print [])

end RouteSync.Json
