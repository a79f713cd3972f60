import RouteSync.Text.GraphemeExtend
import RouteSync.Text.Unprintable

/-!
# Quoted text in messages

Messages quote names so that every character can be seen: the quote, the backslash and a few
controls have short escapes, and characters that cannot be seen on their own are written by their
code point.
-/

namespace RouteSync.Text

/-- The letters that stand for a missing Hangul letter. They are drawn as nothing, although Unicode
counts them among the letters. -/
def isHangulFiller (c : Char) : Bool :=
  c = '\u115f' || c = '\u1160' || c = '\u3164' || c = '\uffa0'

/-- The halfwidth katakana sound marks. They extend the grapheme before them, but take a cell of
their own, so they can be seen. -/
def isHalfwidthSoundMark (c : Char) : Bool :=
  c = '\uff9e' || c = '\uff9f'

/-- Whether a character cannot be seen on its own. -/
def isUnseen (c : Char) : Bool :=
  isUnprintable c || isHangulFiller c || (isGraphemeExtend c && !isHalfwidthSoundMark c)

/-- A code point in lower-case hexadecimal between braces. -/
def codePointText (c : Char) : List Char :=
  ['\\', 'u', '\x7b'] ++ Nat.toDigits 16 c.toNat ++ ['\x7d']

/-- One character between quotes. -/
def quotedChar (c : Char) : List Char :=
  if c = '\x00' then ['\\', '0']
  else if c = '\t' then ['\\', 't']
  else if c = '\r' then ['\\', 'r']
  else if c = '\n' then ['\\', 'n']
  else if c = '"' then ['\\', '"']
  else if c = '\\' then ['\\', '\\']
  else if isUnseen c then codePointText c
  else [c]

/-- The string in quotes. -/
def quoted (s : String) : String :=
  String.ofList ('"' :: s.toList.flatMap quotedChar ++ ['"'])

end RouteSync.Text
