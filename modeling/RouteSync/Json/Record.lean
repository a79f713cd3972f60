import RouteSync.Json.Reader

/-!
# Records in documents

A record has declared fields. It is written as an object, where an unknown name is passed over with
its value unread and a field given twice is refused, or as an array of the fields in their declared
order, where the last ones may be missing. The readers of single fields are here too.
-/

namespace RouteSync.Json

/-- A declared field: its name and the other names it goes by. -/
structure FieldName where
  name : String
  aliases : List String

/-- The fields found in a document, by their declared names. -/
abbrev Record := List (String × Document)

namespace Record

/-- The declared field of a written name. -/
def declared? (fields : List FieldName) (written : String) : Option String :=
  (fields.find? fun field => field.name == written || field.aliases.contains written).map
    FieldName.name

/-- Adds members to the fields found so far. -/
def addMembers? (fields : List FieldName) (found : Record) :
    List (List Piece × Document) → Option Record
  | [] => some found
  | (written, value) :: rest => do
    let written ← Piece.string? written
    match declared? fields written with
    | none => addMembers? fields found rest
    | some name =>
      if found.any (·.1 == name) then none else addMembers? fields (found ++ [(name, value)]) rest

/-- The fields of a document. -/
def ofDocument? (fields : List FieldName) : Document → Option Record
  | .object members => addMembers? fields [] members
  | .array items =>
    if items.length ≤ fields.length then some ((fields.map FieldName.name).zip items) else none
  | _ => none

/-- Reads a field, or takes a value for a missing one, if there is such a value. -/
def field? {α : Type} (record : Record) (name : String) (read : Document → Option α)
    (missing : Option α) : Option α :=
  match record.lookup name with
  | some value => read value
  | none => missing

end Record

namespace Document

/-- Reads a string. -/
def string? : Document → Option String
  | .string pieces => Piece.string? pieces
  | _ => none

/-- Reads a truth value. -/
def bool? : Document → Option Bool
  | .bool b => some b
  | _ => none

/-- Reads a 64-bit word. -/
def word? : Document → Option UInt64
  | .number literal => literal.word?
  | _ => none

/-- Reads strings. -/
def strings? : Document → Option (List String)
  | .array items => items.mapM string?
  | _ => none

/-- Reads an object of strings. -/
def stringMembers? : Document → Option (List (String × String))
  | .object members => members.mapM fun (name, value) => do
    return (← Piece.string? name, ← value.string?)
  | _ => none

/-- Reads null as nothing. -/
def nullable? {α : Type} (read : Document → Option α) : Document → Option (Option α)
  | .null => some none
  | document => (read document).map some

/-- Reads one of several words. A word may also stand as the name of the only member of an object,
whose value is null. -/
def choice? {α : Type} (ofWord? : String → Option α) : Document → Option α
  | .string pieces => (Piece.string? pieces).bind ofWord?
  | .object [(name, .null)] => (Piece.string? name).bind ofWord?
  | _ => none

end Document

end RouteSync.Json
