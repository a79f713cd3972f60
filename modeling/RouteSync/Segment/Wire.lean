import RouteSync.Fault

/-!
# Segments in wire form

A fixed segment is a string; a parameter is a triple of its name, its value and the short name of
its kind.
-/

namespace RouteSync.Segment

/-- The wire form of a segment. -/
def toJson : Segment → Json
  | fixed name => .string name
  | param name value kind => .array [.string name, .string value, .string kind.code]

/-- Reads a name, a value or a kind. -/
def stringOfJson : Json → Except Fault String
  | .string s => .ok s
  | v => .error (.misshapen [] (.stringExpected v.kind))

/-- Reads a segment. -/
def ofJson : Json → Except Fault Segment
  | .string name => .ok (fixed name)
  | .array [name, value, code] => do
    let name ← Fault.locate [.index 0] (stringOfJson name)
    let value ← Fault.locate [.index 1] (stringOfJson value)
    let code ← Fault.locate [.index 2] (stringOfJson code)
    match ParamKind.ofCode? code with
    | some kind => .ok (param name value kind)
    | none => .error (.unknownKind code)
  | .array items => .error (.misshapen [] (.segmentSize items.length))
  | v => .error (.misshapen [] (.segmentExpected v.kind))

end RouteSync.Segment
