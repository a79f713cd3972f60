import RouteSync.Json.Record
import RouteSync.Limits

/-!
# Limits in documents

Limits are a record whose fields may all be missing; a missing bound is the standard one.
-/

namespace RouteSync.Limits

/-- The fields of limits. -/
def fields : List Json.FieldName :=
  [⟨"maxDepth", []⟩, ⟨"maxParallelRoutes", []⟩, ⟨"maxSegmentLen", []⟩, ⟨"allowedSlots", []⟩]

/-- Reads limits from the fields of a record. -/
def ofRecord? (record : Json.Record) : Option Limits := do
  let maxDepth ← record.field? "maxDepth" Json.Document.word? (some standard.maxDepth)
  let maxSlots ← record.field? "maxParallelRoutes" Json.Document.word? (some standard.maxSlots)
  let maxSegmentBytes ←
    record.field? "maxSegmentLen" Json.Document.word? (some standard.maxSegmentBytes)
  let allowedSlots ← record.field? "allowedSlots"
    (Json.Document.nullable? Json.Document.strings?) (some none)
  return ⟨maxDepth, maxSlots, maxSegmentBytes, allowedSlots.map SortedSet.ofList⟩

/-- Reads limits. -/
def ofDocument? (document : Json.Document) : Option Limits :=
  (Json.Record.ofDocument? fields document).bind ofRecord?

/-- Reads limits from a text. -/
def ofText? (text : String) : Option Limits := (Json.Document.ofText? text).bind ofDocument?

end RouteSync.Limits
