import RouteSync.Render.Source

/-!
# Scripted content sources

A content source that follows a script: which segments it fails on, which it asks to render again,
what content it gives, and whether it withholds content from a prefetch.
-/

namespace RouteSync

/-- The content that a script gives: a description of the call, nothing, or always the same. -/
inductive ScriptedContent where
  | echo
  | withheld
  | fixed (v : Json)

/-- A script for a content source. -/
structure Script where
  failing : List Segment
  withholdPrefetch : Bool
  content : ScriptedContent
  head : Option Json
  needed : List Segment

namespace Script

/-- The script that echoes every call. -/
def echo : Script := ⟨[], false, .echo, none, []⟩

/-- The description of a call. -/
def describe (path : SegmentPath) (node : RouteTree) (mode : RenderMode) : Json :=
  .ofMembers [("segment", .string node.segment.display),
    ("depth", .word (UInt64.ofNat path.depth)), ("prefetch", .bool (mode == .prefetch))]

/-- Renders a node by the script. The page itself is never withheld. -/
def load (script : Script) (path : SegmentPath) (node : RouteTree) (mode : RenderMode) :
    Except String Content :=
  if node.segment ∈ script.failing then .error ("backend down at " ++ path.display)
  else if mode = .prefetch ∧ script.withholdPrefetch ∧ !node.segment.isPage then .ok ⟨none, none⟩
  else
    let content := match script.content with
      | .echo => some (describe path node mode)
      | .withheld => none
      | .fixed v => some v
    .ok ⟨content, script.head⟩

/-- The content source that follows the script. -/
def toSource (script : Script) : ContentSource where
  load := script.load
  needsRender _ node := script.needed.contains node.segment

end Script

/-- A call as logs show it. -/
def Call.display : Call → String
  | .load path _ _ => "load " ++ path.display
  | .needsRender path _ => "check " ++ path.display

end RouteSync
