import RouteSync.RouteTree.Wire

/-!
# Data paths

A data path is a patch with its place: the steps to a node, the tree that is to stand there, and the
content rendered for that node, which is not looked into. Flight data, the part of a response that
changes the client's tree, is a list of data paths or a redirect.

In wire form a data path is flat: the elements of its segment path, then the tree, the content and
the head. Content that is null and content that is missing have the same wire form.
-/

namespace RouteSync

/-- A tree to put in place, with its segment and what was rendered for it. -/
structure Patch where
  segment : Segment
  tree : RouteTree
  content : Option Json
  head : Option Json

namespace Patch

/-- A patch without content. -/
def ofTree (tree : RouteTree) : Patch := ⟨tree.segment, tree, none, none⟩

/-- Equality of content, present or missing. -/
def sameContent : Option Json → Option Json → Bool
  | none, none => true
  | some a, some b => a.same b
  | _, _ => false

/-- Equality without regard to the order of slots and of object members. -/
def same (p q : Patch) : Bool :=
  p.segment == q.segment && p.tree.same q.tree && sameContent p.content q.content &&
    sameContent p.head q.head

end Patch

/-- A patch and the steps to its place. -/
structure DataPath where
  steps : List Step
  patch : Patch

namespace DataPath

/-- The path to the place of the patch. -/
def path (d : DataPath) : SegmentPath := ⟨d.steps, d.patch.segment⟩

/-- Whether the patch takes the place of the whole tree. -/
def isRoot (d : DataPath) : Bool := d.steps.isEmpty

/-- Equality without regard to the order of slots and of object members. -/
def same (d e : DataPath) : Bool := d.steps == e.steps && d.patch.same e.patch

/-- The wire form. -/
def toJson (d : DataPath) : Json :=
  .array (d.path.toJsonItems ++
    [d.patch.tree.toJson, d.patch.content.getD .null, d.patch.head.getD .null])

/-- What a null or another value says about content: null says that there is none. -/
def content? : Json → Option Json
  | .null => none
  | v => some v

/-- Reads a data path whose tree is within limits. The segment before the tree must be the tree's
own, its kind included. -/
def ofJsonWithin (limits : Limits) : Json → Except Fault DataPath
  | .array items =>
    match items.reverse with
    | head :: content :: tree :: places =>
      if places.length % 2 = 0 then .error (.misshapen [] (.dataPathLength items.length))
      else do
        let path ← SegmentPath.ofJsonItems places.reverse
        let tree ← RouteTree.ofJsonWithin limits tree
        if path.target = tree.segment then
          .ok ⟨path.steps, ⟨path.target, tree, content? content, content? head⟩⟩
        else
          .error (.misshapen [.index (places.length - 1)]
            (.segmentDiffers path.target tree.segment))
    | _ => .error (.misshapen [] (.dataPathLength items.length))
  | _ => .error (.misshapen [] .dataPathExpected)

/-- Reads a data path. -/
def ofJson (v : Json) : Except Fault DataPath := ofJsonWithin .permissive v

/-- Whether neither of two data paths reaches into the place of the other. -/
def isApart (d e : DataPath) : Bool := !d.path.isPrefixOf e.path && !e.path.isPrefixOf d.path

/-- Whether the data paths are apart from one another. -/
def disjoint : List DataPath → Bool
  | [] => true
  | d :: rest => rest.all d.isApart && disjoint rest

end DataPath

/-- What a response does to the client's tree. -/
inductive FlightData where
  | paths (paths : List DataPath)
  | redirect (url : String)

namespace FlightData

/-- Reads data paths one after another. -/
def pathsOfJson (limits : Limits) : List Json → Except Fault (List DataPath)
  | [] => .ok []
  | item :: items => do
    let first ← DataPath.ofJsonWithin limits item
    let rest ← pathsOfJson limits items
    .ok (first :: rest)

/-- The wire form. -/
def toJson : FlightData → Json
  | .paths ds => .array (ds.map DataPath.toJson)
  | .redirect url => .string url

/-- Reads flight data whose trees are within limits. -/
def ofJsonWithin (limits : Limits) : Json → Except Fault FlightData
  | .string url => .ok (.redirect url)
  | .array items => do
    let ds ← pathsOfJson limits items
    .ok (.paths ds)
  | _ => .error (.misshapen [] .flightDataExpected)

/-- Reads flight data. -/
def ofJson (v : Json) : Except Fault FlightData := ofJsonWithin .permissive v

/-- Data paths pairwise in order. -/
def samePaths : List DataPath → List DataPath → Bool
  | [], [] => true
  | d :: ds, e :: es => d.same e && samePaths ds es
  | _, _ => false

/-- Equality without regard to the order of slots and of object members. -/
def same : FlightData → FlightData → Bool
  | .paths ds, .paths es => samePaths ds es
  | .redirect a, .redirect b => a == b
  | _, _ => false

end FlightData

end RouteSync
