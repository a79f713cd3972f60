import RouteSync.Fault
import RouteSync.SortedMap

/-!
# Limits on route trees

What a tree received from elsewhere may look like: how deep it is, how many slots a node has, how
long the names in a segment are, and, if a vocabulary is given, which slot keys occur. A single
check looks at one node; the walks over whole trees are elsewhere.
-/

namespace RouteSync

/-- Bounds on a tree. Without a vocabulary every slot key is allowed. -/
structure Limits where
  maxDepth : UInt64
  maxSlots : UInt64
  maxSegmentBytes : UInt64
  allowedSlots : Option SortedSet
  deriving DecidableEq

namespace Limits

/-- The limits where none are asked for. -/
def standard : Limits := ⟨64, 32, 2048, none⟩

instance : Inhabited Limits := ⟨standard⟩

/-- Tight limits, for trees from senders that are not trusted. -/
def strict : Limits := ⟨16, 8, 256, none⟩

/-- The widest bounds that a word can hold. -/
def permissive : Limits := ⟨0xFFFFFFFFFFFFFFFF, 0xFFFFFFFFFFFFFFFF, 0xFFFFFFFFFFFFFFFF, none⟩

/-- The slot that every vocabulary has. -/
def childrenSlot : String := "children"

/-- Allows only the given slot keys and the slot `children`. -/
def withAllowedSlots (limits : Limits) (keys : List String) : Limits :=
  { limits with allowedSlots := some ((SortedSet.ofList keys).insert childrenSlot ()) }

/-- Whether a slot key is allowed. -/
def allowsSlot (limits : Limits) (key : String) : Bool :=
  match limits.allowedSlots with
  | none => true
  | some keys => keys.contains key

/-- Refuses a node that is too far from the root. -/
def checkDepth (limits : Limits) (depth : Nat) : Except Fault Unit :=
  if limits.maxDepth.toNat < depth then .error (.overLimit (.depth limits.maxDepth []))
  else .ok ()

/-- Refuses a segment with too long a name or value. -/
def checkSegment (limits : Limits) (segment : Segment) : Except Fault Unit :=
  if limits.maxSegmentBytes.toNat < segment.byteLength then
    .error (.overLimit (.segmentLength [] segment.byteLength limits.maxSegmentBytes))
  else .ok ()

/-- Refuses too many slots. -/
def checkSlotCount (limits : Limits) (count : Nat) : Except Fault Unit :=
  if limits.maxSlots.toNat < count then
    .error (.overLimit (.slotCount count [] limits.maxSlots))
  else .ok ()

/-- Refuses a slot key outside the vocabulary. -/
def checkSlotKey (limits : Limits) (key : String) : Except Fault Unit :=
  if limits.allowsSlot key then .ok () else .error (.misshapen [] (.slotNotAllowed key))

/-- The members of the limits in a JSON object; a missing vocabulary is left out. -/
def members (limits : Limits) : List (String × Option Json) :=
  [("maxDepth", some (.word limits.maxDepth)), ("maxParallelRoutes", some (.word limits.maxSlots)),
    ("maxSegmentLen", some (.word limits.maxSegmentBytes)),
    ("allowedSlots", limits.allowedSlots.map fun keys => .array (keys.keys.map .string))]

/-- The limits as a JSON object. -/
def toJson (limits : Limits) : Json := .ofMembers (Json.present limits.members)

end Limits

end RouteSync
