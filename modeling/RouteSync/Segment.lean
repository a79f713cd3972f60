/-!
# Segments

One segment of a route: a fixed name, or a parameter of the route with the value it has taken. Two
segments match when they stand for the same part of an address; the kind of a parameter takes no
part in that.
-/

namespace RouteSync

/-- How much of an address a parameter takes: one part, any number of parts, or at least one. -/
inductive ParamKind where
  | single
  | optionalRest
  | rest
  deriving DecidableEq

namespace ParamKind

/-- The short name of a kind in wire form. -/
def code : ParamKind → String
  | single => "d"
  | optionalRest => "oc"
  | rest => "c"

/-- The kind with the given short name. -/
def ofCode? (code : String) : Option ParamKind :=
  if code = "d" then some single
  else if code = "oc" then some optionalRest
  else if code = "c" then some rest
  else none

/-- The long name of a kind. -/
def name : ParamKind → String
  | single => "dynamic"
  | optionalRest => "optional-catchall"
  | rest => "catchall"

/-- Whether a parameter of this kind may take more than one part. -/
def takesRest : ParamKind → Bool
  | single => false
  | optionalRest | rest => true

/-- The place of a kind in the order of kinds. -/
def rank : ParamKind → Nat
  | single => 0
  | optionalRest => 1
  | rest => 2

instance : Ord ParamKind := ⟨fun a b => compare a.rank b.rank⟩

theorem ofCode?_code (kind : ParamKind) : ofCode? kind.code = some kind := by
  cases kind <;> rfl

theorem ofCode?_eq_some_iff (code : String) (kind : ParamKind) :
    ofCode? code = some kind ↔ code = kind.code := by
  constructor
  · intro found
    unfold ofCode? at found
    split at found
    next => cases found; assumption
    split at found
    next => cases found; assumption
    split at found
    next => cases found; assumption
    next => cases found
  · rintro rfl
    exact ofCode?_code kind

end ParamKind

/-- One segment of a route. -/
inductive Segment where
  | fixed (name : String)
  | param (name value : String) (kind : ParamKind)
  deriving DecidableEq

namespace Segment

instance : Inhabited Segment := ⟨fixed ""⟩

/-- The segment of a page, which ends every route that is shown. -/
def page : Segment := fixed "__PAGE__"

/-- Whether the segment is that of a page. -/
def isPage (s : Segment) : Bool := s == page

/-- Whether the segment is a parameter. -/
def isParam : Segment → Bool
  | fixed _ => false
  | param .. => true

/-- The name of a fixed segment. -/
def fixedName? : Segment → Option String
  | fixed name => some name
  | param .. => none

/-- Whether the segment only groups routes: a fixed name in parentheses with something between. -/
def isGroup : Segment → Bool
  | fixed name =>
    2 < name.utf8ByteSize && name.toList.head? == some '(' && name.toList.getLast? == some ')'
  | param .. => false

/-- Whether two segments stand for the same part of an address. -/
def matchesSegment : Segment → Segment → Bool
  | fixed a, fixed b => a == b
  | param a v _, param b w _ => a == b && v == w
  | _, _ => false

theorem matchesSegment_refl (s : Segment) : s.matchesSegment s = true := by
  cases s <;> simp [matchesSegment]

theorem matchesSegment_comm (s t : Segment) : s.matchesSegment t = t.matchesSegment s := by
  cases s <;> cases t <;> simp [matchesSegment, Bool.beq_comm]

theorem matchesSegment_trans {s t u : Segment} (first : s.matchesSegment t = true)
    (second : t.matchesSegment u = true) : s.matchesSegment u = true := by
  cases s <;> cases t <;> cases u <;> simp_all [matchesSegment]

/-- The texts in a segment: its name, and the value of a parameter. -/
def texts : Segment → List String
  | fixed name => [name]
  | param name value _ => [name, value]

/-- The bytes of the longest text in the segment. -/
def byteLength : Segment → Nat
  | fixed name => name.utf8ByteSize
  | param name value _ => max name.utf8ByteSize value.utf8ByteSize

/-- A segment is as long in bytes as its texts are in UTF-8. -/
theorem byteLength_le_iff (s : Segment) (most : Nat) :
    s.byteLength ≤ most ↔ ∀ text ∈ s.texts, text.utf8ByteSize ≤ most := by
  cases s with
  | fixed name => rw [byteLength, texts, List.forall_mem_singleton]
  | param name value kind =>
    rw [byteLength, texts, List.forall_mem_cons, List.forall_mem_singleton, Nat.max_le]

/-- The segment as messages show it. -/
def display : Segment → String
  | fixed name => name
  | param name value kind => "[" ++ name ++ "=" ++ value ++ ":" ++ kind.code ++ "]"

end Segment

end RouteSync
