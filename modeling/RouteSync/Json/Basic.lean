import RouteSync.Dict
import RouteSync.Json.Number

/-!
# JSON values

The members of an object have distinct names and keep their order, which is part of the value but
not of its meaning: `Json.same` is equality without regard to the order of members. `Json.nesting`
counts the arrays and objects around the innermost value.
-/

namespace RouteSync

/-- A JSON value. -/
inductive Json where
  | null
  | bool (b : Bool)
  | number (n : Json.Number)
  | string (s : String)
  | array (items : List Json)
  | object (members : Dict Json)

namespace Json

instance : Inhabited Json := ⟨null⟩

/-- The kinds of JSON values. -/
inductive Kind where
  | null
  | boolean
  | number
  | string
  | array
  | object
  deriving DecidableEq

/-- The name of a kind in messages. -/
def Kind.name : Kind → String
  | .null => "null"
  | .boolean => "boolean"
  | .number => "number"
  | .string => "string"
  | .array => "array"
  | .object => "object"

/-- The kind of a value. -/
def kind : Json → Kind
  | null => .null
  | bool _ => .boolean
  | number _ => .number
  | string _ => .string
  | array _ => .array
  | object _ => .object

mutual

/-- What holds of an array when it holds of its items, of an object when it holds of its members,
and of all that has no parts, holds of every value. -/
theorem induction {P : Json → Prop} (atom : ∀ v, v.kind ≠ .array → v.kind ≠ .object → P v)
    (array : ∀ items : List Json, (∀ v ∈ items, P v) → P (.array items))
    (object : ∀ members : Dict Json, (∀ key h, P (members.value key h)) → P (.object members)) :
    ∀ v, P v
  | .null => atom _ nofun nofun
  | .bool _ => atom _ nofun nofun
  | .number _ => atom _ nofun nofun
  | .string _ => atom _ nofun nofun
  | .array items => array items (inductionItems atom array object items)
  | .object ⟨_, _, value⟩ => object _ fun key h => induction atom array object (value key h)
termination_by structural v => v

private theorem inductionItems {P : Json → Prop}
    (atom : ∀ v, v.kind ≠ .array → v.kind ≠ .object → P v)
    (array : ∀ items : List Json, (∀ v ∈ items, P v) → P (.array items))
    (object : ∀ members : Dict Json, (∀ key h, P (members.value key h)) → P (.object members)) :
    ∀ items : List Json, ∀ v ∈ items, P v
  | [] => nofun
  | first :: rest => List.forall_mem_cons.2
      ⟨induction atom array object first, inductionItems atom array object rest⟩
termination_by structural items => items

end

theorem kind_ne_string_iff (v : Json) : v.kind ≠ .string ↔ ∀ text, v ≠ string text := by
  cases v <;> simp [kind]

theorem kind_eq_string_iff (v : Json) : v.kind = .string ↔ ∃ text, v = string text := by
  cases v <;> simp [kind]

/-- The number of a 64-bit word. -/
def word (n : UInt64) : Json := number (.ofWord n)

/-- An object with the given members. -/
def ofMembers (members : List (String × Json)) : Json := object (.ofList members)

/-- The members that have a value; the others are left out. -/
def present (members : List (String × Option Json)) : List (String × Json) :=
  members.filterMap fun (name, v) => v.map (name, ·)

mutual

/-- Equality of values, objects being equal when they have equal values under the same names. -/
def same : Json → Json → Bool
  | null, null => true
  | bool a, bool b => a == b
  | number a, number b => a.same b
  | string a, string b => a == b
  | array xs, array ys => sameItems xs ys
  | object ⟨names, _, value⟩, object other =>
    names.length == other.size &&
      names.attach.all fun name =>
        if h : name.1 ∈ other.keys then (value name.1 name.2).same (other.value name.1 h) else false
  | _, _ => false

/-- Item by item, lists of equal length. -/
def sameItems : List Json → List Json → Bool
  | [], [] => true
  | x :: xs, y :: ys => x.same y && sameItems xs ys
  | _, _ => false

end

@[simp] theorem same_null : null.same null = true := rfl

@[simp] theorem same_null_string (a : String) : null.same (string a) = false := rfl

@[simp] theorem same_string_null (a : String) : (string a).same null = false := rfl

@[simp] theorem same_bool (a b : Bool) : (bool a).same (bool b) = (a == b) := rfl

@[simp] theorem same_string (a b : String) : (string a).same (string b) = (a == b) := rfl

@[simp] theorem same_array (xs ys : List Json) : (array xs).same (array ys) = sameItems xs ys := rfl

@[simp] theorem sameItems_nil : sameItems [] [] = true := rfl

@[simp] theorem sameItems_cons (x y : Json) (xs ys : List Json) :
    sameItems (x :: xs) (y :: ys) = (x.same y && sameItems xs ys) := rfl

mutual

/-- The greatest number of arrays and objects that enclose a point of the value, itself included. -/
def nesting : Json → Nat
  | array items => nestingItems items + 1
  | object ⟨names, _, value⟩ =>
    ((names.attach.map fun name => (value name.1 name.2).nesting).foldl max 0) + 1
  | _ => 0

/-- The greatest nesting in a list of values. -/
def nestingItems : List Json → Nat
  | [] => 0
  | x :: xs => max x.nesting (nestingItems xs)

end

end Json

end RouteSync
