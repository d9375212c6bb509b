-- Values of documents: what a caller hands in and what is stored. A whole
-- number and a number with a fractional part are told apart, and an object
-- keeps the order of its fields.
import Appointments.Number.Binary64
import Appointments.Text.Quoted
namespace Appointments

inductive Value
  | null
  | bool (b : Bool)
  | int (n : Int)
  | float (x : Binary64)
  | text (s : String)
  | list (items : List Value)
  | object (fields : List (String × Value))
deriving Inhabited

namespace Value

/-! ## Equality -/

mutual

/-- Equality of values is decided part by part. -/
protected def decEq : (a b : Value) → Decidable (a = b)
  | .null, b => by cases b <;> first | exact isTrue rfl | exact isFalse nofun
  | .bool x, b => by
    cases b
    case bool y => exact decidable_of_iff (x = y) (by simp)
    all_goals exact isFalse nofun
  | .int x, b => by
    cases b
    case int y => exact decidable_of_iff (x = y) (by simp)
    all_goals exact isFalse nofun
  | .float x, b => by
    cases b
    case float y => exact decidable_of_iff (x = y) (by simp)
    all_goals exact isFalse nofun
  | .text x, b => by
    cases b
    case text y => exact decidable_of_iff (x = y) (by simp)
    all_goals exact isFalse nofun
  | .list x, b =>
    match b with
    | .list y =>
      have := Value.decEqItems x y
      decidable_of_iff (x = y) (by simp)
    | .null | .bool _ | .int _ | .float _ | .text _ | .object _ => isFalse nofun
  | .object x, b =>
    match b with
    | .object y =>
      have := Value.decEqFields x y
      decidable_of_iff (x = y) (by simp)
    | .null | .bool _ | .int _ | .float _ | .text _ | .list _ => isFalse nofun

/-- Equality of the items of two lists. -/
protected def decEqItems : (a b : List Value) → Decidable (a = b)
  | [], [] => isTrue rfl
  | [], _ :: _ => isFalse nofun
  | _ :: _, [] => isFalse nofun
  | x :: xs, y :: ys =>
    have := Value.decEq x y
    have := Value.decEqItems xs ys
    decidable_of_iff (x = y ∧ xs = ys) (by simp)

/-- Equality of the fields of two objects, in order. -/
protected def decEqFields : (a b : List (String × Value)) → Decidable (a = b)
  | [], [] => isTrue rfl
  | [], _ :: _ => isFalse nofun
  | _ :: _, [] => isFalse nofun
  | (k, x) :: xs, (l, y) :: ys =>
    have := Value.decEq x y
    have := Value.decEqFields xs ys
    decidable_of_iff (k = l ∧ x = y ∧ xs = ys) (by simp [and_assoc])

end

instance : DecidableEq Value := Value.decEq

/-! ## Views -/

/-- The field of an object with the given name. -/
def get? (v : Value) (name : String) : Option Value :=
  match v with
  | .object fields => fields.lookup name
  | _ => none

/-- The text of a nullable field: null stands for nothing. -/
def ofOption (f : α → Value) : Option α → Value
  | none => .null
  | some a => f a

/-- What counts as given: null, false, zero, and empty text, lists and
objects count as nothing. -/
def isGiven : Value → Bool
  | .null => false
  | .bool b => b
  | .int n => n ≠ 0
  | .float (.finite _ m _) => m ≠ 0
  | .float (.infinite _) | .float .undefined => true
  | .text s => !s.isEmpty
  | .list items => !items.isEmpty
  | .object fields => !fields.isEmpty

/-! ## Finite values -/

mutual

/-- The value with null in place of numbers that are not finite, which have
no form in documents. -/
def finite : Value → Value
  | .float x => if x.isFinite then .float x else .null
  | .list items => .list (finiteItems items)
  | .object fields => .object (finiteFields fields)
  | v => v

/-- The items of a list in finite form. -/
def finiteItems : List Value → List Value
  | [] => []
  | v :: vs => finite v :: finiteItems vs

/-- The fields of an object in finite form. -/
def finiteFields : List (String × Value) → List (String × Value)
  | [] => []
  | (k, v) :: rest => (k, finite v) :: finiteFields rest

end

/-! ## Levels -/

mutual

/-- The levels of a value: one for itself, and those of its deepest part. -/
def levels : Value → Nat
  | .list items => itemLevels items + 1
  | .object fields => fieldLevels fields + 1
  | _ => 1

/-- The levels of the deepest item of a list. -/
def itemLevels : List Value → Nat
  | [] => 0
  | v :: vs => max (levels v) (itemLevels vs)

/-- The levels of the deepest field of an object. -/
def fieldLevels : List (String × Value) → Nat
  | [] => 0
  | (_, v) :: rest => max (levels v) (fieldLevels rest)

end

/-- A field of any value has at most so many levels in a document. -/
def maxLevels : Nat := 255

/-! ## The text of a value -/

mutual

/-- A value as messages show it: text in quotes, lists in brackets and
objects in braces. -/
def shown : Value → String
  | .null => "None"
  | .bool true => "True"
  | .bool false => "False"
  | .int n => toString n
  | .float x => x.text
  | .text s => Text.quoted s
  | .list items => "[" ++ String.intercalate ", " (shownItems items) ++ "]"
  | .object fields => "\x7b" ++ String.intercalate ", " (shownFields fields) ++ "\x7d"

/-- The items of a list as messages show them. -/
def shownItems : List Value → List String
  | [] => []
  | v :: vs => shown v :: shownItems vs

/-- The fields of an object as messages show them. -/
def shownFields : List (String × Value) → List String
  | [] => []
  | (k, v) :: rest => (Text.quoted k ++ ": " ++ shown v) :: shownFields rest

end

/-- A value as an id: text stands for itself, another value for what
messages show of it. -/
def plain : Value → String
  | .text s => s
  | v => shown v

/-- The word for the kind of a value that is used as text but is none. -/
def kindWord : Value → String
  | .null => "NoneType"
  | .bool _ => "bool"
  | .int _ => "int"
  | .float _ => "float"
  | .text _ => "str"
  | .list _ => "list"
  | .object _ => "dict"

end Value
end Appointments
