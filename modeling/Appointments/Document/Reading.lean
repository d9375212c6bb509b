-- Reading records out of documents. A record is read field by field, and
-- every fault is reported, in the order of the fields, with its path.
import Appointments.Number.Integer
import Appointments.Document.Value
namespace Appointments

/-! ## Issues -/

/-- One step of a path into a document. -/
inductive PathStep
  | field (name : String)
  | index (i : Nat)
deriving DecidableEq, Repr

/-- What is wrong with a value. -/
inductive IssueKind
  | missing
  | notText
  | textTooShort
  | textTooLong
  | notInteger
  | badInteger
  | integerTooLong
  | fraction
  | notFinite
  | belowMinimum
  | aboveMaximum
  | notBool
  | badBool
  | notList
  | notObject
  | notRecord
  | unknownChoice
  | notInstant
  | badInstant
  | badTimestamp
  /-- A rule of the record's own is broken. -/
  | rule (message : String)
deriving DecidableEq, Repr

structure Issue where
  path : List PathStep
  kind : IssueKind
deriving DecidableEq, Repr

/-! ## The outcome of reading -/

/-- A value read, the issues found, or an instant outside the calendar,
which ends the reading at once. -/
inductive Reading (α : Type)
  | ok (a : α)
  | issues (found : List Issue)
  | outOfRange
deriving DecidableEq, Repr

namespace Reading

/-- A value at which one thing is wrong. -/
def fail (kind : IssueKind) : Reading α := .issues [⟨[], kind⟩]

/-- What was found, or an issue where nothing was. -/
def ofOption (kind : IssueKind) : Option α → Reading α
  | some a => .ok a
  | none => fail kind

def map (f : α → β) : Reading α → Reading β
  | .ok a => .ok (f a)
  | .issues found => .issues found
  | .outOfRange => .outOfRange

/-- Both parts are read, and the issues of both are kept. -/
def seq (f : Reading (α → β)) (x : Unit → Reading α) : Reading β :=
  match f, x () with
  | .outOfRange, _ => .outOfRange
  | _, .outOfRange => .outOfRange
  | .ok f, .ok a => .ok (f a)
  | .ok _, .issues b => .issues b
  | .issues a, .ok _ => .issues a
  | .issues a, .issues b => .issues (a ++ b)

instance : Applicative Reading where
  pure := .ok
  map := Reading.map
  seq := Reading.seq

/-- A further check, made only where all went well so far. -/
def check (x : Reading α) (f : α → Reading β) : Reading β :=
  match x with
  | .ok a => f a
  | .issues found => .issues found
  | .outOfRange => .outOfRange

/-- The same outcome, with its issues one step deeper. -/
def under (step : PathStep) : Reading α → Reading α
  | .ok a => .ok a
  | .issues found => .issues (found.map fun i => { i with path := step :: i.path })
  | .outOfRange => .outOfRange

/-- The value read, if all went well. -/
def toOption : Reading α → Option α
  | .ok a => some a
  | _ => none

end Reading

/-! ## Plain values -/

namespace Value

def readText : Value → Reading String
  | .text s => .ok s
  | _ => .fail .notText

/-- Text of at most `limit` characters. -/
def readTextUpTo (limit : Nat) (v : Value) : Reading String :=
  v.readText.check fun s => if limit < s.length then .fail .textTooLong else .ok s

/-- Text of at least one character. -/
def readSomeText (v : Value) : Reading String :=
  v.readText.check fun s => if s.isEmpty then .fail .textTooShort else .ok s

/-- The whole number that a fractional number is, if it lies strictly between
the bounds of a machine word. -/
def wordOfFloat (x : Binary64) : Except IssueKind Int :=
  match x.toInt? with
  | some n =>
    if -Integer.wordBound < n ∧ n < Integer.wordBound then .ok n else .error .integerTooLong
  | none => if x.isFinite then .error .fraction else .error .notFinite

/-- An integer: a whole number in any spelling, or a truth value as one or
zero. -/
def readInt : Value → Reading Int
  | .int n => .ok n
  | .bool b => .ok (if b then 1 else 0)
  | .float x =>
    match wordOfFloat x with
    | .ok n => .ok n
    | .error kind => .fail kind
  | .text s =>
    match Integer.ofField s with
    | .ok n => .ok n
    | .error .tooLong => .fail .integerTooLong
    | .error .malformed => .fail .badInteger
  | .null | .list _ | .object _ => .fail .notInteger

/-- An integer within bounds, where they are given. -/
def readIntWithin (least greatest : Option Int) (v : Value) : Reading Int :=
  v.readInt.check fun n =>
    if least.any (n < ·) then .fail .belowMinimum
    else if greatest.any (· < n) then .fail .aboveMaximum
    else .ok n

/-- The words for a truth value, in any case of letters. -/
def ofBoolWord? (s : String) : Option Bool :=
  let w := s.toLower
  if w ∈ ["true", "t", "yes", "y", "on", "1"] then some true
  else if w ∈ ["false", "f", "no", "n", "off", "0"] then some false
  else none

/-- A truth value as one or zero. -/
def boolOfInt (n : Int) : Reading Bool :=
  if n = 1 then .ok true else if n = 0 then .ok false else .fail .badBool

/-- A truth value, also as one or zero, or as a word for it. A number that is
not whole, or too great for a machine word, is no candidate at all. -/
def readBool : Value → Reading Bool
  | .bool b => .ok b
  | .int n => if Integer.fitsWord n then boolOfInt n else .fail .notBool
  | .float x =>
    match wordOfFloat x with
    | .ok n => boolOfInt n
    | .error _ => .fail .notBool
  | .text s =>
    match ofBoolWord? s with
    | some b => .ok b
    | none => .fail .badBool
  | .null | .list _ | .object _ => .fail .notBool

/-- Any object, as it is. -/
def readFields : Value → Reading (List (String × Value))
  | .object fields => .ok fields
  | _ => .fail .notObject

/-- One of a few words, spelled exactly. -/
def readChoice (ofWord? : String → Option α) : Value → Reading α
  | .text s =>
    match ofWord? s with
    | some a => .ok a
    | none => .fail .unknownChoice
  | _ => .fail .unknownChoice

/-- Null for nothing, or a value. -/
def readOption (read : Value → Reading α) : Value → Reading (Option α)
  | .null => .ok none
  | v => (read v).map some

/-- The items of a list, each read in turn, from the given position on. -/
def readItems (read : Value → Reading α) (i : Nat) : List Value → Reading (List α)
  | [] => .ok []
  | v :: vs => List.cons <$> (read v).under (.index i) <*> readItems read (i + 1) vs

/-- A list whose items are read in turn. -/
def readList (read : Value → Reading α) : Value → Reading (List α)
  | .list items => readItems read 0 items
  | _ => .fail .notList

end Value

/-! ## Fields of a record -/

/-- The name of a field in documents, and a second name that is taken too. -/
structure FieldName where
  document : String
  plain : String
deriving DecidableEq, Repr

namespace FieldName

/-- A field with one name. -/
def same (name : String) : FieldName := ⟨name, name⟩

/-- The field under the name that it is given by. The document's name comes
first. -/
def find? (f : FieldName) (fields : List (String × Value)) : Option (String × Value) :=
  match fields.lookup f.document with
  | some v => some (f.document, v)
  | none => (fields.lookup f.plain).map (f.plain, ·)

/-- A field that has to be there. -/
def required (f : FieldName) (read : Value → Reading α) (fields : List (String × Value)) :
    Reading α :=
  match f.find? fields with
  | some (name, v) => (read v).under (.field name)
  | none => (Reading.fail .missing).under (.field f.document)

/-- A field that may be left out. -/
def withDefault (f : FieldName) (a : α) (read : Value → Reading α)
    (fields : List (String × Value)) : Reading α :=
  match f.find? fields with
  | some (name, v) => (read v).under (.field name)
  | none => .ok a

end FieldName

/-- A record is read from the fields of an object. -/
def Value.readRecord (read : List (String × Value) → Reading α) : Value → Reading α
  | .object fields => read fields
  | _ => .fail .notRecord

end Appointments
