-- Blackouts: periods in which a provider is not available.
import Appointments.Interval
import Appointments.Time.Stamp
import Appointments.Time.Timestamp
import Appointments.Document.Reading
namespace Appointments

/-! ## Instants in documents -/

/-- The instant of a document: date and time as text, or a timestamp. -/
def Instant.read : Value → Reading Instant
  | .text s =>
    match Stamp.ofDocument? s with
    | none => .ofOption .badInstant (Timestamp.ofText? s)
    | some stamp =>
      match stamp.toInstant with
      | .ok t => .ok t
      | .error _ => .outOfRange
  | .int n => .ofOption .badTimestamp (Timestamp.toInstant? n 0)
  | .float x => .ofOption .badTimestamp (Timestamp.ofFloat? x)
  | .null | .bool _ | .list _ | .object _ => .fail .notInstant

/-! ## Blackouts -/

structure Blackout where
  id : String
  provider : String
  start : Instant
  stop : Instant
  reason : Option String
  isActive : Bool
  start_lt : start < stop
deriving DecidableEq

namespace Blackout

def idField : FieldName := .same "id"

def providerField : FieldName := ⟨"providerUserId", "provider_user_id"⟩

def startField : FieldName := ⟨"startAt", "start_at"⟩

def stopField : FieldName := ⟨"endAt", "end_at"⟩

def reasonField : FieldName := .same "reason"

def isActiveField : FieldName := ⟨"isActive", "is_active"⟩

/-- A reason has at most this many characters. -/
def maxReasonLength : Nat := 200

/-- A blackout that ends after it starts. -/
def make (id provider : String) (start stop : Instant) (reason : Option String)
    (isActive : Bool) : Reading Blackout :=
  if h : start < stop then .ok ⟨id, provider, start, stop, reason, isActive, h⟩
  else .fail (.rule "endAt must be after startAt")

def read (v : Value) : Reading Blackout :=
  (v.readRecord fun fields =>
    (fun id provider start stop reason isActive => (id, provider, start, stop, reason, isActive))
      <$> idField.required Value.readText fields
      <*> providerField.required Value.readText fields
      <*> startField.required Instant.read fields
      <*> stopField.required Instant.read fields
      <*> reasonField.withDefault none
        (Value.readOption (Value.readTextUpTo maxReasonLength)) fields
      <*> isActiveField.withDefault true Value.readBool fields).check
    fun (id, provider, start, stop, reason, isActive) =>
      make id provider start stop reason isActive

def document (b : Blackout) : Value :=
  .object [(idField.document, .text b.id), (providerField.document, .text b.provider),
    (startField.document, .text b.start.document), (stopField.document, .text b.stop.document),
    (reasonField.document, Value.ofOption .text b.reason),
    (isActiveField.document, .bool b.isActive)]

def interval (b : Blackout) : Interval := ⟨b.start, b.stop⟩

/-- The length in microseconds. -/
def length (b : Blackout) : Int := b.start.microsTo b.stop

/-- Order by start, then by end, then by id. -/
def notAfter (a b : Blackout) : Bool :=
  a.start < b.start || (a.start = b.start &&
    (a.stop < b.stop || (a.stop = b.stop && a.id ≤ b.id)))

end Blackout

/-! ## Slots in documents -/

namespace Interval

/-- The interval of a slot's document. -/
def read (v : Value) : Reading Interval :=
  v.readRecord fun fields =>
    Interval.mk <$> Blackout.startField.required Instant.read fields
      <*> Blackout.stopField.required Instant.read fields

def document (a : Interval) : Value :=
  .object [(Blackout.startField.document, .text a.start.document),
    (Blackout.stopField.document, .text a.stop.document)]

/-- The length in seconds, to the nearest value that floating point has. -/
def seconds (a : Interval) : Binary64 :=
  let n := a.start.microsTo a.stop
  Binary64.ofDecimal (n < 0) n.natAbs (-6)

/-- The whole minutes of the length in seconds, rounded down. -/
def minutes (a : Interval) : Int := a.seconds.floorDiv 60

end Interval
end Appointments
