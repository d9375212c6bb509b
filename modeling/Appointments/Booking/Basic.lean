-- A booking of a client with a provider: its record, the documents it is
-- read from and written to, and changes to single fields.
import Appointments.Blackout
import Appointments.Booking.Status
import Appointments.Party
namespace Appointments

structure Booking where
  id : String
  request : String
  response : String
  provider : String
  client : String
  start : Instant
  minutes : Int
  status : Status
  cancelledAt : Option Instant
  cancelledBy : Option Role
  cancelReason : Option String
  rescheduledFrom : Option String
  rescheduledTo : Option String
  rescheduledAt : Option Instant
  rescheduleReason : Option String
  metadata : List (String × Value)
deriving DecidableEq

namespace Booking

/-! ## What follows from the record -/

/-- The end: the start and the duration. -/
def stop (b : Booking) : Except CalendarFault Instant := do
  b.start.after (← Span.ofMinutes b.minutes)

def interval (b : Booking) : Except CalendarFault Interval := Interval.mk b.start <$> b.stop

/-- A link to another booking. Empty text is no link. -/
def link? (id : Option String) : Option String := id.filter fun s => !s.isEmpty

/-- The booking that this one replaces. -/
def predecessor? (b : Booking) : Option String := link? b.rescheduledFrom

/-- The booking that replaces this one. -/
def successor? (b : Booking) : Option String := link? b.rescheduledTo

/-- How a booking came to be cancelled. -/
inductive Cancellation
  | standalone
  | superseded
deriving DecidableEq, Repr

def Cancellation.word : Cancellation → String
  | .standalone => "standalone"
  | .superseded => "superseded"

/-- A cancelled booking with a successor is superseded. -/
def cancellation? (b : Booking) : Option Cancellation :=
  match b.status, b.successor? with
  | .cancelled, some _ => some .superseded
  | .cancelled, none => some .standalone
  | _, _ => none

/-- Order by start, then by id. -/
def notAfter (a b : Booking) : Bool := a.start < b.start || (a.start = b.start && a.id ≤ b.id)

/-! ## Documents -/

def idField : FieldName := .same "id"

def requestField : FieldName := ⟨"requestId", "request_id"⟩

def responseField : FieldName := ⟨"responseId", "response_id"⟩

def providerField : FieldName := ⟨"providerUserId", "provider_user_id"⟩

def clientField : FieldName := ⟨"clientId", "client_id"⟩

def startField : FieldName := ⟨"startAt", "start_at"⟩

def minutesField : FieldName := ⟨"durationMin", "duration_min"⟩

def statusField : FieldName := .same "status"

def cancelledAtField : FieldName := ⟨"cancelledAt", "cancelled_at"⟩

def cancelledByField : FieldName := ⟨"cancelledBy", "cancelled_by"⟩

def cancelReasonField : FieldName := ⟨"cancelReason", "cancel_reason"⟩

def rescheduledFromField : FieldName := ⟨"rescheduledFromId", "rescheduled_from_id"⟩

def rescheduledToField : FieldName := ⟨"rescheduledToId", "rescheduled_to_id"⟩

def rescheduledAtField : FieldName := ⟨"rescheduledAt", "rescheduled_at"⟩

def rescheduleReasonField : FieldName := ⟨"rescheduleReason", "reschedule_reason"⟩

def metadataField : FieldName := .same "metadata"

/-- The end of a booking is written to its document but never read. -/
def stopField : FieldName := ⟨"endAt", "end_at"⟩

/-- A reason or a note has at most this many characters. -/
def maxReasonLength : Nat := 300

def readReason : Value → Reading (Option String) :=
  Value.readOption (Value.readTextUpTo maxReasonLength)

def read (v : Value) : Reading Booking :=
  v.readRecord fun fields =>
    Booking.mk
      <$> idField.required Value.readText fields
      <*> requestField.required Value.readText fields
      <*> responseField.required Value.readText fields
      <*> providerField.required Value.readText fields
      <*> clientField.required Value.readText fields
      <*> startField.required Instant.read fields
      <*> minutesField.required (Value.readIntWithin (some 1) none) fields
      <*> statusField.withDefault .confirmed Status.read fields
      <*> cancelledAtField.withDefault none (Value.readOption Instant.read) fields
      <*> cancelledByField.withDefault none (Value.readOption Role.read) fields
      <*> cancelReasonField.withDefault none readReason fields
      <*> rescheduledFromField.withDefault none (Value.readOption Value.readText) fields
      <*> rescheduledToField.withDefault none (Value.readOption Value.readText) fields
      <*> rescheduledAtField.withDefault none (Value.readOption Instant.read) fields
      <*> rescheduleReasonField.withDefault none readReason fields
      <*> metadataField.withDefault [] Value.readFields fields

/-- The fields of the record itself. -/
def fields (b : Booking) : List (String × Value) :=
  let instant (t : Instant) : Value := .text t.document
  [(idField.document, .text b.id), (requestField.document, .text b.request),
    (responseField.document, .text b.response), (providerField.document, .text b.provider),
    (clientField.document, .text b.client), (startField.document, instant b.start),
    (minutesField.document, .int b.minutes), (statusField.document, .text b.status.word),
    (cancelledAtField.document, Value.ofOption instant b.cancelledAt),
    (cancelledByField.document, Value.ofOption (fun r : Role => .text r.word) b.cancelledBy),
    (cancelReasonField.document, Value.ofOption .text b.cancelReason),
    (rescheduledFromField.document, Value.ofOption .text b.rescheduledFrom),
    (rescheduledToField.document, Value.ofOption .text b.rescheduledTo),
    (rescheduledAtField.document, Value.ofOption instant b.rescheduledAt),
    (rescheduleReasonField.document, Value.ofOption .text b.rescheduleReason),
    (metadataField.document, (Value.object b.metadata).finite)]

/-- Why a booking has no document: its metadata is too deep, or its end is
outside the calendar. -/
inductive DocumentFault
  | tooDeep
  | calendar (fault : CalendarFault)
deriving DecidableEq, Repr

/-- The document, which has the end as well. Metadata that is too deep is
noticed first. -/
def document (b : Booking) : Except DocumentFault Value := do
  if Value.maxLevels < Value.fieldLevels b.metadata then
    throw .tooDeep
  let stop ← b.stop.mapError .calendar
  return .object (b.fields ++ [(stopField.document, .text stop.document)])

/-! ## Changes -/

/-- A new value for one field. -/
inductive Change
  /-- Another id. -/
  | rename (s : String)
  | request (s : String)
  | response (s : String)
  | provider (s : String)
  | client (s : String)
  | start (t : Instant)
  | minutes (n : Int)
  | status (s : Status)
  | cancelledAt (t : Option Instant)
  | cancelledBy (r : Option Role)
  | cancelReason (s : Option String)
  | rescheduledFrom (id : Option String)
  | rescheduledTo (id : Option String)
  | rescheduledAt (t : Option Instant)
  | rescheduleReason (s : Option String)
  | metadata (fields : List (String × Value))
deriving DecidableEq

def Change.apply (b : Booking) : Change → Booking
  | .rename s => { b with id := s }
  | .request s => { b with request := s }
  | .response s => { b with response := s }
  | .provider s => { b with provider := s }
  | .client s => { b with client := s }
  | .start t => { b with start := t }
  | .minutes n => { b with minutes := n }
  | .status s => { b with status := s }
  | .cancelledAt t => { b with cancelledAt := t }
  | .cancelledBy r => { b with cancelledBy := r }
  | .cancelReason s => { b with cancelReason := s }
  | .rescheduledFrom id => { b with rescheduledFrom := id }
  | .rescheduledTo id => { b with rescheduledTo := id }
  | .rescheduledAt t => { b with rescheduledAt := t }
  | .rescheduleReason s => { b with rescheduleReason := s }
  | .metadata fields => { b with metadata := fields }

/-- The booking after some changes, the first one first. -/
def change (b : Booking) (changes : List Change) : Booking := changes.foldl Change.apply b

/-- The change gives the booking another id. -/
def Change.renames : Change → Bool
  | .rename _ => true
  | _ => false

theorem change_id {b : Booking} {changes : List Change} (h : ∀ c ∈ changes, c.renames = false) :
    (b.change changes).id = b.id := by
  unfold change
  induction changes generalizing b with
  | nil => rfl
  | cons c cs ih =>
    rw [List.foldl_cons, ih fun x hx => h x (List.mem_cons_of_mem _ hx)]
    have hc := h c (List.mem_cons_self ..)
    cases c with
    | rename s => simp [Change.renames] at hc
    | _ => rfl

end Booking
end Appointments
