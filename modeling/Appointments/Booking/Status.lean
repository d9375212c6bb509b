-- The status of a booking and the events that move it. A booking starts
-- confirmed and moves at most once.
import Appointments.Document.Reading
namespace Appointments

inductive Status
  | confirmed
  | cancelled
  | completed
deriving DecidableEq, Repr

namespace Status

def word : Status → String
  | confirmed => "confirmed"
  | cancelled => "cancelled"
  | completed => "completed"

def all : List Status := [confirmed, cancelled, completed]

def ofWord? (s : String) : Option Status := all.find? (·.word == s)

def read : Value → Reading Status := Value.readChoice ofWord?

/-- No event leads away from this status. -/
def isFinal : Status → Bool
  | confirmed => false
  | cancelled | completed => true

end Status

/-- What may happen to a booking. A booking that is rescheduled is cancelled
in favour of its successor. -/
inductive Event
  | cancel
  | complete
  | reschedule
deriving DecidableEq, Repr

namespace Event

def word : Event → String
  | cancel => "cancel"
  | complete => "complete"
  | reschedule => "reschedule"

def all : List Event := [cancel, complete, reschedule]

def ofWord? (s : String) : Option Event := all.find? (·.word == s)

/-- The status that an event leads to. -/
def outcome : Event → Status
  | cancel | reschedule => .cancelled
  | complete => .completed

/-- The status after an event, which only a confirmed booking allows. -/
def next? (e : Event) : Status → Option Status
  | .confirmed => some e.outcome
  | .cancelled | .completed => none

theorem next?_isSome_iff (e : Event) (s : Status) : (e.next? s).isSome ↔ s = .confirmed := by
  cases s <;> simp [next?]

theorem isFinal_outcome (e : Event) : e.outcome.isFinal = true := by cases e <;> rfl

end Event
end Appointments
