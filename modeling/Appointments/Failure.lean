-- Why a request fails. Every cause has its own message; five kinds of causes
-- are expected, and the rest come from values that no rule covers.
import Appointments.Booking.Chain
namespace Appointments

/-! ## Causes -/

/-- What is wrong with a request in itself. -/
inductive Rejection
  | missing (field : String)
  | badInstant (field : String)
  | instantForDay (field : String)
  | badDay (field : String)
  | noSuchDay (field : String)
  | textTooLong (limit : Int)
  | noTimeZone
  | unknownTimeZone (name : String)
  | unknownTemplateField (key : String)
  | badTemplate (issues : List Issue)
  | stopNotAfterStart
  | blackoutTooLong (days : Int)
  | daysReversed
  | tooManyDays (limit : Int)
  | startNotInFuture
  | badDuration
  | durationOutside (least greatest : Int)
  | alreadyStarted (event : Event)
  | noticeTooShort (event : Event) (hours : Int)
  | notEnded
deriving DecidableEq, Repr

def Rejection.message : Rejection → String
  | .missing field => field ++ " is required"
  | .badInstant field => field ++ " must be a valid ISO date"
  | .instantForDay field => field ++ " must be a calendar day, not an instant"
  | .badDay field => field ++ " must be YYYY-MM-DD"
  | .noSuchDay field => field ++ " is not a valid day"
  | .textTooLong limit => "Text must be at most " ++ toString limit ++ " characters"
  | .noTimeZone => "Invalid time zone"
  | .unknownTimeZone name => "Invalid time zone " ++ Text.quoted name
  | .unknownTemplateField key => "Unknown availability field: " ++ key
  | .badTemplate _ => "Invalid availability"
  | .stopNotAfterStart => "endAt must be after startAt"
  | .blackoutTooLong days => "Blackout too long (max " ++ toString days ++ " days)"
  | .daysReversed => "to must be >= from"
  | .tooManyDays limit => "Date range is too large (max " ++ toString limit ++ " days)"
  | .startNotInFuture => "startAt must be in the future"
  | .badDuration => "durationMin is invalid"
  | .durationOutside least greatest =>
    "durationMin must be between " ++ toString least ++ " and " ++ toString greatest
  | .alreadyStarted event => "Cannot " ++ event.word ++ " started booking"
  | .noticeTooShort event hours =>
    "Cannot " ++ event.word ++ " less than " ++ toString hours ++ "h before start"
  | .notEnded => "Cannot complete before end time"

/-- What a request names and what is not there. -/
inductive Missing
  | booking
  | blackout
deriving DecidableEq, Repr

def Missing.message : Missing → String
  | .booking => "Booking not found"
  | .blackout => "Blackout not found"

/-- What a request collides with. -/
inductive Conflict
  | notAllowed (event : Event) (status : Status)
  | statusChanged
  | noLongerConfirmed
  | slotTaken
  | overlap
  | bookingExists (id : String)
  | blackoutExists (id : String)
  | alreadyRescheduled (id : String)
  | blackoutOverlap
deriving DecidableEq, Repr

def Conflict.message : Conflict → String
  | .notAllowed event status => "Cannot " ++ event.word ++ " a booking that is " ++ status.word
  | .statusChanged => "Booking state changed; try again"
  | .noLongerConfirmed => "Booking is no longer confirmed"
  | .slotTaken => "Slot is not available"
  | .overlap => "Slot is not available (overlaps another booking)"
  | .bookingExists id => "Booking " ++ id ++ " already exists"
  | .blackoutExists id => "Blackout " ++ id ++ " already exists"
  | .alreadyRescheduled id => "Booking " ++ id ++ " was already rescheduled"
  | .blackoutOverlap => "Blackout overlaps an existing blackout"

/-- What is wrong with a chain of bookings: its links, or that writes to it
could not be taken back. -/
inductive Corruption
  | links (fault : LinkFault)
  | notRolledBack (ids : List String)
deriving DecidableEq, Repr

def Corruption.message : Corruption → String
  | .links fault => fault.message
  | .notRolledBack ids =>
    "Could not roll back booking(s) " ++ String.intercalate ", " ids ++
      "; chain may be inconsistent"

/-! ## Failures -/

inductive Failure
  | rejected (why : Rejection)
  | denied
  | missing (what : Missing)
  | conflict (why : Conflict)
  | corrupted (why : Corruption)
  /-- A record that does not follow its rules. -/
  | malformed (issues : List Issue)
  /-- An instant or a day outside the calendar. -/
  | calendar (fault : CalendarFault)
  /-- Metadata with too many levels for a document. -/
  | tooDeep
  /-- A value that stands where text belongs. -/
  | notText (given : Value)
  /-- Anything else that ends a request. -/
  | aborted (reason : String)
deriving DecidableEq

namespace Failure

/-- The kinds of failures that callers are to expect. -/
inductive Kind
  | validation
  | forbidden
  | notFound
  | conflict
  | chainCorruption
deriving DecidableEq, Repr

def Kind.code : Kind → String
  | .validation => "validation"
  | .forbidden => "forbidden"
  | .notFound => "not_found"
  | .conflict => "conflict"
  | .chainCorruption => "chain_corruption"

/-- The kind of a failure that callers are to expect. -/
def kind? : Failure → Option Kind
  | .rejected _ => some .validation
  | .denied => some .forbidden
  | .missing _ => some .notFound
  | .conflict _ => some .conflict
  | .corrupted _ => some .chainCorruption
  | .malformed _ | .calendar _ | .tooDeep | .notText _ | .aborted _ => none

def message : Failure → String
  | .rejected why => why.message
  | .denied => "Access denied"
  | .missing what => what.message
  | .conflict why => why.message
  | .corrupted why => why.message
  | .malformed issues => "Malformed record (" ++ toString issues.length ++ " issues)"
  | .calendar fault => fault.message
  | .tooDeep => "Circular reference detected (depth exceeded)"
  | .notText given => "'" ++ given.kindWord ++ "' object has no attribute 'strip'"
  | .aborted reason => reason

/-- The details of a failure that comes from reading a record. -/
def issues? : Failure → Option (List Issue)
  | .rejected (.badTemplate issues) => some issues
  | .malformed issues => some issues
  | _ => none

end Failure

/-! ## Outcomes as failures -/

/-- A calendar fault ends a request. -/
def CalendarFault.orFail (x : Except CalendarFault α) : Except Failure α := x.mapError .calendar

/-- A booking without a document ends a request. -/
def Booking.DocumentFault.orFail (x : Except DocumentFault α) : Except Failure α :=
  x.mapError fun
    | .tooDeep => .tooDeep
    | .calendar fault => .calendar fault

/-- A record that does not follow its rules ends a request. -/
def Reading.orFail : Reading α → Except Failure α
  | .ok a => .ok a
  | .issues found => .error (.malformed found)
  | .outOfRange => .error (.calendar .outOfRange)

end Appointments
