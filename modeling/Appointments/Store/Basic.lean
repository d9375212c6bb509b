-- The store: the templates of providers, their blackouts, and bookings, with
-- the queries that are made of them.
import Appointments.Failure
import Appointments.Shelf
import Appointments.Week
namespace Appointments

/-! ## The store -/

/-- A stored booking. It is kept under the id that it was inserted with, even
where a change gives the booking another id. Each write gives what it stores a
stamp of its own, so that two writes are told apart even where they store
equal bookings. -/
structure Record where
  key : String
  stamp : Nat
  booking : Booking
deriving DecidableEq

structure Store where
  templates : Shelf Template.provider := .empty
  blackouts : Shelf Blackout.id := .empty
  records : Shelf Record.key := .empty
  nextStamp : Nat := 0

namespace Store

/-- All bookings, in the order in which they were inserted. -/
def bookings (s : Store) : List Booking := s.records.items.map (·.booking)

/-- The booking that is kept under an id. -/
def booking? (s : Store) (id : String) : Option Booking := (s.records.get? id).map (·.booking)

/-! ## Blackouts -/

/-- The blackouts of a provider in ascending order. -/
def blackoutsOf (s : Store) (provider : String) : List Blackout :=
  (s.blackouts.items.filter (·.provider == provider)).sortedBy Blackout.notAfter

/-- The active blackouts of a provider that overlap a span of time. -/
def activeBlackouts (s : Store) (provider : String) (start stop : Instant) : List Blackout :=
  (s.blackoutsOf provider).filter fun b => b.isActive && b.start < stop && start < b.stop

/-! ## Bookings -/

/-- A booking of the provider that takes up time before `stop`, unless it is
excluded. -/
def mayOverlap (provider : String) (stop : Instant) (exclude : List String) (b : Booking) : Bool :=
  b.provider == provider && b.status ≠ .cancelled && !exclude.contains b.id && b.start < stop

/-- The bookings of a provider that overlap a span of time, in ascending
order, without those that are cancelled or excluded. -/
def overlapping (s : Store) (provider : String) (start stop : Instant) (exclude : List String) :
    Except CalendarFault (List Booking) := do
  let found ← (s.bookings.filter (mayOverlap provider stop exclude)).mapM fun b => do
    return (b, ← b.stop)
  return ((found.filter (start < ·.2)).map (·.1)).sortedBy Booking.notAfter

/-- The bookings with the request, response, provider and client of the given
one: those that may be in a chain with it. -/
def chainCandidates (s : Store) (b : Booking) : List Booking :=
  s.bookings.filter fun c =>
    c.request == b.request && c.response == b.response && c.provider == b.provider &&
      c.client == b.client

/-! ## Lists of bookings -/

/-- Which bookings to list, and which page of them. -/
structure Query where
  client : Option String := none
  provider : Option String := none
  status : Option Status := none
  first : Option Instant := none
  last : Option Instant := none
  limit : Option Int := none
  offset : Int := 0
deriving DecidableEq, Repr

/-- A booking is listed. The span of starts excludes its end. -/
def Query.selects (q : Query) (b : Booking) : Bool :=
  q.client.all (b.client == ·) && q.provider.all (b.provider == ·) &&
    q.status.all (b.status == ·) && q.first.all (· ≤ b.start) && q.last.all (b.start < ·)

/-- A position in a list of the given length. A negative one counts from the
end, and one outside the list means its end on that side. -/
def position (length : Nat) (i : Int) : Nat :=
  if i < 0 then (i + length).toNat else min i.toNat length

/-- The items from one position up to another one. -/
def page (offset : Int) (limit : Option Int) (items : List α) : List α :=
  let start := position items.length offset
  match limit with
  | none => items.drop start
  | some n => (items.take (position items.length (offset + n))).drop start

/-- The bookings that a query asks for, latest start first. -/
def list (s : Store) (q : Query) : List Booking :=
  page q.offset q.limit ((s.bookings.filter q.selects).sortedBy fun a b => b.notAfter a)

end Store
end Appointments
