-- Writes to the store. Each of them succeeds as a whole or leaves the store
-- as it was, and writes of bookings can be undone as long as nobody else has
-- written the same booking since.
import Appointments.Store.Basic
namespace Appointments.Store

/-! ## Templates and blackouts -/

def saveTemplate (s : Store) (t : Template) : Store := { s with templates := s.templates.put t }

/-- Adds a blackout under an id of its own. -/
def addBlackout (s : Store) (b : Blackout) : Except Failure Store :=
  if (s.blackouts.get? b.id).isSome then .error (.conflict (.blackoutExists b.id))
  else .ok { s with blackouts := s.blackouts.put b }

/-- Deletes a blackout of the provider, and says whether there was one. -/
def deleteBlackout (s : Store) (provider id : String) : Bool × Store :=
  match s.blackouts.get? id with
  | none => (false, s)
  | some b =>
    if b.provider = provider then (true, { s with blackouts := s.blackouts.erase id })
    else (false, s)

/-! ## Bookings -/

/-- Stores a booking under a key and a new stamp. -/
def write (s : Store) (key : String) (b : Booking) : Record × Store :=
  let record : Record := ⟨key, s.nextStamp, b⟩
  (record, { s with records := s.records.put record, nextStamp := s.nextStamp + 1 })

@[simp]
theorem booking?_write (s : Store) (key : String) (b : Booking) (id : String) :
    (s.write key b).2.booking? id = if key = id then some b else s.booking? id := by
  unfold write booking?
  rw [Shelf.get?_put]
  split <;> simp_all

/-- The time of a booking is not taken. A cancelled booking takes no time. -/
def checkFree (s : Store) (b : Booking) (exclude : List String) : Except Failure Unit := do
  if b.status ≠ .cancelled then
    let stop ← CalendarFault.orFail b.stop
    let taken ← CalendarFault.orFail (s.overlapping b.provider b.start stop exclude)
    if !taken.isEmpty then
      throw (.conflict .overlap)

/-- No other booking replaces the one that this booking replaces. -/
def checkOnlySuccessor (s : Store) (b : Booking) : Except Failure Unit :=
  match b.predecessor? with
  | none => .ok ()
  | some id =>
    if s.bookings.any (·.rescheduledFrom == some id) then
      .error (.conflict (.alreadyRescheduled id))
    else .ok ()

/-- Inserts a booking under an id of its own, if its time is free and it is
the only successor of its predecessor. -/
def insert (s : Store) (b : Booking) (exclude : List String) : Except Failure (Record × Store) := do
  if (s.records.get? b.id).isSome then
    throw (.conflict (.bookingExists b.id))
  s.checkFree b exclude
  s.checkOnlySuccessor b
  return s.write b.id b

/-- A stored booking before and after a change, under the same key. -/
structure Update where
  before : Record
  after : Record
deriving DecidableEq

/-- Changes a booking that has the expected status. -/
def update (s : Store) (id : String) (expected : Status) (changes : List Booking.Change) :
    Except Failure (Update × Store) :=
  match s.records.get? id with
  | none => .error (.missing .booking)
  | some record =>
    if record.booking.status = expected then
      let (after, s) := s.write record.key (record.booking.change changes)
      .ok (⟨record, after⟩, s)
    else .error (.conflict .statusChanged)

/-! ## Undoing writes of bookings -/

/-- What undoes a write: taking away what was inserted, or putting back what
was changed. -/
inductive Undo
  | remove (inserted : Record)
  | restore (change : Update)
deriving DecidableEq

/-- The record that the write stored. -/
def Undo.written : Undo → Record
  | .remove inserted => inserted
  | .restore change => change.after

/-- The id under which the booking was written. -/
def Undo.key (u : Undo) : String := u.written.key

/-- The store still holds what the write stored, under the id of the booking
itself. A booking that was given another id is not found again. -/
def holds (s : Store) (r : Record) : Bool :=
  (s.records.get? r.booking.id).any (·.stamp == r.stamp)

/-- Undoes a write, if the store still holds what it stored, and says whether
it does. -/
def undo (s : Store) (u : Undo) : Bool × Store :=
  if s.holds u.written then
    match u with
    | .remove inserted => (true, { s with records := s.records.erase inserted.booking.id })
    | .restore change => (true, { s with records := s.records.put change.before })
  else (false, s)

/-- What an insertion stored can be taken away again, and then the store holds
what it held before. -/
theorem booking?_undo_write (s : Store) (b : Booking) (id : String)
    (h : s.booking? b.id = none) :
    ((s.write b.id b).2.undo (.remove (s.write b.id b).1)).2.booking? id = s.booking? id := by
  have held : (s.write b.id b).2.holds (s.write b.id b).1 = true := by
    simp [holds, write]
  simp only [undo, Undo.written, held, if_true]
  unfold booking? at h ⊢
  rw [Shelf.get?_erase]
  by_cases hid : b.id = id
  · subst hid
    simp [write, h]
  · simp [write, hid]

end Appointments.Store
