-- The desk's side for bookings: making them, looking at them, and cancelling,
-- completing and rescheduling them.
import Appointments.Booking.Filters
import Appointments.Desk.Slots
import Appointments.Transaction
namespace Appointments.Desk

/-! ## Checks -/

/-- What the actor is to a booking of the client and the provider, if that
allows the operation. -/
def authorize (op : Operation) (actor : Actor) (client provider : Option String) :
    Action (List Capability) := do
  let held := actor.capabilities client provider
  if op.isAllowed held then return held
  else
    Action.log .permissions .debug ("Denied " ++ op.word ++ " for " ++ actor.role.word ++ ":" ++
      actor.id ++ " (capabilities: " ++ (Value.list (held.map (.text ·.word))).shown ++ ")")
    throw .denied

/-- A start that lies in the future. -/
def futureStart (now : Instant) (v : Value) : Except Failure Instant := do
  let start ← Request.instant "startAt" v
  if start ≤ now then .error (.rejected .startNotInFuture) else .ok start

/-- A duration in minutes within the bounds of the settings. -/
def duration (desk : Desk) (default : Int) (v : Value) : Except Failure Int :=
  let least := desk.bookings.minMinutes
  let greatest := desk.bookings.maxMinutes
  let within (n : Int) : Except Failure Int :=
    if least ≤ n ∧ n ≤ greatest then .ok n else .error (.rejected (.durationOutside least greatest))
  match v with
  | .null => within default
  | .int n => within n
  | _ => .error (.rejected .badDuration)

/-- The status after an event that the status of the booking allows. -/
def nextStatus (event : Event) (b : Booking) : Except Failure Status :=
  match event.next? b.status with
  | some status => .ok status
  | none => .error (.conflict (.notAllowed event b.status))

/-- The booking starts late enough for the event. -/
def checkNotice (event : Event) (hours : Int) (now : Instant) (b : Booking) :
    Except Failure Unit :=
  let left := now.microsTo b.start
  if left ≤ 0 then .error (.rejected (.alreadyStarted event))
  else do
    let notice ← CalendarFault.orFail (Span.ofHours hours)
    if left < notice.micros then .error (.rejected (.noticeTooShort event hours))
    else .ok ()

/-- The booking that is kept under an id. -/
def find (id : String) : Action Booking := do
  match ← Action.call (.booking id) with
  | some b => return b
  | none => throw (.missing .booking)

/-- The booking that a caller names. -/
def load (id : Value) : Action Booking := do find (← Request.requiredId "bookingId" id)

/-- The time from the start on is exactly one free slot. -/
def checkSlot (desk : Desk) (provider : String) (start : Instant) (minutes : Int)
    (exclude : List String) : Action Unit := do
  let length ← CalendarFault.orFail (Span.ofMinutes minutes)
  let stop ← CalendarFault.orFail (start.after length)
  let slots ← desk.freeSlotsAround (.text provider) start exclude
  if !slots.contains ⟨start, stop⟩ then
    throw (.conflict .slotTaken)

/-! ## Making and looking at bookings -/

/-- The metadata of a booking with a note. -/
def metadataOf (note : Option String) : List (String × Value) :=
  match note with
  | some s => [("note", .text s)]
  | none => []

/-- Books a free slot for the client who asks. -/
def book (desk : Desk) (actor : Actor) (request response provider start minutes note : Value) :
    Action Booking := Action.within none do
  let request ← Request.requiredId "requestId" request
  let response ← Request.requiredId "responseId" response
  let provider ← Request.requiredId "providerUserId" provider
  let now ← Action.now
  let start ← futureStart now start
  let minutes ← desk.duration desk.bookings.defaultMinutes minutes
  let note ← Request.text (some Booking.maxReasonLength) note
  let _ ← authorize .create actor actor.id provider
  let created ← Transaction.commit provider do
    Transaction.plain (desk.checkSlot provider start minutes [])
    let id ← Transaction.plain Action.freshId
    Transaction.insert
      { id, request, response, provider, client := actor.id, start, minutes
        status := .confirmed, cancelledAt := none, cancelledBy := none, cancelReason := none
        rescheduledFrom := none, rescheduledTo := none, rescheduledAt := none
        rescheduleReason := none, metadata := metadataOf note } []
  Action.log .bookings .info ("Booking " ++ created.id ++ " created: provider=" ++ provider ++
    " client=" ++ actor.id ++ " start=" ++ start.logged ++ " (" ++ toString minutes ++ " min)")
  return created

/-- A booking that the actor may see. -/
def booking (_desk : Desk) (actor : Actor) (id : Value) : Action Booking := Action.within none do
  let b ← load id
  let _ ← authorize .view actor b.client b.provider
  return b

/-- The bookings that the actor may see, latest start first. -/
def list (desk : Desk) (actor : Actor) (filters : Filters) : Action (List Booking) :=
  Action.within none do
  if let (some first, some last) := (filters.first, filters.last) then
    if last < first then
      Action.reject .daysReversed
  let limit := filters.limit.getD desk.bookings.defaultLimit
  Action.call (.list
    { client := if actor.role = .client then some actor.id else none
      provider := if actor.role = .provider then some actor.id else none
      status := filters.status, first := filters.first, last := filters.last
      limit := some (min (max limit 1) desk.bookings.maxLimit), offset := filters.offset })

/-! ## Cancelling and completing -/

/-- Changes a confirmed booking, and notes where somebody else was faster. -/
def cancelConfirmed (id : String) (changes : List Booking.Change) : Action Booking :=
  tryCatch (do return (← Action.call (.update id .confirmed changes)).after.booking) fun why => do
    if let .conflict _ := why then
      Action.log .bookings .warning ("Cancel of booking " ++ id ++ " lost a race")
    throw why

/-- Cancels a confirmed booking that starts late enough. -/
def cancel (desk : Desk) (actor : Actor) (id reason : Value) : Action Booking :=
  Action.within none do
  let b ← load id
  let _ ← authorize .cancel actor b.client b.provider
  let status ← nextStatus .cancel b
  let now ← Action.now
  checkNotice .cancel desk.bookings.cancelHours now b
  let reason ← Request.text (some Booking.maxReasonLength) reason
  let cancelled ← cancelConfirmed b.id [.status status, .cancelledAt (some now),
    .cancelledBy (some actor.role), .cancelReason reason]
  Action.log .bookings .info ("Booking " ++ b.id ++ " cancelled by " ++ actor.role.word)
  return cancelled

/-- Completes a confirmed booking that has ended. -/
def complete (_desk : Desk) (actor : Actor) (id : Value) : Action Booking :=
  Action.within none do
  let b ← load id
  let _ ← authorize .complete actor b.client b.provider
  let status ← nextStatus .complete b
  let stop ← CalendarFault.orFail b.stop
  if (← Action.now) < stop then
    Action.reject .notEnded
  let change ← Action.call (.update b.id .confirmed [.status status])
  Action.log .bookings .info ("Booking " ++ b.id ++ " completed")
  return change.after.booking

/-! ## Rescheduling -/

/-- The booking is still there and still confirmed. -/
def checkStillConfirmed (id : String) : Action Unit := do
  let current ← Action.call (.booking id)
  if !current.any (!·.status.isFinal) then
    throw (.conflict .noLongerConfirmed)

/-- The booking that replaces another one at a new time. -/
def successor (old : Booking) (id : String) (start : Instant) (minutes : Int) : Booking :=
  { old with
    id, start, minutes, status := .confirmed, cancelledAt := none, cancelledBy := none
    cancelReason := none, rescheduledFrom := some old.id, rescheduledTo := none
    rescheduledAt := none, rescheduleReason := none, metadata := [] }

/-- Moves a confirmed booking to a free slot. The new booking and the old one
name each other, and the old one's time does not count as taken. -/
def reschedule (desk : Desk) (actor : Actor) (id start minutes reason : Value) :
    Action Booking := Action.within none do
  let now ← Action.now
  let start ← futureStart now start
  let reason ← Request.text (some Booking.maxReasonLength) reason
  let old ← load id
  let _ ← authorize .reschedule actor old.client old.provider
  let status ← nextStatus .reschedule old
  checkNotice .reschedule desk.bookings.rescheduleHours now old
  let minutes ← desk.duration old.minutes minutes
  let created ← Transaction.commit old.provider do
    Transaction.plain (checkStillConfirmed old.id)
    Transaction.plain (desk.checkSlot old.provider start minutes [old.id])
    let id ← Transaction.plain Action.freshId
    let created ← Transaction.insert (successor old id start minutes) [old.id]
    let _ ← Transaction.update old.id .confirmed [.status status,
      .rescheduledTo (some created.id), .rescheduledAt (some now), .rescheduleReason reason]
    return created
  Action.log .bookings .info ("Booking " ++ old.id ++ " rescheduled to " ++ created.id ++
    " (start=" ++ start.logged ++ ") by " ++ actor.role.word)
  return created

/-! ## Histories -/

/-- A corrupted chain is noted in the log. -/
def checkLinks : Except LinkFault History → Action History
  | .ok h => return h
  | .error fault => do
    Action.log .history .warning fault.message
    throw (.corrupted (.links fault))

/-- The chain of a booking that the actor may see. -/
def history (desk : Desk) (actor : Actor) (id : Value) : Action History := Action.within none do
  let id ← Request.requiredId "bookingId" id
  let requested ← find id
  let _ ← authorize .viewHistory actor requested.client requested.provider
  let candidates ← Action.call (.chainCandidates requested)
  let h ← checkLinks (History.ofCandidates desk.bookings.maxLinks id requested candidates)
  if h.index = -1 then
    Action.log .history .warning ("Booking " ++ h.requested ++
      " is not on its own reconstructed chain (root " ++ h.root ++ ")")
  return h

end Appointments.Desk
