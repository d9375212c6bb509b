-- What the desk tells about bookings: who may see them, and a single one, a
-- list or a history as functions of the store.
import Appointments.Proofs.SlotQueries
namespace Appointments

/-! ## Permissions and ids -/

/-- One of the actor's capabilities allows the operation. -/
def Actor.permit (actor : Actor) (op : Operation) (client provider : Option String) :
    Except Failure (List Capability) :=
  let held := actor.capabilities client provider
  if op.isAllowed held then .ok held else .error .denied

theorem Actor.permit_eq_ok {actor : Actor} {op : Operation} {client provider : Option String}
    {held : List Capability} (h : actor.permit op client provider = .ok held) :
    op.isAllowed (actor.capabilities client provider) = true := by
  unfold permit at h
  dsimp only at h
  split at h
  · assumption
  · cases h

namespace Store

/-- The booking that is kept under an id. -/
def found (s : Store) (id : String) : Except Failure Booking :=
  match s.booking? id with
  | some b => .ok b
  | none => .error (.missing .booking)

/-- The booking that a caller names. -/
def named (s : Store) (id : Value) : Except Failure Booking := do
  s.found (← Request.requiredId "bookingId" id)

theorem found_eq_ok {s : Store} {id : String} {b : Booking} :
    s.found id = .ok b ↔ s.booking? id = some b := by
  unfold found
  cases s.booking? id <;> simp

theorem named_eq_ok {s : Store} {id : Value} {b : Booking} :
    s.named id = .ok b ↔ Request.id id ≠ "" ∧ s.booking? (Request.id id) = some b := by
  unfold named
  rw [bind_eq_ok]
  constructor
  · rintro ⟨k, hk, hb⟩
    obtain ⟨rfl, hne⟩ := Request.requiredId_eq_ok hk
    exact ⟨hne, found_eq_ok.1 hb⟩
  · rintro ⟨hne, hb⟩
    exact ⟨_, Request.requiredId_eq hne, found_eq_ok.2 hb⟩

end Store

namespace Desk

open Appointments.Action

section
variable {v : View}

theorem reports_authorize (op : Operation) (actor : Actor) (client provider : Option String) :
    (authorize op actor client provider).Reports v (actor.permit op client provider) := by
  unfold authorize Actor.permit
  dsimp only
  split
  · exact reports_pure _
  · exact reports_ok_bind (reports_log _ _ _) (reports_throw _)

theorem reports_find (id : String) : (find id).Reports v (v.store.found id) := by
  unfold find Store.found
  refine reports_ok_bind (reports_call (x := .ok (v.store.booking? id)) rfl) ?_
  cases v.store.booking? id with
  | none => exact reports_throw _
  | some b => exact reports_pure b

theorem reports_load (id : Value) : (load id).Reports v (v.store.named id) := by
  unfold load Store.named
  exact reports_bind (reports_lift _) fun k _ => reports_find k

/-! ## What is shown -/

/-- The booking that is shown to an actor who asks for it. -/
def shown (s : Store) (actor : Actor) (id : Value) : Except Failure Booking := do
  let b ← s.named id
  let _ ← actor.permit .view b.client b.provider
  return b

theorem reports_booking (desk : Desk) (actor : Actor) (id : Value) :
    (desk.booking actor id).Reports v (shown v.store actor id) := by
  unfold booking shown
  apply reports_within
  apply reports_bind (reports_load id)
  intro b _
  apply reports_bind (reports_authorize _ _ _ _)
  intro _ _
  exact reports_pure b

/-- The first day of a list does not come after the last one. -/
def checkOrder (filters : Filters) : Except Failure Unit :=
  match filters.first, filters.last with
  | some first, some last => if last < first then .error (.rejected .daysReversed) else .ok ()
  | _, _ => .ok ()

/-- What the store is asked for when an actor asks for a list. -/
def query (desk : Desk) (actor : Actor) (filters : Filters) : Store.Query where
  client := if actor.role = .client then some actor.id else none
  provider := if actor.role = .provider then some actor.id else none
  status := filters.status
  first := filters.first
  last := filters.last
  limit := some (min (max (filters.limit.getD desk.bookings.defaultLimit) 1) desk.bookings.maxLimit)
  offset := filters.offset

/-- The list that is shown to an actor who asks for it. -/
def shownList (desk : Desk) (s : Store) (actor : Actor) (filters : Filters) :
    Except Failure (List Booking) := do
  checkOrder filters
  return s.list (desk.query actor filters)

theorem reports_list (desk : Desk) (actor : Actor) (filters : Filters) :
    (desk.list actor filters).Reports v (desk.shownList v.store actor filters) := by
  rcases filters with ⟨status, first, last, limit, offset⟩
  have hlist : (call (.list (desk.query actor ⟨status, first, last, limit, offset⟩))).Reports v
      (.ok (v.store.list (desk.query actor ⟨status, first, last, limit, offset⟩))) :=
    reports_call rfl
  apply reports_within
  cases first with
  | none => exact hlist
  | some first =>
    cases last with
    | none => exact hlist
    | some last =>
      unfold shownList checkOrder
      dsimp only
      split
      · exact reports_error_bind (reports_throw _)
      · exact hlist

/-- The history that is shown to an actor who asks for it. -/
def shownHistory (desk : Desk) (s : Store) (actor : Actor) (id : Value) :
    Except Failure History := do
  let id ← Request.requiredId "bookingId" id
  let requested ← s.found id
  let _ ← actor.permit .viewHistory requested.client requested.provider
  (History.ofCandidates desk.bookings.maxLinks id requested (s.chainCandidates requested)).mapError
    fun fault => .corrupted (.links fault)

theorem reports_checkLinks (x : Except LinkFault History) :
    (checkLinks x).Reports v (x.mapError fun fault => .corrupted (.links fault)) := by
  cases x with
  | ok h => exact reports_pure h
  | error fault => exact reports_ok_bind (reports_log _ _ _) (reports_throw _)

theorem reports_history (desk : Desk) (actor : Actor) (id : Value) :
    (desk.history actor id).Reports v (desk.shownHistory v.store actor id) := by
  unfold history shownHistory
  apply reports_within
  apply reports_bind (reports_lift _)
  intro id _
  apply reports_bind (reports_find id)
  intro requested _
  apply reports_bind (reports_authorize _ _ _ _)
  intro _ _
  refine reports_ok_bind (reports_call (x := .ok (v.store.chainCandidates requested)) rfl) ?_
  have hlinks := reports_checkLinks (v := v)
    (History.ofCandidates desk.bookings.maxLinks id requested (v.store.chainCandidates requested))
  generalize (History.ofCandidates desk.bookings.maxLinks id requested
    (v.store.chainCandidates requested)) = links at hlinks ⊢
  cases links with
  | error fault => exact reports_error_bind hlinks
  | ok h =>
    apply reports_ok_bind hlinks
    split
    · exact reports_ok_bind (reports_log _ _ _) (reports_pure _)
    · exact reports_pure _

end
end Desk
end Appointments
