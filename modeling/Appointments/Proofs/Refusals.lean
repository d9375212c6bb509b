-- Callers who are not allowed what they ask for are turned away alike,
-- whatever the booking holds that they ask about: all checks up to the
-- permission take no more of the store than the parties of the booking.
import Appointments.Proofs.Lookups
namespace Appointments

/-- The action fails for a reason, and leaves the store as it was. -/
def Action.Refused (w : World) (why : Failure) (a : Action α) : Prop :=
  a.Ends w fun r w' => r = .error why ∧ w'.store = w.store

theorem Action.refused_of_reports {w : World} {a : Action α} {why : Failure}
    (h : a.Reports w.view (.error why)) : a.Refused w why := by
  apply (h w rfl).mono
  intro r w' hends
  obtain ⟨hr, hview⟩ := hends
  exact ⟨hr, congrArg View.store hview⟩

/-- The actor is allowed the operation on a booking of these parties, if there
is one. -/
def Actor.admit (actor : Actor) (op : Operation) (parties : Except Failure (String × String)) :
    Except Failure Unit := do
  let (client, provider) ← parties
  let _ ← actor.permit op client provider

/-! ## Calls about one booking -/

/-- What an actor asks for about a booking that is there. -/
inductive Inquiry
  | booking
  | cancel (reason : Value)
  | complete
  | reschedule (start minutes reason : Value)
  | history

namespace Inquiry

@[reducible]
def Reply : Inquiry → Type
  | .history => History
  | .booking | .cancel _ | .complete | .reschedule .. => Booking

def serve (desk : Desk) (actor : Actor) (id : Value) : (i : Inquiry) → Action i.Reply
  | .booking => desk.booking actor id
  | .cancel reason => desk.cancel actor id reason
  | .complete => desk.complete actor id
  | .reschedule start minutes reason => desk.reschedule actor id start minutes reason
  | .history => desk.history actor id

def operation : Inquiry → Operation
  | .booking => .view
  | .cancel _ => .cancel
  | .complete => .complete
  | .reschedule .. => .reschedule
  | .history => .viewHistory

/-- What is checked before the booking is looked at. -/
def checkFirst (now : Instant) : Inquiry → Except Failure Unit
  | .reschedule start _ reason => do
    let _ ← Desk.futureStart now start
    let _ ← Request.text (some Booking.maxReasonLength) reason
  | .booking | .cancel _ | .complete | .history => .ok ()

/-- All that is checked before the state of a booking is looked at. -/
def gate (now : Instant) (actor : Actor) (parties : Except Failure (String × String))
    (i : Inquiry) : Except Failure Unit := do
  i.checkFirst now
  actor.admit i.operation parties

end Inquiry

namespace Store

/-- The client and the provider of the booking that a caller names. -/
def partiesOf (s : Store) (id : Value) : Except Failure (String × String) :=
  (fun b => (b.client, b.provider)) <$> s.named id

/-- The stores keep bookings of the same clients and providers under the same
ids. All else about the bookings may differ. -/
def SameOwners (s s' : Store) : Prop :=
  ∀ k, (s.booking? k).map (fun b => (b.client, b.provider)) =
    (s'.booking? k).map fun b => (b.client, b.provider)

theorem map_found (f : Booking → β) (s : Store) (k : String) :
    f <$> s.found k =
      match (s.booking? k).map f with
      | some a => .ok a
      | none => .error (.missing .booking) := by
  unfold found
  cases s.booking? k <;> rfl

theorem SameOwners.partiesOf_eq {s s' : Store} (h : s.SameOwners s') (id : Value) :
    s.partiesOf id = s'.partiesOf id := by
  unfold partiesOf named
  cases Request.requiredId "bookingId" id with
  | error why => rfl
  | ok k => rw [ok_bind, ok_bind, map_found, map_found, h k]

end Store

/-! ## Being turned away -/

namespace Desk

open Appointments.Action

section
variable {v : View} {actor : Actor} {id : Value} {op : Operation} {why : Failure}

/-- Nothing that comes after the permission is reached without it. -/
theorem reports_turnedAway {find : Action Booking} {x : Except Failure Booking}
    {rest : Booking → List Capability → Action α} (hfind : find.Reports v x)
    (h : actor.admit op ((fun b => (b.client, b.provider)) <$> x) = .error why) :
    (do
      let b ← find
      let held ← authorize op actor b.client b.provider
      rest b held : Action α).Reports v (.error why) := by
  cases x with
  | error why' =>
    cases h
    exact reports_error_bind hfind
  | ok b =>
    apply reports_ok_bind hfind
    have hpermit : (authorize op actor b.client b.provider).Reports v _ :=
      reports_authorize _ _ _ _
    unfold Actor.admit at h
    dsimp only [Functor.map, Except.map, ok_bind] at h
    cases hheld : actor.permit op b.client b.provider with
    | ok held =>
      rw [hheld] at h
      cases h
    | error why' =>
      rw [hheld] at h hpermit
      cases h
      exact reports_error_bind hpermit

/-- What the gate says is what the caller is told. -/
theorem reports_of_gate (desk : Desk) {i : Inquiry}
    (h : i.gate v.now actor (v.store.partiesOf id) = .error why) :
    (i.serve desk actor id).Reports v (.error why) := by
  have hload : (load id).Reports v _ := reports_load id
  cases i with
  | booking => exact reports_within (reports_turnedAway hload h)
  | cancel reason => exact reports_within (reports_turnedAway hload h)
  | complete => exact reports_within (reports_turnedAway hload h)
  | reschedule start minutes reason =>
    apply reports_within
    apply reports_ok_bind reports_now
    unfold Inquiry.gate Inquiry.checkFirst at h
    dsimp only at h
    cases hstart : futureStart v.now start with
    | error why' =>
      rw [hstart] at h
      cases h
      exact reports_error_bind (reports_throw _)
    | ok start =>
      rw [hstart] at h
      apply reports_ok_bind (reports_pure start)
      cases hreason : Request.text (some Booking.maxReasonLength) reason with
      | error why' =>
        rw [hreason] at h
        cases h
        exact reports_error_bind (reports_throw _)
      | ok reason =>
        rw [hreason] at h
        apply reports_ok_bind (reports_pure reason)
        exact reports_turnedAway hload h
  | history =>
    apply reports_within
    unfold Inquiry.gate Store.partiesOf Store.named at h
    cases hid : Request.requiredId "bookingId" id with
    | error why' =>
      rw [hid] at h
      cases h
      exact reports_error_bind (reports_throw _)
    | ok k =>
      rw [hid] at h
      apply reports_ok_bind (reports_pure k)
      exact reports_turnedAway (reports_find k) h

end

theorem refused_of_gate (desk : Desk) {w : World} {actor : Actor} {id : Value} {i : Inquiry}
    {why : Failure} (h : i.gate w.clock actor (w.store.partiesOf id) = .error why) :
    (i.serve desk actor id).Refused w why := by
  apply refused_of_reports
  exact reports_of_gate desk h

theorem permit_eq_error {actor : Actor} {op : Operation} {client provider : Option String}
    (h : op.isAllowed (actor.capabilities client provider) = false) :
    actor.permit op client provider = .error .denied := by
  unfold Actor.permit
  dsimp only
  rw [h]
  rfl

/-- The gate is closed to a caller who is not allowed the operation. -/
theorem gate_closed {s : Store} {actor : Actor} {id : Value} {i : Inquiry} (now : Instant)
    (hdenied : ∀ b, s.named id = .ok b →
      i.operation.isAllowed (actor.capabilities b.client b.provider) = false) :
    ∃ why, i.gate now actor (s.partiesOf id) = .error why ∧
      ∀ b, s.named id = .ok b → i.checkFirst now = .ok () → why = .denied := by
  unfold Inquiry.gate Store.partiesOf Actor.admit
  cases i.checkFirst now with
  | error why =>
    refine ⟨why, rfl, ?_⟩
    rintro b - ⟨⟩
  | ok u =>
    cases hb : s.named id with
    | error why =>
      refine ⟨why, rfl, ?_⟩
      rintro b ⟨⟩
    | ok b =>
      refine ⟨.denied, ?_, fun _ _ _ => rfl⟩
      dsimp only [Functor.map, Except.map, ok_bind]
      rw [permit_eq_error (hdenied b hb)]
      rfl

/-- Callers who are not allowed what they ask for about a booking are turned
away for the same reason, whatever the store holds besides the parties of
bookings. Nothing is changed, and where there is such a booking, permission is
denied unless a time or a reason that is checked first is refused. -/
theorem refused_alike (desk : Desk) (actor : Actor) (id : Value) (i : Inquiry) {w w' : World}
    (hclock : w'.clock = w.clock) (hsame : w.store.SameOwners w'.store)
    (hdenied : ∀ b, w.store.named id = .ok b →
      i.operation.isAllowed (actor.capabilities b.client b.provider) = false) :
    ∃ why, (i.serve desk actor id).Refused w why ∧ (i.serve desk actor id).Refused w' why ∧
      ∀ b, w.store.named id = .ok b → i.checkFirst w.clock = .ok () → why = .denied := by
  obtain ⟨why, hgate, hwhy⟩ := gate_closed w.clock hdenied
  have hrefused : (i.serve desk actor id).Refused w why := refused_of_gate desk hgate
  rw [hsame.partiesOf_eq id, ← hclock] at hgate
  exact ⟨why, hrefused, refused_of_gate desk hgate, hwhy⟩

end Desk

namespace Practice

/-- The booking at ten has become one at nine, and has been cancelled. -/
def cancelledAtNine : World where
  store := { opening with
    records := Shelf.empty.put ⟨"a", 1, { booked with
      start := nine, minutes := 30, status := .cancelled, cancelReason := some "ill" }⟩ }
  clock := today

/-- A stranger who wants to move the booking is not told when it starts or
that it is cancelled. -/
theorem stranger_is_refused_alike :
    let move : Inquiry := .reschedule (.text "2026-03-02T11:00:00Z") .null .null
    let action := move.serve {} ⟨"stranger", .client⟩ (.text "a")
    action.Refused bookedAtTen .denied ∧ action.Refused cancelledAtNine .denied := by
  intro move action
  have hsame : bookedAtTen.store.SameOwners cancelledAtNine.store := by
    intro k
    unfold bookedAtTen cancelledAtNine Store.booking?
    simp only [Shelf.get?_put]
    split <;> rfl
  have hb : bookedAtTen.store.named (.text "a") = .ok booked := by
    apply toOption_eq_some.1
    decide +kernel
  have hfirst : move.checkFirst bookedAtTen.clock = .ok () := by
    apply toOption_eq_some.1
    decide +kernel
  have hdenied : ∀ b, bookedAtTen.store.named (.text "a") = .ok b →
      move.operation.isAllowed (Actor.capabilities ⟨"stranger", .client⟩ b.client b.provider) =
        false := by
    intro b h
    rw [hb] at h
    cases h
    decide
  have hclock : cancelledAtNine.clock = bookedAtTen.clock := rfl
  obtain ⟨why, hrefused, hrefused', hwhy⟩ :=
    Desk.refused_alike {} ⟨"stranger", .client⟩ (.text "a") move hclock hsame hdenied
  rw [hwhy booked hb hfirst] at hrefused hrefused'
  exact ⟨hrefused, hrefused'⟩

end Practice
end Appointments
