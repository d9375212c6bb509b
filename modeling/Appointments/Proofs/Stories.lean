-- What every booking in the store tells of itself: that it was not cancelled,
-- or that it was cancelled on its own, or in favour of another booking, each
-- with what goes with it and with nothing else.
import Appointments.Proofs.RescheduleChains
namespace Appointments

/-! ## The stories -/

/-- The start lies ahead of `t`, and the hours of notice are kept. -/
def Instant.GivesNotice (t : Instant) (hours : Int) (start : Instant) : Prop :=
  t < start ∧ t.micros + hours * Micros.hour ≤ start.micros

namespace Booking

/-- The booking has not been cancelled. -/
structure Stands (b : Booking) : Prop where
  status : b.status = .confirmed ∨ b.status = .completed
  cancelledAt : b.cancelledAt = none
  cancelledBy : b.cancelledBy = none
  cancelReason : b.cancelReason = none
  rescheduledTo : b.rescheduledTo = none
  rescheduledAt : b.rescheduledAt = none
  rescheduleReason : b.rescheduleReason = none

/-- Somebody has cancelled the booking early enough. -/
structure CalledOff (desk : Desk) (b : Booking) : Prop where
  status : b.status = .cancelled
  cancelledAt : ∃ t, b.cancelledAt = some t ∧ t.GivesNotice desk.bookings.cancelHours b.start
  cancelledBy : ∃ role, b.cancelledBy = some role
  rescheduledTo : b.rescheduledTo = none
  rescheduledAt : b.rescheduledAt = none
  rescheduleReason : b.rescheduleReason = none

/-- Somebody has moved the booking early enough, and the one in its place
starts later than that. -/
structure GivesWay (desk : Desk) (s : Store) (b : Booking) : Prop where
  status : b.status = .cancelled
  cancelledAt : b.cancelledAt = none
  cancelledBy : b.cancelledBy = none
  cancelReason : b.cancelReason = none
  moved : ∃ t n next, b.rescheduledAt = some t ∧
    t.GivesNotice desk.bookings.rescheduleHours b.start ∧ b.rescheduledTo = some n ∧ n ≠ "" ∧
    s.booking? n = some next ∧ t < next.start

/-- The booking tells that it was cancelled in this way, or not at all. -/
def Tells (desk : Desk) (s : Store) (b : Booking) : Option Cancellation → Prop
  | none => b.Stands
  | some .standalone => b.CalledOff desk
  | some .superseded => b.GivesWay desk s

/-- The booking tells one story, takes as long as the settings allow, and
has no reason but a short one without blanks around it. -/
structure Consistent (desk : Desk) (s : Store) (b : Booking) : Prop where
  story : ∀ story, b.Tells desk s story ↔ story = b.cancellation?
  minutes : desk.bookings.minMinutes ≤ b.minutes ∧ b.minutes ≤ desk.bookings.maxMinutes
  reasons : ∀ r, b.cancelReason = some r ∨ b.rescheduleReason = some r →
    Text.IsTrimmed r ∧ r.length ≤ maxReasonLength

/-- No booking tells another story than the one that its links tell. -/
theorem Tells.eq_cancellation {desk : Desk} {s : Store} {b : Booking}
    {story : Option Cancellation} (h : b.Tells desk s story) : story = b.cancellation? := by
  unfold cancellation? successor? link?
  cases story with
  | none =>
    rcases h.status with hstatus | hstatus
    · simp [hstatus]
    · simp [hstatus]
  | some how =>
    cases how with
    | standalone => simp [h.status, h.rescheduledTo]
    | superseded =>
      obtain ⟨t, n, next, -, -, hto, hne, -⟩ := h.moved
      have hlink : (some n).filter (fun s => !s.isEmpty) = some n := by simp [hne]
      rw [h.status, hto, hlink]

theorem consistent_of_tells {desk : Desk} {s : Store} {b : Booking}
    {story : Option Cancellation} (hstory : b.Tells desk s story)
    (hminutes : desk.bookings.minMinutes ≤ b.minutes ∧ b.minutes ≤ desk.bookings.maxMinutes)
    (hreasons : ∀ r, b.cancelReason = some r ∨ b.rescheduleReason = some r →
      Text.IsTrimmed r ∧ r.length ≤ maxReasonLength) : b.Consistent desk s := by
  refine ⟨fun other => ⟨Tells.eq_cancellation, ?_⟩, hminutes, hreasons⟩
  rintro rfl
  rw [← hstory.eq_cancellation]
  exact hstory

end Booking

/-- A reason that is kept is trimmed and short. -/
theorem Request.reason_eq_ok {v : Value} {s : Option String} {r : String}
    (h : text (some Booking.maxReasonLength) v = .ok s) (hr : s = some r) :
    Text.IsTrimmed r ∧ r.length ≤ Booking.maxReasonLength := by
  subst hr
  obtain ⟨htrimmed, hlength⟩ := text_eq_ok h
  exact ⟨htrimmed, by omega⟩

namespace Crowd

variable {desk : Desk} {c : Crowd Errand Booking}

/-! ## How each story comes about -/

/-- What a call has changed is what it has seen, as that was made. -/
theorem AtDesk.before_of_seen (h : c.AtDesk desk) {k : String} {b : Booking} {u : Store.Update}
    (hsaw : c.Saw k b) (hu : c.Did (.changed u)) (hkey : u.before.key = b.id) :
    u.before.booking = b.asMade := by
  obtain ⟨r, hr, hrkey, hmade⟩ := h.accounted.seen k b hsaw
  have hborn := h.accounted.from_birth u hu
  rw [h.id_of_seen hsaw] at hkey
  obtain rfl := h.born_once hr hborn (hrkey.trans hkey.symm)
  exact hmade

theorem AtDesk.consistent_of_born (h : c.AtDesk desk) {r : Record} (hr : c.Born r)
    (hminutes : desk.bookings.minMinutes ≤ r.booking.minutes ∧
      r.booking.minutes ≤ desk.bookings.maxMinutes) : r.booking.Consistent desk c.store := by
  have hmade := (h.born_key hr).2.2
  have hstory : r.booking.Tells desk c.store none := by
    rw [← hmade]
    exact ⟨.inl rfl, rfl, rfl, rfl, rfl, rfl, rfl⟩
  refine Booking.consistent_of_tells hstory hminutes fun reason hreason => ?_
  rw [hstory.cancelReason, hstory.rescheduleReason] at hreason
  rcases hreason with hreason | hreason <;> cases hreason

theorem AtDesk.consistent_of_cancels (h : c.AtDesk desk) {call : Call Errand Booking}
    (hcall : call ∈ c.calls) {u : Store.Update} (hu : .changed u ∈ call.ledger.deeds)
    {actor : Actor} {id reason : Value}
    (hcancels : Errand.Cancels desk call.ledger.seen call.ledger.times actor id reason u)
    (hminutes : desk.bookings.minMinutes ≤ u.after.booking.minutes ∧
      u.after.booking.minutes ≤ desk.bookings.maxMinutes) :
    u.after.booking.Consistent desk c.store := by
  obtain ⟨b, now, s, hseen, -, -, hnotice, hs, hmakes⟩ := hcancels
  have hbefore := h.before_of_seen ⟨call, hcall, hseen⟩ ⟨call, hcall, hu⟩ hmakes.before_key
  have hafter := hmakes.booking
  rw [hbefore] at hafter
  have hstory : u.after.booking.Tells desk c.store (some .standalone) := by
    rw [hafter]
    exact ⟨rfl, ⟨now, rfl, Desk.checkNotice_eq_ok hnotice⟩, ⟨actor.role, rfl⟩, rfl, rfl, rfl⟩
  refine Booking.consistent_of_tells hstory hminutes fun r hr => ?_
  rw [hstory.rescheduleReason, hafter] at hr
  exact Request.reason_eq_ok hs (hr.resolve_right nofun)

theorem AtDesk.consistent_of_completes (h : c.AtDesk desk) {call : Call Errand Booking}
    (hcall : call ∈ c.calls) {u : Store.Update} (hu : .changed u ∈ call.ledger.deeds)
    {id : Value} (hcompletes : Errand.Completes call.ledger.seen call.ledger.times id u)
    (hminutes : desk.bookings.minMinutes ≤ u.after.booking.minutes ∧
      u.after.booking.minutes ≤ desk.bookings.maxMinutes) :
    u.after.booking.Consistent desk c.store := by
  obtain ⟨b, now, stop, hseen, -, -, -, -, hmakes⟩ := hcompletes
  have hbefore := h.before_of_seen ⟨call, hcall, hseen⟩ ⟨call, hcall, hu⟩ hmakes.before_key
  have hafter := hmakes.booking
  rw [hbefore] at hafter
  have hstory : u.after.booking.Tells desk c.store none := by
    rw [hafter]
    exact ⟨.inr rfl, rfl, rfl, rfl, rfl, rfl, rfl⟩
  refine Booking.consistent_of_tells hstory hminutes fun r hr => ?_
  rw [hstory.cancelReason, hstory.rescheduleReason] at hr
  rcases hr with hr | hr <;> cases hr

/-- A booking that gives way names the one that the same call has inserted
before, which starts in the future as that call has checked. -/
theorem AtDesk.consistent_of_replaces (h : c.AtDesk desk) {call : Call Errand Booking}
    (hcall : call ∈ c.calls) {u : Store.Update} (hu : .changed u ∈ call.ledger.deeds)
    {id start minutes reason : Value} {old : Booking} {now : Instant} {r : Record}
    (hmoves : Errand.Moves desk call.ledger.seen call.ledger.times id start minutes old now r)
    (hreplaces : Errand.Replaces reason old now r u)
    (hr : .inserted r [old.id] ∈ call.ledger.deeds)
    (hminutes : desk.bookings.minMinutes ≤ u.after.booking.minutes ∧
      u.after.booking.minutes ≤ desk.bookings.maxMinutes) :
    u.after.booking.Consistent desk c.store := by
  obtain ⟨hseen, -, -, hnotice, hkey, t, n, ht, -, hsucc⟩ := hmoves
  obtain ⟨s, hs, hmakes⟩ := hreplaces
  have hbefore := h.before_of_seen ⟨call, hcall, hseen⟩ ⟨call, hcall, hu⟩ hmakes.before_key
  have hafter := hmakes.booking
  rw [hbefore] at hafter
  obtain ⟨x, hx, hmade⟩ := h.kept hcall hr ((h.onCourse hcall).changed_not_undid hu)
  have hne := (h.born_key ⟨_, call, hcall, hr⟩).2.1
  rw [hkey] at hx hne
  have hstart : x.booking.start = t := by
    rw [hsucc] at hmade
    have hstart := congrArg Booking.start hmade
    exact hstart.symm
  have hfuture : now < x.booking.start := hstart ▸ Desk.futureStart_eq_ok ht
  have hstory : u.after.booking.Tells desk c.store (some .superseded) := by
    rw [hafter]
    exact ⟨rfl, rfl, rfl, rfl, now, r.booking.id, x.booking, rfl, Desk.checkNotice_eq_ok hnotice,
      rfl, hne, Store.booking?_eq_some.2 ⟨x, hx, rfl⟩, hfuture⟩
  refine Booking.consistent_of_tells hstory hminutes fun r hr => ?_
  rw [hstory.cancelReason, hafter] at hr
  exact Request.reason_eq_ok hs (hr.resolve_left nofun)

/-! ## The law -/

/-- Whatever people ask of the desk, and in whatever order their steps come,
every booking in the store tells exactly one story. -/
theorem AtDesk.consistent (h : c.AtDesk desk) :
    ∀ b ∈ c.store.bookings, b.Consistent desk c.store := by
  intro b hb
  obtain ⟨k, x, hx, rfl⟩ := Store.mem_bookings.1 hb
  have hminutes := h.minutes_within hx
  rcases h.accounted.written k x hx with hborn | ⟨u, ⟨call, hcall, hu⟩, rfl⟩
  · exact h.consistent_of_born hborn hminutes
  rcases (h.onCourse hcall).how_changed hu with
    ⟨actor, id, reason, hcancels⟩ | ⟨id, hcompletes⟩ |
    ⟨id, start, minutes, reason, old, now, r, hmoves, hreplaces, hr⟩
  · exact h.consistent_of_cancels hcall hu hcancels hminutes
  · exact h.consistent_of_completes hcall hu hcompletes hminutes
  · exact h.consistent_of_replaces hcall hu hmoves hreplaces hr hminutes

open Practice in
/-- The patient moves a booking by an hour, and cancels the new one in the
end. -/
theorem moved_booking_is_consistent : ∃ c : Crowd Errand Booking, c.AtDesk {} ∧
    (∀ b ∈ c.store.bookings, b.Consistent {} c.store) ∧
    c.store.bookings.map (fun b => (b.id, b.cancellation?)) =
      [("a", some .superseded), ("b", some .standalone)] := by
  have hmap : (crowdAfter (.arrive booking :: go 0 30 "a" ++
      .arrive (moving "a" "2026-03-02T11:00:00Z") :: go 1 30 "b" ++
      .arrive (.cancel patient (.text "b") (.text " ill ")) :: go 2 30 "")).map
        (fun c => c.store.bookings.map (fun b => (b.id, b.cancellation?))) =
      some [("a", some .superseded), ("b", some .standalone)] := by decide +kernel
  obtain ⟨c, hplay, hstories⟩ := Option.map_eq_some_iff.1 hmap
  have hat : c.AtDesk {} := Reachable.play (.start rfl) hplay
  exact ⟨c, hat, hat.consistent, hstories⟩

end Crowd
end Appointments
