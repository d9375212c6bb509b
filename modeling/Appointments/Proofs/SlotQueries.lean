-- The desk's answers about free slots are functions of the store, and the
-- window that is searched for busy time always covers the slots.
import Appointments.Desk.Bookings
import Appointments.Proofs.Checks
import Appointments.Proofs.FreeSlots
import Appointments.Proofs.Reports
import Appointments.Proofs.StoreWrites

namespace Appointments

/-! ## What the desk finds -/

/-- The openings that a store has, with the busy time of a window around the
days. -/
def Store.openings (s : Store) (t : Template) (zone : Zone) (first last : Day)
    (exclude : List String) : Except CalendarFault Openings := do
  let window ← Desk.window first last
  let bookings ← s.overlapping t.provider window.start window.stop exclude
  Openings.between t zone (s.activeBlackouts t.provider window.start window.stop) bookings
    first last

namespace Desk

open Appointments.Action

section
variable {desk : Desk} {v : View} {t : Template} {zone : Zone} {exclude : List String}

theorem reports_openings {zoneName : String} {first last : Day}
    (hzone : Request.zone desk.zones zoneName = .ok zone) :
    (desk.openings t first last zoneName exclude).Reports v
      (CalendarFault.orFail (Openings.slots <$> v.store.openings t zone first last exclude)) := by
  unfold openings Store.openings
  cases hwindow : window first last with
  | error why => exact reports_error_bind (reports_lift _)
  | ok w =>
    apply reports_ok_bind (reports_lift _)
    apply reports_ok_bind (reports_call (x := .ok _) rfl)
    rw [ok_bind]
    cases hbookings : v.store.overlapping t.provider w.start w.stop exclude with
    | error why =>
      refine reports_error_bind (reports_call (x := .error _) ?_)
      simp [StoreCall.answer, hbookings]
      rfl
    | ok bookings =>
      refine reports_ok_bind (reports_call (x := .ok bookings) ?_) ?_
      · simp [StoreCall.answer, hbookings]
        rfl
      · rw [hzone]
        apply reports_ok_bind (reports_lift _)
        apply reports_ok_bind (reports_forM _ _ fun _ _ => reports_log _ _ _)
        rw [ok_bind]
        cases hfound : Openings.between t zone
            (v.store.activeBlackouts t.provider w.start w.stop) bookings first last with
        | error why => exact reports_error_bind (reports_lift _)
        | ok found =>
          apply reports_ok_bind (reports_lift _)
          exact reports_ok_bind (reports_log _ _ _) (reports_pure _)

/-- The first slots, as many as the settings allow. -/
def atMost (desk : Desk) (slots : List Interval) : List Interval :=
  if desk.slots.maxSlots < slots.length then Store.page 0 (some desk.slots.maxSlots) slots
  else slots

theorem reports_capped (provider : String) (slots : List Interval) :
    (desk.capped provider slots).Reports v (.ok (desk.atMost slots)) := by
  unfold capped atMost
  dsimp only
  split
  · exact reports_ok_bind (reports_log _ _ _) (reports_pure _)
  · exact reports_pure _

/-- The free slots of a provider on a run of local days that have not ended
yet, in a store. -/
def slotsListed (desk : Desk) (v : View) (provider : String) (first last : Request.DayInput)
    (timeZone : Value) : Except Failure (List Interval) :=
  match (v.store.templates.get? provider).filter (·.isActive) with
  | none => .ok []
  | some t => do
    let zoneName ← Request.zoneName timeZone t.timeZone
    let zone ← Request.zone desk.zones zoneName
    let first ← firstDay zone v.now first
    let last ← desk.lastDay first last
    desk.checkDays first last
    let found ← CalendarFault.orFail (Openings.slots <$> v.store.openings t zone first last [])
    return desk.atMost (found.filter (v.now < ·.stop))

theorem reports_slotsListed (provider : Value) (first last : Request.DayInput) (timeZone : Value) :
    (desk.freeSlots provider first last timeZone).Reports v
      (desk.slotsListed v (Request.id provider) first last timeZone) := by
  unfold freeSlots slotsListed activeTemplate?
  apply reports_within
  refine reports_ok_bind (reports_ok_bind
    (reports_call (x := .ok (v.store.templates.get? (Request.id provider))) rfl)
    (reports_pure _)) ?_
  cases (v.store.templates.get? (Request.id provider)).filter (·.isActive) with
  | none => exact reports_pure _
  | some t =>
    apply reports_bind (reports_lift _)
    intro name _
    apply reports_bind (reports_lift _)
    intro zone hzone
    apply reports_ok_bind reports_now
    apply reports_bind (reports_lift _)
    intro d _
    apply reports_bind (reports_lift _)
    intro e _
    apply reports_bind (reports_lift _)
    intro _ _
    exact reports_bind (reports_openings hzone) fun slots _ => reports_capped _ _

theorem slotsListed_eq {provider : String} {first last : Request.DayInput} {timeZone : Value}
    {name : String} {d e : Day} (ht : v.store.templates.get? provider = some t)
    (hactive : t.isActive = true) (hname : Request.zoneName timeZone t.timeZone = .ok name)
    (hzone : Request.zone desk.zones name = .ok zone) (hfirst : firstDay zone v.now first = .ok d)
    (hlast : desk.lastDay d last = .ok e) (hdays : desk.checkDays d e = .ok ()) :
    desk.slotsListed v provider first last timeZone =
      CalendarFault.orFail ((fun found => desk.atMost (found.slots.filter (v.now < ·.stop))) <$>
        v.store.openings t zone d e []) := by
  unfold slotsListed
  rw [ht, Option.filter_some, if_pos hactive]
  dsimp only
  rw [hname, ok_bind, hzone, ok_bind, hfirst, ok_bind, hlast, ok_bind, hdays, ok_bind]
  cases v.store.openings t zone d e [] <;> rfl

/-- The free slots of a provider around an instant, in a store. -/
def slotsAround (desk : Desk) (s : Store) (provider : String) (x : Instant)
    (exclude : List String) : Except Failure (List Interval) :=
  match (s.templates.get? provider).filter (·.isActive) with
  | none => .ok []
  | some t => do
    let zone ← Request.zone desk.zones t.timeZone
    let day ← CalendarFault.orFail (zone.dayAt x)
    let first ← CalendarFault.orFail (day.shift (-1))
    let last ← CalendarFault.orFail (day.shift 1)
    CalendarFault.orFail (Openings.slots <$> s.openings t zone first last exclude)

theorem reports_slotsAround (provider : Value) (x : Instant) :
    (desk.freeSlotsAround provider x exclude).Reports v
      (desk.slotsAround v.store (Request.id provider) x exclude) := by
  unfold freeSlotsAround slotsAround activeTemplate?
  apply reports_within
  refine reports_ok_bind (reports_ok_bind
    (reports_call (x := .ok (v.store.templates.get? (Request.id provider))) rfl)
    (reports_pure _)) ?_
  cases (v.store.templates.get? (Request.id provider)).filter (·.isActive) with
  | none => exact reports_pure _
  | some t =>
    apply reports_bind (reports_lift _)
    intro zone hzone
    apply reports_bind (reports_lift _)
    intro day _
    apply reports_bind (reports_lift _)
    intro first _
    apply reports_bind (reports_lift _)
    intro last _
    exact reports_openings hzone

theorem slotsAround_eq {s : Store} {provider : String} {x : Instant} {d first last : Day}
    (ht : s.templates.get? provider = some t) (hactive : t.isActive = true)
    (hzone : Request.zone desk.zones t.timeZone = .ok zone) (hday : zone.dayAt x = .ok d)
    (hfirst : d.shift (-1) = .ok first) (hlast : d.shift 1 = .ok last) :
    desk.slotsAround s provider x exclude =
      CalendarFault.orFail (Openings.slots <$> s.openings t zone first last exclude) := by
  unfold slotsAround
  rw [ht, Option.filter_some, if_pos hactive]
  dsimp only
  rw [hzone, ok_bind, orFail_eq_ok.2 hday, ok_bind, orFail_eq_ok.2 hfirst, ok_bind,
    orFail_eq_ok.2 hlast, ok_bind]

end
end Desk

/-! ## The window of busy time -/

namespace Store

theorem mem_activeBlackouts {s : Store} {provider : String} {start stop : Instant} {b : Blackout} :
    b ∈ s.activeBlackouts provider start stop ↔ b ∈ s.blackouts.items ∧ b.provider = provider ∧
      b.isActive = true ∧ b.start < stop ∧ start < b.stop := by
  unfold activeBlackouts blackoutsOf
  simp [(List.sortedBy_perm _ _).mem_iff, and_assoc]

/-! ## The openings of a store -/

theorem window_eq_ok {first last : Day} {w : Interval} (h : Desk.window first last = .ok w) :
    (w.start.micros : Int) = (first.number - 1) * Micros.day ∧
      (w.stop.micros : Int) = (last.number + 2) * Micros.day := by
  obtain ⟨a, ha, h⟩ := bind_eq_ok.1 h
  obtain ⟨b, hb, h⟩ := bind_eq_ok.1 h
  obtain rfl := pure_eq_ok.1 h
  rw [Day.shift_eq_ok] at ha hb
  rw [Instant.ofDay_micros, Instant.ofDay_micros, Micros.day_eq]
  omega

section
variable {s : Store} {t : Template} {zone : Zone} {exclude : List String}

/-- Slots of a day lie within the window around the days. -/
theorem inWindow_of_cuts (hzone : zone.rules.NearUtc) (hslot : 0 ≤ t.slotMinutes)
    (hbuffer : 0 ≤ t.bufferMinutes) {first last day : Day} (hfirst : first ≤ day)
    (hlast : day ≤ last) {x w : Interval} (hx : t.Cuts zone day x)
    (hw : Desk.window first last = .ok w) :
    w.start ≤ x.start ∧ x.stop ≤ w.stop := by
  obtain ⟨hwstart, hwstop⟩ := window_eq_ok hw
  obtain ⟨r, -, a, b, ha, hb, -, hstop, -, k, hstart⟩ := hx
  have haClock := Zone.clockAt_of_instantAt r.start.minutes_lt ha
  have hbClock := Zone.clockAt_of_instantAt r.stop.minutes_lt hb
  have haOffset := hzone.offsetAt a.micros
  have hbOffset := hzone.offsetAt b.micros
  have hbMinutes := r.stop.minutes_lt
  have hsteps : 0 ≤ k * ((t.slotMinutes + t.bufferMinutes) * Micros.minute) :=
    Int.mul_nonneg (by omega) (Int.mul_nonneg (by omega) (by omega))
  unfold ZoneRules.clockAt at haClock hbClock
  rw [Day.le_iff] at hfirst hlast
  rw [Instant.le_iff] at hstop
  rw [Instant.le_iff, Instant.le_iff]
  rw [Micros.day_eq, Micros.minute_eq] at *
  omega

/-- A booking of the provider that takes time and starts before a day does in
UTC. -/
structure TakesBefore (s : Store) (provider : String) (day : Nat) (b : Booking) : Prop where
  stored : b ∈ s.bookings
  provider_eq : b.provider = provider
  takes : b.status ≠ .cancelled
  before : b.start.micros < day * Micros.day

/-- The openings are found on days that stay clear of the edges of the
calendar, if all bookings that start before the window ends have ends. -/
theorem openings_isOk (ht : t.Measured) (hzone : zone.rules.NearUtc) {first last : Day}
    (hfirst : 2 ≤ first.number) (hlast : last.number + 4 ≤ dayCount)
    (hends : ∀ b, s.TakesBefore t.provider (last.number + 2) b → ∃ x, b.interval = .ok x) :
    ∃ found, s.openings t zone first last exclude = .ok found := by
  have hfirstIn := first.number_lt
  obtain ⟨a, ha⟩ := Day.shift_isOk (d := first) (n := -1) (by omega) (by omega)
  obtain ⟨b, hb⟩ := Day.shift_isOk (d := last) (n := 2) (by omega) (by omega)
  have hw : Desk.window first last = .ok ⟨Instant.ofDay a, Instant.ofDay b⟩ :=
    bind_eq_ok.2 ⟨a, ha, bind_eq_ok.2 ⟨b, hb, rfl⟩⟩
  obtain ⟨-, hwstop⟩ := window_eq_ok hw
  dsimp only at hwstop
  obtain ⟨bookings, htaken⟩ : ∃ bookings,
      s.overlapping t.provider (Instant.ofDay a) (Instant.ofDay b) exclude = .ok bookings := by
    apply overlapping_isOk
    intro c hc hmay
    obtain ⟨hprovider, hstatus, -, hlt⟩ := mayOverlap_iff.1 hmay
    have hbefore : c.start.micros < (last.number + 2) * Micros.day := by
      rw [Instant.lt_iff] at hlt
      rw [Micros.day_eq] at hwstop ⊢
      omega
    obtain ⟨x, hx⟩ := hends c ⟨hc, hprovider, hstatus, hbefore⟩
    obtain ⟨e, he, -⟩ := interval_eq_ok.1 hx
    exact ⟨e, he⟩
  have hstay : Openings.StayInCalendar t zone bookings first last := by
    apply Openings.stayInCalendar ht hzone _ hfirst hlast
    intro c hc _
    obtain ⟨-, -, e, he, -⟩ := (overlapping_eq_ok htaken).1 hc
    exact ⟨_, interval_eq_ok.2 ⟨e, he, rfl⟩⟩
  obtain ⟨found, hfound⟩ : ∃ found, Openings.between t zone
      (s.activeBlackouts t.provider (Instant.ofDay a) (Instant.ofDay b)) bookings first last =
        .ok found := (Openings.between_isOk ht).2 hstay
  exact ⟨found, bind_eq_ok.2 ⟨_, hw, bind_eq_ok.2 ⟨bookings, htaken, hfound⟩⟩⟩

/-- Where openings are found, all bookings that start before the window ends
have ends. -/
theorem interval_of_openings {first last : Day} {found : Openings}
    (h : s.openings t zone first last [] = .ok found) {b : Booking}
    (hb : s.TakesBefore t.provider (last.number + 2) b) : ∃ x, b.interval = .ok x := by
  obtain ⟨w, hw, h⟩ := bind_eq_ok.1 h
  obtain ⟨bookings, htaken, -⟩ := bind_eq_ok.1 h
  obtain ⟨-, hwstop⟩ := window_eq_ok hw
  obtain ⟨hmem, hprovider, hstatus, hbefore⟩ := hb
  have hlt : b.start < w.stop := by
    rw [Micros.day_eq] at hwstop hbefore
    rw [Instant.lt_iff]
    omega
  obtain ⟨e, he⟩ := stop_isOk_of_overlapping htaken hmem
    (mayOverlap_iff.2 ⟨hprovider, hstatus, List.not_mem_nil, hlt⟩)
  exact ⟨_, interval_eq_ok.2 ⟨e, he, rfl⟩⟩

end
end Store
end Appointments
