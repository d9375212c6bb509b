-- The free slots that the desk shows are those that the whole store leaves:
-- what lies outside the window that is searched for busy time takes no slot.
import Appointments.Proofs.Rulings
namespace Appointments

/-! ## The same slots are taken -/

namespace Openings

theorem ofCandidates_congr {busy busy' candidates : List Interval}
    (h : ∀ x ∈ candidates, Interval.overlapsAnyWith (Interval.ends busy) busy x =
      Interval.overlapsAnyWith (Interval.ends busy') busy' x) :
    ofCandidates busy candidates = ofCandidates busy' candidates := by
  have hblocked := List.filter_congr h
  have hfree : candidates.filter (not ∘ Interval.overlapsAnyWith (Interval.ends busy) busy) =
      candidates.filter (not ∘ Interval.overlapsAnyWith (Interval.ends busy') busy') := by
    apply List.filter_congr
    intro x hx
    rw [Function.comp_apply, Function.comp_apply, h x hx]
  unfold ofCandidates
  simp only [List.partition_eq_filter_filter]
  rw [hblocked, hfree]

/-- The openings depend on blackouts and bookings only by which slots of the
days they take. -/
theorem between_congr {t : Template} (ht : t.Measured) {zone : Zone}
    {blackouts blackouts' : List Blackout} {bookings bookings' : List Booking} {first last : Day}
    (hends : ∀ b ∈ bookings, b.status ≠ .cancelled → ∃ x, b.interval = .ok x)
    (hends' : ∀ b ∈ bookings', b.status ≠ .cancelled → ∃ x, b.interval = .ok x)
    (htaken : ∀ day x, first ≤ day → day ≤ last → t.Cuts zone day x →
      (Taken blackouts bookings x ↔ Taken blackouts' bookings' x)) :
    between t zone blackouts bookings first last =
      between t zone blackouts' bookings' first last := by
  obtain ⟨length, pause, step, hm⟩ := exists_measures ht
  obtain ⟨busy, hbusy⟩ : ∃ busy, busyTime blackouts bookings = .ok busy := busyTime_isOk.2 hends
  obtain ⟨busy', hbusy'⟩ : ∃ busy, busyTime blackouts' bookings' = .ok busy :=
    busyTime_isOk.2 hends'
  unfold between
  rw [hm.length_eq, hm.pause_eq, hbusy, hbusy']
  simp only [ok_bind]
  refine bind_congr_of_ok fun working hworking => bind_congr_of_ok fun candidates hcandidates => ?_
  rw [ofCandidates_congr]
  intro x hx
  obtain ⟨day, hfirst, hlast, hcuts⟩ := (mem_candidates hm hworking hcandidates).1 hx
  have hlong : x.start < x.stop := by
    obtain ⟨r, -, s, e, -, -, -, -, hlong, -⟩ := hcuts
    have hpos := hm.length_pos
    rw [hm.length_micros] at hpos
    rw [Instant.lt_iff]
    omega
  rw [Bool.eq_iff_iff, overlapsAnyWith_busyTime_iff hbusy hlong,
    overlapsAnyWith_busyTime_iff hbusy' hlong]
  exact htaken day x hfirst hlast hcuts

end Openings

/-! ## All that a store keeps -/

namespace Store

/-- The bookings of a provider that are not excluded, whatever their time and
their status. -/
def bookingsOf (s : Store) (provider : String) (exclude : List String) : List Booking :=
  s.bookings.filter fun b => b.provider == provider && !exclude.contains b.id

/-- The openings that a store has, with all blackouts and bookings of the
provider. -/
def allOpenings (s : Store) (t : Template) (zone : Zone) (first last : Day)
    (exclude : List String) : Except CalendarFault Openings :=
  Openings.between t zone (s.blackoutsOf t.provider) (s.bookingsOf t.provider exclude) first last

/-- The bookings of a provider that take time end within the calendar. -/
def EndsInCalendar (s : Store) (provider : String) (exclude : List String) : Prop :=
  ∀ b ∈ s.bookingsOf provider exclude, b.status ≠ .cancelled → ∃ x, b.interval = .ok x

theorem mem_blackoutsOf {s : Store} {provider : String} {b : Blackout} :
    b ∈ s.blackoutsOf provider ↔ b ∈ s.blackouts.items ∧ b.provider = provider := by
  simp [blackoutsOf, (List.sortedBy_perm _ _).mem_iff]

theorem mem_bookingsOf {s : Store} {provider : String} {exclude : List String} {b : Booking} :
    b ∈ s.bookingsOf provider exclude ↔
      b ∈ s.bookings ∧ b.provider = provider ∧ b.id ∉ exclude := by
  simp [bookingsOf]

/-- What lies in the window is taken by something in the whole store if it is
taken by something that was found in the window. -/
theorem taken_iff {s : Store} {provider : String} {exclude : List String} {w x : Interval}
    {bookings : List Booking}
    (hbookings : s.overlapping provider w.start w.stop exclude = .ok bookings)
    (hstart : w.start ≤ x.start) (hstop : x.stop ≤ w.stop) :
    Openings.Taken (s.activeBlackouts provider w.start w.stop) bookings x ↔
      Openings.Taken (s.blackoutsOf provider) (s.bookingsOf provider exclude) x := by
  have hin : ∀ y : Interval, x.overlaps y = true → y.start < w.stop ∧ w.start < y.stop := by
    intro y hover
    obtain ⟨hbefore, hafter⟩ := Interval.overlaps_iff.1 hover
    exact ⟨Nat.lt_of_lt_of_le hafter hstop, Nat.lt_of_le_of_lt hstart hbefore⟩
  constructor
  · rintro (⟨b, hb, hactive, hover⟩ | ⟨b, hb, hstatus, htakes⟩)
    · obtain ⟨hb, hprovider, -⟩ := mem_activeBlackouts.1 hb
      exact .inl ⟨b, mem_blackoutsOf.2 ⟨hb, hprovider⟩, hactive, hover⟩
    · obtain ⟨hb, hmay, -⟩ := (overlapping_eq_ok hbookings).1 hb
      obtain ⟨hprovider, -, hexclude, -⟩ := mayOverlap_iff.1 hmay
      exact .inr ⟨b, mem_bookingsOf.2 ⟨hb, hprovider, hexclude⟩, hstatus, htakes⟩
  · rintro (⟨b, hb, hactive, hover⟩ | ⟨b, hb, hstatus, y, hy, hlt, hover⟩)
    · obtain ⟨hb, hprovider⟩ := mem_blackoutsOf.1 hb
      obtain ⟨hbefore, hafter⟩ := hin _ hover
      exact .inl ⟨b, mem_activeBlackouts.2 ⟨hb, hprovider, hactive, hbefore, hafter⟩, hactive,
        hover⟩
    · obtain ⟨hb, hprovider, hexclude⟩ := mem_bookingsOf.1 hb
      obtain ⟨hbefore, hafter⟩ := hin _ hover
      obtain ⟨e, he, rfl⟩ := interval_eq_ok.1 hy
      have hmay := mayOverlap_iff.2 ⟨hprovider, hstatus, hexclude, hbefore⟩
      exact .inr ⟨b, (overlapping_eq_ok hbookings).2 ⟨hb, hmay, e, he, hafter⟩, hstatus, _, hy,
        hlt, hover⟩

section
variable {s : Store} {t : Template} {zone : Zone} {first last : Day} {exclude : List String}

/-- The slots that a store has on a run of days are those that the days are
cut into and that nothing in the whole store takes. -/
theorem mem_openings (ht : t.Measured) (hzone : zone.rules.NearUtc) {found : Openings}
    (h : s.openings t zone first last exclude = .ok found) {x : Interval} :
    x ∈ found.slots ↔ (∃ day, first ≤ day ∧ day ≤ last ∧ t.Cuts zone day x) ∧
      ¬ Openings.Taken (s.blackoutsOf t.provider) (s.bookingsOf t.provider exclude) x := by
  obtain ⟨w, hw, h⟩ := bind_eq_ok.1 h
  obtain ⟨bookings, hbookings, h⟩ := bind_eq_ok.1 h
  rw [Openings.mem_between ht h, and_congr_right_iff]
  rintro ⟨day, hfirst, hlast, hcuts⟩
  have hslot := ht.slot_least
  obtain ⟨hstart, hstop⟩ :=
    inWindow_of_cuts hzone (by omega) ht.buffer_least hfirst hlast hcuts hw
  rw [taken_iff hbookings hstart hstop]

/-- Where the bookings end within the calendar, the window only has to lie in
the calendar as well. -/
theorem openings_eq (ht : t.Measured) (hzone : zone.rules.NearUtc)
    (hends : s.EndsInCalendar t.provider exclude) :
    s.openings t zone first last exclude =
      Desk.window first last >>= fun _ => s.allOpenings t zone first last exclude := by
  unfold openings allOpenings
  apply bind_congr_of_ok
  intro w hw
  obtain ⟨bookings, hbookings⟩ : ∃ bookings,
      s.overlapping t.provider w.start w.stop exclude = .ok bookings := by
    apply overlapping_isOk
    intro b hb hmay
    obtain ⟨hprovider, hstatus, hexclude, -⟩ := mayOverlap_iff.1 hmay
    obtain ⟨x, hx⟩ := hends b (mem_bookingsOf.2 ⟨hb, hprovider, hexclude⟩) hstatus
    obtain ⟨e, he, -⟩ := interval_eq_ok.1 hx
    exact ⟨e, he⟩
  rw [hbookings, ok_bind]
  refine Openings.between_congr ht (fun b hb _ => ?_) hends fun day x hfirst hlast hcuts => ?_
  · obtain ⟨-, -, e, he, -⟩ := (overlapping_eq_ok hbookings).1 hb
    exact ⟨_, interval_eq_ok.2 ⟨e, he, rfl⟩⟩
  · have hslot := ht.slot_least
    obtain ⟨hstart, hstop⟩ :=
      inWindow_of_cuts hzone (by omega) ht.buffer_least hfirst hlast hcuts hw
    exact taken_iff hbookings hstart hstop

/-- Openings that are found by the window are those of the whole store, which
are found unless some booking does not end within the calendar. -/
theorem openings_of_whole (ht : t.Measured) (hzone : zone.rules.NearUtc) {found : Openings}
    (h : s.openings t zone first last exclude = .ok found) :
    ((∃ all, s.allOpenings t zone first last exclude = .ok all) ↔
        s.EndsInCalendar t.provider exclude) ∧
      ∀ all, s.allOpenings t zone first last exclude = .ok all → all = found := by
  have hsame : s.EndsInCalendar t.provider exclude →
      s.allOpenings t zone first last exclude = .ok found := by
    intro hends
    rw [openings_eq ht hzone hends] at h
    obtain ⟨w, -, h⟩ := bind_eq_ok.1 h
    exact h
  have hends : ∀ all, s.allOpenings t zone first last exclude = .ok all →
      s.EndsInCalendar t.provider exclude :=
    fun all hall => ((Openings.between_isOk ht).1 ⟨all, hall⟩).bookings
  refine ⟨⟨fun ⟨all, hall⟩ => hends all hall, fun h => ⟨found, hsame h⟩⟩, fun all hall => ?_⟩
  have hfound := hsame (hends all hall)
  rw [hall] at hfound
  exact Except.ok.inj hfound

end
end Store

/-! ## What the desk shows -/

namespace Desk

open Appointments.Action

theorem page_zero {α : Type} {n : Int} (h : 0 ≤ n) (items : List α) :
    Store.page 0 (some n) items = items.take n.toNat := by
  unfold Store.page Store.position
  dsimp only
  rw [if_neg (by omega), if_neg (by omega), Int.zero_add, Int.toNat_zero, Nat.zero_min,
    List.drop_zero, List.take_eq_take_iff]
  omega

/-- Slots are left out as on a page that starts with the first one. -/
theorem atMost_eq_page (desk : Desk) (slots : List Interval) :
    desk.atMost slots = Store.page 0 (some desk.slots.maxSlots) slots := by
  unfold atMost
  split
  · rfl
  · rw [page_zero (by omega), List.take_of_length_le (by omega)]

section
variable {desk : Desk} {v : View} {provider : String} {t : Template} {zone : Zone}
  {slots : List Interval}

theorem slotsListed_eq_ok (ht : v.store.templates.get? provider = some t)
    (hactive : t.isActive = true) {first last : Request.DayInput} {timeZone : Value} {name : String}
    (hname : Request.zoneName timeZone t.timeZone = .ok name)
    (hzone : Request.zone desk.zones name = .ok zone)
    (h : desk.slotsListed v provider first last timeZone = .ok slots) :
    ∃ d e found, firstDay zone v.now first = .ok d ∧ desk.lastDay d last = .ok e ∧
      v.store.openings t zone d e [] = .ok found ∧
      desk.atMost (found.slots.filter (v.now < ·.stop)) = slots := by
  unfold slotsListed at h
  rw [ht, Option.filter_some, if_pos hactive] at h
  dsimp only at h
  rw [hname, ok_bind, hzone, ok_bind] at h
  obtain ⟨d, hd, h⟩ := bind_eq_ok.1 h
  obtain ⟨e, he, h⟩ := bind_eq_ok.1 h
  obtain ⟨_, -, h⟩ := bind_eq_ok.1 h
  obtain ⟨_, hslots, h⟩ := bind_eq_ok.1 h
  obtain ⟨found, hfound, rfl⟩ := map_eq_ok.1 (orFail_eq_ok.1 hslots)
  exact ⟨d, e, found, hd, he, hfound, pure_eq_ok.1 h⟩

theorem slotsAround_eq_ok (ht : v.store.templates.get? provider = some t)
    (hactive : t.isActive = true) (hzone : Request.zone desk.zones t.timeZone = .ok zone)
    {x : Instant} {exclude : List String}
    (h : desk.slotsAround v.store provider x exclude = .ok slots) :
    ∃ d first last found, zone.dayAt x = .ok d ∧ d.shift (-1) = .ok first ∧
      d.shift 1 = .ok last ∧ v.store.openings t zone first last exclude = .ok found ∧
      found.slots = slots := by
  unfold slotsAround at h
  rw [ht, Option.filter_some, if_pos hactive] at h
  dsimp only at h
  rw [hzone, ok_bind] at h
  obtain ⟨d, hd, h⟩ := bind_eq_ok.1 h
  obtain ⟨first, hfirst, h⟩ := bind_eq_ok.1 h
  obtain ⟨last, hlast, h⟩ := bind_eq_ok.1 h
  obtain ⟨found, hfound, rfl⟩ := map_eq_ok.1 (orFail_eq_ok.1 h)
  exact ⟨d, first, last, found, orFail_eq_ok.1 hd, orFail_eq_ok.1 hfirst, orFail_eq_ok.1 hlast,
    hfound, rfl⟩

end

/-- What the desk shows of a provider with active weekly hours are the slots
that all blackouts and all bookings of the provider leave, no matter how far
from the days they are, and around an instant likewise. The whole store leaves
any unless one of the bookings does not end within the calendar. -/
theorem slots_of_whole_store {desk : Desk} {w : World} {provider : Value} {t : Template}
    (ht : w.store.templates.get? (Request.id provider) = some t) (hactive : t.isActive = true)
    (hmeasured : t.Measured) :
    (∀ first last timeZone name zone slots w',
      Request.zoneName timeZone t.timeZone = .ok name → Request.zone desk.zones name = .ok zone →
      zone.rules.NearUtc →
      (World.run (desk.freeSlots provider first last timeZone)).run w = (.ok slots, w') →
      ∃ d e, firstDay zone w.clock first = .ok d ∧ desk.lastDay d last = .ok e ∧
        ((∃ found, w.store.allOpenings t zone d e [] = .ok found) ↔
          w.store.EndsInCalendar t.provider []) ∧
        ∀ found, w.store.allOpenings t zone d e [] = .ok found →
          slots = Store.page 0 (some desk.slots.maxSlots)
            (found.slots.filter (w.clock < ·.stop))) ∧
    ∀ x exclude zone slots w', Request.zone desk.zones t.timeZone = .ok zone →
      zone.rules.NearUtc →
      (World.run (desk.freeSlotsAround provider x exclude)).run w = (.ok slots, w') →
      ∃ d first last, zone.dayAt x = .ok d ∧ d.shift (-1) = .ok first ∧ d.shift 1 = .ok last ∧
        ((∃ found, w.store.allOpenings t zone first last exclude = .ok found) ↔
          w.store.EndsInCalendar t.provider exclude) ∧
        ∀ found, w.store.allOpenings t zone first last exclude = .ok found →
          slots = found.slots := by
  constructor
  · intro first last timeZone name zone slots w' hname hzone hnear hrun
    have hreports : (desk.freeSlots provider first last timeZone).Reports w.view _ :=
      reports_slotsListed provider first last timeZone
    obtain ⟨hslots, -⟩ := hreports w rfl
    rw [hrun] at hslots
    obtain ⟨d, e, found, hd, he, hfound, rfl⟩ :=
      slotsListed_eq_ok ht hactive hname hzone hslots.symm
    obtain ⟨hends, hall⟩ := Store.openings_of_whole hmeasured hnear hfound
    refine ⟨d, e, hd, he, hends, fun all h => ?_⟩
    rw [hall all h]
    exact atMost_eq_page desk _
  · intro x exclude zone slots w' hzone hnear hrun
    have hreports : (desk.freeSlotsAround provider x exclude).Reports w.view _ :=
      reports_slotsAround provider x
    obtain ⟨hslots, -⟩ := hreports w rfl
    rw [hrun] at hslots
    obtain ⟨d, first, last, found, hd, hfirst, hlast, hfound, rfl⟩ :=
      slotsAround_eq_ok (v := w.view) ht hactive hzone hslots.symm
    obtain ⟨hends, hall⟩ := Store.openings_of_whole hmeasured hnear hfound
    refine ⟨d, first, last, hd, hfirst, hlast, hends, fun all h => ?_⟩
    rw [hall all h]

end Desk

namespace Practice

/-- The practice with one booking from some start on. -/
def bookedFrom (start : Instant) (minutes : Int) : World where
  store :=
    { opening with
      records := Shelf.empty.put ⟨"a", 0, { booked with start, minutes }⟩
      nextStamp := 1 }
  clock := today

/-- For a hundred days, until ten on Monday, the doctor is taken. -/
def longBooked : World := bookedFrom (.ofDay ⟨739576, by decide⟩) (100 * 1440 + 600)

/-- The doctor is taken from the last evening of the calendar on. -/
def endlesslyBooked : World := bookedFrom ⟨3652058 * Micros.day + 22 * Micros.hour, by decide⟩ 600

def mondaySlots : Action (List Interval) :=
  ({} : Desk).freeSlots (.text "doctor") (.day monday) (.day monday) .null

/-- The booking began long before the window, and its last hour is no free
slot on Monday. -/
theorem long_booking_takes_the_morning :
    ∃ found w', longBooked.store.allOpenings hours ⟨"UTC", .fixed 0⟩ monday monday [] = .ok found ∧
      found.slots = [⟨ten, eleven⟩, ⟨eleven, noon⟩] ∧
      (World.run mondaySlots).run longBooked =
        (.ok (Store.page 0 (some 500) (found.slots.filter (today < ·.stop))), w') := by
  have ht : longBooked.store.templates.get? (Request.id (.text "doctor")) = some hours := by
    decide +kernel
  have hmeasured : hours.Measured := by
    constructor <;> decide
  have hzone : Request.zone Registry.standard "UTC" = .ok ⟨"UTC", .fixed 0⟩ := by
    apply toOption_eq_some.1
    decide +kernel
  have hshown : ((World.run mondaySlots).run longBooked).1.toOption.isSome := by decide +kernel
  generalize hrun : (World.run mondaySlots).run longBooked = out at hshown
  obtain ⟨slots, hslots⟩ := Option.isSome_iff_exists.1 hshown
  obtain ⟨r, w'⟩ := out
  obtain rfl : r = .ok slots := toOption_eq_some.1 hslots
  obtain ⟨d, e, hd, he, -, hall⟩ :=
    (@Desk.slots_of_whole_store {} longBooked (.text "doctor") hours ht rfl hmeasured).1
      (.day monday) (.day monday) .null "UTC" ⟨"UTC", .fixed 0⟩ slots w' rfl hzone
      (by decide) hrun
  cases hd
  cases he
  have hfound : longBooked.store.allOpenings hours ⟨"UTC", .fixed 0⟩ monday monday [] =
      .ok ⟨[⟨ten, eleven⟩, ⟨eleven, noon⟩], 1⟩ := by
    apply toOption_eq_some.1
    decide +kernel
  refine ⟨_, w', hfound, rfl, ?_⟩
  rw [hall _ hfound]
  rfl

/-- Monday is shown although the whole store leaves no slots at all: the
booking without an end starts after the window. -/
theorem endless_booking_is_overlooked :
    (∃ slots w', (World.run mondaySlots).run endlesslyBooked = (.ok slots, w')) ∧
      ∀ found, endlesslyBooked.store.allOpenings hours ⟨"UTC", .fixed 0⟩ monday monday [] ≠
        .ok found := by
  constructor
  · have hshown : ((World.run mondaySlots).run endlesslyBooked).1.toOption.isSome := by
      decide +kernel
    obtain ⟨slots, hslots⟩ := Option.isSome_iff_exists.1 hshown
    exact ⟨slots, _, Prod.ext (toOption_eq_some.1 hslots) rfl⟩
  · intro found hfound
    have hnone : (endlesslyBooked.store.allOpenings hours ⟨"UTC", .fixed 0⟩ monday monday
        []).toOption = none := by decide +kernel
    rw [hfound] at hnone
    cases hnone

end Practice
end Appointments
