-- Free slots are found for whatever validation accepts, away from the edges of
-- the calendar. The texts of a template are read again where they are used, the
-- clocks of each day show its times, and the loop that cuts slots ends.
import Appointments.Proofs.ClockTexts
import Appointments.Proofs.FreeSlots
import Appointments.Proofs.LocalTimes
namespace Appointments

/-- Both texts are read as the times of the range again, and the clocks of the
day show them. -/
def TimeRange.Usable (r : TimeRange) (day : Day) : Prop :=
  ∀ t ∈ [r.start, r.stop], ClockTime.minutesOfText t.text = .ok t.minutes ∧
    ∃ w, Zone.readingOf day t.minutes = .ok w

theorem TimeRange.usable (r : TimeRange) (day : Day) : r.Usable day := by
  intro t _
  obtain ⟨w, hw, -⟩ := Zone.readingOf_isOk day t.minutes_lt
  exact ⟨t.spells, w, hw⟩

theorem Template.measured_of_read {zones : Registry} {defaults : SlotSettings} {v : Value}
    {t : Template} (hdefaults : defaults.check = .ok ()) (h : read zones defaults v = .ok t) :
    t.Measured := by
  cases v with
  | object fields => exact measured_of_readFields hdefaults h
  | _ => cases h

/-- A template that validation has accepted, beside any blackouts and beside
bookings that end within the calendar: on days away from the edges of the
calendar, by the clocks of a zone near UTC, its texts are read again, its working
time is found and cut into slots to the last of them, and free slots are found. -/
theorem Openings.found_for_accepted {zones : Registry} {defaults : SlotSettings}
    (hdefaults : defaults.check = .ok ()) {v : Value} {t : Template}
    (ht : Template.read zones defaults v = .ok t) {zone : Zone} (hzone : zone.rules.NearUtc)
    (blackouts : List Blackout) {bookings : List Booking}
    (hbookings : ∀ b ∈ bookings, ∃ stop, b.stop = .ok stop) {first last : Day}
    (hfirst : 2 ≤ first.number) (hlast : last.number + 4 ≤ dayCount) :
    (∀ day, ∀ r ∈ t.rangesFor day.weekday, r.Usable day) ∧
    (∃ working length pause, t.workingTime zone first last = .ok working ∧
      Span.ofMinutes t.slotMinutes = .ok length ∧ Span.ofMinutes t.bufferMinutes = .ok pause ∧
      ∀ a ∈ working, ∃ xs, a.slots length pause = .ok xs ∧ ∀ turns, xs.length < turns →
        Interval.slotsFrom a.stop length.micros (length.micros + pause.micros) turns a.start =
          .ok xs) ∧
    ∃ found, between t zone blackouts bookings first last = .ok found := by
  have hmeasured := Template.measured_of_read hdefaults ht
  have hintervals : ∀ b ∈ bookings, b.status ≠ .cancelled → ∃ x, b.interval = .ok x := by
    intro b hb _
    obtain ⟨stop, hstop⟩ := hbookings b hb
    exact ⟨⟨b.start, stop⟩, map_eq_ok.2 ⟨stop, hstop, rfl⟩⟩
  have hstay := stayInCalendar hmeasured hzone hintervals hfirst hlast
  refine ⟨fun day r _ => r.usable day, ?_, (between_isOk hmeasured).2 hstay⟩
  obtain ⟨working, hworking⟩ := workingTime_isOk.2 ⟨hstay.days, hstay.hours⟩
  obtain ⟨length, pause, step, hm⟩ := exists_measures hmeasured
  refine ⟨working, length, pause, hworking, hm.length_eq, hm.pause_eq, fun a ha => ?_⟩
  obtain ⟨day, hlow, hhigh, r, hr, hs, he, hlt⟩ := (mem_workingTime hworking).1 ha
  have hroom := hstay.slots day hlow hhigh r hr a.start a.stop hs he hlt
  rw [← hm.length_micros, ← hm.pause_micros] at hroom
  exact Interval.slots_settle hm.length_pos hm.pause_nonneg hm.step_eq hroom

/-! ## The small practice -/

namespace Practice

/-- The doctor's Monday, from half past nine in Arabic digits to twelve with a
line feed behind it. -/
def oddlyWritten : Value :=
  .object [("providerUserId", .text "doctor"), ("timeZone", .text "Europe/Berlin"),
    ("weekly", .list [.object [("dayOfWeek", .int 1),
      ("ranges", .list [.object [("start", .text "٠٩:٣٠"), ("end", .text "12:00\n")]])]])]

def lineOfTwelve : ClockTime := ⟨"12:00\n", 720, by decide +kernel⟩

/-- The template keeps both texts. -/
def oddHours : Template :=
  { hours with
    timeZone := "Europe/Berlin"
    weekly := [⟨1, [⟨arabicNine, lineOfTwelve, by decide⟩]⟩] }

def berlin : Zone := ⟨"Europe/Berlin", ZoneTable.berlin⟩

/-- The third of January of the year 1. -/
def earliest : Day := ⟨2, by decide⟩

/-- The 28th of December of the year 9999. -/
def latest : Day := ⟨3652055, by decide⟩

/-- Oddly written hours have free slots as others have, from the first to the
last of the days that are away from the edges of the calendar. -/
theorem odd_texts_break_nothing :
    earliest.civil = (1, 1, 3) ∧ latest.civil = (9999, 12, 28) ∧
      Template.read .standard {} oddlyWritten = .ok oddHours ∧
      (∀ day, ∀ r ∈ oddHours.rangesFor day.weekday, r.Usable day) ∧
      ∃ found, Openings.between oddHours berlin [] [booked] earliest latest = .ok found := by
  have hread : Template.read .standard {} oddlyWritten = .ok oddHours := by decide +kernel
  have hnear : berlin.rules.NearUtc := by decide +kernel
  have hbooked : ∀ b ∈ [booked], ∃ stop, b.stop = .ok stop := by
    intro b hb
    rw [List.mem_singleton.1 hb]
    exact ⟨eleven, by decide +kernel⟩
  obtain ⟨hranges, -, hfound⟩ := Openings.found_for_accepted (by decide) hread hnear [] hbooked
    (show 2 ≤ earliest.number by decide) (show latest.number + 4 ≤ dayCount by decide)
  exact ⟨by decide, by decide, hread, hranges, hfound⟩

end Practice
end Appointments
