-- Working time in order: later local times mean later instants, although the
-- clocks go back now and then, and so neither the working ranges of a provider
-- nor the free slots cut from them overlap one another.
import Appointments.Proofs.AcceptedHours
import Appointments.Proofs.FreeSlots
import Appointments.Proofs.LocalTimes
namespace Appointments

/-! ## Clocks that go back -/

namespace ZoneRules

/-- Where the clocks go back past a reading, the earlier period is in force from
a day before it, and the later one until a day after it. -/
theorem periods_of_set_back {z : ZoneRules} (hspaced : z.Spaced) (hz : z.NearUtc) {a b : Int}
    (hab : a ≤ b) (hback : z.clockAt b < z.clockAt a) {w : WallClock}
    (hlow : z.clockAt b ≤ w.micros) (hhigh : w.micros ≤ z.clockAt a) :
    (∀ t, (w.micros : Int) - Micros.day ≤ t → t ≤ w.micros - z.offsetAt a →
      z.periodAt t = z.periodAt a) ∧
      ∀ t, (w.micros : Int) - z.offsetAt b ≤ t → t ≤ w.micros + Micros.day →
        z.periodAt t = z.periodAt b := by
  obtain ⟨start, before, after, -, hperiod⟩ := hspaced.one_change w
  have haOffset := hz.offsetAt a
  have hbOffset := hz.offsetAt b
  have hne : z.offsetAt a ≠ z.offsetAt b := by
    unfold clockAt at hback
    omega
  unfold clockAt at hlow hhigh
  have ha := hperiod a (by omega) (by omega)
  have hb := hperiod b (by omega) (by omega)
  -- One change only lies between the two, and they are on its two sides.
  have hsides : a < start ∧ start ≤ b := by
    unfold offsetAt at hne
    rw [ha, hb] at hne
    split at hne <;> split at hne <;> omega
  rw [if_neg (by omega)] at ha
  rw [if_pos hsides.2] at hb
  rw [ha, hb]
  constructor
  · intro t hearly hlate
    rw [hperiod t hearly (by omega), if_neg (by omega)]
  · intro t hearly hlate
    rw [hperiod t (by omega) hlate, if_pos (by omega)]

theorem exists_of_candidate {z : ZoneRules} {w : WallClock} {ahead : Int} {r : Option Instant}
    (h : z.candidate w ahead = .ok r) :
    ∃ t : Instant, (t.micros : Int) = w.micros - z.offsetAt (w.micros + ahead) := by
  obtain ⟨near, hnear, h⟩ := bind_eq_ok.1 h
  obtain ⟨t, ht, -⟩ := bind_eq_ok.1 h
  rw [Instant.shift_eq_ok] at hnear ht
  rw [hnear] at ht
  exact ⟨t, ht⟩

/-- A reading is resolved only if both periods near it lead into the calendar. -/
theorem exists_of_resolve {z : ZoneRules} {w : WallClock} {r : Option Instant}
    (h : z.resolve w = .ok r) :
    (∃ t : Instant, (t.micros : Int) = w.micros - z.offsetAt (w.micros - Micros.day)) ∧
      ∃ t : Instant, (t.micros : Int) = w.micros - z.offsetAt (w.micros + Micros.day) := by
  cases z with
  | fixed offset =>
    obtain ⟨t, ht, -⟩ := map_eq_ok.1 h
    exact ⟨⟨t, Instant.shift_eq_ok.1 ht⟩, t, Instant.shift_eq_ok.1 ht⟩
  | table first transitions =>
    obtain ⟨before, hbefore, h⟩ := bind_eq_ok.1 h
    obtain ⟨after, hafter, -⟩ := bind_eq_ok.1 h
    exact ⟨exists_of_candidate hbefore, exists_of_candidate hafter⟩

/-- All readings past which the clocks go back mean instants of the same
period. -/
theorem resolve_of_set_back {z : ZoneRules} (hspaced : z.Spaced) (hz : z.NearUtc) {a b : Int}
    (hab : a ≤ b) (hback : z.clockAt b < z.clockAt a) {w : WallClock}
    (hlow : z.clockAt b ≤ w.micros) (hhigh : w.micros ≤ z.clockAt a) {t : Instant}
    (h : z.resolve w = .ok (some t)) :
    (t.micros : Int) = w.micros -
      if (z.periodAt b).daylight ∧ ¬ (z.periodAt a).daylight then z.offsetAt a
      else z.offsetAt b := by
  obtain ⟨hbefore, hafter⟩ := periods_of_set_back hspaced hz hab hback hlow hhigh
  have haOffset := hz.offsetAt a
  have hbOffset := hz.offsetAt b
  obtain ⟨⟨early, hearly⟩, ⟨late, hlate⟩⟩ := exists_of_resolve h
  unfold clockAt offsetAt at *
  rw [hbefore _ (by omega) (by omega)] at hearly
  rw [hafter _ (by omega) (by omega)] at hlate
  have hearlyPeriod := hbefore early.micros (by omega) (by omega)
  have hlatePeriod := hafter late.micros (by omega) (by omega)
  have hshown : z.reading early = .ok w := by
    rw [reading_eq_ok, clockAt, offsetAt, hearlyPeriod]
    omega
  have hagain : z.reading late = .ok w := by
    rw [reading_eq_ok, clockAt, offsetAt, hlatePeriod]
    omega
  have hlt : early < late := by
    rw [Instant.lt_iff]
    omega
  have hchosen := Option.some.inj (resolve_of_twice hspaced hz hshown hagain hlt h)
  rw [choose_of_lt hlt, hearlyPeriod, hlatePeriod] at hchosen
  rw [hchosen]
  split
  · exact hearly
  · exact hlate

/-- Of two readings the later one means the later instant. -/
theorem resolve_lt {z : ZoneRules} (hspaced : z.Spaced) (hz : z.NearUtc) {v w : WallClock}
    (hlt : v < w) {s t : Instant} (hs : z.resolve v = .ok (some s))
    (ht : z.resolve w = .ok (some t)) : s < t := by
  have hclockS := reading_eq_ok.1 (reading_of_resolve hs)
  have hclockT := reading_eq_ok.1 (reading_of_resolve ht)
  rw [Instant.lt_iff] at hlt ⊢
  by_contra hnot
  -- Else the clocks go back past both readings.
  have hts : (t.micros : Int) ≤ s.micros := by omega
  have hback : z.clockAt s.micros < z.clockAt t.micros := by omega
  have hs := resolve_of_set_back hspaced hz hts hback (by omega) (by omega) hs
  have ht := resolve_of_set_back hspaced hz hts hback (by omega) (by omega) ht
  omega

end ZoneRules

/-! ## Times of day -/

namespace Zone

theorem reading_of_instantAt {z : Zone} {d : Day} {m : Int} {r : Option Instant}
    (h : z.instantAt d m = .ok r) :
    (0 ≤ m ∧ m < 1440) ∧ ∃ w : WallClock,
      (w.micros : Int) = d.number * Micros.day + m * Micros.minute ∧ z.rules.resolve w = .ok r := by
  obtain ⟨w, hw, h⟩ := bind_eq_ok.1 h
  unfold readingOf at hw
  split at hw
  · rename_i hm
    rw [Instant.shift_eq_ok, Instant.ofDay_micros, Int.natCast_mul] at hw
    exact ⟨hm, w, hw, h⟩
  · cases hw

/-- Later times, of the same day or of later days, mean later instants. -/
theorem instantAt_lt {z : Zone} (hspaced : z.rules.Spaced) (hz : z.rules.NearUtc) {d e : Day}
    {m n : Int} (hlt : d < e ∨ d = e ∧ m < n) {s t : Instant}
    (hs : z.instantAt d m = .ok (some s)) (ht : z.instantAt e n = .ok (some t)) : s < t := by
  obtain ⟨hm, v, hv, hs⟩ := reading_of_instantAt hs
  obtain ⟨hn, w, hw, ht⟩ := reading_of_instantAt ht
  refine ZoneRules.resolve_lt hspaced hz ?_ hs ht
  have hday : d.number < e.number ∨ d.number = e.number ∧ m < n :=
    hlt.imp_right fun ⟨heq, hmn⟩ => ⟨congrArg Day.number heq, hmn⟩
  rw [Micros.day_eq, Micros.minute_eq] at hv hw
  rw [Instant.lt_iff]
  omega

theorem instantAt_le {z : Zone} (hspaced : z.rules.Spaced) (hz : z.rules.NearUtc) {d : Day}
    {m n : Int} (hle : m ≤ n) {s t : Instant} (hs : z.instantAt d m = .ok (some s))
    (ht : z.instantAt d n = .ok (some t)) : s ≤ t := by
  rcases Int.lt_or_eq_of_le hle with hlt | rfl
  · exact Nat.le_of_lt (instantAt_lt hspaced hz (.inr ⟨rfl, hlt⟩) hs ht)
  · rw [hs] at ht
    cases ht
    exact Nat.le_refl _

end Zone

theorem Day.pairwise_run (d : Day) (count : Nat) : (d.run count).Pairwise (· < ·) := by
  induction count generalizing d with
  | zero => exact List.Pairwise.nil
  | succ count ih =>
    unfold run
    split
    · refine List.pairwise_cons.2 ⟨fun e he => ?_, ih _⟩
      exact (mem_run.1 he).1
    · exact List.pairwise_singleton _ _

/-! ## Weekly hours in order -/

namespace Template

/-- What validation grants: slots and pauses of lengths within the bounds, and
the ranges of each day in order. -/
structure Valid (t : Template) : Prop extends t.Measured where
  inOrder : ∀ d ∈ t.weekly, TimeRange.InOrder d.ranges

theorem valid_initial {defaults : SlotSettings} (h : defaults.check = .ok ()) (provider : String) :
    (initial defaults provider).Valid :=
  ⟨measured_initial h provider, nofun⟩

/-- Templates that are read are valid, and so are those that are changed, as a
change reads all fields again. -/
theorem valid_of_readFields {zones : Registry} {defaults : SlotSettings}
    {fields : List (String × Value)} {t : Template} (hdefaults : defaults.check = .ok ())
    (h : readFields zones defaults fields = .ok t) : t.Valid := by
  refine ⟨measured_of_readFields hdefaults h, fun d hd => ?_⟩
  obtain ⟨-, hweekly⟩ := readFields_eq_ok.1 h
  rcases FieldName.of_withDefault hweekly with heq | ⟨v, hv⟩
  · rw [heq] at hd
    cases hd
  · obtain ⟨vs, -, days, hread, hfound⟩ := readWeekly_eq_ok.1 hv
    obtain ⟨u, -, hu⟩ := exists_of_forall₂ hread.flip (mem_of_arrange hfound hd)
    exact DayHours.inOrder_of_read hu

theorem Valid.rangesFor_inOrder {t : Template} (ht : t.Valid) (weekday : Nat) :
    TimeRange.InOrder (t.rangesFor weekday) := by
  unfold rangesFor
  split
  · rename_i d hd
    exact ht.inOrder d (List.mem_of_find?_eq_some hd)
  · exact List.Pairwise.nil

end Template

/-! ## Working time -/

/-- Intervals that are not empty, each of which ends before those after it
start. -/
structure Interval.Successive (items : List Interval) : Prop where
  nonempty : ∀ a ∈ items, a.start < a.stop
  inTurn : items.Pairwise fun a b => a.stop ≤ b.start

/-- Two intervals out of successive ones are the same, or one of them ends
before the other one starts. -/
theorem Interval.Successive.eq_or {items : List Interval} (h : Successive items) {a b : Interval}
    (ha : a ∈ items) (hb : b ∈ items) : a = b ∨ a.stop ≤ b.start ∨ b.stop ≤ a.start := by
  by_cases heq : a = b
  · exact .inl heq
  · have hsymm : Std.Symm fun a b : Interval => a.stop ≤ b.start ∨ b.stop ≤ a.start :=
      ⟨fun _ _ => Or.symm⟩
    have hpairs : items.Pairwise fun a b => a.stop ≤ b.start ∨ b.stop ≤ a.start :=
      h.inTurn.imp Or.inl
    exact .inr (hpairs.forall ha hb heq)

/-- Working time of the one ends before that of the other starts. -/
def Occurrence.Before (x y : Except CalendarFault Occurrence) : Prop :=
  ∀ a b, x = .ok (.working a) → y = .ok (.working b) → a.stop ≤ b.start

theorem eq_map_of_mapM {ε α : Type} {xs : List (Except ε α)} {ys : List α}
    (h : xs.mapM (fun x => x) = .ok ys) : xs = ys.map .ok := by
  rw [mapM_eq_ok] at h
  induction h with
  | nil => rfl
  | cons hx _ ih => rw [List.map_cons, hx, ih]

namespace Openings

section
variable {t : Template} {zone : Zone} {first last : Day}

theorem pairwise_occurrences (ht : t.Valid) (hspaced : zone.rules.Spaced)
    (hz : zone.rules.NearUtc) (hdays : ¬ (first ≤ last ∧ last.isLast = true)) :
    (t.occurrences zone first last).Pairwise Occurrence.Before := by
  unfold Template.occurrences
  dsimp only
  rw [if_neg hdays, List.pairwise_flatMap]
  constructor
  · intro day _
    rw [List.pairwise_map]
    refine (ht.rangesFor_inOrder day.weekday).imp fun hle a b ha hb => ?_
    obtain ⟨-, hstop, -⟩ := ofRange_eq_working.1 ha
    obtain ⟨hstart, -, -⟩ := ofRange_eq_working.1 hb
    exact Zone.instantAt_le hspaced hz (Int.ofNat_le.2 hle) hstop hstart
  · refine (Day.pairwise_run first _).imp fun hlt x hx y hy a b ha hb => ?_
    obtain ⟨r, -, rfl⟩ := List.mem_map.1 hx
    obtain ⟨s, -, rfl⟩ := List.mem_map.1 hy
    obtain ⟨-, hstop, -⟩ := ofRange_eq_working.1 ha
    obtain ⟨hstart, -, -⟩ := ofRange_eq_working.1 hb
    exact Nat.le_of_lt (Zone.instantAt_lt hspaced hz (.inl hlt) hstop hstart)

theorem successive_workingTime (ht : t.Valid) (hspaced : zone.rules.Spaced)
    (hz : zone.rules.NearUtc) {working : List Interval}
    (h : t.workingTime zone first last = .ok working) : Interval.Successive working := by
  refine ⟨fun a ha => ?_, ?_⟩
  · obtain ⟨_, -, -, _, -, -, -, hlt⟩ := (mem_workingTime h).1 ha
    exact hlt
  · have hpairs := pairwise_occurrences ht hspaced hz (workingTime_isOk.1 ⟨working, h⟩).1
    obtain ⟨found, hfound, h⟩ := bind_eq_ok.1 h
    obtain rfl := pure_eq_ok.1 h
    rw [eq_map_of_mapM hfound, List.pairwise_map] at hpairs
    rw [List.pairwise_filterMap]
    refine hpairs.imp fun {x y} hbefore a ha b hb => ?_
    cases x with
    | working a' =>
      cases y with
      | working b' =>
        cases ha
        cases hb
        exact hbefore a b rfl rfl
      | _ => cases hb
    | _ => cases ha

/-- No range is dropped whose start and end the clocks show. -/
theorem mem_workingTime_of_shown (hspaced : zone.rules.Spaced) (hz : zone.rules.NearUtc)
    {working : List Interval} (h : t.workingTime zone first last = .ok working) {day : Day}
    (hfirst : first ≤ day) (hlast : day ≤ last) {r : TimeRange} (hr : r ∈ t.rangesFor day.weekday)
    {s e : Instant} (hs : zone.instantAt day r.start.minutes = .ok (some s))
    (he : zone.instantAt day r.stop.minutes = .ok (some e)) : ⟨s, e⟩ ∈ working := by
  have hlt : s < e :=
    Zone.instantAt_lt hspaced hz (.inr ⟨rfl, Int.ofNat_lt.2 r.start_lt⟩) hs he
  exact (mem_workingTime h).2 ⟨day, hfirst, hlast, r, hr, hs, he, hlt⟩

/-! ## Free slots -/

/-- Of two slots that are cut from one interval the earlier one ends before the
other one starts. -/
theorem slots_apart {length pause : Int} (hlength : 0 < length) (hpause : 0 ≤ pause) {k l : Nat}
    (h : k * (length + pause) < l * (length + pause)) :
    k * (length + pause) + length ≤ l * (length + pause) := by
  have hkl : (k : Int) < l := Int.lt_of_mul_lt_mul_right h (by omega)
  have hnext : ((k : Int) + 1) * (length + pause) ≤ l * (length + pause) :=
    Int.mul_le_mul_of_nonneg_right hkl (by omega)
  rw [Int.add_mul] at hnext
  omega

/-- A slot lies in some working time, a whole number of slots and pauses after
its start. -/
theorem cut_of_mem {length pause step : Span} (hm : Measures t length pause step)
    {working busy : List Interval} {candidates : List (List Interval)}
    (hcandidates : working.mapM (fun a => a.slots length pause) = .ok candidates) {x : Interval}
    (hx : x ∈ (ofCandidates busy candidates.flatten).slots) :
    ∃ a ∈ working, x.stop ≤ a.stop ∧
      (x.stop.micros : Int) = x.start.micros + length.micros ∧
      ∃ k : Nat, (x.start.micros : Int) = a.start.micros + k * (length.micros + pause.micros) := by
  rw [mem_ofCandidates] at hx
  obtain ⟨xs, hxs, hx⟩ := List.mem_flatten.1 hx.1
  obtain ⟨a, ha, hslots⟩ := (mem_of_mapM hcandidates).1 hxs
  exact ⟨a, ha, (Interval.mem_slots hm.length_pos hm.pause_nonneg hm.step_eq hslots).1 hx⟩

theorem successive_slots (ht : t.Valid) (hspaced : zone.rules.Spaced) (hz : zone.rules.NearUtc)
    {blackouts : List Blackout} {bookings : List Booking} {found : Openings}
    (h : between t zone blackouts bookings first last = .ok found) :
    Interval.Successive found.slots := by
  obtain ⟨length, pause, step, hm⟩ := exists_measures ht.toMeasured
  unfold between at h
  rw [hm.length_eq, hm.pause_eq, ok_bind, ok_bind] at h
  obtain ⟨working, hworking, h⟩ := bind_eq_ok.1 h
  obtain ⟨busy, -, h⟩ := bind_eq_ok.1 h
  obtain ⟨candidates, hcandidates, h⟩ := bind_eq_ok.1 h
  obtain rfl := pure_eq_ok.1 h
  have hsuccessive := successive_workingTime ht hspaced hz hworking
  have hlength := hm.length_pos
  have hpause := hm.pause_nonneg
  refine ⟨fun x hx => ?_, (pairwise_ofCandidates _ _).imp_of_mem fun {x y} hx hy hprecedes => ?_⟩
  · obtain ⟨_, -, -, hstop, -⟩ := cut_of_mem hm hcandidates hx
    rw [Instant.lt_iff]
    omega
  · obtain ⟨a, ha, hxa, hxStop, k, hk⟩ := cut_of_mem hm hcandidates hx
    obtain ⟨b, hb, hyb, hyStop, l, hl⟩ := cut_of_mem hm hcandidates hy
    have hstart : x.start.micros < y.start.micros := by
      simp only [Interval.Precedes, Instant.lt_iff, Instant.ext_iff] at hprecedes
      omega
    rw [Instant.le_iff] at hxa hyb ⊢
    rcases hsuccessive.eq_or ha hb with rfl | hab | hba
    · have hapart := slots_apart hlength hpause (k := k) (l := l) (by omega)
      omega
    · have hlow : 0 ≤ l * (length.micros + pause.micros) := Int.mul_nonneg (by omega) (by omega)
      rw [Instant.le_iff] at hab
      omega
    · have hlow : 0 ≤ k * (length.micros + pause.micros) := Int.mul_nonneg (by omega) (by omega)
      rw [Instant.le_iff] at hba
      omega

/-- Later local times mean later instants. So working time and free slots do
not overlap themselves, and a range is worked on each day on which the clocks
show its start and its end. Away from the edges of the calendar, both are
found. -/
theorem working_time_never_overlaps (ht : t.Valid) (hspaced : zone.rules.Spaced)
    (hz : zone.rules.NearUtc) (first last : Day) :
    (∀ (d e : Day) (m n : Int), (d < e ∨ d = e ∧ m < n) → ∀ s u,
        zone.instantAt d m = .ok (some s) → zone.instantAt e n = .ok (some u) → s < u) ∧
      (∀ working, t.workingTime zone first last = .ok working →
        Interval.Successive working ∧
          ∀ day, first ≤ day → day ≤ last → ∀ r ∈ t.rangesFor day.weekday, ∀ s e,
            zone.instantAt day r.start.minutes = .ok (some s) →
            zone.instantAt day r.stop.minutes = .ok (some e) → ⟨s, e⟩ ∈ working) ∧
      (∀ blackouts bookings found, between t zone blackouts bookings first last = .ok found →
        Interval.Successive found.slots) ∧
      (2 ≤ first.number → last.number + 4 ≤ dayCount →
        (∃ working, t.workingTime zone first last = .ok working) ∧
          ∀ blackouts bookings,
            (∀ b ∈ bookings, b.status ≠ .cancelled → ∃ x, b.interval = .ok x) →
            ∃ found, between t zone blackouts bookings first last = .ok found) := by
  refine ⟨fun d e m n hlt s u hs hu => ?_, fun working h => ⟨?_, ?_⟩, fun _ _ found h => ?_,
    fun hfirst hlast => ⟨?_, fun blackouts bookings hbookings => ?_⟩⟩
  · exact Zone.instantAt_lt hspaced hz hlt hs hu
  · exact successive_workingTime ht hspaced hz h
  · intro day hfirst hlast r hr s e hs he
    exact mem_workingTime_of_shown hspaced hz h hfirst hlast hr hs he
  · exact successive_slots ht hspaced hz h
  · have hstay : StayInCalendar t zone [] first last :=
      stayInCalendar ht.toMeasured hz (List.forall_mem_nil _) hfirst hlast
    exact workingTime_isOk.2 ⟨hstay.days, hstay.hours⟩
  · exact (between_isOk ht.toMeasured).2 (stayInCalendar ht.toMeasured hz hbookings hfirst hlast)

end
end Openings

namespace Practice

/-- Sunday nights until half past one, and from then on until three. -/
def nightHours : Template where
  provider := "doctor"
  timeZone := "Europe/London"
  slotMinutes := 30
  bufferMinutes := 0
  isActive := true
  weekly := [⟨0, [⟨⟨"00:00", 0, rfl⟩, ⟨"01:30", 90, rfl⟩, by decide⟩,
    ⟨⟨"01:30", 90, rfl⟩, ⟨"03:00", 180, rfl⟩, by decide⟩]⟩]

/-- Eleven in the evening in UTC, when the long night begins in London. -/
def longNightStart : Instant := ⟨739912 * Micros.day + 23 * Micros.hour, by decide⟩

/-- Three in the morning, in London and in UTC. -/
def longNightEnd : Instant := ⟨739913 * Micros.day + 3 * Micros.hour, by decide⟩

/-- In the night in which half past one comes twice, the hour between the two
belongs to the first range only. -/
theorem long_night_is_worked_once :
    nightHours.Valid ∧ london.rules.Spaced ∧ london.rules.NearUtc ∧
      ∃ working found, nightHours.workingTime london longNight longNight = .ok working ∧
        Openings.between nightHours london [] [] longNight longNight = .ok found ∧
        working = [⟨longNightStart, halfPastOneAgain⟩, ⟨halfPastOneAgain, longNightEnd⟩] ∧
        found.slots.length = 8 ∧
        Interval.Successive working ∧ Interval.Successive found.slots := by
  have hvalid : nightHours.Valid :=
    ⟨⟨by decide, by decide, by decide, by decide⟩, by decide⟩
  have hspaced : london.rules.Spaced := by decide +kernel
  have hnear : london.rules.NearUtc := by decide +kernel
  obtain ⟨-, hworking, hslots, hok⟩ :=
    Openings.working_time_never_overlaps hvalid hspaced hnear longNight longNight
  obtain ⟨⟨working, hworkingOk⟩, hfoundOk⟩ := hok (by decide) (by decide)
  obtain ⟨found, hfound⟩ := hfoundOk [] [] (List.forall_mem_nil _)
  have hvalue : nightHours.workingTime london longNight longNight =
      .ok [⟨longNightStart, halfPastOneAgain⟩, ⟨halfPastOneAgain, longNightEnd⟩] := by
    apply toOption_eq_some.1
    decide +kernel
  have hcount : (Openings.between nightHours london [] [] longNight longNight).toOption.map
      (·.slots.length) = some 8 := by decide +kernel
  rw [hfound] at hcount
  rw [hvalue] at hworkingOk
  cases hworkingOk
  exact ⟨hvalid, hspaced, hnear, _, found, hvalue, hfound, rfl, Option.some.inj hcount,
    (hworking _ hvalue).1, hslots [] [] found hfound⟩

end Practice
end Appointments
