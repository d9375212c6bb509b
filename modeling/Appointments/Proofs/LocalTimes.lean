-- Local times and the instants they mean: none for a time that the clocks
-- skip, the one at which they show it, and which of the two for a time that
-- they show twice.
import Appointments.Proofs.ZoneClocks
import Appointments.Time.Registry
import Mathlib.Data.List.Chain
namespace Appointments

/-! ## Transitions far apart -/

/-- The next transition comes at least two days later. -/
def Transition.Apart (x y : Transition) : Prop := x.start + 2 * Micros.day ≤ y.start

instance : DecidableRel Transition.Apart := fun x y =>
  inferInstanceAs (Decidable (x.start + 2 * Micros.day ≤ y.start))

/-- The period before each transition, with the one after it. -/
def Period.changes (current : Period) : List Transition → List (Period × Period)
  | [] => []
  | x :: rest => (current, x.period) :: changes x.period rest

theorem Period.inForce_of_lt {current : Period} {transitions : List Transition} {t : Int}
    (h : ∀ x ∈ transitions.head?, t < x.start) : current.inForce transitions t = current := by
  cases transitions with
  | nil => rfl
  | cons x rest =>
    have hx := h x rfl
    unfold inForce
    rw [if_neg (by omega)]

/-- In the course of two days there is at most one transition. -/
theorem Period.one_change {current : Period} {transitions : List Transition}
    (h : transitions.IsChain Transition.Apart) {early late : Int}
    (hnear : late ≤ early + 2 * Micros.day) :
    ∃ start before after,
      (before = after ∨ (before, after) ∈ current.changes transitions) ∧
      ∀ t, early ≤ t → t ≤ late →
        current.inForce transitions t = if start ≤ t then after else before := by
  induction transitions generalizing current with
  | nil => exact ⟨early, current, current, .inl rfl, fun t _ _ => by simp [inForce]⟩
  | cons x rest ih =>
    rw [List.isChain_cons] at h
    obtain ⟨hnext, hrest⟩ := h
    by_cases hx : x.start ≤ early
    · obtain ⟨start, before, after, hchange, hforce⟩ := @ih x.period hrest
      refine ⟨start, before, after, hchange.imp_right (List.mem_cons_of_mem _), ?_⟩
      intro t ht hle
      unfold inForce
      rw [if_pos (by omega)]
      exact hforce t ht hle
    · refine ⟨x.start, current, x.period, .inr List.mem_cons_self, ?_⟩
      intro t ht hle
      have hforce : x.period.inForce rest t = x.period := by
        apply inForce_of_lt
        intro y hy
        have hapart := hnext y hy
        unfold Transition.Apart at hapart
        omega
      unfold inForce
      rw [hforce]

namespace ZoneRules

/-- The transitions of a zone are at least two days apart. -/
def Spaced : ZoneRules → Prop
  | .fixed _ => True
  | .table _ transitions => transitions.IsChain Transition.Apart

instance (z : ZoneRules) : Decidable z.Spaced :=
  match z with
  | .fixed _ => inferInstanceAs (Decidable True)
  | .table _ transitions => inferInstanceAs (Decidable (transitions.IsChain Transition.Apart))

/-- The periods that follow one another in a zone. -/
def changes : ZoneRules → List (Period × Period)
  | .fixed _ => []
  | .table first transitions => first.changes transitions

/-- From a day before a reading, taken as if it were in UTC, to a day after it
there is at most one transition. -/
theorem Spaced.one_change {z : ZoneRules} (h : z.Spaced) (w : WallClock) :
    ∃ start before after, (before = after ∨ (before, after) ∈ z.changes) ∧
      ∀ t, (w.micros : Int) - Micros.day ≤ t → t ≤ w.micros + Micros.day →
        z.periodAt t = if start ≤ t then after else before := by
  cases z with
  | fixed offset => exact ⟨0, _, _, .inl rfl, fun t _ _ => (ite_self _).symm⟩
  | table first transitions => exact Period.one_change h (by omega)

/-! ## Readings that the clocks show -/

/-- An instant at which the clocks show a reading is close to the reading, taken
as if it were in UTC. -/
theorem shown_near {z : ZoneRules} (hz : z.NearUtc) {w : WallClock} {t : Instant}
    (h : z.reading t = .ok w) :
    (w.micros : Int) - Micros.day ≤ t.micros ∧ (t.micros : Int) ≤ w.micros + Micros.day := by
  have hoffset := hz.offsetAt t.micros
  rw [reading_eq_ok, clockAt] at h
  omega

/-- Clocks with the same offset do not show the same twice. -/
theorem eq_of_periodAt_eq {z : ZoneRules} {w : WallClock} {a b : Instant}
    (ha : z.reading a = .ok w) (hb : z.reading b = .ok w)
    (h : z.periodAt a.micros = z.periodAt b.micros) : a = b := by
  rw [reading_eq_ok, clockAt, offsetAt] at ha hb
  rw [h] at ha
  apply Instant.ext_micros
  omega

/-- A probe that meets the period of an instant finds this instant. -/
theorem candidate_eq_some {z : ZoneRules} {w : WallClock} {ahead : Int} {t : Instant}
    (hshown : z.reading t = .ok w)
    (hperiod : z.periodAt (w.micros + ahead) = z.periodAt t.micros)
    {r : Option Instant} (h : z.candidate w ahead = .ok r) : r = some t := by
  obtain ⟨near, hnear, h⟩ := bind_eq_ok.1 h
  obtain ⟨s, hs, h⟩ := bind_eq_ok.1 h
  obtain ⟨back, hback, h⟩ := bind_eq_ok.1 h
  have hclock := reading_eq_ok.1 hshown
  rw [Instant.shift_eq_ok] at hnear hs
  rw [hnear, hperiod] at hs
  unfold clockAt offsetAt at hclock
  obtain rfl : s = t := by
    apply Instant.ext_micros
    omega
  rw [hshown] at hback
  cases hback
  simpa using (pure_eq_ok.1 h).symm

/-- One of the two probes finds an instant at which the clocks show the
reading: what lies between the probes is at most one transition. -/
theorem probe_finds {z : ZoneRules} (hspaced : z.Spaced) (hz : z.NearUtc) {w : WallClock}
    {t : Instant} (hshown : z.reading t = .ok w) {before after : Option Instant}
    (hbefore : z.candidate w (-Int.ofNat Micros.day) = .ok before)
    (hafter : z.candidate w (Int.ofNat Micros.day) = .ok after) :
    before = some t ∨ after = some t := by
  obtain ⟨start, p, q, -, hperiod⟩ := hspaced.one_change w
  obtain ⟨hearly, hlate⟩ := shown_near hz hshown
  by_cases hstart : start ≤ t.micros
  · right
    apply candidate_eq_some hshown _ hafter
    rw [Int.ofNat_eq_natCast, hperiod _ (by omega) (by omega), hperiod _ hearly hlate,
      if_pos (by omega), if_pos hstart]
  · left
    apply candidate_eq_some hshown _ hbefore
    rw [Int.ofNat_eq_natCast, ← Int.sub_eq_add_neg, hperiod _ (by omega) (by omega),
      hperiod _ hearly hlate, if_neg (by omega), if_neg hstart]

/-- A reading has no instant only if the clocks never show it. -/
theorem ne_of_resolve_eq_none {z : ZoneRules} (hspaced : z.Spaced) (hz : z.NearUtc)
    {w : WallClock} (h : z.resolve w = .ok none) (t : Instant) : z.reading t ≠ .ok w := by
  intro hshown
  cases z with
  | fixed offset =>
    obtain ⟨s, -, heq⟩ := map_eq_ok.1 h
    cases heq
  | table first transitions =>
    obtain ⟨before, hbefore, h⟩ := bind_eq_ok.1 h
    obtain ⟨after, hafter, h⟩ := bind_eq_ok.1 h
    have h := pure_eq_ok.1 h
    rcases probe_finds hspaced hz hshown hbefore hafter with rfl | rfl
    · cases after <;> cases h
    · cases before <;> cases h

/-! ## Readings out of the calendar -/

/-- A computation fails only by leaving the calendar. -/
def OnlyLeaves (x : Except CalendarFault α) : Prop := ∀ why, x = .error why → why = .outOfRange

theorem onlyLeaves_shift (t : Instant) (n : Int) : OnlyLeaves (t.shift n) := by
  intro why h
  by_cases hin : InCalendar (t.micros + n)
  · obtain ⟨s, hs⟩ := Instant.shift_isOk hin
    rw [hs] at h
    cases h
  · rw [Instant.shift_eq_error hin] at h
    exact (Except.error.inj h).symm

theorem onlyLeaves_bind {x : Except CalendarFault α} {f : α → Except CalendarFault β}
    (hx : OnlyLeaves x) (hf : ∀ a, OnlyLeaves (f a)) : OnlyLeaves (x >>= f) := by
  cases x with
  | ok a => exact hf a
  | error why' =>
    rintro why ⟨⟩
    exact hx _ rfl

theorem onlyLeaves_candidate (z : ZoneRules) (w : WallClock) (ahead : Int) :
    OnlyLeaves (z.candidate w ahead) := by
  unfold candidate
  refine onlyLeaves_bind (onlyLeaves_shift _ _) fun near => ?_
  refine onlyLeaves_bind (onlyLeaves_shift _ _) fun t => ?_
  exact onlyLeaves_bind (onlyLeaves_shift _ _) fun _ => nofun

theorem onlyLeaves_resolve (z : ZoneRules) (w : WallClock) : OnlyLeaves (z.resolve w) := by
  cases z with
  | fixed offset =>
    show OnlyLeaves (some <$> w.shift (-offset))
    rw [map_eq_pure_bind]
    exact onlyLeaves_bind (onlyLeaves_shift _ _) fun _ => nofun
  | table first transitions =>
    refine onlyLeaves_bind (onlyLeaves_candidate _ _ _) fun _ => ?_
    exact onlyLeaves_bind (onlyLeaves_candidate _ _ _) fun _ => nofun

/-! ## Readings that are shown twice -/

/-- Between two instants at which the clocks show the same, they are set back. -/
theorem set_back {z : ZoneRules} (hspaced : z.Spaced) (hz : z.NearUtc) {w : WallClock}
    {a b : Instant} (ha : z.reading a = .ok w) (hb : z.reading b = .ok w) (hlt : a < b) :
    (z.periodAt b.micros).offset < (z.periodAt a.micros).offset ∧
      (z.periodAt a.micros, z.periodAt b.micros) ∈ z.changes := by
  obtain ⟨start, p, q, hchange, hperiod⟩ := hspaced.one_change w
  obtain ⟨haEarly, haLate⟩ := shown_near hz ha
  obtain ⟨hbEarly, hbLate⟩ := shown_near hz hb
  have hne : z.periodAt a.micros ≠ z.periodAt b.micros := by
    intro heq
    have := eq_of_periodAt_eq ha hb heq
    rw [this, Instant.lt_iff] at hlt
    omega
  rw [Instant.lt_iff] at hlt
  have hclockA := reading_eq_ok.1 ha
  have hclockB := reading_eq_ok.1 hb
  unfold clockAt offsetAt at hclockA hclockB
  refine ⟨by omega, ?_⟩
  rw [hperiod _ haEarly haLate, hperiod _ hbEarly hbLate] at hne ⊢
  split at hne <;> split at hne
  · contradiction
  · omega
  · rename_i hbefore hafter
    rw [if_neg hbefore, if_pos hafter]
    exact hchange.resolve_left hne
  · contradiction

/-- Of two instants the later one is chosen, unless only the later one is in
daylight saving time. -/
theorem choose_of_lt {z : ZoneRules} {a b : Instant} (h : a < b) :
    z.choose a b =
      if (z.periodAt b.micros).daylight ∧ ¬ (z.periodAt a.micros).daylight then a else b := by
  have hlater : a.later b = b := by
    apply Instant.ext
    rw [Instant.lt_iff] at h
    rw [Instant.later_micros]
    omega
  unfold choose
  cases (z.periodAt a.micros).daylight <;> cases (z.periodAt b.micros).daylight <;> simp [hlater]

theorem choose_comm (z : ZoneRules) (a b : Instant) : z.choose a b = z.choose b a := by
  have hlater : a.later b = b.later a := by
    apply Instant.ext
    rw [Instant.later_micros, Instant.later_micros, max_comm]
  unfold choose
  cases (z.periodAt a.micros).daylight <;> cases (z.periodAt b.micros).daylight <;>
    simp [hlater]

/-- A reading that is shown twice means one of the two instants. -/
theorem resolve_of_twice {z : ZoneRules} (hspaced : z.Spaced) (hz : z.NearUtc) {w : WallClock}
    {a b : Instant} (ha : z.reading a = .ok w) (hb : z.reading b = .ok w) (hlt : a < b)
    {r : Option Instant} (h : z.resolve w = .ok r) : r = some (z.choose a b) := by
  have hne : a ≠ b := by
    rintro rfl
    rw [Instant.lt_iff] at hlt
    omega
  cases z with
  | fixed offset => exact absurd (eq_of_periodAt_eq ha hb rfl) hne
  | table first transitions =>
    obtain ⟨before, hbefore, h⟩ := bind_eq_ok.1 h
    obtain ⟨after, hafter, h⟩ := bind_eq_ok.1 h
    rw [← pure_eq_ok.1 h]
    rcases probe_finds hspaced hz ha hbefore hafter with rfl | rfl
    · rcases probe_finds hspaced hz hb hbefore hafter with heq | rfl
      · exact absurd (Option.some.inj heq) hne
      · simp [hne]
    · rcases probe_finds hspaced hz hb hbefore hafter with rfl | heq
      · simp [hne.symm, choose_comm _ a b]
      · exact absurd (Option.some.inj heq) hne

/-- At no third instant do the clocks show a reading that they show twice. -/
theorem shown_at_most_twice {z : ZoneRules} (hspaced : z.Spaced) (hz : z.NearUtc) {w : WallClock}
    {a b t : Instant} (ha : z.reading a = .ok w) (hb : z.reading b = .ok w) (hne : a ≠ b)
    (ht : z.reading t = .ok w) : t = a ∨ t = b := by
  obtain ⟨start, p, q, -, hperiod⟩ := hspaced.one_change w
  have hside : ∀ {x y : Instant}, z.reading x = .ok w → z.reading y = .ok w →
      (start ≤ x.micros ↔ start ≤ y.micros) → x = y := by
    intro x y hx hy hiff
    obtain ⟨hxEarly, hxLate⟩ := shown_near hz hx
    obtain ⟨hyEarly, hyLate⟩ := shown_near hz hy
    apply eq_of_periodAt_eq hx hy
    rw [hperiod _ hxEarly hxLate, hperiod _ hyEarly hyLate, if_congr hiff rfl rfl]
  have hapart := mt (hside ha hb) hne
  by_cases hstart : start ≤ t.micros ↔ start ≤ a.micros
  · exact .inl (hside ht ha hstart)
  · exact .inr (hside ht hb (by omega))

/-- Wherever the clocks are set back, daylight saving time has been in force
before or is not in force after. -/
def StandardAfter (z : ZoneRules) : Prop :=
  ∀ c ∈ z.changes, c.2.offset < c.1.offset → c.2.daylight → c.1.daylight

instance (z : ZoneRules) : Decidable z.StandardAfter :=
  inferInstanceAs (Decidable (∀ c ∈ z.changes, c.2.offset < c.1.offset → c.2.daylight → c.1.daylight))

end ZoneRules

/-! ## Times of day -/

namespace Zone

/-- The clocks show a time of a day, in minutes after midnight. -/
def Shows (z : Zone) (t : Instant) (day : Day) (minutes : Nat) : Prop :=
  ∃ w, z.rules.reading t = .ok w ∧ w.day = day ∧ w.sinceMidnight = minutes * Micros.minute

theorem time_of_day_iff {day : Day} {minutes : Nat} (h : minutes < 1440) {w : WallClock} :
    w.day = day ∧ w.sinceMidnight = minutes * Micros.minute ↔
      (w.micros : Int) = day.number * Micros.day + minutes * Micros.minute := by
  rw [Day.ext_iff]
  unfold Instant.day Instant.sinceMidnight
  dsimp only
  rw [Micros.day_eq, Micros.minute_eq]
  omega

/-- A time of day is one reading, by which its instant is looked for. -/
theorem exists_reading (z : Zone) (day : Day) {minutes : Nat} (h : minutes < 1440) :
    ∃ w, z.instantAt day minutes = z.rules.resolve w ∧
      ∀ t, z.Shows t day minutes ↔ z.rules.reading t = .ok w := by
  obtain ⟨w, hw, hmicros⟩ := readingOf_isOk day h
  refine ⟨w, ?_, fun t => ⟨?_, fun ht => ⟨w, ht, (time_of_day_iff h).2 hmicros⟩⟩⟩
  · unfold instantAt
    rw [hw, ok_bind]
  · rintro ⟨v, hv, htime⟩
    rw [hv, Instant.ext_micros (((time_of_day_iff h).1 htime).trans hmicros.symm)]

/-- No time of a day is shown at three instants. -/
theorem shown_at_most_twice {z : Zone} (hspaced : z.rules.Spaced) (hz : z.rules.NearUtc) {day : Day}
    {minutes : Nat} (hminutes : minutes < 1440) {a b t : Instant} (ha : z.Shows a day minutes)
    (hb : z.Shows b day minutes) (hne : a ≠ b) (ht : z.Shows t day minutes) : t = a ∨ t = b := by
  obtain ⟨w, -, hshows⟩ := exists_reading z day hminutes
  rw [hshows] at ha hb ht
  exact ZoneRules.shown_at_most_twice hspaced hz ha hb hne ht

/-- A time of day is skipped, and has no instant, or its instant is one at
which the clocks show it. Only on the first two and on the last two days of the
calendar, what is computed on the way may leave it. -/
theorem instants_are_exact {z : Zone} (hspaced : z.rules.Spaced) (hz : z.rules.NearUtc) (day : Day)
    {minutes : Nat} (hminutes : minutes < 1440) :
    (2 ≤ day.number → day.number + 3 ≤ dayCount → ∃ r, z.instantAt day minutes = .ok r) ∧
      (∀ why, z.instantAt day minutes = .error why → why = .outOfRange) ∧
      ∀ r, z.instantAt day minutes = .ok r →
        (r = none ↔ ∀ t, ¬ z.Shows t day minutes) ∧ ∀ t, r = some t → z.Shows t day minutes := by
  obtain ⟨w, hinstant, hshows⟩ := exists_reading z day hminutes
  refine ⟨instantAt_isOk hz hminutes, hinstant ▸ ZoneRules.onlyLeaves_resolve _ w, fun r h => ?_⟩
  rw [hinstant] at h
  have hreads : ∀ t, r = some t → z.Shows t day minutes := by
    rintro t rfl
    exact (hshows t).2 (ZoneRules.reading_of_resolve h)
  refine ⟨⟨?_, fun hnever => ?_⟩, hreads⟩
  · rintro rfl t ht
    exact ZoneRules.ne_of_resolve_eq_none hspaced hz h t ((hshows t).1 ht)
  · cases r with
    | none => rfl
    | some t => exact absurd (hreads t rfl) (hnever t)

/-- On the island where the clocks go forward from two to half past two, they
skip a quarter past two. -/
theorem quarter_past_two_is_skipped :
    let island : Zone := ⟨"Australia/Lord_Howe", ZoneTable.lordHowe⟩
    let day : Day := ⟨739892, by decide⟩
    island.rules.Spaced ∧ island.rules.NearUtc ∧ island.instantAt day 135 = .ok none ∧
      ∀ t, ¬ island.Shows t day 135 := by
  intro island day
  have hspaced : island.rules.Spaced := by decide +kernel
  have hnear : island.rules.NearUtc := by decide +kernel
  have hskipped : island.instantAt day 135 = .ok none := by
    apply toOption_eq_some.1
    decide +kernel
  exact ⟨hspaced, hnear, hskipped,
    ((instants_are_exact hspaced hnear day (by decide)).2.2 none hskipped).1.1 rfl⟩

/-- Of two instants at which the clocks show a time of day, it means the later
one, unless daylight saving time is in force at the later one only. -/
theorem later_unless_only_it_is_daylight {z : Zone} (hspaced : z.rules.Spaced)
    (hz : z.rules.NearUtc) {day : Day} {minutes : Nat} (hminutes : minutes < 1440) {a b : Instant}
    (ha : z.Shows a day minutes) (hb : z.Shows b day minutes) (hlt : a < b) :
    (2 ≤ day.number → day.number + 3 ≤ dayCount → ∃ r, z.instantAt day minutes = .ok r) ∧
      ∀ r, z.instantAt day minutes = .ok r →
        r = some (if (z.rules.periodAt b.micros).daylight ∧ ¬ (z.rules.periodAt a.micros).daylight
          then a else b) := by
  refine ⟨instantAt_isOk hz hminutes, fun r h => ?_⟩
  obtain ⟨w, hinstant, hshows⟩ := exists_reading z day hminutes
  rw [hinstant] at h
  rw [ZoneRules.resolve_of_twice hspaced hz ((hshows a).1 ha) ((hshows b).1 hb) hlt h,
    ZoneRules.choose_of_lt hlt]

theorem shows_of_clockAt {z : Zone} {t : Instant} {day : Day} {minutes : Nat}
    (hminutes : minutes < 1440)
    (h : z.rules.clockAt t.micros = day.number * Micros.day + minutes * Micros.minute) :
    z.Shows t day minutes := by
  obtain ⟨w, hw, hmicros⟩ := readingOf_isOk day hminutes
  exact ⟨w, ZoneRules.reading_eq_ok.2 (hmicros.trans h.symm), (time_of_day_iff hminutes).2 hmicros⟩

end Zone

namespace Practice

def london : Zone := ⟨"Europe/London", ZoneTable.london⟩

def dublin : Zone := ⟨"Europe/Dublin", ZoneTable.dublin⟩

/-- The day on which the clocks of both go back from two to one. -/
def longNight : Day := ⟨739913, by decide⟩

/-- Half past one, before the clocks go back. -/
def halfPastOne : Instant := ⟨739913 * Micros.day + 30 * Micros.minute, by decide⟩

/-- Half past one, after the clocks have gone back. -/
def halfPastOneAgain : Instant := ⟨739913 * Micros.day + 90 * Micros.minute, by decide⟩

theorem london_shows_both : london.Shows halfPastOne longNight 90 ∧
    london.Shows halfPastOneAgain longNight 90 :=
  ⟨Zone.shows_of_clockAt (by decide) (by decide +kernel),
    Zone.shows_of_clockAt (by decide) (by decide +kernel)⟩

theorem dublin_shows_both : dublin.Shows halfPastOne longNight 90 ∧
    dublin.Shows halfPastOneAgain longNight 90 :=
  ⟨Zone.shows_of_clockAt (by decide) (by decide +kernel),
    Zone.shows_of_clockAt (by decide) (by decide +kernel)⟩

/-- In London, half past one means the later of the two. -/
theorem half_past_one_is_later_in_london :
    halfPastOne < halfPastOneAgain ∧
      london.instantAt longNight 90 = .ok (some halfPastOneAgain) := by
  have hlt : halfPastOne < halfPastOneAgain := by decide
  obtain ⟨hfirst, hagain⟩ := london_shows_both
  obtain ⟨hok, hmeans⟩ := Zone.later_unless_only_it_is_daylight (z := london) (by decide +kernel)
    (by decide +kernel) (by decide) hfirst hagain hlt
  obtain ⟨r, hr⟩ := hok (by decide) (by decide)
  refine ⟨hlt, hr.trans ?_⟩
  rw [hmeans r hr, if_neg (by decide +kernel)]

/-- In Dublin, half past one means the earlier of the two instants: the zone
calls its winter time daylight saving time. -/
theorem half_past_one_is_earlier_in_dublin :
    halfPastOne < halfPastOneAgain ∧
      (∀ t, dublin.Shows t longNight 90 ↔ t = halfPastOne ∨ t = halfPastOneAgain) ∧
      dublin.instantAt longNight 90 = .ok (some halfPastOne) := by
  obtain ⟨hfirst, hagain⟩ := dublin_shows_both
  refine ⟨by decide, fun t => ⟨fun ht => ?_, ?_⟩, ?_⟩
  · exact Zone.shown_at_most_twice (by decide +kernel) (by decide +kernel) (by decide) hfirst hagain
      (by decide) ht
  · rintro (rfl | rfl)
    · exact hfirst
    · exact hagain
  · apply toOption_eq_some.1
    decide +kernel

end Practice

namespace Zone

/-- Where the clocks are never set back into daylight saving time, a time of
day that they show twice means the later instant. -/
theorem later_of_standardAfter {z : Zone} (hspaced : z.rules.Spaced) (hz : z.rules.NearUtc)
    (hstandard : z.rules.StandardAfter) {day : Day} {minutes : Nat} (hminutes : minutes < 1440)
    {a b : Instant} (ha : z.Shows a day minutes) (hb : z.Shows b day minutes) (hlt : a < b)
    {r : Option Instant} (h : z.instantAt day minutes = .ok r) : r = some b := by
  obtain ⟨w, hinstant, hshows⟩ := exists_reading z day hminutes
  rw [hinstant] at h
  rw [hshows] at ha hb
  obtain ⟨hback, hchange⟩ := ZoneRules.set_back hspaced hz ha hb hlt
  rw [ZoneRules.resolve_of_twice hspaced hz ha hb hlt h, ZoneRules.choose_of_lt hlt, if_neg]
  rintro ⟨hafter, hbefore⟩
  exact hbefore (hstandard _ hchange hback hafter)

end Zone

/-! ## The zones of the excerpt -/

namespace Registry

theorem spaced_of_mem : ∀ z ∈ standard.zones, z.rules.Spaced ∧ z.rules.NearUtc := by
  decide +kernel

theorem standardAfter_of_mem : ∀ z ∈ standard.zones, z.name ≠ "Europe/Dublin" →
    z.name ≠ "Africa/Casablanca" → z.rules.StandardAfter := by
  decide +kernel

/-- In all zones of the excerpt but two, a time of day that the clocks show
twice means the later instant. -/
theorem later_of_mem {z : Zone} (hz : z ∈ standard.zones) (hdublin : z.name ≠ "Europe/Dublin")
    (hcasablanca : z.name ≠ "Africa/Casablanca") {day : Day} {minutes : Nat}
    (hminutes : minutes < 1440) {a b : Instant} (ha : z.Shows a day minutes)
    (hb : z.Shows b day minutes) (hlt : a < b) {r : Option Instant}
    (h : z.instantAt day minutes = .ok r) : r = some b := by
  obtain ⟨hspaced, hnear⟩ := spaced_of_mem z hz
  exact Zone.later_of_standardAfter hspaced hnear
    (standardAfter_of_mem z hz hdublin hcasablanca) hminutes ha hb hlt h

end Registry
end Appointments
