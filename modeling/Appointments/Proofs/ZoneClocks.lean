-- What the clocks of a zone show: how far from UTC, how far back they go in
-- the course of time, and what they show at an instant that is found for a
-- reading.
import Appointments.Proofs.Instants
namespace Appointments

/-! ## Offsets -/

namespace ZoneRules

/-- All periods of a zone. -/
def periods : ZoneRules → List Period
  | .fixed offset => [⟨offset, false⟩]
  | .table first transitions => first :: transitions.map (·.period)

/-- The clocks are always less than a day before or behind UTC. -/
def NearUtc (z : ZoneRules) : Prop :=
  ∀ p ∈ z.periods, -(Micros.day : Int) < p.offset ∧ p.offset < Micros.day

instance (z : ZoneRules) : Decidable z.NearUtc :=
  inferInstanceAs (Decidable (∀ p ∈ z.periods, -(Micros.day : Int) < p.offset ∧ p.offset < Micros.day))

theorem inForce_mem (current : Period) (transitions : List Transition) (t : Int) :
    current.inForce transitions t ∈ current :: transitions.map (·.period) := by
  induction transitions generalizing current with
  | nil => simp [Period.inForce]
  | cons x rest ih =>
    unfold Period.inForce
    split
    · exact List.mem_cons_of_mem _ (ih x.period)
    · simp

theorem periodAt_mem (z : ZoneRules) (t : Int) : z.periodAt t ∈ z.periods := by
  cases z with
  | fixed offset => simp [periodAt, periods]
  | table first transitions => exact inForce_mem first transitions t

/-- The offset from UTC at an instant. -/
def offsetAt (z : ZoneRules) (t : Int) : Int := (z.periodAt t).offset

theorem NearUtc.offsetAt {z : ZoneRules} (h : z.NearUtc) (t : Int) :
    -(Micros.day : Int) < z.offsetAt t ∧ z.offsetAt t < Micros.day := h _ (z.periodAt_mem t)

/-! ## Clocks in the course of time -/

/-- The count of what the clocks show at an instant. -/
def clockAt (z : ZoneRules) (t : Int) : Int := t + z.offsetAt t

/-- From the period in force on, each transition comes at least two days
after the one before it and changes the offset by less than a day. -/
def Steady (current : Period) : List Transition → Prop
  | [] => True
  | x :: rest =>
    (x.period.offset - current.offset).natAbs < Micros.day ∧
      (∀ y ∈ rest.head?, x.start + 2 * Micros.day ≤ y.start) ∧ Steady x.period rest

/-- The transitions of a table are at least two days apart, and each of them
changes the offset by less than a day. -/
def Calm : ZoneRules → Prop
  | .fixed _ => True
  | .table first transitions => Steady first transitions

/-- In the course of a period and the ones after it, the clocks never show
less than at its start. -/
theorem clock_le_of_steady {current : Period} {transitions : List Transition} {start t : Int}
    (h : Steady current transitions)
    (hfirst : ∀ x ∈ transitions.head?, start + 2 * Micros.day ≤ x.start) (ht : start ≤ t) :
    start + current.offset ≤ t + (current.inForce transitions t).offset := by
  induction transitions generalizing current start with
  | nil =>
    unfold Period.inForce
    omega
  | cons x rest ih =>
    obtain ⟨hjump, hnext, hrest⟩ := h
    have hx := hfirst x rfl
    unfold Period.inForce
    split
    · rename_i hxt
      have hlater := ih hrest hnext hxt
      rw [Micros.day_eq] at hjump hx
      omega
    · omega

theorem clock_lt_of_steady {current : Period} {transitions : List Transition} {s t : Int}
    (h : Steady current transitions) (hst : s ≤ t) :
    s + (current.inForce transitions s).offset <
      t + (current.inForce transitions t).offset + Micros.day := by
  have hday : (0 : Int) < Micros.day := by decide
  induction transitions generalizing current with
  | nil =>
    unfold Period.inForce
    omega
  | cons x rest ih =>
    obtain ⟨hjump, hnext, hrest⟩ := h
    unfold Period.inForce
    by_cases hs : x.start ≤ s
    · rw [if_pos hs, if_pos (by omega)]
      exact ih hrest
    · rw [if_neg hs]
      by_cases ht : x.start ≤ t
      · rw [if_pos ht]
        have hlater := clock_le_of_steady hrest hnext ht
        omega
      · rw [if_neg ht]
        omega

/-- As time goes on, the clocks never go back by a whole day. -/
theorem Calm.clock_lt {z : ZoneRules} (h : z.Calm) {s t : Int} (hst : s ≤ t) :
    z.clockAt s < z.clockAt t + Micros.day := by
  cases z with
  | fixed offset =>
    have hday : (0 : Int) < Micros.day := by decide
    simp only [clockAt, offsetAt, periodAt]
    omega
  | table first transitions => exact clock_lt_of_steady h hst

/-! ## Readings -/

theorem reading_eq_ok {z : ZoneRules} {t : Instant} {w : WallClock} :
    z.reading t = .ok w ↔ (w.micros : Int) = z.clockAt t.micros := Instant.shift_eq_ok

theorem candidate_eq_ok {z : ZoneRules} {w : WallClock} {ahead : Int} {t : Instant}
    (h : z.candidate w ahead = .ok (some t)) : z.reading t = .ok w := by
  obtain ⟨near, -, h⟩ := bind_eq_ok.1 h
  obtain ⟨s, -, h⟩ := bind_eq_ok.1 h
  obtain ⟨back, hback, h⟩ := bind_eq_ok.1 h
  have h := pure_eq_ok.1 h
  split at h
  · rename_i heq
    cases h
    rw [hback, heq]
  · cases h

theorem choose_eq (z : ZoneRules) (a b : Instant) : z.choose a b = a ∨ z.choose a b = b := by
  unfold choose
  split
  · exact .inl rfl
  · exact .inr rfl
  · unfold Instant.later
    split
    · exact .inr rfl
    · exact .inl rfl

/-- The clocks show the reading at the instant that is found for it. -/
theorem reading_of_resolve {z : ZoneRules} {w : WallClock} {t : Instant}
    (h : z.resolve w = .ok (some t)) : z.reading t = .ok w := by
  cases z with
  | fixed offset =>
    obtain ⟨s, hs, heq⟩ := map_eq_ok.1 h
    cases heq
    rw [Instant.shift_eq_ok] at hs
    rw [reading_eq_ok]
    simp only [clockAt, offsetAt, periodAt]
    omega
  | table first transitions =>
    obtain ⟨before, hbefore, h⟩ := bind_eq_ok.1 h
    obtain ⟨after, hafter, h⟩ := bind_eq_ok.1 h
    have h := pure_eq_ok.1 h
    cases before with
    | none =>
      cases after with
      | none => cases h
      | some b =>
        cases h
        exact candidate_eq_ok hafter
    | some a =>
      cases after with
      | none =>
        cases h
        exact candidate_eq_ok hbefore
      | some b =>
        dsimp only at h
        split at h
        · cases h
          exact candidate_eq_ok hbefore
        · rcases choose_eq (.table first transitions) a b with heq | heq
          · rw [heq] at h
            cases h
            exact candidate_eq_ok hbefore
          · rw [heq] at h
            cases h
            exact candidate_eq_ok hafter

/-! ## Readings away from the edges of the calendar -/

theorem candidate_isOk {z : ZoneRules} (hz : z.NearUtc) {w : WallClock}
    (hlow : 2 * Micros.day ≤ w.micros) (hhigh : w.micros + 2 * Micros.day ≤ dayCount * Micros.day)
    (ahead : Int) (hahead : ahead.natAbs ≤ Micros.day) : ∃ r, z.candidate w ahead = .ok r := by
  have hday : (0 : Int) < Micros.day := by decide
  obtain ⟨near, hnear⟩ : ∃ near, w.shift ahead = .ok near := by
    apply Instant.shift_isOk
    unfold InCalendar
    omega
  have hnearOffset := hz.offsetAt near.micros
  obtain ⟨t, ht⟩ : ∃ t, w.shift (-(z.offsetAt near.micros)) = .ok t := by
    apply Instant.shift_isOk
    unfold InCalendar
    omega
  have htMicros := Instant.shift_eq_ok.1 ht
  have htOffset := hz.offsetAt t.micros
  obtain ⟨back, hback⟩ : ∃ back, z.reading t = .ok back := by
    apply Instant.shift_isOk
    unfold InCalendar
    unfold offsetAt at htOffset
    omega
  exact ⟨_, bind_eq_ok.2 ⟨near, hnear, bind_eq_ok.2 ⟨t, ht, bind_eq_ok.2 ⟨back, hback, rfl⟩⟩⟩⟩

theorem resolve_isOk {z : ZoneRules} (hz : z.NearUtc) {w : WallClock}
    (hlow : 2 * Micros.day ≤ w.micros) (hhigh : w.micros + 2 * Micros.day ≤ dayCount * Micros.day) :
    ∃ r, z.resolve w = .ok r := by
  cases z with
  | fixed offset =>
    have hoffset := hz ⟨offset, false⟩ (by simp [periods])
    obtain ⟨t, ht⟩ : ∃ t, w.shift (-offset) = .ok t := by
      apply Instant.shift_isOk
      unfold InCalendar
      dsimp only at hoffset
      omega
    exact ⟨some t, map_eq_ok.2 ⟨t, ht, rfl⟩⟩
  | table first transitions =>
    obtain ⟨before, hbefore⟩ := candidate_isOk hz hlow hhigh (-Int.ofNat Micros.day) (by simp)
    obtain ⟨after, hafter⟩ := candidate_isOk hz hlow hhigh (Int.ofNat Micros.day) (by simp)
    exact ⟨_, bind_eq_ok.2 ⟨before, hbefore, bind_eq_ok.2 ⟨after, hafter, rfl⟩⟩⟩

end ZoneRules

/-! ## Times of day -/

namespace Zone

theorem readingOf_isOk (day : Day) {minutes : Nat} (h : minutes < 1440) :
    ∃ w, readingOf day minutes = .ok w ∧
      (w.micros : Int) = day.number * Micros.day + minutes * Micros.minute := by
  have hlt := day.number_lt
  obtain ⟨w, hw⟩ : ∃ w, (Instant.ofDay day).shift (minutes * Micros.minute) = .ok w := by
    apply Instant.shift_isOk
    unfold InCalendar
    rw [Instant.ofDay_micros, Micros.day_eq, Micros.minute_eq]
    omega
  refine ⟨w, ?_, ?_⟩
  · unfold readingOf
    rw [if_pos (by omega)]
    exact hw
  · rw [Instant.shift_eq_ok.1 hw, Instant.ofDay_micros]
    simp

/-- At the instant of a time of day, the clocks show that time of that day. -/
theorem clockAt_of_instantAt {z : Zone} {day : Day} {minutes : Nat} {t : Instant}
    (hminutes : minutes < 1440) (h : z.instantAt day minutes = .ok (some t)) :
    z.rules.clockAt t.micros = day.number * Micros.day + minutes * Micros.minute := by
  obtain ⟨w, hw, hmicros⟩ := readingOf_isOk day hminutes
  unfold instantAt at h
  rw [hw, ok_bind] at h
  rw [← hmicros, ZoneRules.reading_eq_ok.1 (ZoneRules.reading_of_resolve h)]

/-- On days away from the edges of the calendar, times of day have instants or
are skipped. -/
theorem instantAt_isOk {z : Zone} (hz : z.rules.NearUtc) {day : Day} {minutes : Nat}
    (hminutes : minutes < 1440) (hlow : 2 ≤ day.number) (hhigh : day.number + 3 ≤ dayCount) :
    ∃ r, z.instantAt day minutes = .ok r := by
  obtain ⟨w, hw, hmicros⟩ := readingOf_isOk day hminutes
  unfold instantAt
  rw [hw, ok_bind]
  rw [Micros.day_eq, Micros.minute_eq] at hmicros
  apply ZoneRules.resolve_isOk hz
  · rw [Micros.day_eq]
    omega
  · rw [Micros.day_eq]
    omega

end Zone
end Appointments
