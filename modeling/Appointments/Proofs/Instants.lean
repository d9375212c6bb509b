-- Instants, intervals, days and spans by their counts: when a shift stays
-- within the calendar, and where it leads.
import Appointments.Interval
import Appointments.Proofs.Outcomes
import Appointments.Time.Zone
namespace Appointments

/-! ## Instants -/

/-- The count of an instant of the calendar. -/
def InCalendar (n : Int) : Prop := 0 ≤ n ∧ n < dayCount * Micros.day

namespace Instant

theorem le_iff {a b : Instant} : a ≤ b ↔ a.micros ≤ b.micros := Iff.rfl

theorem lt_iff {a b : Instant} : a < b ↔ a.micros < b.micros := Iff.rfl

theorem inCalendar (t : Instant) : InCalendar t.micros := by
  have := t.micros_lt
  unfold InCalendar
  omega

theorem ofMicros_eq_ok {n : Int} {t : Instant} : ofMicros n = .ok t ↔ (t.micros : Int) = n := by
  have hlt := t.micros_lt
  unfold ofMicros
  constructor
  · intro h
    split at h
    · split at h
      · cases h
        dsimp only
        omega
      · cases h
    · cases h
  · rintro rfl
    simp [hlt]

theorem ofMicros_isOk {n : Int} (h : InCalendar n) : ∃ t, ofMicros n = .ok t := by
  obtain ⟨hzero, hlt⟩ := h
  refine ⟨⟨n.toNat, by omega⟩, ofMicros_eq_ok.2 ?_⟩
  dsimp only
  omega

theorem ofMicros_eq_error {n : Int} (h : ¬ InCalendar n) : ofMicros n = .error .outOfRange := by
  unfold InCalendar at h
  unfold ofMicros
  split
  · rw [if_neg (by omega)]
  · rfl

theorem shift_eq_ok {a b : Instant} {n : Int} :
    a.shift n = .ok b ↔ (b.micros : Int) = a.micros + n := ofMicros_eq_ok

theorem shift_isOk {a : Instant} {n : Int} (h : InCalendar (a.micros + n)) :
    ∃ b, a.shift n = .ok b := ofMicros_isOk h

theorem shift_eq_error {a : Instant} {n : Int} (h : ¬ InCalendar (a.micros + n)) :
    a.shift n = .error .outOfRange := ofMicros_eq_error h

theorem ext_micros {a b : Instant} (h : (a.micros : Int) = b.micros) : a = b :=
  Instant.ext (Int.ofNat_inj.1 h)

theorem later_micros (a b : Instant) : (a.later b).micros = max a.micros b.micros := by
  unfold later
  split
  · rename_i h
    rw [le_iff] at h
    omega
  · rename_i h
    rw [le_iff] at h
    omega

theorem microsTo_micros (a b : Instant) : a.microsTo b = b.micros - a.micros := rfl

theorem ofDay_micros (d : Day) : (ofDay d).micros = d.number * Micros.day := rfl

end Instant

theorem Interval.ext_micros {a b : Interval} (hstart : a.start.micros = b.start.micros)
    (hstop : a.stop.micros = b.stop.micros) : a = b := by
  cases a
  cases b
  rw [Interval.mk.injEq]
  exact ⟨Instant.ext hstart, Instant.ext hstop⟩

/-! ## Spans -/

theorem Micros.day_eq : Micros.day = 86400000000 := rfl

theorem Micros.minute_eq : Micros.minute = 60000000 := rfl

theorem Span.ofMicros_isOk {n : Int} (h : n.natAbs ≤ maxSpanDays * Micros.day) :
    ∃ s, ofMicros n = .ok s := by
  have hdays : (Micros.wholeDays n).natAbs ≤ maxSpanDays := by
    unfold Micros.wholeDays
    rw [Int.fdiv_eq_ediv_of_nonneg _ (Int.natCast_nonneg _)]
    rw [Micros.day_eq] at h ⊢
    unfold maxSpanDays at h ⊢
    omega
  exact ⟨⟨n, hdays⟩, by unfold ofMicros; rw [dif_pos hdays]⟩

theorem Span.micros_of_ofMinutes {n : Int} {s : Span} (h : ofMinutes n = .ok s) :
    s.micros = n * Micros.minute := micros_of_ofMicros h

/-- Lengths of slots and pauses are spans. -/
theorem Span.ofMinutes_isOk {n : Int} (hzero : 0 ≤ n) (hle : n ≤ 1440) :
    ∃ s, ofMinutes n = .ok s := by
  apply ofMicros_isOk
  rw [Micros.minute_eq, Micros.day_eq]
  unfold maxSpanDays
  omega

/-- What lies between two instants of the calendar is a span. -/
theorem Span.ofMinutes_isOk_of_stop {n : Int} {start stop : Instant}
    (h : (stop.micros : Int) = start.micros + n * Micros.minute) :
    ∃ s, ofMinutes n = .ok s := by
  have hstart := start.inCalendar
  have hstop := stop.inCalendar
  apply ofMicros_isOk
  unfold InCalendar at hstart hstop
  unfold dayCount at hstart hstop
  unfold maxSpanDays
  omega

/-! ## Days -/

namespace Day

theorem le_iff {a b : Day} : a ≤ b ↔ a.number ≤ b.number := Iff.rfl

theorem ofNumber?_eq_some {n : Int} {d : Day} : ofNumber? n = some d ↔ (d.number : Int) = n := by
  have hlt := d.number_lt
  unfold ofNumber?
  constructor
  · intro h
    split at h
    · split at h
      · cases h
        dsimp only
        omega
      · cases h
    · cases h
  · rintro rfl
    simp [hlt]

theorem shift_eq_ok {d e : Day} {n : Int} :
    d.shift n = .ok e ↔ (e.number : Int) = d.number + n := by
  rw [← ofNumber?_eq_some]
  unfold shift
  cases ofNumber? (d.number + n) <;> simp

theorem shift_isOk {d : Day} {n : Int} (hzero : 0 ≤ d.number + n) (hlt : d.number + n < dayCount) :
    ∃ e, d.shift n = .ok e := by
  refine ⟨⟨(d.number + n).toNat, by omega⟩, shift_eq_ok.2 ?_⟩
  dsimp only
  omega

theorem mem_run {d e : Day} {count : Nat} :
    e ∈ d.run count ↔ d.number ≤ e.number ∧ e.number < d.number + count := by
  induction count generalizing d with
  | zero =>
    unfold run
    simp
  | succ count ih =>
    have hlt := e.number_lt
    unfold run
    rw [List.mem_cons]
    split
    · rw [ih, Day.ext_iff]
      dsimp only
      omega
    · rw [Day.ext_iff]
      simp
      omega

theorem mem_upTo {first last d : Day} : d ∈ first.upTo last ↔ first ≤ d ∧ d ≤ last := by
  unfold upTo
  rw [mem_run, le_iff, le_iff]
  omega

end Day
end Appointments
