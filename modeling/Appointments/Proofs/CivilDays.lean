-- Days by their year, month and day of the month. Each day of the calendar is
-- the day of its own civil date, over leap years and the ends of centuries.
import Appointments.Time.Day
import Mathlib.Algebra.Ring.Nat
namespace Appointments

namespace Calendar

/-! ## Years -/

/-- The days before a year, which is the last but so many of its four years, of
its century and of its four centuries. -/
theorem daysBeforeYear_of_parts {cycles centuries fours ones : Nat} (hcenturies : centuries ≤ 3)
    (hfours : fours ≤ 24) (hones : ones ≤ 3) :
    daysBeforeYear (400 * cycles + 100 * centuries + 4 * fours + ones + 1) =
      146097 * cycles + 36524 * centuries + 1461 * fours + 365 * ones := by
  unfold daysBeforeYear
  dsimp only
  omega

/-- The last year of every four is a leap year, but the last one of a century
only where the century is the last of every four. -/
theorem isLeap_of_parts {cycles centuries fours ones : Nat} (hcenturies : centuries ≤ 3)
    (hfours : fours ≤ 24) (hones : ones ≤ 3) :
    isLeap (400 * cycles + 100 * centuries + 4 * fours + ones + 1) = true ↔
      ones = 3 ∧ (fours = 24 → centuries = 3) := by
  unfold isLeap
  simp only [Bool.and_eq_true, Bool.or_eq_true, beq_iff_eq, bne_iff_ne]
  omega

/-- The days of a year. -/
def daysOfYear (year : Nat) : Nat := if isLeap year then 366 else 365

/-- A day number is the number of the days before its year and of the days of
the year before it. -/
theorem splitYears_spec {number year n : Nat} (h : splitYears number = (year, n)) :
    1 ≤ year ∧ daysBeforeYear year + n = number ∧ n < daysOfYear year := by
  unfold splitYears at h
  dsimp only at h
  obtain ⟨rfl, rfl⟩ := Prod.mk.inj h
  generalize hcycles : number / 146097 = cycles
  generalize hn : number % 146097 = inCycle
  generalize hcenturies : min (inCycle / 36524) 3 = centuries
  generalize hm : inCycle - 36524 * centuries = inCentury
  generalize hfours : inCentury / 1461 = fours
  generalize hk : inCentury % 1461 = inFour
  generalize hones : min (inFour / 365) 3 = ones
  have hcenturies_le : centuries ≤ 3 := by omega
  have hfours_le : fours ≤ 24 := by omega
  have hones_le : ones ≤ 3 := by omega
  refine ⟨by omega, ?_, ?_⟩
  · rw [daysBeforeYear_of_parts hcenturies_le hfours_le hones_le]
    omega
  · unfold daysOfYear
    split
    · omega
    · rename_i hleap
      rw [isLeap_of_parts hcenturies_le hfours_le hones_le] at hleap
      omega

theorem isLeap_iff (year : Nat) : isLeap year = true ↔ 4 ∣ year ∧ (100 ∣ year → 400 ∣ year) := by
  unfold isLeap
  simp only [Bool.and_eq_true, Bool.or_eq_true, beq_iff_eq, bne_iff_ne]
  omega

theorem daysBeforeYear_succ {year : Nat} (h : 1 ≤ year) :
    daysBeforeYear (year + 1) = daysBeforeYear year + daysOfYear year := by
  obtain ⟨y, rfl⟩ := Nat.exists_eq_add_of_le' h
  -- Each quotient goes up by one where the year is a multiple of its divisor.
  unfold daysBeforeYear daysOfYear
  simp only [isLeap_iff, Nat.add_sub_cancel, Nat.succ_div]
  split <;> split <;> split <;> split <;> omega

theorem daysBeforeYear_mono {year later : Nat} (h : year ≤ later) :
    daysBeforeYear year ≤ daysBeforeYear later := by
  induction h with
  | refl => exact Nat.le_refl _
  | @step later hle ih =>
    rcases Nat.eq_zero_or_pos later with rfl | hpos
    · exact ih
    · rw [Nat.succ_eq_add_one, daysBeforeYear_succ hpos]
      exact Nat.le_trans ih (Nat.le_add_right ..)

/-- Days of two different years have different numbers. -/
theorem splitYears_daysBeforeYear {year n : Nat} (hyear : 1 ≤ year) (hn : n < daysOfYear year) :
    splitYears (daysBeforeYear year + n) = (year, n) := by
  obtain ⟨year', n', hsplit⟩ : ∃ year' n', splitYears (daysBeforeYear year + n) = (year', n') :=
    ⟨_, _, rfl⟩
  obtain ⟨hyear', hsum, hn'⟩ := splitYears_spec hsplit
  have hnext := daysBeforeYear_succ hyear
  have hnext' := daysBeforeYear_succ hyear'
  have hyears : year' = year := by
    rcases Nat.lt_trichotomy year' year with hlt | heq | hgt
    · have := daysBeforeYear_mono (show year' + 1 ≤ year from hlt)
      omega
    · exact heq
    · have := daysBeforeYear_mono (show year + 1 ≤ year' from hgt)
      omega
  subst hyears
  have hdays : n' = n := by omega
  rw [hsplit, hdays]

/-- The calendar ends with the year 9999. -/
theorem year_le_of_daysBeforeYear {year : Nat} (h : daysBeforeYear year < dayCount) :
    year ≤ 9999 := by
  unfold daysBeforeYear dayCount at h
  dsimp only at h
  omega

/-! ## Months -/

/-- A day of the year lies in one of the months, after the days of the months
before it. -/
theorem splitMonths_spec {lengths : List Nat} {first d month day : Nat}
    (h : splitMonths lengths first d = (month, day)) (hd : d < lengths.sum) :
    first ≤ month ∧ 1 ≤ day ∧ (∃ len, lengths[month - first]? = some len ∧ day ≤ len) ∧
      (lengths.take (month - first)).sum + day = d + 1 := by
  induction lengths generalizing first d with
  | nil => simp at hd
  | cons len rest ih =>
    unfold splitMonths at h
    split at h
    · rename_i hlt
      cases h
      rw [Nat.sub_self]
      exact ⟨Nat.le_refl _, by omega, ⟨len, rfl, hlt⟩, by simp⟩
    · rw [List.sum_cons] at hd
      obtain ⟨hmonth, hleast, ⟨len', hget, hle⟩, hsum⟩ := ih h (by omega)
      have hnext : month - first = month - (first + 1) + 1 := by omega
      rw [hnext, List.take_succ_cons, List.sum_cons, List.getElem?_cons_succ]
      exact ⟨by omega, hleast, ⟨len', hget, hle⟩, by omega⟩

/-- The days of the months before it and the day of the month lead to a month. -/
theorem splitMonths_take {lengths : List Nat} {first before d len : Nat}
    (hlen : lengths[before]? = some len) (hd : d < len) :
    splitMonths lengths first ((lengths.take before).sum + d) = (first + before, d + 1) := by
  induction lengths generalizing first before with
  | nil => cases hlen
  | cons length rest ih =>
    unfold splitMonths
    cases before with
    | zero =>
      cases hlen
      simp [hd]
    | succ before =>
      rw [List.take_succ_cons, List.sum_cons, if_neg (by omega), Nat.add_assoc,
        Nat.add_sub_cancel_left, ih hlen, Nat.add_assoc, Nat.add_comm 1]

theorem sum_take_lt {lengths : List Nat} {before d len : Nat}
    (hlen : lengths[before]? = some len) (hd : d < len) :
    (lengths.take before).sum + d < lengths.sum := by
  obtain ⟨hlt, rfl⟩ := List.getElem?_eq_some_iff.1 hlen
  have hsum : (lengths.take before).sum + (lengths.drop before).sum = lengths.sum := by
    rw [← List.sum_append, List.take_append_drop]
  rw [List.drop_eq_getElem_cons hlt, List.sum_cons] at hsum
  omega

theorem monthLengths_sum (year : Nat) : (monthLengths (isLeap year)).sum = daysOfYear year := by
  unfold daysOfYear
  cases isLeap year <;> rfl

theorem lt_of_monthLengths {leap : Bool} {i len : Nat} (h : (monthLengths leap)[i]? = some len) :
    i < 12 := by
  have hlen : (monthLengths leap).length = 12 := rfl
  rw [← hlen]
  exact (List.getElem?_eq_some_iff.1 h).1

/-! ## Dates -/

/-- February has a day more in every fourth year, but of the years that end a
century only in every fourth. -/
def daysOfMonth (year month : Nat) : Nat :=
  if month = 2 then (if 4 ∣ year ∧ (100 ∣ year → 400 ∣ year) then 29 else 28)
  else if month ∈ [4, 6, 9, 11] then 30
  else 31

theorem daysOfMonth_le (year month : Nat) : daysOfMonth year month ≤ 31 := by
  unfold daysOfMonth
  split
  · split <;> decide
  · split <;> decide

/-- A year, a month and a day of the month that the calendar has. -/
structure IsDate (year month day : Nat) : Prop where
  year_pos : 1 ≤ year
  year_le : year ≤ 9999
  month_pos : 1 ≤ month
  month_le : month ≤ 12
  day_pos : 1 ≤ day
  day_le : day ≤ daysOfMonth year month

theorem monthLengths_getElem? {month : Nat} (year : Nat) (hpos : 1 ≤ month) (hle : month ≤ 12) :
    (monthLengths (isLeap year))[month - 1]? = some (daysOfMonth year month) := by
  have hall : ∀ leap, ∀ before < 12, (monthLengths leap)[before]? =
      some (if before + 1 = 2 then (if leap = true then 29 else 28)
        else if before + 1 ∈ [4, 6, 9, 11] then 30 else 31) := by decide
  have hmonth : month - 1 + 1 = month := by omega
  rw [hall (isLeap year) (month - 1) (by omega), hmonth]
  unfold daysOfMonth
  simp only [isLeap_iff]

end Calendar

/-! ## Civil dates -/

namespace Day

open Calendar

def year (d : Day) : Nat := d.civil.1

def month (d : Day) : Nat := d.civil.2.1

def dayOfMonth (d : Day) : Nat := d.civil.2.2

variable {year month day : Nat} {d : Day}

/-- A date leads to the day that has as many days before it. -/
theorem ofCivil?_of_number (h : IsDate year month day)
    (hnumber : daysBeforeYear year + ((monthLengths (isLeap year)).take (month - 1)).sum + day =
      d.number + 1) : ofCivil? year month day = some d := by
  have hbefore : daysBeforeYear year + ((monthLengths (isLeap year)).take (month - 1)).sum +
      day - 1 = d.number := by omega
  unfold ofCivil?
  dsimp only
  rw [monthLengths_getElem? year h.month_pos h.month_le]
  dsimp only
  rw [if_pos ⟨h.year_pos, h.year_le, h.month_pos, h.day_pos, h.day_le⟩, ← List.sum_eq_foldl,
    hbefore]
  unfold ofNumber?
  simp [d.number_lt]

/-- The civil date of a day is one of the calendar, and leads back to it. -/
theorem civil_spec (d : Day) :
    (1 ≤ d.year ∧ d.year ≤ 9999) ∧ (1 ≤ d.month ∧ d.month ≤ 12) ∧
      (1 ≤ d.dayOfMonth ∧ d.dayOfMonth ≤ 31) ∧
      ofCivil? d.year d.month d.dayOfMonth = some d := by
  obtain ⟨year, n, hyears⟩ : ∃ year n, splitYears d.number = (year, n) := ⟨_, _, rfl⟩
  obtain ⟨month, day, hmonths⟩ : ∃ month day,
      splitMonths (monthLengths (isLeap year)) 1 n = (month, day) := ⟨_, _, rfl⟩
  have hcivil : d.civil = (year, month, day) := by
    unfold civil
    rw [hyears]
    dsimp only
    rw [hmonths]
  obtain ⟨hyear, hdays, hn⟩ := splitYears_spec hyears
  rw [← monthLengths_sum] at hn
  obtain ⟨hmonth, hleast, ⟨len, hget, hle⟩, hsum⟩ := splitMonths_spec hmonths hn
  have hbefore := lt_of_monthLengths hget
  have hmonth_le : month ≤ 12 := by omega
  have hd := d.number_lt
  have hyear_le : year ≤ 9999 := year_le_of_daysBeforeYear (by omega)
  rw [monthLengths_getElem? year hmonth hmonth_le] at hget
  cases hget
  unfold Day.year Day.month dayOfMonth
  rw [hcivil]
  exact ⟨⟨hyear, hyear_le⟩, ⟨hmonth, hmonth_le⟩, ⟨hleast, Nat.le_trans hle (daysOfMonth_le ..)⟩,
    ofCivil?_of_number ⟨hyear, hyear_le, hmonth, hmonth_le, hleast, hle⟩ (by dsimp only; omega)⟩

/-- Each date of the calendar is the date of a day. -/
theorem civil_of_isDate (h : IsDate year month day) :
    ∃ d, ofCivil? year month day = some d ∧ d.civil = (year, month, day) := by
  have hlen := monthLengths_getElem? year h.month_pos h.month_le
  have hday : day - 1 < daysOfMonth year month := by
    have := h.day_pos
    have := h.day_le
    omega
  obtain ⟨n, hn⟩ : ∃ n, ((monthLengths (isLeap year)).take (month - 1)).sum + (day - 1) = n :=
    ⟨_, rfl⟩
  have hlt : n < daysOfYear year := by
    rw [← monthLengths_sum, ← hn]
    exact sum_take_lt hlen hday
  have hcount : daysBeforeYear year + n < dayCount := by
    have hnext := daysBeforeYear_succ h.year_pos
    have hlast := daysBeforeYear_mono (Nat.succ_le_succ h.year_le)
    have hend : daysBeforeYear (Nat.succ 9999) = dayCount := by decide
    rw [Nat.succ_eq_add_one year, hnext] at hlast
    omega
  refine ⟨⟨daysBeforeYear year + n, hcount⟩, ofCivil?_of_number h ?_, ?_⟩
  · have := h.day_pos
    dsimp only
    omega
  · have hmonth : 1 + (month - 1) = month := Nat.add_sub_cancel' h.month_pos
    unfold civil
    dsimp only
    rw [splitYears_daysBeforeYear h.year_pos hlt]
    dsimp only
    rw [← hn, splitMonths_take hlen hday, hmonth, Nat.sub_add_cancel h.day_pos]

theorem isDate_of_ofCivil? (h : ofCivil? year month day = some d) : IsDate year month day := by
  unfold ofCivil? at h
  dsimp only at h
  split at h
  · rename_i len hlen
    split at h
    · rename_i hdate
      obtain ⟨hyear, hyear_le, hmonth, hday, hday_le⟩ := hdate
      have hmonth_le : month ≤ 12 := by
        have := lt_of_monthLengths hlen
        omega
      rw [monthLengths_getElem? year hmonth hmonth_le] at hlen
      cases hlen
      exact ⟨hyear, hyear_le, hmonth, hmonth_le, hday, hday_le⟩
    · cases h
  · cases h

/-- A year, a month and a day of the month are of a day just where they are its
date. -/
theorem ofCivil?_eq_some :
    ofCivil? year month day = some d ↔ IsDate year month day ∧ d.civil = (year, month, day) := by
  constructor
  · intro h
    have hdate := isDate_of_ofCivil? h
    obtain ⟨e, he, hcivil⟩ := civil_of_isDate hdate
    rw [h] at he
    cases he
    exact ⟨hdate, hcivil⟩
  · rintro ⟨-, hcivil⟩
    obtain ⟨-, -, -, hback⟩ := d.civil_spec
    unfold Day.year Day.month dayOfMonth at hback
    rwa [hcivil] at hback

/-- The first of January of the year 1000. -/
example : (⟨364877, by decide⟩ : Day).civil = (1000, 1, 1) := by decide

end Day
end Appointments
