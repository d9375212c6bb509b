-- Days as callers write them. A text is read as a day of the calendar just
-- where ten characters spell its date; every other text is refused.
import Appointments.Proofs.Renderings
import Appointments.Request
namespace Appointments

/-- A year, a month and a day of the month in four, two and two digits of
ASCII, with hyphens between them. -/
def Day.written (year month day : Nat) : List Char :=
  Text.digits 10 4 year ++ '-' :: Text.digits 10 2 month ++ '-' :: Text.digits 10 2 day

/-! ## The two readings -/

theorem Stamp.twoAfter?_eq_some {mark : Char} {n : Nat} {cs rest : List Char} :
    twoAfter? mark cs = some (n, rest) ↔
      n < 10 ^ 2 ∧ cs = mark :: (Text.digits 10 2 n ++ rest) := by
  cases cs with
  | nil => simp [twoAfter?]
  | cons c cs =>
    rw [twoAfter?, List.cons.injEq]
    by_cases hmark : c = mark
    · rw [if_pos hmark, Text.takeDigits?_eq_some]
      exact and_congr_right fun _ => (and_iff_right hmark).symm
    · simp [hmark]

namespace Request

open Calendar

variable {d : Day} {cs : List Char}

theorem civilDay?_eq_some :
    civilDay? cs = some d ↔
      ∃ year month n, IsDate year month n ∧ d.civil = (year, month, n) ∧
        cs = Day.written year month n := by
  unfold civilDay? Day.written
  constructor
  · intro h
    obtain ⟨⟨year, afterYear⟩, hyear, hmonths⟩ := Option.bind_eq_some_iff.1 h
    obtain ⟨⟨month, afterMonth⟩, hmonth, hdays⟩ := Option.bind_eq_some_iff.1 hmonths
    obtain ⟨⟨n, rest⟩, hday, hread⟩ := Option.bind_eq_some_iff.1 hdays
    dsimp only at hmonth hday hread
    split at hread
    · rename_i hrest
      obtain rfl := List.isEmpty_iff.1 hrest
      obtain ⟨-, rfl⟩ := Stamp.twoAfter?_eq_some.1 hday
      obtain ⟨-, rfl⟩ := Stamp.twoAfter?_eq_some.1 hmonth
      obtain ⟨-, rfl⟩ := Text.takeDigits?_eq_some.1 hyear
      obtain ⟨hdate, hcivil⟩ := Day.ofCivil?_eq_some.1 hread
      exact ⟨year, month, n, hdate, hcivil, by simp⟩
    · cases hread
  · rintro ⟨year, month, n, hdate, hcivil, rfl⟩
    have hyear : year < 10 ^ 4 := Nat.lt_succ_of_le hdate.year_le
    have hmonth : month < 10 ^ 2 := Nat.lt_of_le_of_lt hdate.month_le (by decide)
    have hday : n < 10 ^ 2 :=
      Nat.lt_of_le_of_lt (Nat.le_trans hdate.day_le (daysOfMonth_le ..)) (by decide)
    have hdays : Stamp.twoAfter? '-' ('-' :: Text.digits 10 2 n) = some (n, []) :=
      Stamp.twoAfter?_eq_some.2 ⟨hday, by rw [List.append_nil]⟩
    have hmonths : Stamp.twoAfter? '-'
        ('-' :: (Text.digits 10 2 month ++ '-' :: Text.digits 10 2 n)) =
          some (month, '-' :: Text.digits 10 2 n) :=
      Stamp.twoAfter?_eq_some.2 ⟨hmonth, rfl⟩
    rw [List.append_assoc, List.cons_append, Text.takeDigits?_digits hyear]
    simpa [hmonths, hdays] using Day.ofCivil?_eq_some.2 ⟨hdate, hcivil⟩

/-- What spells a date has the shape that is asked for. -/
theorem hasDayShape_written (year month n : Nat) :
    hasDayShape (Day.written year month n) = true := by
  have hdigit : ∀ m, Text.isDecimal (Nat.digitChar (m % 10)) = true := by
    intro m
    have hascii := Text.isAsciiDigit_digitChar (Nat.mod_lt m (show 0 < 10 by decide))
    unfold Text.isDecimal
    rw [Text.digitValue?_of_isAsciiDigit hascii]
    rfl
  simp [Day.written, Text.digits, hasDayShape, hdigit]

/-! ## Texts as days -/

variable {field s : String}

/-- The shape that is asked for refuses no date. -/
theorem day_eq_ok :
    day field (.value (.text s)) = .ok d ↔ civilDay? (Text.strip s).toList = some d := by
  unfold day
  dsimp only
  split
  · split
    · rename_i e he
      simp [he]
    · rename_i hnone
      simp [hnone]
  · rename_i hshape
    refine iff_of_false (by simp) fun h => hshape ?_
    obtain ⟨year, month, n, -, -, hwritten⟩ := civilDay?_eq_some.1 h
    rw [hwritten]
    exact hasDayShape_written year month n

theorem day_refused (h : civilDay? (Text.strip s).toList = none) :
    day field (.value (.text s)) = .error (.rejected (.badDay field)) ∨
      day field (.value (.text s)) = .error (.rejected (.noSuchDay field)) := by
  unfold day
  dsimp only
  split
  · rw [h]
    exact .inr rfl
  · exact .inl rfl

/-- A text is read as a day just where it spells the day's date between blanks,
each date of the calendar is read, and every other text is refused. -/
theorem reads_exactly_written_days (field s : String) :
    (∀ d, day field (.value (.text s)) = .ok d ↔
      ∃ year month n, IsDate year month n ∧ d.civil = (year, month, n) ∧
        (Text.strip s).toList = Day.written year month n) ∧
    (∀ year month n, IsDate year month n → (Text.strip s).toList = Day.written year month n →
      ∃ d, d.civil = (year, month, n) ∧ day field (.value (.text s)) = .ok d) ∧
    ((∀ year month n, IsDate year month n →
        (Text.strip s).toList ≠ Day.written year month n) →
      day field (.value (.text s)) = .error (.rejected (.badDay field)) ∨
      day field (.value (.text s)) = .error (.rejected (.noSuchDay field))) := by
  refine ⟨fun d => day_eq_ok.trans civilDay?_eq_some, ?_, ?_⟩
  · intro year month n hdate hwritten
    obtain ⟨d, -, hcivil⟩ := Day.civil_of_isDate hdate
    exact ⟨d, hcivil, day_eq_ok.2 (civilDay?_eq_some.2 ⟨year, month, n, hdate, hcivil, hwritten⟩)⟩
  · intro hnone
    apply day_refused
    rw [Option.eq_none_iff_forall_ne_some]
    intro d hd
    obtain ⟨year, month, n, hdate, -, hwritten⟩ := civilDay?_eq_some.1 hd
    exact hnone year month n hdate hwritten

/-- Digits of another script have the shape of a day and are none. -/
example : day "from" (.value (.text " ٢٠٢٤-٠٢-٢٩")) = .error (.rejected (.noSuchDay "from")) := by
  decide +kernel

end Request
end Appointments
