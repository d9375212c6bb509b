-- Times of day as weekly hours spell them: two digits, a colon, two digits.
import Appointments.Document.Reading
import Appointments.Text.DecimalDigit
namespace Appointments

/-- Why a value is no time of day. -/
inductive ClockTimeFault
  | badShape (given : Value)
  | noSuchTime (given : Value)
deriving DecidableEq

def ClockTimeFault.message : ClockTimeFault → String
  | .badShape v => "Time must be HH:MM, got " ++ v.shown
  | .noSuchTime v => "Invalid time " ++ v.shown

namespace ClockTime

/-- The digits of a text of the right shape. Digits of any script count, and
a line feed may stand at the end. -/
def digits? : List Char → Option (Nat × Nat × Nat × Nat)
  | a :: b :: ':' :: c :: d :: rest => do
    let a ← Text.digitValue? a
    let b ← Text.digitValue? b
    let c ← Text.digitValue? c
    let d ← Text.digitValue? d
    if rest = [] ∨ rest = ['\n'] then some (a, b, c, d) else none
  | _ => none

/-- The minutes after midnight that a text spells. -/
def minutesOfText (s : String) : Except ClockTimeFault Nat :=
  match digits? s.toList with
  | none => .error (.badShape (.text s))
  | some (a, b, c, d) =>
    let hours := 10 * a + b
    let minutes := 10 * c + d
    if 23 < hours ∨ 59 < minutes then .error (.noSuchTime (.text s))
    else .ok (60 * hours + minutes)

/-- The minutes after midnight that a value spells. -/
def minutesOf : Value → Except ClockTimeFault Nat
  | .text s => minutesOfText s
  | v => .error (.badShape v)

end ClockTime

/-- A time of day: its text as given, and the minutes after midnight that it
spells. -/
structure ClockTime where
  text : String
  minutes : Nat
  spells : ClockTime.minutesOfText text = .ok minutes
deriving DecidableEq

namespace ClockTime

/-- The time of day that a text spells. -/
def ofText (s : String) : Except ClockTimeFault ClockTime :=
  match h : minutesOfText s with
  | .ok n => .ok ⟨s, n, h⟩
  | .error e => .error e

/-- A time of day in a document. -/
def read (v : Value) : Reading ClockTime :=
  v.readText.check fun s =>
    match ofText s with
    | .ok t => .ok t
    | .error e => .fail (.rule e.message)

theorem minutes_lt (t : ClockTime) : t.minutes < 1440 := by
  have h := t.spells
  unfold minutesOfText at h
  split at h
  · cases h
  · simp only at h
    split at h
    · cases h
    · injection h
      omega

end ClockTime
end Appointments
