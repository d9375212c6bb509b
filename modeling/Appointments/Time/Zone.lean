-- Time zones: what clocks show at an instant, and at which instant they
-- show a reading. A reading may be skipped, or may be shown twice.
import Appointments.Time.Span
namespace Appointments

/-! ## The rules of a zone -/

/-- What the clocks of a zone do for a while: their offset from UTC in
microseconds, and whether the zone calls it daylight saving time. -/
structure Period where
  offset : Int
  daylight : Bool
deriving DecidableEq, Repr

/-- The instant at which a period starts. It lasts until the next one. -/
structure Transition where
  start : Int
  period : Period
deriving DecidableEq, Repr

/-- A zone keeps one offset for ever, or changes it from time to time. The
transitions are in ascending order, and the first period reaches back to the
start of the calendar. -/
inductive ZoneRules
  | fixed (offset : Int)
  | table (first : Period) (transitions : List Transition)
deriving DecidableEq, Repr

structure Zone where
  name : String
  rules : ZoneRules
deriving DecidableEq, Repr

/-- The period in force at an instant. -/
def Period.inForce (current : Period) : List Transition → Int → Period
  | [], _ => current
  | t :: rest, t₀ => if t.start ≤ t₀ then inForce t.period rest t₀ else current

namespace ZoneRules

/-- The period in force at an instant. -/
def periodAt : ZoneRules → Int → Period
  | .fixed offset, _ => ⟨offset, false⟩
  | .table first transitions, t => first.inForce transitions t

/-- What the clocks show at an instant. -/
def reading (z : ZoneRules) (t : Instant) : Except CalendarFault WallClock :=
  t.shift (z.periodAt t.micros).offset

/-- The instant that the period in force near the reading suggests, if the
clocks show the reading then. The period is looked up `ahead` of the reading,
read as if it were in UTC. -/
def candidate (z : ZoneRules) (reading : WallClock) (ahead : Int) :
    Except CalendarFault (Option Instant) := do
  let near ← reading.shift ahead
  let t ← reading.shift (-(z.periodAt near.micros).offset)
  let back ← z.reading t
  return if back = reading then some t else none

/-- Which of two instants a reading means that is shown twice: the one
outside daylight saving time, and the later one where that does not tell
them apart. -/
def choose (z : ZoneRules) (a b : Instant) : Instant :=
  match (z.periodAt a.micros).daylight, (z.periodAt b.micros).daylight with
  | false, true => a
  | true, false => b
  | _, _ => a.later b

/-- The instant at which the clocks show a reading, or nothing for a reading
that is skipped. The periods a day before and a day after are tried. -/
def resolve (z : ZoneRules) (reading : WallClock) : Except CalendarFault (Option Instant) :=
  match z with
  | .fixed offset => some <$> reading.shift (-offset)
  | .table .. => do
    let before ← z.candidate reading (-Int.ofNat Micros.day)
    let after ← z.candidate reading (Int.ofNat Micros.day)
    return match before, after with
    | some a, some b => some (if a = b then a else z.choose a b)
    | some a, none => some a
    | none, b => b

end ZoneRules

namespace Zone

/-- The day that the clocks show at an instant. -/
def dayAt (z : Zone) (t : Instant) : Except CalendarFault Day := Instant.day <$> z.rules.reading t

/-- Why an hour is no hour of the day. -/
def hourFault (hour : Int) : CalendarFault :=
  if fitsHalfWord hour then .noSuchHour
  else if hour < -Int.pow 2 63 ∨ Int.pow 2 63 ≤ hour then .hourUncountable
  else if hour < 0 then .hourTooSmall
  else .hourTooGreat

/-- What the clocks show at `minutes` after the start of a day. -/
def readingOf (day : Day) (minutes : Int) : Except CalendarFault WallClock :=
  if 0 ≤ minutes ∧ minutes < 1440 then (Instant.ofDay day).shift (minutes * Micros.minute)
  else .error (hourFault (minutes.fdiv 60))

/-- The instant of a time of day on a local day, in minutes after midnight,
or nothing where the clocks skip it. -/
def instantAt (z : Zone) (day : Day) (minutes : Int) : Except CalendarFault (Option Instant) := do
  z.rules.resolve (← readingOf day minutes)

end Zone
end Appointments
