-- Timestamps: instants as counts from the start of the year 1970. A count is
-- in seconds, or in milliseconds where it is too great for seconds.
import Appointments.Number.Binary64
import Appointments.Time.Instant
namespace Appointments.Timestamp

/-- The seconds from the start of the calendar to the start of 1970. -/
def epoch : Int := 719162 * 86400

/-- Counts up to this one, forward or back, are in seconds. -/
def greatestSeconds : Nat := 20000000000

/-- The first second of the year 1600. Timestamps reach back to it. -/
def firstSecond : Int := -11676096000

/-- The last second of the year 9999. -/
def lastSecond : Int := 253402300799

/-- The seconds of a count, and the microseconds that are left. -/
def split (count : Int) : Int × Nat :=
  if count.natAbs ≤ greatestSeconds then (count, 0)
  else (count.fdiv 1000, (count.fmod 1000).toNat * 1000)

/-- The instant of a count, and of some microseconds more. -/
def toInstant? (count : Int) (micros : Nat) : Option Instant :=
  let (seconds, rest) := split count
  let micros := rest + micros
  let seconds := seconds + Int.ofNat (micros / Micros.second)
  if firstSecond ≤ seconds ∧ seconds ≤ lastSecond then
    (Instant.ofMicros ((epoch + seconds) * Micros.second + micros % Micros.second)).toOption
  else none

/-- The instant of a number of seconds or milliseconds. -/
def ofFloat? (x : Binary64) : Option Instant :=
  if x.isFinite then toInstant? (x.floorDiv 1) x.millionths else none

/-- The instant of a count in ASCII digits, with decimals after a point. Those
of a negative count do not matter, since it is rounded down. -/
def ofUnsigned? (negative : Bool) (cs : List Char) : Option Instant :=
  let whole := cs.takeWhile Text.isAsciiDigit
  let n := Int.ofNat (Text.ofDigits whole)
  match whole, cs.drop whole.length with
  | [], _ => none
  | _, [] => toInstant? (if negative then -n else n) 0
  | _, c :: ds =>
    if c ≠ '.' ∨ !ds.all Text.isAsciiDigit then none
    else if negative then toInstant? (if ds.all (· == '0') then -n else -n - 1) 0
    else
      let unit := Nat.pow 10 ds.length
      toInstant? n ((2 * Text.ofDigits ds * Micros.second + unit) / (2 * unit))

/-- The instant of a count as text, with a sign or without. -/
def ofText? (s : String) : Option Instant :=
  match s.toList with
  | '-' :: cs => ofUnsigned? true cs
  | '+' :: cs => ofUnsigned? false cs
  | cs => ofUnsigned? false cs

end Appointments.Timestamp
