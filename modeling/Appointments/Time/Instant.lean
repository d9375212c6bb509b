-- Instants of the years 1 to 9999 in microseconds, and their written
-- forms. The same count serves for what a local clock shows.
import Appointments.Time.Day
namespace Appointments

/-! ## Units -/

/-- Microseconds of a second, a minute, an hour and a day. -/
def Micros.second : Nat := 1000000

def Micros.minute : Nat := 60 * Micros.second

def Micros.hour : Nat := 60 * Micros.minute

def Micros.day : Nat := 24 * Micros.hour

/-- Microseconds since the start of the year 1. -/
@[ext]
structure Instant where
  micros : Nat
  micros_lt : micros < dayCount * Micros.day
deriving DecidableEq, Repr

/-- What a local clock shows, counted like an instant. -/
abbrev WallClock := Instant

namespace Instant

instance : LE Instant := ⟨fun a b => a.micros ≤ b.micros⟩
instance : LT Instant := ⟨fun a b => a.micros < b.micros⟩
instance (a b : Instant) : Decidable (a ≤ b) := inferInstanceAs (Decidable (a.micros ≤ b.micros))
instance (a b : Instant) : Decidable (a < b) := inferInstanceAs (Decidable (a.micros < b.micros))

/-- The instant with the given count. -/
def ofMicros (n : Int) : Except CalendarFault Instant :=
  if h : n.toNat < dayCount * Micros.day then
    if 0 ≤ n then .ok ⟨n.toNat, h⟩ else .error .outOfRange
  else .error .outOfRange

/-- The instant that lies `n` microseconds later, or earlier where `n` is
negative. -/
def shift (t : Instant) (n : Int) : Except CalendarFault Instant := ofMicros (t.micros + n)

/-- The microseconds from one instant to another. -/
def microsTo (a b : Instant) : Int := Int.ofNat b.micros - Int.ofNat a.micros

/-- The start of a day. -/
def ofDay (d : Day) : Instant :=
  ⟨d.number * Micros.day, Nat.mul_lt_mul_of_pos_right d.number_lt (by decide)⟩

/-- The day on which an instant falls. -/
def day (t : Instant) : Day :=
  ⟨t.micros / Micros.day, Nat.div_lt_of_lt_mul (by rw [Nat.mul_comm]; exact t.micros_lt)⟩

/-- The microseconds since the start of the day. -/
def sinceMidnight (t : Instant) : Nat := t.micros % Micros.day

/-- The later of two instants. -/
def later (a b : Instant) : Instant := if a ≤ b then b else a

/-! ## Text -/

/-- Hour, minute and second with colons. -/
def clockChars (t : Instant) : List Char :=
  let s := t.sinceMidnight / Micros.second
  Text.digits 10 2 (s / 3600) ++ ':' :: Text.digits 10 2 (s / 60 % 60) ++
    ':' :: Text.digits 10 2 (s % 60)

/-- The microseconds of the second. -/
def fraction (t : Instant) : Nat := t.micros % Micros.second

/-- The exact form: a year of four digits, six decimals, and a Z. -/
def exact (t : Instant) : String :=
  t.day.text ++ String.ofList ('T' :: t.clockChars ++ '.' :: Text.digits 10 6 t.fraction ++ ['Z'])

/-- The form of documents: a year without zeros in front, whole
milliseconds, and a Z. What lies below a millisecond is dropped. -/
def document (t : Instant) : String :=
  let (year, month, day) := t.day.civil
  String.ofList (Nat.toDigits 10 year ++ '-' :: Text.digits 10 2 month ++
    '-' :: Text.digits 10 2 day ++ 'T' :: t.clockChars ++
    '.' :: Text.digits 10 3 (t.fraction / 1000) ++ ['Z'])

/-- The form of log messages: six decimals where there is a fraction, and
the offset of UTC. -/
def logged (t : Instant) : String :=
  let decimals := if t.fraction = 0 then [] else '.' :: Text.digits 10 6 t.fraction
  t.day.text ++ String.ofList ('T' :: t.clockChars ++ decimals ++ ['+', '0', '0', ':', '0', '0'])

/-- The instant without what lies below a millisecond. -/
def wholeMillis (t : Instant) : Instant :=
  ⟨t.micros - t.micros % 1000, Nat.lt_of_le_of_lt (Nat.sub_le ..) t.micros_lt⟩

end Instant
end Appointments
