-- Calendar days of the years 1 to 9999, counted from the first one, and
-- their year, month and day of the Gregorian calendar.
import Appointments.Text.Digits
namespace Appointments

/-- Why the calendar has no answer: a day or an instant would leave the
years 1 to 9999, a time of day is past the last hour, or a number is too
great for what it counts. -/
inductive CalendarFault
  | outOfRange
  | noSuchHour
  /-- An hour that 32 bits do not hold, above or below zero. -/
  | hourTooGreat
  | hourTooSmall
  /-- An hour that 64 bits do not hold. -/
  | hourUncountable
  | tooManyDays (days : Int)
  /-- A number of days that 32 bits do not hold. -/
  | daysUncountable
deriving DecidableEq, Repr

/-- A span of time has at most this many days, forward or back. -/
def maxSpanDays : Nat := 999999999

def CalendarFault.message : CalendarFault → String
  | .outOfRange => "date value out of range"
  | .noSuchHour => "hour must be in 0..23"
  | .hourTooGreat => "signed integer is greater than maximum"
  | .hourTooSmall => "signed integer is less than minimum"
  | .hourUncountable => "hour does not fit 64 bits"
  | .tooManyDays days =>
    "days=" ++ toString days ++ "; must have magnitude <= " ++ toString maxSpanDays
  | .daysUncountable => "number of days does not fit 32 bits"

/-- The days of the years 1 to 9999. -/
def dayCount : Nat := 3652059

/-- A calendar day: the number of days since the first of January of the
year 1. -/
@[ext]
structure Day where
  number : Nat
  number_lt : number < dayCount
deriving DecidableEq, Repr

/-! ## The Gregorian calendar -/

namespace Calendar

def isLeap (year : Nat) : Bool := year % 4 == 0 && (year % 100 != 0 || year % 400 == 0)

/-- The lengths of the months of a year. -/
def monthLengths (leap : Bool) : List Nat :=
  [31, if leap then 29 else 28, 31, 30, 31, 30, 31, 31, 30, 31, 30, 31]

/-- The days of the years before the given one. -/
def daysBeforeYear (year : Nat) : Nat :=
  let y := year - 1
  365 * y + y / 4 - y / 100 + y / 400

/-- The month and the day of the month of a day of the year, counted from
zero, where `month` is the month that the lengths start with. -/
def splitMonths : List Nat → (month dayOfYear : Nat) → Nat × Nat
  | [], month, d => (month, d + 1)
  | len :: rest, month, d =>
    if d < len then (month, d + 1) else splitMonths rest (month + 1) (d - len)

/-- The year of a day number, and the day of that year counted from zero.
Four hundred years have 146097 days; the last century of them and the last
year of every four are one day longer. -/
def splitYears (number : Nat) : Nat × Nat :=
  let cycles := number / 146097
  let n := number % 146097
  let centuries := min (n / 36524) 3
  let n := n - 36524 * centuries
  let fours := n / 1461
  let n := n % 1461
  let ones := min (n / 365) 3
  (400 * cycles + 100 * centuries + 4 * fours + ones + 1, n - 365 * ones)

end Calendar

namespace Day

open Calendar

/-- The day with the given number, if the calendar has it. -/
def ofNumber? (n : Int) : Option Day :=
  if h : n.toNat < dayCount then if 0 ≤ n then some ⟨n.toNat, h⟩ else none else none

/-- The day of a year, a month and a day of the month. -/
def ofCivil? (year month day : Nat) : Option Day :=
  let lengths := monthLengths (isLeap year)
  match lengths[month - 1]? with
  | some len =>
    if 1 ≤ year ∧ year ≤ 9999 ∧ 1 ≤ month ∧ 1 ≤ day ∧ day ≤ len then
      ofNumber? (daysBeforeYear year + (lengths.take (month - 1)).foldl (· + ·) 0 + day - 1 : Nat)
    else none
  | none => none

/-- The year, the month and the day of the month. -/
def civil (d : Day) : Nat × Nat × Nat :=
  let (year, n) := splitYears d.number
  let (month, day) := splitMonths (monthLengths (isLeap year)) 1 n
  (year, month, day)

/-- The weekday, Sunday first. The first day of the calendar is a Monday. -/
def weekday (d : Day) : Nat := (d.number + 1) % 7

/-- The day that lies `n` days later, or earlier where `n` is negative. -/
def shift (d : Day) (n : Int) : Except CalendarFault Day :=
  match ofNumber? (d.number + n) with
  | some e => .ok e
  | none => .error .outOfRange

instance : LE Day := ⟨fun a b => a.number ≤ b.number⟩
instance : LT Day := ⟨fun a b => a.number < b.number⟩
instance (a b : Day) : Decidable (a ≤ b) := inferInstanceAs (Decidable (a.number ≤ b.number))
instance (a b : Day) : Decidable (a < b) := inferInstanceAs (Decidable (a.number < b.number))

/-- The days from `d` on, `count` of them, as far as the calendar goes. -/
def run (d : Day) : (count : Nat) → List Day
  | 0 => []
  | count + 1 =>
    d :: (if h : d.number + 1 < dayCount then run ⟨d.number + 1, h⟩ count else [])

/-- The days from the first to the last, both included. -/
def upTo (first last : Day) : List Day := first.run (last.number + 1 - first.number)

/-- The calendar ends with this day. -/
def isLast (d : Day) : Bool := d.number + 1 == dayCount

/-- The days from the first to the last, where the walk steps past the last
one and so must not end at the end of the calendar. -/
def walk (first last : Day) : Except CalendarFault (List Day) :=
  if first ≤ last ∧ last.isLast then .error .outOfRange else .ok (first.upTo last)

/-! ## Text -/

/-- Year, month and day, the year with four digits. -/
def text (d : Day) : String :=
  let (year, month, day) := d.civil
  String.ofList (Text.digits 10 4 year ++ '-' :: Text.digits 10 2 month ++
    '-' :: Text.digits 10 2 day)

end Day
end Appointments
