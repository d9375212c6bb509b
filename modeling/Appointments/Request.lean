-- The values that callers hand in: ids, instants, days, time zones and free
-- text, and what each of them has to look like.
import Appointments.Failure
import Appointments.Text.DecimalDigit
import Appointments.Time.Registry
namespace Appointments.Request

/-! ## Ids and text -/

/-- The id that a value stands for, without blanks around it. Null is no id,
which is empty text. -/
def id : Value → String
  | .null => ""
  | v => Text.strip v.plain

/-- An id that has to be given. -/
def requiredId (field : String) (v : Value) : Except Failure String :=
  let cleaned := id v
  if cleaned.isEmpty then .error (.rejected (.missing field)) else .ok cleaned

/-- Free text without blanks around it, of at most so many characters. Text
of blanks alone counts as none. -/
def text (limit : Option Int) : Value → Except Failure (Option String)
  | .null => .ok none
  | .text s =>
    match Text.stripOrNone s with
    | none => .ok none
    | some t =>
      match limit with
      | some n => if n < t.length then .error (.rejected (.textTooLong n)) else .ok (some t)
      | none => .ok (some t)
  | v => .error (.notText v)

/-! ## Instants -/

/-- The instant that a value spells. At the desk instants are always spelled. -/
def instant (field : String) (v : Value) : Except Failure Instant :=
  match v with
  | .text s =>
    match Stamp.ofRequest? s with
    | some stamp => CalendarFault.orFail stamp.toInstant
    | none => .error (.rejected (.badInstant field))
  | _ => .error (.rejected (.badInstant field))

/-- An instant as programs give it: a date and time, or a value that spells
one. -/
inductive InstantInput
  | stamp (s : Stamp)
  | value (v : Value)

/-- The instant that is meant. -/
def instantOf (field : String) : InstantInput → Except Failure Instant
  | .stamp s => CalendarFault.orFail s.toInstant
  | .value v => instant field v

/-! ## Days -/

/-- Four digits, two and two with hyphens between them, where digits of any
script count. -/
def hasDayShape : List Char → Bool
  | [a, b, c, d, '-', e, f, '-', g, h] => [a, b, c, d, e, f, g, h].all Text.isDecimal
  | _ => false

/-- The calendar day of a year, a month and a day of the month in ASCII
digits, with hyphens between them. -/
def civilDay? (cs : List Char) : Option Day := do
  let (year, rest) ← Text.takeDigits? 4 cs
  let (month, rest) ← Stamp.twoAfter? '-' rest
  let (day, rest) ← Stamp.twoAfter? '-' rest
  if rest.isEmpty then Day.ofCivil? year month day else none

/-- A day as callers give it: a calendar day, an instant, which is none, or a
value that spells one. -/
inductive DayInput
  | day (d : Day)
  | instant
  | value (v : Value)
deriving DecidableEq

/-- The day that is meant. -/
def day (field : String) : DayInput → Except Failure Day
  | .day d => .ok d
  | .instant => .error (.rejected (.instantForDay field))
  | .value (.text s) =>
    let cs := (Text.strip s).toList
    if hasDayShape cs then
      match civilDay? cs with
      | some d => .ok d
      | none => .error (.rejected (.noSuchDay field))
    else .error (.rejected (.badDay field))
  | .value _ => .error (.rejected (.badDay field))

/-! ## Time zones -/

/-- The zone that a text names. -/
def zone (zones : Registry) (name : String) : Except Failure Zone :=
  match Text.stripOrNone name with
  | none => .error (.rejected .noTimeZone)
  | some name =>
    match zones.named? name with
    | some z => .ok z
    | none => .error (.rejected (.unknownTimeZone name))

/-- The name of the zone to use: the one asked for, or else the default. -/
def zoneName (given : Value) (default : String) : Except Failure String :=
  if given.isGiven then
    match given with
    | .text s => .ok (Text.strip s)
    | v => .error (.notText v)
  else .ok (Text.strip default)

end Appointments.Request
