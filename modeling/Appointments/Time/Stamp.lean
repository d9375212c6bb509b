-- Date and time as callers write them: a calendar or week date, a clock
-- reading of hours to fractions of a second, and an offset from UTC.
import Appointments.Time.Instant
import Appointments.Text.Blank
namespace Appointments

/-- A clock reading with its offset from UTC in microseconds, if one was
given. -/
structure Stamp where
  wall : WallClock
  offset : Option Int
deriving DecidableEq, Repr

namespace Stamp

/-- The instant that is meant. Without an offset the reading is in UTC. -/
def toInstant (s : Stamp) : Except CalendarFault Instant :=
  match s.offset with
  | none => .ok s.wall
  | some o => s.wall.shift (-o)

/-! ## Dates -/

/-- The Monday of the first week of a year, the week with the year's first
Thursday. -/
def firstMonday (year : Nat) : Int :=
  let newYear := Calendar.daysBeforeYear year
  let weekday := newYear % 7
  Int.ofNat newYear - Int.ofNat weekday + (if 3 < weekday then 7 else 0)

/-- The weeks of a year: 53 where it starts on a Thursday, or is a leap year
that starts on a Wednesday. -/
def weeksOf (year : Nat) : Nat :=
  let weekday := Calendar.daysBeforeYear year % 7
  if weekday = 3 ∨ (weekday = 2 ∧ Calendar.isLeap year) then 53 else 52

/-- The day of a year, a week and a weekday, Monday first. -/
def ofWeek? (year week weekday : Nat) : Option Day :=
  if 1 ≤ year ∧ 1 ≤ week ∧ week ≤ weeksOf year ∧ 1 ≤ weekday ∧ weekday ≤ 7 then
    Day.ofNumber? (firstMonday year + 7 * (week - 1) + (weekday - 1))
  else none

/-- The rest after a hyphen, where the date is written with hyphens. -/
def afterHyphen? (hyphens : Bool) (cs : List Char) : Option (List Char) :=
  if hyphens then
    match cs with
    | '-' :: rest => some rest
    | _ => none
  else some cs

/-- A date: year, month and day, or year, week and weekday, with hyphens
everywhere or nowhere. A week alone means its Monday. -/
def date? (cs : List Char) : Option Day := do
  let (year, rest) ← Text.takeDigits? 4 cs
  let hyphens := rest.head? = some '-'
  let rest := if hyphens then rest.drop 1 else rest
  match rest with
  | 'W' :: rest =>
    let (week, rest) ← Text.takeDigits? 2 rest
    if rest.isEmpty then ofWeek? year week 1
    else
      let rest ← afterHyphen? hyphens rest
      let (weekday, rest) ← Text.takeDigits? 1 rest
      if rest.isEmpty then ofWeek? year week weekday else none
  | rest =>
    let (month, rest) ← Text.takeDigits? 2 rest
    let rest ← afterHyphen? hyphens rest
    let (day, rest) ← Text.takeDigits? 2 rest
    if rest.isEmpty then Day.ofCivil? year month day else none

/-- How many characters the date takes. A week date with hyphens, followed
by a hyphen and two digits, ends before that hyphen; one without hyphens has
a weekday where an even number of digits follows the week and weekday. -/
def dateLength (cs : List Char) : Nat :=
  if cs.length = 7 then 7
  else if cs[4]? = some '-' then
    if cs[5]? = some 'W' then
      if cs[8]? = some '-' ∧ !(cs[10]?.any Text.isAsciiDigit) then 10 else 8
    else 10
  else if cs[4]? = some 'W' then
    let run := ((cs.drop 7).takeWhile Text.isAsciiDigit).length
    if run = 0 then 7 else if run = 1 then 8 else if run % 2 = 1 then 7 else 8
  else 8

/-! ## Clock readings -/

/-- Hours, minutes and seconds as far as given, the microseconds, and
whether something is left over. -/
structure Clock where
  parts : List Nat
  micros : Nat
  leftOver : Bool
deriving DecidableEq, Repr

/-- What is left after a reading counts, unless a NUL ends it. -/
def isLeftOver (rest : List Char) : Bool := rest.head?.any (·.toNat ≠ 0)

/-- The decimals of a second. Those past the sixth are dropped, and after
six of them other characters may be left over. -/
def fraction? (parts : List Nat) (cs : List Char) : Option Clock :=
  let ds := cs.takeWhile Text.isAsciiDigit
  let rest := cs.drop ds.length
  if 6 ≤ ds.length ∨ rest.isEmpty then
    let six := ds.take 6 ++ List.replicate (6 - ds.length) '0'
    some ⟨parts, Text.ofDigits six, isLeftOver rest⟩
  else none

/-- A clock reading of at most `more` further numbers of two digits, with
colons everywhere or nowhere, and a fraction after a point or a comma. One
character of ASCII may be left over at the end. -/
def clock? : (more : Nat) → (colons : Option Bool) → (parts : List Nat) → List Char → Option Clock
  | 0, _, parts, cs => fraction? parts cs
  | more + 1, colons, parts, cs =>
    match Text.takeDigits? 2 cs with
    | none => none
    | some (n, rest) =>
      let parts := parts ++ [n]
      match rest with
      | [] => some ⟨parts, 0, false⟩
      | c :: after =>
        let colons := colons.getD (c = ':')
        if after.isEmpty ∧ c.toNat < 0x80 then some ⟨parts, 0, isLeftOver rest⟩
        else if colons ∧ c = ':' then clock? more (some colons) parts after
        else if c = '.' ∨ c = ',' then fraction? parts after
        else if colons then none
        else clock? more (some colons) parts rest

/-- The length of a reading in microseconds. -/
def Clock.length (c : Clock) : Nat :=
  c.parts.getD 0 0 * Micros.hour + c.parts.getD 1 0 * Micros.minute +
    c.parts.getD 2 0 * Micros.second + c.micros

/-- The reading is a time of day. -/
def Clock.isTimeOfDay (c : Clock) : Bool :=
  c.parts.getD 0 0 < 24 && c.parts.getD 1 0 < 60 && c.parts.getD 2 0 < 60

/-- The length of a clock reading as an offset. One below a second counts for
nothing. -/
def Clock.offset (c : Clock) : Int := if c.length < Micros.second then 0 else c.length

/-- The offset after the reading: nothing, a Z, or a signed clock reading
below a day. The outer option says whether it can be read. -/
def offset? : List Char → Option (Option Int)
  | [] => some none
  | sign :: rest =>
    if sign = 'Z' then if isLeftOver rest then none else some (some 0)
    else
      match clock? 3 none [] rest with
      | some c =>
        if c.leftOver ∨ Micros.day ≤ c.length then none
        else some (some (if sign = '-' then -c.offset else c.offset))
      | none => none

/-- A day and a time of day as one reading. -/
def wallClock? (d : Day) (c : Clock) : Option WallClock :=
  if c.isTimeOfDay then ((Instant.ofDay d).shift c.length).toOption else none

/-- A date, or a date, one character of any kind, a clock reading and an
offset. What is left over after the reading counts only where no offset
follows. -/
def parse? (cs : List Char) : Option Stamp := do
  let n := dateLength cs
  let day ← date? (cs.take n)
  match cs.drop n with
  | [] => some ⟨Instant.ofDay day, none⟩
  | _ :: time =>
    let reading := time.takeWhile fun c => c ≠ '+' ∧ c ≠ '-' ∧ c ≠ 'Z'
    let rest := time.drop reading.length
    let clock ← clock? 3 none [] reading
    if rest.isEmpty ∧ clock.leftOver then none
    else
      let offset ← offset? rest
      let wall ← wallClock? day clock
      some ⟨wall, offset⟩

/-- The text of a caller: blanks around it are dropped, and a final Z of
either case stands for the offset of UTC. -/
def ofRequest? (s : String) : Option Stamp :=
  let cs := Text.trimChars Text.isBlank s.toList
  match cs.getLast? with
  | none => none
  | some c =>
    if c = 'Z' ∨ c = 'z' then parse? (cs.dropLast ++ ['+', '0', '0', ':', '0', '0'])
    else parse? cs

/-! ## Documents -/

/-- Two digits after a given character. -/
def twoAfter? (mark : Char) : List Char → Option (Nat × List Char)
  | [] => none
  | c :: rest => if c = mark then Text.takeDigits? 2 rest else none

/-- The offset in a document: nothing, a Z of either case, or a sign, hours
and minutes. -/
def documentOffset? : List Char → Option (Option Int)
  | [] => some none
  | [c] => if c = 'Z' ∨ c = 'z' then some (some 0) else none
  | sign :: rest => do
    let (hours, rest) ← Text.takeDigits? 2 rest
    let (minutes, rest) ← Text.takeDigits? 2 (if rest.head? = some ':' then rest.drop 1 else rest)
    let length := Int.ofNat (hours * Micros.hour + minutes * Micros.minute)
    if rest.isEmpty ∧ hours < 24 ∧ minutes < 60 then
      if sign = '+' then some (some length)
      else if sign = '-' ∨ sign = '\u2212' then some (some (-length))
      else none
    else none

/-- The decimals of a second in a document, and what follows them. -/
def documentFraction? (cs : List Char) : Option (Nat × List Char) :=
  match cs with
  | c :: rest =>
    if c = '.' ∨ c = ',' then
      let ds := rest.takeWhile Text.isAsciiDigit
      if ds.isEmpty then none
      else
        let six := ds.take 6 ++ List.replicate (6 - ds.length) '0'
        some (Text.ofDigits six, rest.drop ds.length)
    else some (0, cs)
  | [] => some (0, [])

/-- Seconds with their decimals, where they are given. -/
def documentSeconds? (cs : List Char) : Option (Nat × Nat × List Char) :=
  match cs with
  | ':' :: rest => do
    let (seconds, rest) ← Text.takeDigits? 2 rest
    let (micros, rest) ← documentFraction? rest
    some (seconds, micros, rest)
  | _ => some (0, 0, cs)

/-- The instant of a document: a date, or a date, a separator, hours and
minutes, seconds and decimals where given, and an offset. -/
def ofDocument? (s : String) : Option Stamp := do
  let (year, rest) ← Text.takeDigits? 4 s.toList
  let (month, rest) ← twoAfter? '-' rest
  let (dayOfMonth, rest) ← twoAfter? '-' rest
  let day ← Day.ofCivil? year month dayOfMonth
  match rest with
  | [] => some ⟨Instant.ofDay day, none⟩
  | separator :: rest =>
    if separator ∈ ['T', 't', ' ', '_'] then
      let (hours, rest) ← Text.takeDigits? 2 rest
      let (minutes, rest) ← twoAfter? ':' rest
      let (seconds, micros, rest) ← documentSeconds? rest
      let offset ← documentOffset? rest
      let wall ← wallClock? day ⟨[hours, minutes, seconds], micros, false⟩
      some ⟨wall, offset⟩
    else none

end Stamp
end Appointments
