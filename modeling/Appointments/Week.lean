-- Weekly hours: the working ranges of each weekday of a provider, the
-- length of slots, and the zone whose clocks the ranges are read on.
import Appointments.Settings
import Appointments.Sorting
import Appointments.Time.ClockTime
import Appointments.Time.Registry
namespace Appointments

/-! ## Ranges -/

/-- A range of local clock time within a day. -/
structure TimeRange where
  start : ClockTime
  stop : ClockTime
  start_lt : start.minutes < stop.minutes
deriving DecidableEq

namespace TimeRange

def startField : FieldName := .same "start"

def stopField : FieldName := .same "end"

/-- The range between two times of day. -/
def between (start stop : ClockTime) : Reading TimeRange :=
  if h : start.minutes < stop.minutes then .ok ⟨start, stop, h⟩
  else .fail (.rule ("Range end must be after start (" ++ start.text ++ "-" ++ stop.text ++ ")"))

def read (v : Value) : Reading TimeRange :=
  (v.readRecord fun fields =>
    Prod.mk <$> startField.required ClockTime.read fields
      <*> stopField.required ClockTime.read fields).check fun (start, stop) => between start stop

def document (r : TimeRange) : Value :=
  .object [(startField.document, .text r.start.text), (stopField.document, .text r.stop.text)]

def startsNotAfter (a b : TimeRange) : Bool := a.start.minutes ≤ b.start.minutes

/-- The text of a range in messages. -/
def text (r : TimeRange) : String := r.start.text ++ "-" ++ r.stop.text

end TimeRange

/-! ## Days -/

/-- The working ranges of a weekday, Sunday being 0, in ascending order. -/
structure DayHours where
  weekday : Nat
  ranges : List TimeRange
deriving DecidableEq

namespace DayHours

def weekdayField : FieldName := ⟨"dayOfWeek", "day_of_week"⟩

def rangesField : FieldName := .same "ranges"

/-- The first range that starts before the one ahead of it ends, with that
one. -/
def overlap? : List TimeRange → Option (TimeRange × TimeRange)
  | a :: b :: rest => if b.start.minutes < a.stop.minutes then some (a, b) else overlap? (b :: rest)
  | _ => none

/-- Ranges in ascending order, none of which overlaps the next. -/
def arrange (ranges : List TimeRange) : Reading (List TimeRange) :=
  let sorted := ranges.sortedBy TimeRange.startsNotAfter
  match overlap? sorted with
  | none => .ok sorted
  | some (a, b) => .fail (.rule ("Ranges overlap: " ++ a.text ++ " and " ++ b.text))

def read (v : Value) : Reading DayHours :=
  v.readRecord fun fields =>
    (fun (day : Int) ranges => ⟨day.toNat, ranges⟩)
      <$> weekdayField.required (Value.readIntWithin (some 0) (some 6)) fields
      <*> rangesField.withDefault [] (fun v => (v.readList TimeRange.read).check arrange) fields

/-- The fields of a day, under names picked by `name`. -/
def toValue (name : FieldName → String) (d : DayHours) : Value :=
  .object [(name weekdayField, .int d.weekday),
    (name rangesField, .list (d.ranges.map TimeRange.document))]

end DayHours

/-! ## The template of a provider -/

/-- The weekly hours of a provider. Each weekday is listed at most once. -/
structure Template where
  provider : String
  timeZone : String
  slotMinutes : Int
  bufferMinutes : Int
  isActive : Bool
  weekly : List DayHours
deriving DecidableEq

namespace Template

def providerField : FieldName := ⟨"providerUserId", "provider_user_id"⟩

def timeZoneField : FieldName := ⟨"timeZone", "time_zone"⟩

def slotMinutesField : FieldName := ⟨"slotDurationMin", "slot_duration_min"⟩

def bufferMinutesField : FieldName := ⟨"bufferMin", "buffer_min"⟩

def isActiveField : FieldName := ⟨"isActive", "is_active"⟩

def weeklyField : FieldName := .same "weekly"

/-- The template of a provider who has set nothing yet. -/
def initial (defaults : SlotSettings) (provider : String) : Template where
  provider := provider
  timeZone := defaults.timeZone
  slotMinutes := defaults.slotMinutes
  bufferMinutes := defaults.bufferMinutes
  isActive := true
  weekly := []

/-- The name of a known zone, without the blanks around it. -/
def readTimeZone (zones : Registry) (v : Value) : Reading String :=
  v.readText.check fun s =>
    let name := Text.strip s
    if (zones.find? name).isSome then .ok name
    else .fail (.rule ("Invalid time zone " ++ Text.quoted name))

/-- The first weekday that is listed again. -/
def repeatedDay? (seen : List Nat) : List DayHours → Option Nat
  | [] => none
  | d :: rest =>
    if d.weekday ∈ seen then some d.weekday else repeatedDay? (d.weekday :: seen) rest

/-- The days in the order of the week, each listed once. -/
def arrange (days : List DayHours) : Reading (List DayHours) :=
  match repeatedDay? [] days with
  | none => .ok (days.sortedBy fun a b => a.weekday ≤ b.weekday)
  | some n => .fail (.rule ("dayOfWeek " ++ toString n ++ " listed more than once"))

/-- A template from the fields of an object. What is left out is taken from
the defaults. -/
def readFields (zones : Registry) (defaults : SlotSettings) (fields : List (String × Value)) :
    Reading Template :=
  Template.mk
    <$> providerField.required Value.readSomeText fields
    <*> timeZoneField.withDefault defaults.timeZone (readTimeZone zones) fields
    <*> slotMinutesField.withDefault defaults.slotMinutes
      (Value.readIntWithin (some 15) (some 240)) fields
    <*> bufferMinutesField.withDefault defaults.bufferMinutes
      (Value.readIntWithin (some 0) (some 120)) fields
    <*> isActiveField.withDefault true Value.readBool fields
    <*> weeklyField.withDefault [] (fun v => (v.readList DayHours.read).check arrange) fields

def read (zones : Registry) (defaults : SlotSettings) (v : Value) : Reading Template :=
  v.readRecord (readFields zones defaults)

/-- The fields of a template, under names picked by `name`. -/
def toFields (name : FieldName → String) (t : Template) : List (String × Value) :=
  [(name providerField, .text t.provider), (name timeZoneField, .text t.timeZone),
    (name slotMinutesField, .int t.slotMinutes), (name bufferMinutesField, .int t.bufferMinutes),
    (name isActiveField, .bool t.isActive),
    (name weeklyField, .list (t.weekly.map (DayHours.toValue name)))]

def document (t : Template) : Value := .object (t.toFields FieldName.document)

/-- The working ranges of a weekday. -/
def rangesFor (t : Template) (weekday : Nat) : List TimeRange :=
  match t.weekly.find? (·.weekday == weekday) with
  | some d => d.ranges
  | none => []

/-! ## Partial updates -/

/-- The fields that may be changed. -/
def changeable : List FieldName :=
  [timeZoneField, slotMinutesField, bufferMinutesField, isActiveField, weeklyField]

/-- The changeable field that a key names, by either of its names. -/
def changeable? (key : String) : Option FieldName :=
  changeable.find? fun f => f.document == key || f.plain == key

/-- The changes with one more. A field that was named before is overridden. -/
def putChange (changes : List (String × Value)) (name : String) (v : Value) :
    List (String × Value) :=
  changes.filter (·.1 != name) ++ [(name, v)]

/-- The changes that updates ask for, by field, or the first key that names
no changeable field. Null keeps what is there. -/
def changesOf (changes : List (String × Value)) :
    List (String × Value) → Except String (List (String × Value))
  | [] => .ok changes
  | (key, v) :: rest =>
    match changeable? key with
    | none => .error key
    | some f => changesOf (if v = .null then changes else putChange changes f.plain v) rest

/-- The template with the changes in place of its own fields, read anew. -/
def change (zones : Registry) (defaults : SlotSettings) (t : Template)
    (changes : List (String × Value)) : Reading Template :=
  readFields zones defaults <|
    (t.toFields FieldName.plain).map fun (name, v) => (name, (changes.lookup name).getD v)

end Template
end Appointments
