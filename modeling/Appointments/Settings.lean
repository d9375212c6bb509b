-- The settings: defaults and limits of slots and bookings, read from
-- environment variables and checked before use.
import Appointments.Number.Integer
import Appointments.Text.Quoted
namespace Appointments

/-! ## The settings and their defaults -/

/-- Defaults of weekly hours, and limits of slot queries and blackouts. -/
structure SlotSettings where
  timeZone : String := "Europe/Berlin"
  slotMinutes : Int := 60
  bufferMinutes : Int := 0
  maxRangeDays : Int := 14
  defaultRangeDays : Int := 7
  maxSlots : Int := 500
  maxBlackoutDays : Int := 60
deriving DecidableEq, Repr

/-- Bounds of durations, notice before the start, and limits of histories
and lists. -/
structure BookingSettings where
  defaultMinutes : Int := 60
  minMinutes : Int := 15
  maxMinutes : Int := 1440
  cancelHours : Int := 24
  rescheduleHours : Int := 24
  maxLinks : Int := 200
  defaultLimit : Int := 20
  maxLimit : Int := 100
deriving DecidableEq, Repr

structure Settings where
  slots : SlotSettings := {}
  bookings : BookingSettings := {}
  logLevel : String := "INFO"
  serviceName : String := "slotbook"
deriving DecidableEq, Repr

/-! ## Faults -/

/-- Why settings are refused. Each fault names the variable and what it was
set to. -/
inductive SettingsFault
  | notInteger (name raw : String)
  | notBetween (name : String) (low high : String) (got : Int)
  | tooSmall (name : String) (least : String) (got : Int)
  | defaultOutsideBounds (got : Int)
deriving DecidableEq, Repr

def SettingsFault.message : SettingsFault → String
  | .notInteger v raw => "Invalid integer for " ++ v ++ ": " ++ Text.quoted raw
  | .notBetween v low high got =>
    v ++ " must be between " ++ low ++ " and " ++ high ++ ", got " ++ toString got
  | .tooSmall v least got => v ++ " must be >= " ++ least ++ ", got " ++ toString got
  | .defaultOutsideBounds got =>
    "DEFAULT_BOOKING_DURATION_MIN must lie within the booking duration bounds, got " ++ toString got

/-! ## The environment -/

/-- Environment variables by name. -/
abbrev Environment := List (String × String)

/-- The integer that a text spells for a variable. -/
def readSetting (name raw : String) : Except SettingsFault Int :=
  match Integer.ofSetting? raw with
  | some n => .ok n
  | none => .error (.notInteger name raw)

namespace Environment

/-- The variable as an integer, or its default where it is not set. -/
def int (env : Environment) (name : String) (default : Int) : Except SettingsFault Int :=
  match env.lookup name with
  | some raw => readSetting name raw
  | none => .ok default

/-- The variable as text, or its default where it is not set. -/
def text (env : Environment) (name default : String) : String :=
  (env.lookup name).getD default

end Environment

/-- The settings of slots, in the order in which faults are reported. -/
def SlotSettings.ofEnvironment (env : Environment) : Except SettingsFault SlotSettings := do
  let d : SlotSettings := {}
  let slotMinutes ← env.int "DEFAULT_SLOT_DURATION_MIN" d.slotMinutes
  let bufferMinutes ← env.int "DEFAULT_BUFFER_MIN" d.bufferMinutes
  let maxRangeDays ← env.int "MAX_SLOT_RANGE_DAYS" d.maxRangeDays
  let defaultRangeDays ← env.int "DEFAULT_SLOT_RANGE_DAYS" d.defaultRangeDays
  let maxSlots ← env.int "MAX_SLOTS_RETURNED" d.maxSlots
  let maxBlackoutDays ← env.int "MAX_BLACKOUT_DAYS" d.maxBlackoutDays
  return {
    timeZone := env.text "DEFAULT_TIME_ZONE" d.timeZone
    slotMinutes, bufferMinutes, maxRangeDays, defaultRangeDays, maxSlots, maxBlackoutDays }

/-- The settings of bookings, in the order in which faults are reported. -/
def BookingSettings.ofEnvironment (env : Environment) : Except SettingsFault BookingSettings := do
  let d : BookingSettings := {}
  let defaultMinutes ← env.int "DEFAULT_BOOKING_DURATION_MIN" d.defaultMinutes
  let minMinutes ← env.int "MIN_BOOKING_DURATION_MIN" d.minMinutes
  let maxMinutes ← env.int "MAX_BOOKING_DURATION_MIN" d.maxMinutes
  let cancelHours ← env.int "CANCEL_MIN_HOURS_BEFORE_START" d.cancelHours
  let rescheduleHours ← env.int "RESCHEDULE_MIN_HOURS_BEFORE_START" d.rescheduleHours
  let maxLinks ← env.int "MAX_HISTORY_HOPS" d.maxLinks
  let defaultLimit ← env.int "DEFAULT_LIST_LIMIT" d.defaultLimit
  let maxLimit ← env.int "MAX_LIST_LIMIT" d.maxLimit
  return {
    defaultMinutes, minMinutes, maxMinutes, cancelHours, rescheduleHours, maxLinks, defaultLimit,
    maxLimit }

/-! ## The checks -/

/-- A fault unless the condition holds. -/
def SettingsFault.unless (fault : SettingsFault) (holds : Bool) : Except SettingsFault Unit :=
  if holds then .ok () else .error fault

def SlotSettings.check (s : SlotSettings) : Except SettingsFault Unit := do
  (SettingsFault.notBetween "DEFAULT_SLOT_DURATION_MIN" "15" "240" s.slotMinutes).unless
    (15 ≤ s.slotMinutes && s.slotMinutes ≤ 240)
  (SettingsFault.notBetween "DEFAULT_BUFFER_MIN" "0" "120" s.bufferMinutes).unless
    (0 ≤ s.bufferMinutes && s.bufferMinutes ≤ 120)
  (SettingsFault.tooSmall "MAX_SLOT_RANGE_DAYS" "0" s.maxRangeDays).unless (0 ≤ s.maxRangeDays)
  (SettingsFault.notBetween "DEFAULT_SLOT_RANGE_DAYS" "0" "MAX_SLOT_RANGE_DAYS"
    s.defaultRangeDays).unless (0 ≤ s.defaultRangeDays && s.defaultRangeDays ≤ s.maxRangeDays)
  (SettingsFault.tooSmall "MAX_SLOTS_RETURNED" "1" s.maxSlots).unless (1 ≤ s.maxSlots)
  (SettingsFault.tooSmall "MAX_BLACKOUT_DAYS" "1" s.maxBlackoutDays).unless (1 ≤ s.maxBlackoutDays)

def BookingSettings.check (b : BookingSettings) : Except SettingsFault Unit := do
  (SettingsFault.tooSmall "MIN_BOOKING_DURATION_MIN" "1" b.minMinutes).unless (1 ≤ b.minMinutes)
  (SettingsFault.tooSmall "MAX_BOOKING_DURATION_MIN" "MIN_BOOKING_DURATION_MIN"
    b.maxMinutes).unless (b.minMinutes ≤ b.maxMinutes)
  (SettingsFault.defaultOutsideBounds b.defaultMinutes).unless
    (b.minMinutes ≤ b.defaultMinutes && b.defaultMinutes ≤ b.maxMinutes)
  (SettingsFault.tooSmall "CANCEL_MIN_HOURS_BEFORE_START" "0" b.cancelHours).unless
    (0 ≤ b.cancelHours)
  (SettingsFault.tooSmall "RESCHEDULE_MIN_HOURS_BEFORE_START" "0" b.rescheduleHours).unless
    (0 ≤ b.rescheduleHours)
  (SettingsFault.tooSmall "MAX_HISTORY_HOPS" "1" b.maxLinks).unless (1 ≤ b.maxLinks)
  (SettingsFault.notBetween "DEFAULT_LIST_LIMIT" "1" "MAX_LIST_LIMIT" b.defaultLimit).unless
    (1 ≤ b.defaultLimit && b.defaultLimit ≤ b.maxLimit)

namespace Settings

def check (s : Settings) : Except SettingsFault Unit := do
  s.slots.check
  s.bookings.check

/-- The settings of an environment, read and checked. -/
def ofEnvironment (env : Environment) : Except SettingsFault Settings := do
  let d : Settings := {}
  let slots ← SlotSettings.ofEnvironment env
  let bookings ← BookingSettings.ofEnvironment env
  let s : Settings := {
    slots, bookings
    logLevel := env.text "LOG_LEVEL" d.logLevel
    serviceName := env.text "SERVICE_NAME" d.serviceName }
  s.check
  return s

end Settings
end Appointments
