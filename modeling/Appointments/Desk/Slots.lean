-- The desk's answers about free slots: for a run of days, and around an
-- instant that somebody wants to book.
import Appointments.Desk.Hours
import Appointments.Openings
namespace Appointments.Desk

/-! ## Slots of a run of days -/

/-- A span of time that covers a run of local days in every zone. -/
def window (first last : Day) : Except CalendarFault Interval := do
  return ⟨Instant.ofDay (← first.shift (-1)), Instant.ofDay (← last.shift 2)⟩

/-- The free slots of a template on a run of local days. Excluded bookings
take no time. -/
def openings (desk : Desk) (t : Template) (first last : Day) (zoneName : String)
    (exclude : List String) : Action (List Interval) := do
  let window ← CalendarFault.orFail (window first last)
  let blackouts ← Action.call (.activeBlackouts t.provider window.start window.stop)
  let bookings ← Action.call (.overlapping t.provider window.start window.stop exclude)
  let zone ← Request.zone desk.zones zoneName
  (t.notices zone first last).forM (Action.log .calendar .debug)
  let found ← CalendarFault.orFail (Openings.between t zone blackouts bookings first last)
  Action.log .openings .debug ("Generated " ++ toString found.slots.length ++
    " free slot(s) for " ++ t.provider ++ " (" ++ first.text ++ ".." ++ last.text ++ "), " ++
    toString found.blocked ++ " blocked")
  return found.slots

/-- The template of a provider, if there is one and it is active. -/
def activeTemplate? (provider : Value) : Action (Option Template) := do
  let found ← Action.call (.template (Request.id provider))
  return found.filter (·.isActive)

/-! ## What callers ask for -/

/-- The first day of a query: the one given, or else today. -/
def firstDay (zone : Zone) (now : Instant) : Request.DayInput → Except Failure Day
  | .value .null => CalendarFault.orFail (zone.dayAt now)
  | given => Request.day "from" given

/-- The last day of a query: the one given, or else some days after the
first. -/
def lastDay (desk : Desk) (first : Day) : Request.DayInput → Except Failure Day
  | .value .null => CalendarFault.orFail (first.daysLater desk.slots.defaultRangeDays)
  | given => Request.day "to" given

/-- A run of days is not too long, and does not end before it starts. -/
def checkDays (desk : Desk) (first last : Day) : Except Failure Unit :=
  let limit := desk.slots.maxRangeDays
  let days := Int.ofNat last.number - Int.ofNat first.number
  if days < 0 then .error (.rejected .daysReversed)
  else if limit < days then .error (.rejected (.tooManyDays limit))
  else .ok ()

/-- At most so many slots as the settings allow. -/
def capped (desk : Desk) (provider : String) (slots : List Interval) : Action (List Interval) := do
  let limit := desk.slots.maxSlots
  if limit < slots.length then
    Action.log .hours .debug ("Capping " ++ toString slots.length ++ " slots to " ++
      toString limit ++ " for provider " ++ provider)
    return Store.page 0 (some limit) slots
  else return slots

/-- The free slots of a provider that have not ended yet, on a run of local
days. -/
def freeSlots (desk : Desk) (provider : Value) (first last : Request.DayInput)
    (timeZone : Value) : Action (List Interval) := Action.within none do
  match ← activeTemplate? provider with
  | none => return []
  | some t =>
    let zoneName ← Request.zoneName timeZone t.timeZone
    let zone ← Request.zone desk.zones zoneName
    let now ← Action.now
    let first ← firstDay zone now first
    let last ← desk.lastDay first last
    desk.checkDays first last
    let found ← desk.openings t first last zoneName []
    desk.capped (Request.id provider) (found.filter (now < ·.stop))

/-- All free slots of a provider on the local days around an instant, where
excluded bookings take no time. -/
def freeSlotsAround (desk : Desk) (provider : Value) (t : Instant) (exclude : List String) :
    Action (List Interval) := Action.within none do
  match ← activeTemplate? provider with
  | none => return []
  | some template =>
    let zone ← Request.zone desk.zones template.timeZone
    let day ← CalendarFault.orFail (zone.dayAt t)
    let first ← CalendarFault.orFail (day.shift (-1))
    let last ← CalendarFault.orFail (day.shift 1)
    desk.openings template first last template.timeZone exclude

end Appointments.Desk
