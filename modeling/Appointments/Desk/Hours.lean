-- The desk's side for providers: weekly hours and blackouts.
import Appointments.Program
import Appointments.Request
namespace Appointments

/-- A desk works by settings: the zones that it knows, the defaults of new
templates, and the limits of slots and bookings. -/
structure Desk where
  zones : Registry := .standard
  defaults : SlotSettings := {}
  slots : SlotSettings := {}
  bookings : BookingSettings := {}

namespace Desk

/-- A desk with settings that also serve as the defaults of templates. -/
def ofSettings (s : Settings) : Desk where
  defaults := s.slots
  slots := s.slots
  bookings := s.bookings

/-! ## Weekly hours -/

/-- The template of a provider, which is created on first use. -/
def template (desk : Desk) (provider : Value) : Action Template := Action.within none do
  let provider ← Request.requiredId "providerUserId" provider
  match ← Action.call (.template provider) with
  | some t => return t
  | none =>
    let t := Template.initial desk.defaults provider
    Action.log .hours .info ("Default availability created for provider " ++ provider)
    Action.call (.saveTemplate t)
    return t

/-- Changes the fields that the updates name. -/
def updateTemplate (desk : Desk) (provider : Value) (updates : List (String × Value)) :
    Action Template := Action.within none do
  let current ← desk.template provider
  match Template.changesOf [] updates with
  | .error key => Action.reject (.unknownTemplateField key)
  | .ok [] => return current
  | .ok changes =>
    match current.change desk.zones desk.defaults changes with
    | .issues found => Action.reject (.badTemplate found)
    | .outOfRange => throw (.calendar .outOfRange)
    | .ok t =>
      let names := (changes.map (·.1)).sortedBy fun a b => a ≤ b
      Action.log .hours .info ("Availability updated for provider " ++ t.provider ++ ": " ++
        (Value.list (names.map .text)).shown)
      Action.call (.saveTemplate t)
      return t

/-- The arguments of a call that changes fields, besides the fields. -/
def ownArguments : List String := ["provider_user_id", "self"]

/-- A call that changes the fields that the updates name. Where an update is
named like another argument, that argument is given twice: the request is
opened, but nothing is looked at, and the call is refused for the first such
name. -/
def callUpdate (desk : Desk) (provider : Value) (updates : List (String × Value)) :
    Action (Except String Template) :=
  match updates.find? fun update => ownArguments.contains update.1 with
  | some (name, _) => Action.within none (return .error name)
  | none => Except.ok <$> desk.updateTemplate provider updates

/-! ## Blackouts -/

/-- The blackouts of a provider in ascending order. -/
def blackouts (_desk : Desk) (provider : Value) : Action (List Blackout) := Action.within none do
  Action.call (.blackouts (Request.id provider))

/-- A new blackout, whose id is drawn before the reason is looked at. -/
def newBlackout (provider : String) (start stop : Instant) (reason isActive : Value) :
    Action Blackout := do
  let id ← Action.freshId
  let reason ← Request.text (some Blackout.maxReasonLength) reason
  Reading.orFail <|
    ((Value.readBool isActive).under (.field Blackout.isActiveField.plain)).check fun isActive =>
      Blackout.make id provider start stop reason isActive

/-- Adds a blackout. One that is active must not overlap another one. -/
def addBlackout (desk : Desk) (provider start stop reason isActive : Value) : Action Blackout :=
  Action.within none do
  let provider ← Request.requiredId "providerUserId" provider
  let start ← Request.instant "startAt" start
  let stop ← Request.instant "endAt" stop
  if stop ≤ start then
    Action.reject .stopNotAfterStart
  let blackout ← newBlackout provider start stop reason isActive
  let limit := desk.slots.maxBlackoutDays
  let longest ← CalendarFault.orFail (Span.ofDays limit)
  if longest.micros < blackout.length then
    Action.reject (.blackoutTooLong limit)
  if isActive.isGiven then
    let found ← Action.call (.activeBlackouts provider start stop)
    if !found.isEmpty then
      throw (.conflict .blackoutOverlap)
  Action.call (.addBlackout blackout)
  Action.log .hours .info ("Blackout " ++ blackout.id ++ " added for provider " ++ provider ++
    " (" ++ start.logged ++ " .. " ++ stop.logged ++ ")")
  return blackout

/-- Removes a blackout of the provider's own. -/
def removeBlackout (_desk : Desk) (provider blackout : Value) : Action Unit :=
  Action.within none do
  let id ← Request.requiredId "blackoutId" blackout
  if !(← Action.call (.deleteBlackout (Request.id provider) id)) then
    throw (.missing .blackout)
  Action.log .hours .info ("Blackout " ++ id ++ " removed for provider " ++ provider.plain)

end Desk
end Appointments
