-- The services of the desk, for clients and for providers, and what each of
-- them decides while nobody else acts.
import Appointments.Proofs.Rulings
namespace Appointments

namespace Desk

open Appointments.Action

/-! ## Weekly hours -/

/-- What a call for a template decides. -/
def templateDecision (desk : Desk) (v : View) (provider : Value) :
    Except Failure (Template × List Entry) := do
  let provider ← Request.requiredId "providerUserId" provider
  match v.store.templates.get? provider with
  | some t => return (t, [])
  | none =>
    let t := Template.initial desk.defaults provider
    return (t, [.template t])

theorem follows_template (desk : Desk) (v : View) (provider : Value) :
    (desk.template provider).Follows v (.of (desk.templateDecision v provider)) := by
  unfold template templateDecision
  apply follows_within
  apply follows_of_reports (reports_lift _)
  intro provider _
  refine follows_of_report (reports_call (x := .ok (v.store.templates.get? provider)) rfl) ?_
  cases v.store.templates.get? provider with
  | some t => exact follows_pure t
  | none =>
    apply follows_of_report (reports_log _ _ _)
    exact follows_write () [.template (Template.initial desk.defaults provider)] rfl
      fun _ => reports_pure _

/-- What updates make of a template. -/
def updateDecision (desk : Desk) (updates : List (String × Value)) (current : Template) :
    Except Failure (Template × List Entry) :=
  match Template.changesOf [] updates with
  | .error key => .error (.rejected (.unknownTemplateField key))
  | .ok [] => .ok (current, [])
  | .ok changes =>
    match current.change desk.zones desk.defaults changes with
    | .issues found => .error (.rejected (.badTemplate found))
    | .outOfRange => .error (.calendar .outOfRange)
    | .ok t => .ok (t, [.template t])

/-- What a call to change a template decides. A template that is created for
it stays, even where the updates are refused. -/
def updateRuling (desk : Desk) (v : View) (provider : Value) (updates : List (String × Value)) :
    Ruling Template :=
  (Ruling.of (desk.templateDecision v provider)).bind fun current =>
    .of (desk.updateDecision updates current)

theorem follows_updateTemplate (desk : Desk) (v : View) (provider : Value)
    (updates : List (String × Value)) :
    (desk.updateTemplate provider updates).Follows v (desk.updateRuling v provider updates) := by
  unfold updateTemplate updateRuling
  apply follows_within
  apply follows_bind (follows_template desk v provider)
  intro current v' _
  unfold updateDecision
  rcases Template.changesOf [] updates with key | _ | ⟨change, changes⟩
  · exact follows_throw _
  · exact follows_pure current
  · dsimp only
    cases current.change desk.zones desk.defaults (change :: changes) with
    | issues found => exact follows_throw _
    | outOfRange => exact follows_throw _
    | ok t =>
      apply follows_of_report (reports_log _ _ _)
      exact follows_write () [.template t] rfl fun _ => reports_pure t

/-! ## Blackouts -/

/-- The blackout that a call asks for, under an id that is drawn for it. -/
def askedBlackout (id provider : String) (start stop : Instant) (reason isActive : Value) :
    Except Failure Blackout := do
  let reason ← Request.text (some Blackout.maxReasonLength) reason
  Reading.orFail <|
    ((Value.readBool isActive).under (.field Blackout.isActiveField.plain)).check fun isActive =>
      Blackout.make id provider start stop reason isActive

theorem follows_newBlackout (v : View) (provider : String) (start stop : Instant)
    (reason isActive : Value) :
    (newBlackout provider start stop reason isActive).Follows v
      ⟨askedBlackout v.nextId provider start stop reason isActive, []⟩ := by
  unfold newBlackout askedBlackout
  apply follows_freshId
  intro v' _
  apply Reports.follows
  apply reports_bind (reports_lift _)
  intro reason _
  exact reports_lift _

/-- A blackout that is to be active does not overlap another one. -/
def checkClear (s : Store) (provider : String) (start stop : Instant) (isActive : Value) :
    Except Failure Unit :=
  if isActive.isGiven && !(s.activeBlackouts provider start stop).isEmpty then
    .error (.conflict .blackoutOverlap)
  else .ok ()

/-- No blackout is kept under the id of this one. -/
def checkNewBlackout (s : Store) (b : Blackout) : Except Failure Unit :=
  if (s.blackouts.get? b.id).isSome then .error (.conflict (.blackoutExists b.id)) else .ok ()

/-- What a call to add a blackout decides. -/
def addBlackoutDecision (desk : Desk) (v : View) (provider start stop reason isActive : Value) :
    Except Failure (Blackout × List Entry) := do
  let provider ← Request.requiredId "providerUserId" provider
  let start ← Request.instant "startAt" start
  let stop ← Request.instant "endAt" stop
  if stop ≤ start then
    .error (.rejected .stopNotAfterStart)
  else
    let b ← askedBlackout v.nextId provider start stop reason isActive
    let longest ← CalendarFault.orFail (Span.ofDays desk.slots.maxBlackoutDays)
    if longest.micros < b.length then
      .error (.rejected (.blackoutTooLong desk.slots.maxBlackoutDays))
    else
      checkClear v.store provider start stop isActive
      checkNewBlackout v.store b
      return (b, [.blackout b])

/-- The last part of a call that adds a blackout. -/
theorem follows_saveBlackout (v : View) (b : Blackout) (message : String) :
    (do
      Action.call (.addBlackout b)
      Action.log .hours .info message
      return b : Action Blackout).Follows v (.of do
        checkNewBlackout v.store b
        return (b, [.blackout b])) := by
  unfold checkNewBlackout
  by_cases hb : (v.store.blackouts.get? b.id).isSome = true
  · rw [if_pos hb]
    apply follows_refusal
    simp only [StoreCall.answer, Store.addBlackout, if_pos hb]
    rfl
  · rw [if_neg hb]
    refine follows_write () [.blackout b] ?_ fun v' =>
      reports_ok_bind (reports_log _ _ _) (reports_pure b)
    simp only [StoreCall.answer, Store.addBlackout, if_neg hb]
    rfl

theorem follows_addBlackout (desk : Desk) (v : View)
    (provider start stop reason isActive : Value) :
    (desk.addBlackout provider start stop reason isActive).Follows v
      (.of (desk.addBlackoutDecision v provider start stop reason isActive)) := by
  unfold addBlackout addBlackoutDecision
  apply follows_within
  apply follows_of_reports (reports_lift _)
  intro provider _
  apply follows_of_reports (reports_lift _)
  intro start _
  apply follows_of_reports (reports_lift _)
  intro stop _
  by_cases hstop : stop ≤ start
  · simp only [if_pos hstop]
    exact follows_throw _
  simp only [if_neg hstop]
  rw [Ruling.of_bind]
  apply follows_bind (follows_newBlackout v provider start stop reason isActive)
  intro b v' hv'
  obtain hv' : v'.store = v.store := hv'
  rw [← hv']
  apply follows_of_reports (reports_lift _)
  intro longest _
  by_cases hlong : longest.micros < b.length
  · simp only [if_pos hlong]
    exact follows_throw _
  simp only [if_neg hlong]
  unfold checkClear
  by_cases hgiven : isActive.isGiven = true
  · simp only [hgiven, if_true, Bool.true_and]
    refine follows_of_report
      (reports_call (x := .ok (v'.store.activeBlackouts provider start stop)) rfl) ?_
    cases (v'.store.activeBlackouts provider start stop).isEmpty with
    | true => exact follows_saveBlackout v' b _
    | false => exact follows_throw _
  · simp only [hgiven, Bool.false_and]
    exact follows_saveBlackout v' b _

/-- What a call to remove a blackout decides. -/
def removeBlackoutDecision (v : View) (provider blackout : Value) :
    Except Failure (Unit × List Entry) := do
  let id ← Request.requiredId "blackoutId" blackout
  if (v.store.blackouts.get? id).any (·.provider == Request.id provider) then
    return ((), [.noBlackout id])
  else .error (.missing .blackout)

theorem follows_removeBlackout (desk : Desk) (v : View) (provider blackout : Value) :
    (desk.removeBlackout provider blackout).Follows v
      (.of (removeBlackoutDecision v provider blackout)) := by
  unfold removeBlackout removeBlackoutDecision
  apply follows_within
  apply follows_of_reports (reports_lift _)
  intro id _
  by_cases hfound : (v.store.blackouts.get? id).any (·.provider == Request.id provider) = true
  · obtain ⟨b, hb, hprovider⟩ := (Option.any_eq_true _ _).1 hfound
    rw [if_pos hfound]
    refine follows_write true [.noBlackout id] ?_ fun v' =>
      reports_ok_bind (reports_log _ _ _) (reports_pure ())
    simp only [StoreCall.answer, Store.deleteBlackout, hb]
    rw [if_pos (by simpa using hprovider)]
    rfl
  · rw [if_neg hfound]
    refine follows_write false [] ?_ fun v' =>
      reports_error_bind (reports_throw _)
    simp only [StoreCall.answer, Store.deleteBlackout]
    cases hb : v.store.blackouts.get? id with
    | none => rfl
    | some b =>
      rw [hb] at hfound
      dsimp only
      rw [if_neg (by simpa using hfound)]
      rfl

end Desk

/-! ## Services -/

/-- What somebody asks the desk for. -/
inductive Service
  | errand (e : Errand)
  | template (provider : Value)
  | updateTemplate (provider : Value) (updates : List (String × Value))
  | addBlackout (provider start stop reason isActive : Value)
  | removeBlackout (provider blackout : Value)

/-- What the desk answers. -/
inductive Answer
  | booking (b : Booking)
  | template (t : Template)
  | blackout (b : Blackout)
  | removed

/-- What an errand at the desk decides. -/
def Errand.decision (desk : Desk) (v : View) : Errand → Except Failure (Booking × List Entry)
  | book actor request response provider start minutes note =>
    desk.bookDecision v actor request response provider start minutes note
  | cancel actor id reason => desk.cancelDecision v actor id reason
  | complete actor id => Desk.completeDecision v actor id
  | reschedule actor id start minutes reason =>
    desk.rescheduleDecision v actor id start minutes reason

theorem Errand.follows_serve (desk : Desk) (v : View) (errand : Errand) :
    (errand.serve desk).Follows v (.of (errand.decision desk v)) := by
  cases errand with
  | book => exact desk.follows_book v _ _ _ _ _ _ _
  | cancel => exact desk.follows_cancel v _ _ _
  | complete => exact desk.follows_complete v _ _
  | reschedule => exact desk.follows_reschedule v _ _ _ _ _

namespace Service

def serve (desk : Desk) : Service → Action Answer
  | errand e => Answer.booking <$> e.serve desk
  | template provider => Answer.template <$> desk.template provider
  | updateTemplate provider updates => Answer.template <$> desk.updateTemplate provider updates
  | addBlackout provider start stop reason isActive =>
    Answer.blackout <$> desk.addBlackout provider start stop reason isActive
  | removeBlackout provider blackout =>
    (fun _ => Answer.removed) <$> desk.removeBlackout provider blackout

/-- What the desk answers and writes. -/
def ruling (desk : Desk) (v : View) : Service → Ruling Answer
  | errand e => (Ruling.of (e.decision desk v)).map .booking
  | template provider => (Ruling.of (desk.templateDecision v provider)).map .template
  | updateTemplate provider updates => (desk.updateRuling v provider updates).map .template
  | addBlackout provider start stop reason isActive =>
    (Ruling.of (desk.addBlackoutDecision v provider start stop reason isActive)).map .blackout
  | removeBlackout provider blackout =>
    (Ruling.of (Desk.removeBlackoutDecision v provider blackout)).map fun _ => .removed

theorem follows_serve (desk : Desk) (v : View) (service : Service) :
    (service.serve desk).Follows v (service.ruling desk v) := by
  cases service with
  | errand e => exact Action.follows_map _ (e.follows_serve desk v)
  | template => exact Action.follows_map _ (desk.follows_template v _)
  | updateTemplate => exact Action.follows_map _ (desk.follows_updateTemplate v _ _)
  | addBlackout => exact Action.follows_map _ (desk.follows_addBlackout v _ _ _ _ _)
  | removeBlackout => exact Action.follows_map _ (desk.follows_removeBlackout v _ _)

end Service
end Appointments
