-- How the parts of a request may fail: as callers are to expect, or with an
-- instant outside the calendar. Reading a template never comes to that.
import Appointments.Proofs.Services
namespace Appointments

/-! ## Failures as expected -/

/-- The computation succeeds, or fails as callers are to expect. Where it
leaves the calendar, there is this reason for it. -/
def AsExpected (edge : Prop) (x : Except Failure α) : Prop :=
  ∀ why, x = .error why → why.kind?.isSome = true ∨ (∃ fault, why = .calendar fault) ∧ edge

section
variable {edge edge' : Prop}

theorem asExpected_ok (a : α) : AsExpected edge (.ok a) := nofun

theorem asExpected_error {why : Failure} (h : why.kind?.isSome = true) :
    AsExpected edge (.error why : Except Failure α) := by
  intro other hother
  cases hother
  exact .inl h

theorem AsExpected.mono {x : Except Failure α} (h : AsExpected edge x) (himp : edge → edge') :
    AsExpected edge' x :=
  fun why hwhy => (h why hwhy).imp_right fun ⟨hfault, hedge⟩ => ⟨hfault, himp hedge⟩

/-- What stays in the calendar unless there is a reason not to. -/
theorem asExpected_orFail {x : Except CalendarFault α} (h : ¬ edge → ∃ a, x = .ok a) :
    AsExpected edge (CalendarFault.orFail x) := by
  by_cases hedge : edge
  · cases x with
    | ok a => exact asExpected_ok a
    | error fault =>
      intro why hwhy
      cases hwhy
      exact .inr ⟨⟨fault, rfl⟩, hedge⟩
  · obtain ⟨a, rfl⟩ := h hedge
    exact asExpected_ok a

/-- Every part fails only as expected, given what the parts before it have
come to. -/
theorem asExpected_bind {x : Except Failure β} {f : β → Except Failure α}
    (hx : AsExpected edge x) (hf : ∀ b, x = .ok b → AsExpected edge (f b)) :
    AsExpected edge (x >>= f) := by
  cases x with
  | ok b => exact hf b rfl
  | error why =>
    intro other hother
    cases hother
    exact hx why rfl

theorem asExpected_map {x : Except Failure β} (f : β → α) (hx : AsExpected edge x) :
    AsExpected edge (f <$> x) := by
  cases x with
  | ok b => exact asExpected_ok _
  | error why =>
    intro other hother
    cases hother
    exact hx why rfl

end

/-! ## Readings without instants -/

namespace Reading

/-- No instant outside the calendar was read. -/
def InRange (x : Reading α) : Prop := x ≠ .outOfRange

theorem inRange_ok (a : α) : (ok a).InRange := nofun

theorem inRange_fail (kind : IssueKind) : (fail kind : Reading α).InRange := nofun

theorem InRange.map {x : Reading α} (h : x.InRange) (f : α → β) : (f <$> x).InRange := by
  cases x with
  | outOfRange => exact absurd rfl h
  | _ => exact nofun

theorem InRange.seq {f : Reading (α → β)} {x : Reading α} (hf : f.InRange) (hx : x.InRange) :
    (f <*> x).InRange := by
  cases f with
  | outOfRange => exact absurd rfl hf
  | _ =>
    cases x with
    | outOfRange => exact absurd rfl hx
    | _ => exact nofun

theorem InRange.check {x : Reading α} {f : α → Reading β} (hx : x.InRange)
    (hf : ∀ a, (f a).InRange) : (x.check f).InRange := by
  cases x with
  | ok a => exact hf a
  | issues found => exact nofun
  | outOfRange => exact absurd rfl hx

theorem InRange.under {x : Reading α} {step : PathStep} (hx : x.InRange) :
    (x.under step).InRange := by
  cases x with
  | outOfRange => exact absurd rfl hx
  | _ => exact nofun

end Reading

open Reading

section
variable {α : Type} {read : Value → Reading α}

theorem FieldName.inRange_required (hread : ∀ v, (read v).InRange) (f : FieldName)
    (fields : List (String × Value)) : (f.required read fields).InRange := by
  unfold required
  split
  · exact (hread _).under
  · exact (inRange_fail _).under

theorem FieldName.inRange_withDefault (hread : ∀ v, (read v).InRange) (f : FieldName) (a : α)
    (fields : List (String × Value)) : (f.withDefault a read fields).InRange := by
  unfold withDefault
  split
  · exact (hread _).under
  · exact inRange_ok a

namespace Value

theorem inRange_readRecord {read : List (String × Value) → Reading α}
    (hread : ∀ fields, (read fields).InRange) (v : Value) : (v.readRecord read).InRange := by
  cases v with
  | object fields => exact hread fields
  | _ => exact inRange_fail _

theorem inRange_readItems (hread : ∀ v, (read v).InRange) (i : Nat) (items : List Value) :
    (readItems read i items).InRange := by
  induction items generalizing i with
  | nil => exact inRange_ok _
  | cons v vs ih => exact (((hread v).under).map _).seq (ih _)

theorem inRange_readList (hread : ∀ v, (read v).InRange) (v : Value) :
    (v.readList read).InRange := by
  cases v with
  | list items => exact inRange_readItems hread 0 items
  | _ => exact inRange_fail _

theorem inRange_readText (v : Value) : v.readText.InRange := by
  cases v <;> exact nofun

theorem inRange_readSomeText (v : Value) : v.readSomeText.InRange :=
  (inRange_readText v).check fun s => by split <;> exact nofun

theorem inRange_readInt (v : Value) : v.readInt.InRange := by
  cases v with
  | float x =>
    simp only [readInt]
    split <;> exact nofun
  | text s =>
    simp only [readInt]
    split <;> exact nofun
  | _ => exact nofun

theorem inRange_readIntWithin (least greatest : Option Int) (v : Value) :
    (v.readIntWithin least greatest).InRange := by
  refine (inRange_readInt v).check fun n => ?_
  split
  · exact inRange_fail _
  · split <;> exact nofun

theorem inRange_boolOfInt (n : Int) : (boolOfInt n).InRange := by
  unfold boolOfInt
  split
  · exact inRange_ok _
  · split <;> exact nofun

theorem inRange_readBool (v : Value) : v.readBool.InRange := by
  cases v with
  | int n =>
    simp only [readBool]
    split
    · exact inRange_boolOfInt _
    · exact inRange_fail _
  | float x =>
    simp only [readBool]
    split
    · exact inRange_boolOfInt _
    · exact inRange_fail _
  | text s =>
    simp only [readBool]
    split <;> exact nofun
  | _ => exact nofun

end Value

end

/-! ## Readings of templates -/

theorem ClockTime.inRange_read (v : Value) : (ClockTime.read v).InRange := by
  refine (Value.inRange_readText v).check fun s => ?_
  cases ofText s with
  | ok t => exact inRange_ok t
  | error e => exact inRange_fail _

theorem TimeRange.inRange_read (v : Value) : (TimeRange.read v).InRange := by
  refine (Value.inRange_readRecord (fun fields => ?_) v).check fun ⟨start, stop⟩ => ?_
  · exact ((FieldName.inRange_required ClockTime.inRange_read _ _).map _).seq
      (FieldName.inRange_required ClockTime.inRange_read _ _)
  · unfold between
    dsimp only
    split
    · exact inRange_ok _
    · exact inRange_fail _

theorem DayHours.inRange_read (v : Value) : (DayHours.read v).InRange := by
  refine Value.inRange_readRecord (fun fields => ?_) v
  refine ((FieldName.inRange_required (Value.inRange_readIntWithin _ _) _ _).map _).seq
    (FieldName.inRange_withDefault (fun v => ?_) _ _ _)
  refine (Value.inRange_readList TimeRange.inRange_read v).check fun ranges => ?_
  unfold arrange
  dsimp only
  split <;> exact nofun

theorem Template.inRange_readTimeZone (zones : Registry) (v : Value) :
    (readTimeZone zones v).InRange := by
  refine (Value.inRange_readText v).check fun s => ?_
  dsimp only
  split <;> exact nofun

theorem Template.inRange_readWeekly (v : Value) : (readWeekly v).InRange := by
  refine (Value.inRange_readList DayHours.inRange_read v).check fun days => ?_
  unfold arrange
  split <;> exact nofun

theorem Template.inRange_readFields (zones : Registry) (defaults : SlotSettings)
    (fields : List (String × Value)) : (readFields zones defaults fields).InRange := by
  unfold readFields
  exact ((((((FieldName.inRange_required Value.inRange_readSomeText _ _).map _).seq
    (FieldName.inRange_withDefault (inRange_readTimeZone zones) _ _ _)).seq
    (FieldName.inRange_withDefault (Value.inRange_readIntWithin _ _) _ _ _)).seq
    (FieldName.inRange_withDefault (Value.inRange_readIntWithin _ _) _ _ _)).seq
    (FieldName.inRange_withDefault Value.inRange_readBool _ _ _)).seq
    (FieldName.inRange_withDefault inRange_readWeekly _ _ _)

/-! ## Parts of requests -/

section
variable {edge : Prop}

namespace Request

theorem asExpected_requiredId (field : String) (v : Value) :
    AsExpected edge (requiredId field v) := by
  unfold requiredId
  dsimp only
  split
  · exact asExpected_error rfl
  · exact asExpected_ok _

theorem asExpected_text (limit : Option Int) (s : Option String) :
    AsExpected edge (text limit (Value.ofOption .text s)) := by
  cases s with
  | none => exact asExpected_ok none
  | some s =>
    simp only [Value.ofOption, text]
    cases Text.stripOrNone s with
    | none => exact asExpected_ok none
    | some t =>
      cases limit with
      | none => exact asExpected_ok _
      | some n =>
        dsimp only
        split
        · exact asExpected_error rfl
        · exact asExpected_ok _

theorem asExpected_day (field : String) (given : DayInput) :
    AsExpected edge (day field given) := by
  cases given with
  | day d => exact asExpected_ok d
  | instant => exact asExpected_error rfl
  | value v =>
    cases v with
    | text s =>
      simp only [day]
      split
      · split
        · exact asExpected_ok _
        · exact asExpected_error rfl
      · exact asExpected_error rfl
    | _ => exact asExpected_error rfl

theorem asExpected_zoneName (given : Option String) (default : String) :
    AsExpected edge (zoneName (Value.ofOption .text given) default) := by
  unfold zoneName
  split
  · cases given with
    | none => contradiction
    | some s => exact asExpected_ok _
  · exact asExpected_ok _

theorem asExpected_zone (zones : Registry) (name : String) :
    AsExpected edge (zone zones name) := by
  unfold zone
  split
  · exact asExpected_error rfl
  · split
    · exact asExpected_ok _
    · exact asExpected_error rfl

end Request

theorem Actor.asExpected_permit (actor : Actor) (op : Operation) (client provider : Option String) :
    AsExpected edge (actor.permit op client provider) := by
  unfold permit
  dsimp only
  split
  · exact asExpected_ok _
  · exact asExpected_error rfl

namespace Store

theorem asExpected_found (s : Store) (id : String) : AsExpected edge (s.found id) := by
  unfold found
  split
  · exact asExpected_ok _
  · exact asExpected_error rfl

theorem asExpected_named (s : Store) (id : Value) : AsExpected edge (s.named id) :=
  asExpected_bind (Request.asExpected_requiredId _ _) fun id _ => s.asExpected_found id

theorem asExpected_checkOnlySuccessor (s : Store) (b : Booking) :
    AsExpected edge (s.checkOnlySuccessor b) := by
  unfold checkOnlySuccessor
  split
  · exact asExpected_ok ()
  · split
    · exact asExpected_error rfl
    · exact asExpected_ok ()

theorem asExpected_amended (s : Store) (id : String) (expected : Status)
    (changes : List Booking.Change) : AsExpected edge (s.amended id expected changes) := by
  unfold amended
  split
  · exact asExpected_error rfl
  · split
    · exact asExpected_ok _
    · exact asExpected_error rfl

end Store

namespace Desk

theorem asExpected_duration (desk : Desk) (default : Int) (v : Value) :
    AsExpected edge (desk.duration default v) := by
  have hwithin : ∀ n : Int, AsExpected edge
      (if desk.bookings.minMinutes ≤ n ∧ n ≤ desk.bookings.maxMinutes then
        (.ok n : Except Failure Int)
      else .error (.rejected
        (.durationOutside desk.bookings.minMinutes desk.bookings.maxMinutes))) := by
    intro n
    split
    · exact asExpected_ok n
    · exact asExpected_error rfl
  cases v with
  | null => exact hwithin default
  | int n => exact hwithin n
  | _ => exact asExpected_error rfl

theorem asExpected_nextStatus (event : Event) (b : Booking) :
    AsExpected edge (nextStatus event b) := by
  unfold nextStatus
  split
  · exact asExpected_ok _
  · exact asExpected_error rfl

theorem asExpected_checkNotice {hours : Int} (hhours : ∃ span, Span.ofHours hours = .ok span)
    (event : Event) (now : Instant) (b : Booking) :
    AsExpected edge (checkNotice event hours now b) := by
  obtain ⟨span, hspan⟩ := hhours
  unfold checkNotice
  dsimp only
  split
  · exact asExpected_error rfl
  · rw [hspan]
    refine asExpected_bind (asExpected_ok span) fun notice _ => ?_
    split
    · exact asExpected_error rfl
    · exact asExpected_ok ()

theorem asExpected_stillConfirmed (s : Store) (id : String) :
    AsExpected edge (stillConfirmed s id) := by
  unfold stillConfirmed
  split
  · exact asExpected_ok ()
  · exact asExpected_error rfl

theorem asExpected_checkDays (desk : Desk) (first last : Day) :
    AsExpected edge (desk.checkDays first last) := by
  unfold checkDays
  dsimp only
  split
  · exact asExpected_error rfl
  · split
    · exact asExpected_error rfl
    · exact asExpected_ok ()

theorem asExpected_askedBlackout (id provider : String) {start stop : Instant} (h : start < stop)
    (reason : Option String) (isActive : Bool) : AsExpected edge
      (askedBlackout id provider start stop (Value.ofOption .text reason) (.bool isActive)) := by
  refine asExpected_bind (Request.asExpected_text _ _) fun text _ => ?_
  simp only [Value.readBool, Reading.under, Reading.check, Blackout.make, dif_pos h]
  exact asExpected_ok _

theorem asExpected_checkClear (s : Store) (provider : String) (start stop : Instant)
    (isActive : Value) : AsExpected edge (checkClear s provider start stop isActive) := by
  unfold checkClear
  split
  · exact asExpected_error rfl
  · exact asExpected_ok ()

theorem asExpected_checkNewBlackout (s : Store) (b : Blackout) :
    AsExpected edge (checkNewBlackout s b) := by
  unfold checkNewBlackout
  split
  · exact asExpected_error rfl
  · exact asExpected_ok ()

/-! ## Requests that meet no instants -/

section
variable {desk : Desk} {v : View}

theorem asExpected_templateDecision (provider : Value) :
    AsExpected edge (desk.templateDecision v provider) := by
  refine asExpected_bind (Request.asExpected_requiredId _ _) fun id _ => ?_
  split
  · exact asExpected_ok _
  · exact asExpected_ok _

theorem asExpected_updateDecision (updates : List (String × Value)) (current : Template) :
    AsExpected edge (desk.updateDecision updates current) := by
  unfold updateDecision
  split
  · exact asExpected_error rfl
  · exact asExpected_ok _
  · split
    · exact asExpected_error rfl
    · rename_i hrange
      exact absurd hrange (Template.inRange_readFields _ _ _)
    · exact asExpected_ok _

theorem asExpected_removeBlackoutDecision (provider blackout : Value) :
    AsExpected edge (removeBlackoutDecision v provider blackout) := by
  refine asExpected_bind (Request.asExpected_requiredId _ _) fun id _ => ?_
  split
  · exact asExpected_ok _
  · exact asExpected_error rfl

theorem asExpected_shown (s : Store) (actor : Actor) (id : Value) :
    AsExpected edge (shown s actor id) :=
  asExpected_bind (s.asExpected_named id) fun _ _ =>
    asExpected_bind (actor.asExpected_permit _ _ _) fun _ _ => asExpected_ok _

theorem asExpected_shownList (s : Store) (actor : Actor) (filters : Filters) :
    AsExpected edge (desk.shownList s actor filters) := by
  refine asExpected_bind ?_ fun _ _ => asExpected_ok _
  unfold checkOrder
  split
  · split
    · exact asExpected_error rfl
    · exact asExpected_ok ()
  · exact asExpected_ok ()

theorem asExpected_shownHistory (s : Store) (actor : Actor) (id : Value) :
    AsExpected edge (desk.shownHistory s actor id) := by
  refine asExpected_bind (Request.asExpected_requiredId _ _) fun id _ => ?_
  refine asExpected_bind (s.asExpected_found id) fun requested _ => ?_
  refine asExpected_bind (actor.asExpected_permit _ _ _) fun _ _ => ?_
  cases History.ofCandidates desk.bookings.maxLinks id requested (s.chainCandidates requested) with
  | ok h => exact asExpected_ok h
  | error fault => exact asExpected_error rfl

theorem asExpected_cancelDecision
    (hhours : ∃ span, Span.ofHours desk.bookings.cancelHours = .ok span) (actor : Actor)
    (id : Value) (reason : Option String) :
    AsExpected edge (desk.cancelDecision v actor id (Value.ofOption .text reason)) := by
  refine asExpected_bind (v.store.asExpected_named id) fun b _ => ?_
  refine asExpected_bind (actor.asExpected_permit _ _ _) fun _ _ => ?_
  refine asExpected_bind (asExpected_nextStatus _ _) fun status _ => ?_
  refine asExpected_bind (asExpected_checkNotice hhours _ _ _) fun _ _ => ?_
  refine asExpected_bind (Request.asExpected_text _ _) fun reason _ => ?_
  exact asExpected_map _ (v.store.asExpected_amended _ _ _)

end
end Desk
end

end Appointments
