-- Which failures reach the callers: those that they are to expect, and others
-- only where an instant or a day that they name, or the present one, is close
-- to an edge of the calendar.
import Appointments.Proofs.CalendarEdges
namespace Appointments

/-- An instant or a day that the matter names, or else the present one, is less
than three weeks away from an edge of the calendar. Most matters never come
near it. -/
def Matter.AtEdge (now : Instant) : Matter → Prop
  | book _ _ _ _ start _ _ | reschedule _ _ start _ _ => Request.NamesEdge start
  | addBlackout _ start stop _ _ => Request.NamesEdge start ∨ Request.NamesEdge stop
  | slots _ first _ _ => Desk.StartsAtEdge now first
  | look .. | cancel .. | complete .. | list .. | history .. | template .. | updateTemplate ..
  | removeBlackout .. => False

section
variable {edge : Prop}

theorem Ruling.asExpected_of {d : Except Failure (α × List Entry)} (h : AsExpected edge d) :
    AsExpected edge (of d).answer := by
  cases d with
  | ok out => exact asExpected_ok _
  | error why =>
    intro other hother
    cases hother
    exact h why rfl

theorem Ruling.asExpected_bind {r : Ruling β} {f : β → Ruling α} (hr : AsExpected edge r.answer)
    (hf : ∀ b, AsExpected edge (f b).answer) : AsExpected edge (r.bind f).answer := by
  unfold bind
  cases hanswer : r.answer with
  | ok b => exact hf b
  | error why =>
    rw [hanswer] at hr
    intro other hother
    cases hother
    exact hr why rfl

/-- A call answers as its ruling says. -/
theorem Action.Follows.asExpected {w : World} {a : Action α} {r : Ruling α}
    (h : a.Follows w.view r) (hr : AsExpected edge r.answer) (f : α → β) :
    (f <$> a).Ends w fun answer _ => AsExpected edge answer := by
  apply (follows_map f h w rfl).mono
  rintro answer w' ⟨rfl, -⟩
  exact asExpected_map f hr

end

/-- Whatever callers have asked of the desk so far, and whatever the time is:
the next call succeeds or fails as callers are to expect, unless it is about
the edges of the calendar. -/
theorem Desk.Usual.fails_as_expected {desk : Desk} (hdesk : desk.Usual)
    {c : Crowd Matter Finding} (h : Crowd.Reachable (Matter.serve desk) (fun s => s = {}) c)
    (w : World) (hw : w.store = c.store) (m : Matter) :
    (m.serve desk).Ends w fun answer _ => AsExpected (m.AtEdge w.clock) answer := by
  have hs : w.view.store.Proper desk.zones := by
    have hproper := h.proper hdesk.defaults fun s hs => hs ▸ Store.proper_empty desk.zones
    rw [← hw] at hproper
    exact hproper
  cases m with
  | book actor request response provider start minutes note =>
    exact (desk.follows_book _ _ _ _ _ _ _ _).asExpected
      (Ruling.asExpected_of (asExpected_bookDecision hdesk hs _ _ _ _ _ _ _)) _
  | look actor id => exact (desk.reports_booking actor id).follows.asExpected (asExpected_shown _ _ _) _
  | cancel actor id reason =>
    exact (desk.follows_cancel _ _ _ _).asExpected
      (Ruling.asExpected_of (asExpected_cancelDecision hdesk.cancelHours _ _ _)) _
  | complete actor id =>
    exact (desk.follows_complete _ _ _).asExpected
      (Ruling.asExpected_of (asExpected_completeDecision hs _ _)) _
  | reschedule actor id start minutes reason =>
    exact (desk.follows_reschedule _ _ _ _ _ _).asExpected
      (Ruling.asExpected_of (asExpected_rescheduleDecision hdesk hs _ _ _ _ _)) _
  | list actor filters =>
    exact (desk.reports_list actor filters).follows.asExpected (asExpected_shownList _ _ _) _
  | history actor id =>
    exact (desk.reports_history actor id).follows.asExpected (asExpected_shownHistory _ _ _) _
  | template provider =>
    exact (desk.follows_template _ _).asExpected
      (Ruling.asExpected_of (asExpected_templateDecision _)) _
  | updateTemplate provider updates =>
    exact (desk.follows_updateTemplate _ _ _).asExpected
      (Ruling.asExpected_bind (Ruling.asExpected_of (asExpected_templateDecision _))
        fun current => Ruling.asExpected_of (asExpected_updateDecision _ _)) _
  | addBlackout provider start stop reason isActive =>
    exact (desk.follows_addBlackout _ _ _ _ _ _).asExpected
      (Ruling.asExpected_of (asExpected_addBlackoutDecision hdesk _ _ _ _ _)) _
  | removeBlackout provider blackout =>
    exact (desk.follows_removeBlackout _ _ _).asExpected
      (Ruling.asExpected_of (asExpected_removeBlackoutDecision _ _)) _
  | slots provider first last timeZone =>
    exact (desk.reports_slotsListed _ _ _ _).follows.asExpected
      (asExpected_slotsListed hdesk hs _ _ _ _) _

/-! ## The small practice -/

namespace Practice

theorem usual : ({} : Desk).Usual where
  zones z hz := (Registry.spaced_of_mem z hz).2
  defaults := ⟨by decide, by decide +kernel, by decide +kernel⟩
  minMinutes := by decide
  maxMinutes := by decide
  cancelHours := ⟨_, rfl⟩
  rescheduleHours := ⟨_, rfl⟩
  rangeDays := by decide
  maxRangeDays := by decide
  maxBlackoutDays := ⟨_, rfl⟩

/-- The doctor's hours are set. -/
def settingHours : List (Turn Matter) :=
  .arrive (.updateTemplate (.text "doctor") firstUpdate) :: turns 0 10 ""

/-- The patient asks for a time that is no slot. -/
def halfPastNine : Matter :=
  .book patient (.text "request") (.text "answer") (.text "doctor")
    (.text "2026-03-02T09:30:00Z") .null none

theorem half_past_nine_not_atEdge : ¬ halfPastNine.AtEdge today := by
  rintro ⟨s, stamp, hs, hstamp, hout⟩
  have hin : ((Stamp.ofRequest? "2026-03-02T09:30:00Z").all fun stamp =>
      decide (stamp.wall.day.Inside 21)) = true := by decide +kernel
  cases hs
  rw [hstamp] at hin
  exact hout (by simpa using hin)

/-- Who asks for a time that is no slot is told so, or is given a booking. -/
theorem half_past_nine_fails_as_expected : ∃ c : Crowd Matter Finding,
    Crowd.Reachable (Matter.serve {}) (fun s => s = {}) c ∧
      c.store.templates.items = [{ hours with weekly := [⟨1, [morning]⟩] }] ∧
      (halfPastNine.serve {}).Ends { store := c.store, clock := today }
        fun answer _ => AsExpected False answer := by
  have hmap : (Crowd.play (Matter.serve {}) ⟨{}, []⟩ settingHours).map
      (fun c => c.store.templates.items) = some [{ hours with weekly := [⟨1, [morning]⟩] }] := by
    decide +kernel
  obtain ⟨c, hplay, hitems⟩ := Option.map_eq_some_iff.1 hmap
  have hreach : Crowd.Reachable (Matter.serve {}) (fun s => s = {}) c :=
    Crowd.Reachable.play (.start rfl) hplay
  refine ⟨c, hreach, hitems, ?_⟩
  apply (usual.fails_as_expected hreach { store := c.store, clock := today } rfl halfPastNine).mono
  intro answer _ hanswer
  exact hanswer.mono half_past_nine_not_atEdge

/-- An absence from the first hour of the calendar on, told by a clock that is
ahead of UTC. -/
def firstHourAway : Matter :=
  .addBlackout (.text "doctor") (.text "0001-01-01T00:00:00+01:00") (.text "0001-01-02T00:00:00Z")
    none true

/-- The first hour of the calendar in a zone that is ahead of UTC is not
refused, but breaks off the call. -/
theorem first_hour_breaks_off :
    ¬ ∀ c : Crowd Matter Finding, Crowd.Reachable (Matter.serve {}) (fun s => s = {}) c →
      ∀ (w : World) (m : Matter), w.store = c.store →
        (m.serve {}).Ends w fun answer _ => AsExpected False answer := by
  intro h
  have hstart := h ⟨{}, []⟩ (.start rfl) { clock := today } firstHourAway rfl
  have hanswer : ((World.run (firstHourAway.serve {})).run { clock := today }).1 =
      .error (.calendar .outOfRange) := by rfl
  rcases hstart _ hanswer with hknown | ⟨-, hfalse⟩
  · cases hknown
  · exact hfalse

end Practice
end Appointments
