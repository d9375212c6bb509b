-- Schedules: whose turn it is to go on, and what a call is told if it asks
-- for the time or for an id. A schedule is played turn by turn, and every
-- crowd that comes out of it is one that may come about.
import Appointments.Proofs.Crowd
import Appointments.World
namespace Appointments

/-- The reply to a step and the store after it, at a given time, where the
next id that is drawn is given. -/
def Effect.reply (s : Store) (time : Instant) (id : String) : (e : Effect) → e.Reply × Store
  | .call c =>
    match c.answer s with
    | .ok (reply, after) => (.ok reply, after)
    | .error why => (.error why, s)
  | .undo u => s.undo u
  | .now => (time, s)
  | .freshId => (id, s)
  | .enterScope _ | .leaveScope | .log .. | .hold _ | .release _ => ((), s)

theorem Effect.yields_reply (s : Store) (time : Instant) (id : String) (e : Effect) :
    e.Yields s (e.reply s time id).1 (e.reply s time id).2 := by
  cases e with
  | call c =>
    simp only [Yields, reply]
    cases c.answer s with
    | ok out => exact ⟨rfl, rfl⟩
    | error why => exact ⟨rfl, rfl⟩
  | _ => rfl

/-- A turn in a schedule. -/
inductive Turn (ι : Type)
  | arrive (errand : ι)
  /-- The call takes its next step, if it has not ended. -/
  | go (i : Nat) (time : Instant) (id : String)

namespace Crowd

variable {serve : ι → Action α} {opening : Store → Prop} {c d : Crowd ι α}

instance (deed : Deed) (id : String) : Decidable (deed = .drew id) :=
  match deed with
  | .drew other => decidable_of_iff (other = id) (by simp)
  | .inserted .. | .changed _ | .refused _ | .undid _ | .stuck _ | .wrote _ => isFalse nofun

theorem admits_hold {i : Nat} {provider : String} {r : Unit} :
    (∀ x ∈ c.calls.zipIdx, provider ∈ x.1.ledger.held → x.2 = i) ↔
      c.Admits i (.hold provider) r := by
  constructor
  · intro h j call hcall
    exact h (call, j) (List.mk_mem_zipIdx_iff_getElem?.2 hcall)
  · intro h x hx
    exact h x.2 x.1 (List.mem_zipIdx_iff_getElem?.1 hx)

theorem admits_freshId {i : Nat} {id : String} :
    (id ≠ "" ∧ ∀ call ∈ c.calls, ∀ deed ∈ call.ledger.deeds, deed ≠ .drew id) ↔
      c.Admits i .freshId id := by
  refine and_congr_right fun _ => forall₂_congr fun call _ => ?_
  constructor
  · intro h hmem
    exact h _ hmem rfl
  · rintro h deed hmem rfl
    exact h hmem

instance (c : Crowd ι α) (i : Nat) (e : Effect) (r : e.Reply) : Decidable (c.Admits i e r) :=
  match e, r with
  | .hold _, _ => decidable_of_iff _ admits_hold
  | .freshId, _ => decidable_of_iff _ admits_freshId
  | .call _, _ | .undo _, _ | .now, _ | .enterScope _, _ | .leaveScope, _ | .log .., _
  | .release _, _ => isTrue trivial

/-- The crowd after a turn, if the step is admitted. -/
def turn (serve : ι → Action α) (c : Crowd ι α) : Turn ι → Option (Crowd ι α)
  | .arrive errand => some { c with calls := c.calls ++ [{ errand, rest := (serve errand).run }] }
  | .go i time id => do
    let call ← c.calls[i]?
    match call.rest with
    | .done _ => some c
    | .step e next =>
      let (r, store) := e.reply c.store time id
      if c.Admits i e r then
        some ⟨store, c.calls.set i ⟨call.errand, call.ledger.note e r, next r⟩⟩
      else none

def play (serve : ι → Action α) (c : Crowd ι α) : List (Turn ι) → Option (Crowd ι α)
  | [] => some c
  | t :: rest => (c.turn serve t).bind (play serve · rest)

theorem Reachable.turn (h : Reachable serve opening c) {t : Turn ι} (ht : c.turn serve t = some d) :
    Reachable serve opening d := by
  cases t with
  | arrive errand =>
    cases ht
    exact h.step (.arrive c errand)
  | go i time id =>
    obtain ⟨call, hcall, ht⟩ := Option.bind_eq_some_iff.1 ht
    cases hrest : call.rest with
    | done result =>
      rw [hrest] at ht
      cases ht
      exact h
    | step e next =>
      rw [hrest] at ht
      dsimp only at ht
      split at ht
      · rename_i hadmits
        cases ht
        exact h.step (.advance hcall hrest hadmits (e.yields_reply c.store time id))
      · cases ht

theorem Reachable.play (h : Reachable serve opening c) {schedule : List (Turn ι)}
    (hplay : c.play serve schedule = some d) : Reachable serve opening d := by
  induction schedule generalizing c with
  | nil =>
    cases hplay
    exact h
  | cons t rest ih =>
    obtain ⟨c', hturn, hrest⟩ := Option.bind_eq_some_iff.1 hplay
    exact ih (h.turn hturn) hrest

end Crowd

/-! ## A small practice -/

namespace Practice

/-- Monday mornings from nine to twelve in UTC, by the hour. -/
def hours : Template where
  provider := "doctor"
  timeZone := "UTC"
  slotMinutes := 60
  bufferMinutes := 0
  isActive := true
  weekly := [⟨1, [⟨⟨"09:00", 540, rfl⟩, ⟨"12:00", 720, rfl⟩, by decide⟩]⟩]

def opening : Store := { templates := Shelf.empty.put hours }

def patient : Actor := ⟨"patient", .client⟩

/-- A week before the Monday that is booked. -/
def today : Instant := .ofDay ⟨739669, by decide⟩

/-- The patient books ten o'clock. -/
def booking : Errand :=
  .book patient (.text "request") (.text "response") (.text "doctor")
    (.text "2026-03-02T10:00:00Z") .null .null

/-- The patient moves the booking with this id. -/
def moving (id start : String) : Errand := .reschedule patient (.text id) (.text start) .null .null

/-- The Monday that is booked, and its hours. -/
def monday : Day := ⟨739676, by decide⟩

def nine : Instant := ⟨739676 * Micros.day + 9 * Micros.hour, by decide⟩

def ten : Instant := ⟨739676 * Micros.day + 10 * Micros.hour, by decide⟩

def eleven : Instant := ⟨739676 * Micros.day + 11 * Micros.hour, by decide⟩

def noon : Instant := ⟨739676 * Micros.day + 12 * Micros.hour, by decide⟩

/-- The booking that is made. -/
def booked : Booking where
  id := "a"
  request := "request"
  response := "response"
  provider := "doctor"
  client := "patient"
  start := ten
  minutes := 60
  status := .confirmed
  cancelledAt := none
  cancelledBy := none
  cancelReason := none
  rescheduledFrom := none
  rescheduledTo := none
  rescheduledAt := none
  rescheduleReason := none
  metadata := []

/-- The patient's booking at ten, and nothing else. -/
def bookedAtTen : World where
  store := { opening with records := Shelf.empty.put ⟨"a", 0, booked⟩, nextStamp := 1 }
  clock := today

/-- The call takes so many turns. -/
def go (i turns : Nat) (id : String) : List (Turn Errand) :=
  List.replicate turns (.go i today id)

def crowdAfter (schedule : List (Turn Errand)) : Option (Crowd Errand Booking) :=
  Crowd.play (Errand.serve {}) ⟨opening, []⟩ schedule

end Practice
end Appointments
