-- Many callers at the desk at once. Every call goes on step by step, the
-- steps of different calls come in any order, and each of them works on the
-- store as the step before it left it. Nobody waits but for a provider.
import Appointments.Desk.Bookings
namespace Appointments

/-! ## The reply to a step -/

/-- On the store `s`, the step may be answered with `r`, and leaves `t`. -/
def Effect.Yields (s : Store) : (e : Effect) → e.Reply → Store → Prop
  | .call c, r, t =>
    match c.answer s with
    | .ok (reply, after) => r = .ok reply ∧ t = after
    | .error why => r = .error why ∧ t = s
  | .undo u, r, t => s.undo u = (r, t)
  | _, _, t => t = s

/-- There is a store on which the step may be answered so. -/
def Effect.Honest (e : Effect) (r : e.Reply) : Prop := ∃ s t, e.Yields s r t

/-! ## What a call remembers -/

/-- A write that a call has made or tried, or an id that it has drawn. -/
inductive Deed
  | drew (id : String)
  | inserted (r : Record) (exclude : List String)
  | changed (u : Store.Update)
  /-- The store did not take the booking, or did not change one. -/
  | refused (c : StoreCall)
  | undid (u : Store.Undo)
  /-- Somebody else's write stood in the way of undoing this one. -/
  | stuck (u : Store.Undo)
  /-- A write of something else than a booking. -/
  | wrote (c : StoreCall)

/-- What a call has been told and what it has done, latest first. -/
structure Ledger where
  /-- The bookings that it was shown, each with the id that it asked for. -/
  seen : List (String × Booking) := []
  times : List Instant := []
  /-- The providers that it holds, each as often as it has taken hold. -/
  held : List String := []
  deeds : List Deed := []

namespace Ledger

def add (l : Ledger) (d : Deed) : Ledger := { l with deeds := d :: l.deeds }

/-- The ledger after one more step and its reply. -/
def note (l : Ledger) : (e : Effect) → e.Reply → Ledger
  | .call (.booking id), .ok (some b) => { l with seen := (id, b) :: l.seen }
  | .call (.insert _ exclude), .ok r => l.add (.inserted r exclude)
  | .call (.insert b exclude), .error _ => l.add (.refused (.insert b exclude))
  | .call (.update ..), .ok u => l.add (.changed u)
  | .call (.update id expected changes), .error _ => l.add (.refused (.update id expected changes))
  | .call (.saveTemplate t), .ok _ => l.add (.wrote (.saveTemplate t))
  | .call (.addBlackout b), .ok _ => l.add (.wrote (.addBlackout b))
  | .call (.deleteBlackout provider id), .ok _ => l.add (.wrote (.deleteBlackout provider id))
  | .undo u, true => l.add (.undid u)
  | .undo u, false => l.add (.stuck u)
  | .freshId, id => l.add (.drew id)
  | .now, t => { l with times := t :: l.times }
  | .hold provider, _ => { l with held := provider :: l.held }
  | .release provider, _ => { l with held := l.held.erase provider }
  | _, _ => l

end Ledger

/-! ## Calls and crowds -/

/-- A call: the errand that somebody has come with, what the call remembers,
and what is left to do. -/
structure Call (ι α : Type) where
  errand : ι
  ledger : Ledger := {}
  rest : Program (Except Failure α)

/-- How the call has ended, if it has. -/
def Call.result? (call : Call ι α) : Option (Except Failure α) :=
  match call.rest with
  | .done result => some result
  | .step .. => none

/-- All calls so far, the ended ones too, and the store that they share. -/
structure Crowd (ι α : Type) where
  store : Store
  calls : List (Call ι α) := []

namespace Crowd

/-- Call `i` may take this step now with this reply: a provider that it wants
to hold is held by nobody else, and an id that it draws was never drawn. -/
def Admits (c : Crowd ι α) (i : Nat) : (e : Effect) → e.Reply → Prop
  | .hold provider, _ =>
    ∀ j call, c.calls[j]? = some call → provider ∈ call.ledger.held → j = i
  | .freshId, id => id ≠ "" ∧ ∀ call ∈ c.calls, .drew id ∉ call.ledger.deeds
  | _, _ => True

/-- Somebody comes with an errand, or one of the calls takes its next step.
An errand is served by an action. -/
inductive Step (serve : ι → Action α) : Crowd ι α → Crowd ι α → Prop
  | arrive (c : Crowd ι α) (errand : ι) :
      Step serve c { c with calls := c.calls ++ [{ errand, rest := (serve errand).run }] }
  | advance {c : Crowd ι α} {i : Nat} {call : Call ι α} {e : Effect}
      {next : e.Reply → Program (Except Failure α)} {r : e.Reply} {store : Store} :
      c.calls[i]? = some call → call.rest = .step e next → c.Admits i e r →
        e.Yields c.store r store →
      Step serve c ⟨store, c.calls.set i ⟨call.errand, call.ledger.note e r, next r⟩⟩

/-- The crowds that come about, in any order of steps, before a store that is
as `opening` says. -/
inductive Reachable (serve : ι → Action α) (opening : Store → Prop) : Crowd ι α → Prop
  | start {s : Store} : opening s → Reachable serve opening ⟨s, []⟩
  | step {c d : Crowd ι α} : Reachable serve opening c → Step serve c d →
      Reachable serve opening d

end Crowd

/-! ## Errands about bookings -/

/-- What people ask of the desk that may change bookings. -/
inductive Errand
  | book (actor : Actor) (request response provider start minutes note : Value)
  | cancel (actor : Actor) (id reason : Value)
  | complete (actor : Actor) (id : Value)
  | reschedule (actor : Actor) (id start minutes reason : Value)

namespace Errand

def serve (desk : Desk) : Errand → Action Booking
  | book actor request response provider start minutes note =>
    desk.book actor request response provider start minutes note
  | cancel actor id reason => desk.cancel actor id reason
  | complete actor id => desk.complete actor id
  | reschedule actor id start minutes reason => desk.reschedule actor id start minutes reason

/-- The errand is to reschedule the booking with this id. -/
def Reschedules (e : Errand) (old : String) : Prop :=
  ∃ actor id start minutes reason, e = reschedule actor id start minutes reason ∧
    Request.id id = old

end Errand

namespace Crowd

/-- The calls at a desk, from a store without bookings on. -/
def AtDesk (desk : Desk) : Crowd Errand Booking → Prop :=
  Reachable (Errand.serve desk) fun s => s.records = .empty

/-- Somebody who reschedules the booking `old` has inserted the booking `new`,
and is not done yet or has left corruption. -/
def Replacing (c : Crowd Errand Booking) (old new : String) : Prop :=
  ∃ call ∈ c.calls, call.errand.Reschedules old ∧
    (∃ r exclude, .inserted r exclude ∈ call.ledger.deeds ∧ r.key = new) ∧
    (call.result? = none ∨ ∃ why, call.result? = some (.error (.corrupted why)))

end Crowd

end Appointments
