-- Programs: what a request does, step by step. A step is one call of the
-- store, which is atomic, or one question to the surroundings, such as the
-- time, and the program goes on with the reply.
import Appointments.Log
import Appointments.Store.Write
namespace Appointments

/-! ## Calls of the store -/

/-- A query or a write of the store. -/
inductive StoreCall
  | template (provider : String)
  | saveTemplate (t : Template)
  | blackouts (provider : String)
  | activeBlackouts (provider : String) (start stop : Instant)
  | addBlackout (b : Blackout)
  | deleteBlackout (provider id : String)
  | booking (id : String)
  | overlapping (provider : String) (start stop : Instant) (exclude : List String)
  | chainCandidates (b : Booking)
  | list (q : Store.Query)
  | insert (b : Booking) (exclude : List String)
  | update (id : String) (expected : Status) (changes : List Booking.Change)

namespace StoreCall

/-- What a call answers. -/
@[reducible]
def Reply : StoreCall → Type
  | template _ => Option Template
  | saveTemplate _ => Unit
  | blackouts _ | activeBlackouts .. => List Blackout
  | addBlackout _ => Unit
  | deleteBlackout .. => Bool
  | booking _ => Option Booking
  | overlapping .. | chainCandidates _ | list _ => List Booking
  | insert .. => Record
  | update .. => Store.Update

/-- The answer to a call, and the store after it. A call that fails leaves
the store as it was. -/
def answer (s : Store) : (c : StoreCall) → Except Failure (c.Reply × Store)
  | template provider => .ok (s.templates.get? provider, s)
  | saveTemplate t => .ok ((), s.saveTemplate t)
  | blackouts provider => .ok (s.blackoutsOf provider, s)
  | activeBlackouts provider start stop => .ok (s.activeBlackouts provider start stop, s)
  | addBlackout b => (s.addBlackout b).map fun s => ((), s)
  | deleteBlackout provider id => .ok (s.deleteBlackout provider id)
  | booking id => .ok (s.booking? id, s)
  | overlapping provider start stop exclude =>
    (CalendarFault.orFail (s.overlapping provider start stop exclude)).map (·, s)
  | chainCandidates b => .ok (s.chainCandidates b, s)
  | list q => .ok (s.list q, s)
  | insert b exclude => s.insert b exclude
  | update id expected changes => s.update id expected changes

end StoreCall

/-! ## Steps -/

/-- A single step of a program. -/
inductive Effect
  | call (c : StoreCall)
  /-- Undoes one write. -/
  | undo (u : Store.Undo)
  | now
  | freshId
  | enterScope (id : Option String)
  | leaveScope
  | log (source : LogSource) (level : LogLevel) (message : String)
  /-- Waits until nobody else holds the provider, and holds it. -/
  | hold (provider : String)
  | release (provider : String)

/-- What a step answers. -/
@[reducible]
def Effect.Reply : Effect → Type
  | call c => Except Failure c.Reply
  | undo _ => Bool
  | now => Instant
  | freshId => String
  | enterScope _ | leaveScope | log .. | hold _ | release _ => Unit

/-! ## Programs -/

/-- A result, or a step and what to do with its reply. -/
inductive Program (α : Type) : Type
  | done (a : α)
  | step (e : Effect) (next : e.Reply → Program α)

namespace Program

def bind : Program α → (α → Program β) → Program β
  | done a, f => f a
  | step e next, f => step e fun r => (next r).bind f

instance : Monad Program where
  pure := done
  bind := bind

/-- The program of one step. -/
def perform (e : Effect) : Program e.Reply := step e done

/-- Runs a program in surroundings that reply to its steps. -/
def run {m : Type → Type} [Monad m] (reply : (e : Effect) → m e.Reply) : Program α → m α
  | done a => pure a
  | step e next => do (next (← reply e)).run reply

@[simp]
theorem done_bind (a : α) (f : α → Program β) : (done a >>= f) = f a := rfl

@[simp]
theorem step_bind (e : Effect) (next : e.Reply → Program α) (f : α → Program β) :
    (step e next >>= f) = step e fun r => next r >>= f := rfl

@[simp]
theorem pure_eq_done (a : α) : (pure a : Program α) = done a := rfl

theorem bind_done (x : Program α) : x >>= done = x := by
  induction x with
  | done a => rfl
  | step e next ih => simp [ih]

theorem bind_assoc (x : Program α) (f : α → Program β) (g : β → Program γ) :
    x >>= f >>= g = x >>= fun a => f a >>= g := by
  induction x with
  | done a => rfl
  | step e next ih => simp [ih]

instance : LawfulMonad Program :=
  LawfulMonad.mk' Program bind_done (fun _ _ => rfl) bind_assoc

theorem run_bind {m : Type → Type} [Monad m] [LawfulMonad m] (reply : (e : Effect) → m e.Reply)
    (x : Program α) (f : α → Program β) :
    (x >>= f).run reply = x.run reply >>= fun a => (f a).run reply := by
  induction x with
  | done a => simp [run]
  | step e next ih => simp [run, ih]

end Program

/-! ## Requests that may fail -/

/-- A program that ends with a result or with a failure. -/
abbrev Action := ExceptT Failure Program

namespace Action

/-- The action of one step. -/
def perform (e : Effect) : Action e.Reply := ExceptT.lift (Program.perform e)

/-- A call of the store, whose failure ends the action. -/
def call (c : StoreCall) : Action c.Reply := ExceptT.mk (Program.perform (.call c))

def now : Action Instant := perform .now

def freshId : Action String := perform .freshId

def log (source : LogSource) (level : LogLevel) (message : String) : Action Unit :=
  perform (.log source level message)

/-- The action fails, for something is wrong with the request. -/
def reject (why : Rejection) : Action α := throw (.rejected why)

/-- Runs the action within a scope, which is left however the action ends. -/
def within (scope : Option String) (body : Action α) : Action α := ExceptT.mk do
  Program.perform (.enterScope scope)
  let result ← body.run
  Program.perform .leaveScope
  return result

end Action
end Appointments
