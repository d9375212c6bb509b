-- A world in which one program runs after the other: a store, a clock, ids
-- to draw, and a log.
import Appointments.Program
namespace Appointments

structure World where
  store : Store := {}
  clock : Instant
  /-- The ids to draw first. -/
  ids : List String := []
  /-- How many ids have been drawn past those. -/
  drawn : Nat := 0
  scopes : Scopes := {}
  /-- The log, latest record first. -/
  log : List LogRecord := []

namespace World

/-- The answer to a call of the store, which may change the store. -/
def call (c : StoreCall) : StateM World (Except Failure c.Reply) := do
  let w ← get
  match c.answer w.store with
  | .ok (reply, store) =>
    set { w with store }
    return .ok reply
  | .error why => return .error why

def undo (u : Store.Undo) : StateM World Bool := do
  let w ← get
  let (undone, store) := w.store.undo u
  set { w with store }
  return undone

/-- The next id: the given ones first, then `g1`, `g2` and so on. -/
def drawId : StateM World String := do
  let w ← get
  match w.ids with
  | id :: ids =>
    set { w with ids }
    return id
  | [] =>
    set { w with drawn := w.drawn + 1 }
    return "g" ++ toString (w.drawn + 1)

/-- Writes a record to the log, under the id of the current request. -/
def record (source : LogSource) (level : LogLevel) (message : String) : StateM World Unit :=
  modify fun w => { w with log := ⟨source, w.scopes.current, level, message⟩ :: w.log }

/-- The reply to a step. With one program at a time nobody has to wait for a
provider. -/
def reply : (e : Effect) → StateM World e.Reply
  | .call c => call c
  | .undo u => undo u
  | .now => return (← get).clock
  | .freshId => drawId
  | .enterScope id => modify fun w => { w with scopes := w.scopes.enter id }
  | .leaveScope => modify fun w => { w with scopes := w.scopes.leave }
  | .log source level message => record source level message
  | .hold _ | .release _ => return ()

/-- Runs an action to its end. -/
def run (a : Action α) : StateM World (Except Failure α) := Program.run reply a.run

/-- An action goes on from the world that the one before it leaves, and does
not go on after a failure. -/
theorem run_bind (x : Action α) (f : α → Action β) (w : World) :
    (run (x >>= f)).run w =
      match (run x).run w with
      | (.ok a, w) => (run (f a)).run w
      | (.error why, w) => (.error why, w) := by
  simp only [run, ExceptT.run_bind, Program.run_bind, StateT.run_bind]
  rcases (Program.run reply x.run).run w with ⟨r, w'⟩
  cases r <;> rfl

end World
end Appointments
