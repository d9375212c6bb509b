-- Transactions: some writes of bookings of one provider, made while nobody
-- else holds the provider. If the transaction fails, its writes are undone,
-- latest first.
import Appointments.Program
namespace Appointments

/-! ## Taking writes back -/

/-- Undoes writes one by one. The answer lists the bookings whose writes could
not be undone. -/
def rollBack : List Store.Undo → Program (List String)
  | [] => return []
  | u :: rest => do
    let undone ← Program.perform (.undo u)
    let failed ← rollBack rest
    return if undone then failed else u.key :: failed

/-! ## Transactions -/

/-- The body of a transaction, which keeps what undoes its writes, latest
first. What it has kept survives its failure. -/
abbrev Transaction := ExceptT Failure (StateT (List Store.Undo) Program)

namespace Transaction

/-- An action that needs no undoing. -/
def plain (a : Action α) : Transaction α := ExceptT.mk (StateT.lift a.run)

/-- Inserts a booking, to be taken away again if the transaction fails. -/
def insert (b : Booking) (exclude : List String) : Transaction Booking := do
  let record ← plain (Action.call (.insert b exclude))
  modify (Store.Undo.remove record :: ·)
  return record.booking

/-- Changes a booking, to be put back as it was if the transaction fails. -/
def update (id : String) (expected : Status) (changes : List Booking.Change) :
    Transaction Booking := do
  let change ← plain (Action.call (.update id expected changes))
  modify (Store.Undo.restore change :: ·)
  return change.after.booking

/-- The failure of a transaction after its writes have been undone, as far as
they could be. -/
def failureAfter (why : Failure) (failed : List String) : Program Failure :=
  if failed.isEmpty then return why
  else do
    let ids := (Value.list (failed.map .text)).shown
    Program.perform (.log .store .warning ("Rollback incomplete for booking(s) " ++ ids))
    return .corrupted (.notRolledBack failed)

/-- Runs a transaction on the bookings of a provider. -/
def commit (provider : String) (body : Transaction α) : Action α := ExceptT.mk do
  Program.perform (.hold provider)
  let (result, undos) ← body.run.run []
  let outcome ← match result with
    | .ok a => pure (.ok a)
    | .error why => do
      let failed ← rollBack undos
      pure (.error (← failureAfter why failed))
  Program.perform (.release provider)
  return outcome

end Transaction
end Appointments
