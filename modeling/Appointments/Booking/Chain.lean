-- Chains of rescheduled bookings. Each booking names its predecessor and
-- its successor, and a history lists a chain from its root to its latest.
import Appointments.Booking.Basic
namespace Appointments

/-- Why links do not make a chain. -/
inductive LinkFault
  | cycle (id : String)
  | tooManyLinks (limit : Int)
deriving DecidableEq, Repr

def LinkFault.message : LinkFault → String
  | .cycle id => "Booking history cycle detected at " ++ id
  | .tooManyLinks limit => "Booking history exceeds " ++ toString limit ++ " links"

/-- A chain, oldest booking first, and the position in it of the booking that
was asked for, or -1 if it is not there. -/
structure History where
  root : String
  requested : String
  latest : String
  index : Int
  items : List Booking
deriving DecidableEq

namespace History

/-! ## Walking along links -/

/-- The bookings after `node` that links lead to. A link to no booking of the
pool ends the walk. No booking is met twice, and at most `hops` links are
followed. -/
def walk (link : Booking → Option String) (pool : String → Option Booking) (limit : Int) :
    (hops : Nat) → (seen : List String) → (node : Booking) → Except LinkFault (List Booking)
  | 0, _, node =>
    match (link node).bind pool with
    | none => .ok []
    | some _ => .error (.tooManyLinks limit)
  | hops + 1, seen, node =>
    match (link node).bind pool with
    | none => .ok []
    | some next =>
      if next.id ∈ seen then .error (.cycle next.id)
      else do
        let rest ← walk link pool limit hops (next.id :: seen) next
        return next :: rest

/-- The booking with the given id, out of the candidates of the one that was
asked for, which counts as it was when it was asked for. Of two candidates
with one id the later one counts. -/
def pool (requested : Booking) (candidates : List Booking) (id : String) : Option Booking :=
  if id = requested.id then some requested else candidates.reverse.find? (·.id == id)

/-- The position of the first booking with the given id. -/
def indexOf (id : String) (items : List Booking) : Int :=
  match items.findIdx? (·.id == id) with
  | some i => i
  | none => -1

/-- The history of a booking that was asked for by an id: back to the root,
then forward again. -/
def ofCandidates (limit : Int) (id : String) (requested : Booking) (candidates : List Booking) :
    Except LinkFault History := do
  let pool := pool requested candidates
  let back ← walk Booking.predecessor? pool limit limit.toNat [requested.id] requested
  let root := back.getLastD requested
  let rest ← walk Booking.successor? pool limit limit.toNat [root.id] root
  let items := root :: rest
  return ⟨root.id, id, (rest.getLastD root).id, indexOf id items, items⟩

/-! ## Documents -/

def rootField : FieldName := ⟨"rootId", "root_id"⟩

def requestedField : FieldName := ⟨"requestedId", "requested_id"⟩

def latestField : FieldName := ⟨"latestId", "latest_id"⟩

def indexField : FieldName := ⟨"currentIndex", "current_index"⟩

def itemsField : FieldName := .same "items"

def read (v : Value) : Reading History :=
  v.readRecord fun fields =>
    History.mk
      <$> rootField.required Value.readText fields
      <*> requestedField.required Value.readText fields
      <*> latestField.required Value.readText fields
      <*> indexField.required Value.readInt fields
      <*> itemsField.required (Value.readList Booking.read) fields

def document (h : History) : Except Booking.DocumentFault Value := do
  let items ← h.items.mapM Booking.document
  return .object [(rootField.document, .text h.root), (requestedField.document, .text h.requested),
    (latestField.document, .text h.latest), (indexField.document, .int h.index),
    (itemsField.document, .list items)]

end History
end Appointments
