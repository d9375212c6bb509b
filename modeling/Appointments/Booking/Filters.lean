-- What a caller asks of a list of bookings: which ones, and which page.
import Appointments.Booking.Basic
namespace Appointments

structure Filters where
  status : Option Status := none
  first : Option Instant := none
  last : Option Instant := none
  limit : Option Int := none
  offset : Int := 0
deriving DecidableEq

namespace Filters

def statusField : FieldName := .same "status"

def firstField : FieldName := ⟨"from", "from_"⟩

def lastField : FieldName := .same "to"

def limitField : FieldName := .same "limit"

def offsetField : FieldName := .same "offset"

def read (v : Value) : Reading Filters :=
  v.readRecord fun fields =>
    Filters.mk
      <$> statusField.withDefault none (Value.readOption Status.read) fields
      <*> firstField.withDefault none (Value.readOption Instant.read) fields
      <*> lastField.withDefault none (Value.readOption Instant.read) fields
      <*> limitField.withDefault none (Value.readOption Value.readInt) fields
      <*> offsetField.withDefault 0 (Value.readIntWithin (some 0) none) fields

def toValue (f : Filters) : Value :=
  .object [(statusField.plain, Value.ofOption (fun s : Status => .text s.word) f.status),
    (firstField.plain, Value.ofOption (fun t : Instant => .text t.document) f.first),
    (lastField.plain, Value.ofOption (fun t : Instant => .text t.document) f.last),
    (limitField.plain, Value.ofOption .int f.limit),
    (offsetField.plain, .int f.offset)]

end Filters
end Appointments
