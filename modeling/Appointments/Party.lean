-- The parties to a booking, what an actor is to it, and what each relation
-- allows.
import Appointments.Document.Reading
namespace Appointments

/-! ## Actors -/

inductive Role
  | client
  | provider
  | admin
deriving DecidableEq, Repr

namespace Role

def word : Role → String
  | client => "client"
  | provider => "provider"
  | admin => "admin"

def all : List Role := [client, provider, admin]

def ofWord? (s : String) : Option Role := all.find? (·.word == s)

def read : Value → Reading Role := Value.readChoice ofWord?

end Role

/-- Who calls, as the caller's session has established it. -/
structure Actor where
  id : String
  role : Role
deriving DecidableEq, Repr

namespace Actor

def idField : FieldName := .same "user_id"

def roleField : FieldName := .same "role"

def read (v : Value) : Reading Actor :=
  v.readRecord fun fields =>
    Actor.mk <$> idField.required Value.readText fields <*> roleField.required Role.read fields

def document (a : Actor) : Value :=
  .object [(idField.document, .text a.id), (roleField.document, .text a.role.word)]

end Actor

/-! ## Capabilities and operations -/

/-- What an actor is to a booking. -/
inductive Capability
  | admin
  | clientOwner
  | providerOwner
deriving DecidableEq, Repr

def Capability.word : Capability → String
  | .admin => "is-admin"
  | .clientOwner => "is-client-owner"
  | .providerOwner => "is-provider-owner"

inductive Operation
  | create
  | view
  | cancel
  | complete
  | reschedule
  | viewHistory
deriving DecidableEq, Repr

namespace Operation

def word : Operation → String
  | create => "create"
  | view => "view"
  | cancel => "cancel"
  | complete => "complete"
  | reschedule => "reschedule"
  | viewHistory => "view_history"

def all : List Operation := [create, view, cancel, complete, reschedule, viewHistory]

/-- The capabilities any one of which allows the operation. -/
def allowedTo : Operation → List Capability
  | create => [.clientOwner]
  | view => [.admin, .clientOwner, .providerOwner]
  | cancel => [.admin, .clientOwner, .providerOwner]
  | complete => [.admin, .providerOwner]
  | reschedule => [.clientOwner, .providerOwner]
  | viewHistory => [.admin, .clientOwner, .providerOwner]

/-- One of the capabilities allows the operation. -/
def isAllowed (op : Operation) (held : List Capability) : Bool :=
  op.allowedTo.any (held.contains ·)

end Operation

/-- What an actor is to a booking of the given client and provider, as far as
these are known, in the order of the words. -/
def Actor.capabilities (a : Actor) (client provider : Option String) : List Capability :=
  match a.role with
  | .admin => [.admin]
  | .client => if client = some a.id then [.clientOwner] else []
  | .provider => if provider = some a.id then [.providerOwner] else []

end Appointments
