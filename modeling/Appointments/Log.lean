-- Log records and request scopes. Every record carries the id of the request
-- during which it was written.
namespace Appointments

/-! ## Records -/

inductive LogLevel
  | debug
  | info
  | warning
  | error
  | critical
deriving DecidableEq, Repr

namespace LogLevel

def word : LogLevel → String
  | debug => "DEBUG"
  | info => "INFO"
  | warning => "WARNING"
  | error => "ERROR"
  | critical => "CRITICAL"

def all : List LogLevel := [debug, info, warning, error, critical]

def ofWord? (s : String) : Option LogLevel := all.find? (·.word == s)

end LogLevel

/-- The name of a part of the program that writes log records. -/
structure LogSource where
  name : String
deriving DecidableEq, Repr

namespace LogSource

def bookings : LogSource := ⟨"slotbook.bookings.lifecycle"⟩

def history : LogSource := ⟨"slotbook.bookings.history"⟩

def permissions : LogSource := ⟨"slotbook.bookings.permissions"⟩

def hours : LogSource := ⟨"slotbook.scheduling.availability"⟩

def calendar : LogSource := ⟨"slotbook.scheduling.calendar"⟩

def openings : LogSource := ⟨"slotbook.scheduling.slots"⟩

def store : LogSource := ⟨"slotbook.store"⟩

end LogSource

structure LogRecord where
  source : LogSource
  request : String
  level : LogLevel
  message : String
deriving DecidableEq, Repr

/-- A record as one line, under a time stamp. -/
def LogRecord.line (stamp : String) (r : LogRecord) : String :=
  stamp ++ " [" ++ r.source.name ++ "] [" ++ r.request ++ "] " ++ r.level.word ++ ": " ++ r.message

/-! ## Request scopes -/

/-- The ids of the open scopes, innermost first, and how many ids have been
generated. -/
structure Scopes where
  opened : List String := []
  generated : Nat := 0
deriving DecidableEq, Repr

namespace Scopes

/-- The id outside all scopes. -/
def noRequest : String := "NO_REQUEST_ID"

/-- The id of the current request. -/
def current (s : Scopes) : String := s.opened.headD noRequest

/-- Opens a scope under a new id. -/
def enterNew (s : Scopes) : Scopes :=
  ⟨("r" ++ toString (s.generated + 1)) :: s.opened, s.generated + 1⟩

/-- Opens a scope: under its own id, or else under the id of the request that
goes on, or else under a new one. Empty text is no id, but asks for one of
its own. -/
def enter (s : Scopes) : Option String → Scopes
  | none => if s.current ≠ noRequest then { s with opened := s.current :: s.opened } else s.enterNew
  | some id => if id.isEmpty then s.enterNew else { s with opened := id :: s.opened }

/-- Leaves the innermost scope. -/
def leave (s : Scopes) : Scopes := { s with opened := s.opened.tail }

end Scopes
end Appointments
