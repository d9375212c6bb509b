-- Spans of time, forward or back. A span is a count of microseconds that
-- has at most 999999999 whole days.
import Appointments.Time.Instant
namespace Appointments

/-- A number that a signed word of 32 bits holds. -/
def fitsHalfWord (n : Int) : Bool := -Int.pow 2 31 ≤ n && n < Int.pow 2 31

/-- The whole days of a count of microseconds, rounded down. -/
def Micros.wholeDays (n : Int) : Int := n.fdiv Micros.day

/-- A span of time in microseconds. A negative one leads back. -/
@[ext]
structure Span where
  micros : Int
  wholeDays_le : (Micros.wholeDays micros).natAbs ≤ maxSpanDays
deriving DecidableEq, Repr

namespace Span

/-- The span of a number of microseconds. -/
def ofMicros (n : Int) : Except CalendarFault Span :=
  let days := Micros.wholeDays n
  if h : days.natAbs ≤ maxSpanDays then .ok ⟨n, h⟩
  else if fitsHalfWord days then .error (.tooManyDays days)
  else .error .daysUncountable

def ofMinutes (n : Int) : Except CalendarFault Span := ofMicros (n * Micros.minute)

def ofHours (n : Int) : Except CalendarFault Span := ofMicros (n * Micros.hour)

def ofDays (n : Int) : Except CalendarFault Span := ofMicros (n * Micros.day)

/-- One span after the other. -/
def plus (a b : Span) : Except CalendarFault Span := ofMicros (a.micros + b.micros)

theorem ofMicros_micros (s : Span) : ofMicros s.micros = .ok s := by
  unfold ofMicros
  rw [dif_pos s.wholeDays_le]

theorem micros_of_ofMicros {n : Int} {s : Span} (h : ofMicros n = .ok s) : s.micros = n := by
  unfold ofMicros at h
  dsimp only at h
  split at h
  · injection h with h
    rw [← h]
  · split at h <;> contradiction

end Span

/-- The instant that lies a span later. -/
def Instant.after (t : Instant) (s : Span) : Except CalendarFault Instant := t.shift s.micros

/-- The day that lies `n` days later, where `n` days have to be a span. -/
def Day.daysLater (d : Day) (n : Int) : Except CalendarFault Day := do
  let _ ← Span.ofDays n
  d.shift n

end Appointments
