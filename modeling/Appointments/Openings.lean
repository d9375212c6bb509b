-- Openings: the free slots of a provider on a run of local days. Weekly
-- hours become working time, working time is cut into slots, and a slot that
-- overlaps a blackout or a booking is dropped whole.
import Appointments.Booking.Basic
import Appointments.Week
namespace Appointments

/-! ## Working time -/

/-- What becomes of a range of weekly hours on a day. -/
inductive Occurrence
  | working (a : Interval)
  /-- The clocks skip the start or the end that day. -/
  | skipped (range : TimeRange) (day : Day)
  /-- The end does not come after the start. -/
  | nothing
deriving DecidableEq

namespace Occurrence

def ofRange (zone : Zone) (day : Day) (range : TimeRange) : Except CalendarFault Occurrence := do
  let start ← zone.instantAt day range.start.minutes
  let stop ← zone.instantAt day range.stop.minutes
  return match start, stop with
  | some s, some e => if s < e then .working ⟨s, e⟩ else .nothing
  | _, _ => .skipped range day

/-- The interval of working time, if there is one. -/
def interval? : Occurrence → Option Interval
  | .working a => some a
  | .skipped .. | .nothing => none

/-- The message about a range that is skipped. -/
def notice? (zone : Zone) : Occurrence → Option String
  | .skipped range day =>
    some ("Skipping " ++ range.text ++ " on " ++ day.text ++ ": local time does not exist in " ++
      zone.name)
  | .working _ | .nothing => none

end Occurrence

namespace Template

/-- The ranges of each day, in order. The walk over the days steps past the
last one, which has to be possible. -/
def occurrences (t : Template) (zone : Zone) (first last : Day) :
    List (Except CalendarFault Occurrence) :=
  let found := (first.upTo last).flatMap fun day =>
    (t.rangesFor day.weekday).map (Occurrence.ofRange zone day)
  if first ≤ last ∧ last.isLast then found ++ [.error .outOfRange] else found

/-- The working time from the first to the last day. -/
def workingTime (t : Template) (zone : Zone) (first last : Day) :
    Except CalendarFault (List Interval) := do
  let found ← (t.occurrences zone first last).mapM fun x => x
  return found.filterMap Occurrence.interval?

/-- The messages about skipped ranges, up to the first fault. -/
def notices (t : Template) (zone : Zone) (first last : Day) : List String :=
  ((t.occurrences zone first last).takeWhile (·.isOk)).filterMap fun x =>
    x.toOption.bind (Occurrence.notice? zone)

end Template

/-! ## Busy time -/

/-- The time taken by active blackouts and by bookings that are not
cancelled. -/
def busyTime (blackouts : List Blackout) (bookings : List Booking) :
    Except CalendarFault (List Interval) := do
  let taken ← (bookings.filter (·.status ≠ .cancelled)).mapM Booking.interval
  return Interval.normalize ((blackouts.filter (·.isActive)).map Blackout.interval ++ taken)

/-! ## Free slots -/

/-- Free slots in ascending order, and how many slots were blocked. -/
structure Openings where
  slots : List Interval
  blocked : Nat
deriving DecidableEq, Repr

namespace Openings

/-- Each interval once, where equal ones stand together. -/
def withoutRepeats : List Interval → List Interval
  | a :: b :: rest => if a = b then withoutRepeats (b :: rest) else a :: withoutRepeats (b :: rest)
  | rest => rest

/-- The slots that are left of the candidates. -/
def ofCandidates (busy candidates : List Interval) : Openings :=
  let ends := Interval.ends busy
  let (blocked, free) := candidates.partition (Interval.overlapsAnyWith ends busy)
  ⟨withoutRepeats (free.sortedBy Interval.notAfter), blocked.length⟩

/-- The openings of a provider, by template, blackouts and bookings. -/
def between (t : Template) (zone : Zone) (blackouts : List Blackout) (bookings : List Booking)
    (first last : Day) : Except CalendarFault Openings := do
  let length ← Span.ofMinutes t.slotMinutes
  let pause ← Span.ofMinutes t.bufferMinutes
  let working ← t.workingTime zone first last
  let busy ← busyTime blackouts bookings
  let candidates ← working.mapM fun a => a.slots length pause
  return ofCandidates busy candidates.flatten

end Openings
end Appointments
