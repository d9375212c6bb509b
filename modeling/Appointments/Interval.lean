-- Half-open intervals of instants: the start belongs to them, the end does
-- not, so two that touch do not overlap.
import Appointments.Sorting
import Appointments.Time.Span
namespace Appointments

structure Interval where
  start : Instant
  stop : Instant
deriving DecidableEq, Repr

namespace Interval

/-! ## One and two intervals -/

def isEmpty (a : Interval) : Bool := a.stop ≤ a.start

/-- An instant lies in the interval. -/
def Contains (a : Interval) (t : Instant) : Prop := a.start ≤ t ∧ t < a.stop

def overlaps (a b : Interval) : Bool := a.start < b.stop && b.start < a.stop

/-- Order by start, then by end. -/
def notAfter (a b : Interval) : Bool :=
  a.start < b.start || (a.start = b.start && a.stop ≤ b.stop)

/-! ## Merged intervals -/

/-- Intervals in ascending order, where those that overlap or touch the
`current` one are merged into it. -/
def mergeFrom (current : Interval) : List Interval → List Interval
  | [] => [current]
  | next :: rest =>
    if next.start ≤ current.stop then
      mergeFrom ⟨current.start, current.stop.later next.stop⟩ rest
    else current :: mergeFrom next rest

/-- The non-empty intervals in ascending order, merged where they overlap or
touch. -/
def normalize (items : List Interval) : List Interval :=
  match (items.filter fun a => !a.isEmpty).sortedBy notAfter with
  | [] => []
  | first :: rest => mergeFrom first rest

/-! ## What is left of an interval -/

/-- What is left of an interval, from the `cursor` on, after cuts in
ascending order. -/
def cutFrom (cursor stop : Instant) : List Interval → List Interval
  | [] => if cursor < stop then [⟨cursor, stop⟩] else []
  | cut :: rest =>
    if cut.stop ≤ cursor then cutFrom cursor stop rest
    else if stop ≤ cut.start then if cursor < stop then [⟨cursor, stop⟩] else []
    else
      let left := if cursor < cut.start then [⟨cursor, cut.start⟩] else []
      let next := cursor.later cut.stop
      if stop ≤ next then left else left ++ cutFrom next stop rest

/-- What is left of some intervals after others are taken away. -/
def subtract (base removals : List Interval) : List Interval :=
  let cuts := normalize removals
  if cuts.isEmpty then normalize base
  else normalize ((normalize base).flatMap fun a => cutFrom a.start a.stop cuts)

/-! ## Overlap with many intervals -/

/-- The first position, from `low` on and below `high`, whose end is not
before `t`, where the ends are in ascending order. The range is halved until
it is empty, which takes at most `fuel` steps. -/
def searchEnds (ends : Array Instant) (t : Instant) : (fuel low high : Nat) → Nat
  | 0, low, _ => low
  | fuel + 1, low, high =>
    if low < high then
      let middle := (low + high) / 2
      match ends[middle]? with
      | some e => if e < t then searchEnds ends t fuel (middle + 1) high
                  else searchEnds ends t fuel low middle
      | none => low
    else low

/-- The ends of busy intervals, the keys of the search. -/
def ends (busy : List Interval) : Array Instant := (busy.map (·.stop)).toArray

/-- The candidate overlaps one of the busy intervals, which are normalized
and have the given ends. Only the first one that ends after the candidate
starts can overlap it. -/
def overlapsAnyWith (ends : Array Instant) (busy : List Interval) (candidate : Interval) : Bool :=
  let i := searchEnds ends candidate.start ends.size 0 ends.size
  match (busy.drop i).dropWhile fun b => b.stop ≤ candidate.start with
  | [] => false
  | b :: _ => candidate.overlaps b

/-- The candidate overlaps one of the busy intervals, which are normalized. -/
def overlapsAny (busy : List Interval) (candidate : Interval) : Bool :=
  overlapsAnyWith (ends busy) busy candidate

/-! ## Slots -/

/-- Slots of one length from the `cursor` on, the next one a step after each.
None of them ends after `stop`. The slot after the last one must still start
within the calendar. -/
def slotsFrom (stop : Instant) (length step : Int) :
    (fuel : Nat) → (cursor : Instant) → Except CalendarFault (List Interval)
  | 0, _ => .ok []
  | fuel + 1, cursor => do
    let finish ← cursor.shift length
    if finish ≤ stop then
      let next ← cursor.shift step
      let rest ← slotsFrom stop length step fuel next
      return ⟨cursor, finish⟩ :: rest
    else return []

/-- Slots of one length from the start of the interval on, with a pause after
each. What is too short for a slot is left. Where a slot fits and the pause
leads back to its start or before it, the slots never end, and so they leave
the calendar. -/
def slots (a : Interval) (length pause : Span) : Except CalendarFault (List Interval) := do
  let step ← length.plus pause
  let finish ← a.start.after length
  if finish ≤ a.stop ∧ step.micros ≤ 0 then .error .outOfRange
  else
    let room := a.start.microsTo a.stop - length.micros
    slotsFrom a.stop length.micros step.micros (room.toNat + 2) a.start

end Interval
end Appointments
