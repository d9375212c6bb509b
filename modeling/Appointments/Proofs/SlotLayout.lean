-- How the slots lie in the interval that is cut: how many there are, where
-- each of them starts, how far they stand apart, and that none fits behind them.
import Appointments.Proofs.Schedules
import Appointments.Proofs.SlotCutting
namespace Appointments
namespace Interval

/-- The interval is cut into these slots of a length, with a pause after each. -/
structure CutInto (a : Interval) (length pause : Int) (xs : List Interval) : Prop where
  /-- The pause after the last slot may stick out. -/
  count : (xs.length : Int) = (a.start.microsTo a.stop + pause) / (length + pause)
  placed : ∀ (i : Nat) (x : Interval), xs[i]? = some x →
    (x.start.micros : Int) = a.start.micros + i * (length + pause) ∧
      (x.stop.micros : Int) = a.start.micros + i * (length + pause) + length
  inside : ∀ x ∈ xs, a.start ≤ x.start ∧ x.stop ≤ a.stop
  apart : xs.IsChain fun x y => x.stop.microsTo y.start = pause
  /-- One more slot, a pause or more behind all of them, ends outside. -/
  full : ∀ x : Interval, x.start.microsTo x.stop = length → a.start ≤ x.start →
    (∀ y ∈ xs, pause ≤ y.stop.microsTo x.start) → a.stop < x.stop

/-! ## From the bounds of all slots -/

section
variable {length pause start : Int} {count : Nat} {xs : List Interval}

theorem index_lt_of_slotBounds (h : xs.map bounds = slotBounds start length pause count) {i : Nat}
    {x : Interval} (hx : xs[i]? = some x) : i < count := by
  rw [← length_of_slotBounds h]
  exact (List.getElem?_eq_some_iff.1 hx).1

theorem placed_of_slotBounds (h : xs.map bounds = slotBounds start length pause count) {i : Nat}
    {x : Interval} (hx : xs[i]? = some x) :
    (x.start.micros : Int) = start + i * (length + pause) ∧
      (x.stop.micros : Int) = start + i * (length + pause) + length := by
  have hlt := index_lt_of_slotBounds h hx
  have hbounds := congrArg (·[i]?) h
  simpa [hx, slotBounds, hlt, bounds] using hbounds

theorem apart_of_slotBounds (h : xs.map bounds = slotBounds start length pause count) :
    xs.IsChain fun x y => x.stop.microsTo y.start = pause := by
  rw [List.isChain_iff_getElem]
  intro i hi
  obtain ⟨-, hstop⟩ := placed_of_slotBounds h (List.getElem?_eq_getElem (Nat.lt_of_succ_lt hi))
  obtain ⟨hstart, -⟩ := placed_of_slotBounds h (List.getElem?_eq_getElem hi)
  rw [Int.natCast_add, Int.add_mul] at hstart
  rw [Instant.microsTo_micros]
  omega

end

section
variable {a : Interval} {length pause : Int} {xs : List Interval}

/-- An instant that is a pause or more behind all slots has the room of all of
them with their pauses before it. -/
theorem behind_of_slotBounds {count : Nat}
    (h : xs.map bounds = slotBounds a.start.micros length pause count) {t : Instant}
    (ht : a.start ≤ t) (hbehind : ∀ y ∈ xs, pause ≤ y.stop.microsTo t) :
    a.start.micros + count * (length + pause) ≤ t.micros := by
  cases count with
  | zero =>
    rw [Instant.le_iff] at ht
    simpa using ht
  | succ n =>
    have hn : n < xs.length := by
      rw [length_of_slotBounds h]
      exact Nat.lt_succ_self n
    obtain ⟨-, hstop⟩ := placed_of_slotBounds h (List.getElem?_eq_getElem hn)
    have hlast := hbehind _ (List.getElem_mem hn)
    rw [Instant.microsTo_micros] at hlast
    rw [Int.natCast_add, Int.add_mul]
    omega

theorem cutInto_of_slotBounds (hlength : 0 < length) (hpause : 0 ≤ pause) (ha : a.start ≤ a.stop)
    (h : xs.map bounds = slotBounds a.start.micros length pause
      (slotCount (a.stop.micros - a.start.micros) length pause)) : a.CutInto length pause xs := by
  rw [Instant.le_iff] at ha
  generalize hcount : slotCount (a.stop.micros - a.start.micros) length pause = count at h
  have hfits {k : Nat} : k < count ↔ _ := hcount ▸ lt_slotCount hlength hpause
  refine ⟨?_, fun i x => placed_of_slotBounds h, fun x hx => ?_, apart_of_slotBounds h,
    fun x hx hstart hbehind => ?_⟩
  · rw [length_of_slotBounds h, ← hcount]
    exact Int.toNat_of_nonneg (Int.ediv_nonneg (by omega) (by omega))
  · obtain ⟨i, hi⟩ := List.getElem?_of_mem hx
    have hlow : 0 ≤ i * (length + pause) := Int.mul_nonneg (by omega) (by omega)
    have hend := hfits.1 (index_lt_of_slotBounds h hi)
    obtain ⟨hxStart, hxStop⟩ := placed_of_slotBounds h hi
    rw [Instant.le_iff, Instant.le_iff]
    omega
  · have hbehind := behind_of_slotBounds h hstart hbehind
    -- Else the interval would have room for a slot with the number `count`.
    have hout := mt hfits.2 (Nat.lt_irrefl count)
    rw [Instant.microsTo_micros] at hx
    rw [Instant.lt_iff]
    omega

end

/-! ## What an interval is cut into -/

/-- All sums exist that cutting the interval adds up: a length with a pause is a
span, and the slot after the last one that fits ends within the calendar. -/
def SumsExist (a : Interval) (length pause : Span) : Prop :=
  (∃ step, length.plus pause = .ok step) ∧ a.RoomFor length.micros pause.micros

section
variable {a : Interval} {length pause : Span}

theorem slots_fail (hlength : 0 < length.micros) (hpause : 0 ≤ pause.micros)
    (h : ¬ a.SumsExist length pause) : ∃ fault, a.slots length pause = .error fault := by
  cases hstep : length.plus pause with
  | error fault =>
    refine ⟨fault, ?_⟩
    unfold slots
    rw [hstep]
    rfl
  | ok step =>
    refine ⟨.outOfRange, slots_eq_error hlength hpause hstep fun hroom => h ?_⟩
    exact ⟨⟨step, hstep⟩, hroom⟩

/-- Unless a sum leaves its range, an interval is cut into evenly spaced slots
until no more fits, and the loop that cuts them ends by itself. -/
theorem cut_until_none_fits (hlength : 0 < length.micros) (hpause : 0 ≤ pause.micros)
    (ha : a.start ≤ a.stop) :
    (a.SumsExist length pause → ∃ xs, a.slots length pause = .ok xs ∧
      a.CutInto length.micros pause.micros xs ∧
      ∀ turns, xs.length < turns →
        slotsFrom a.stop length.micros (length.micros + pause.micros) turns a.start = .ok xs) ∧
    (¬ a.SumsExist length pause → ∃ fault, a.slots length pause = .error fault) := by
  refine ⟨fun ⟨⟨step, hstep⟩, hroom⟩ => ?_, slots_fail hlength hpause⟩
  obtain ⟨xs, hxs, hturns⟩ := slots_settle hlength hpause hstep hroom
  obtain ⟨ys, hys, hbounds⟩ := slots_eq_ok hlength hpause hstep hroom
  obtain rfl : ys = xs := Except.ok.inj (hys.symm.trans hxs)
  exact ⟨ys, hys, cutInto_of_slotBounds hlength hpause ha hbounds, hturns⟩

end
end Interval

/-! ## The small practice -/

namespace Practice

def fiftyMinutes : Span := ⟨50 * Micros.minute, by decide⟩

def quarterHour : Span := ⟨15 * Micros.minute, by decide⟩

/-- The last of the three slots of a morning ends at noon, and the pause after it
sticks out. -/
theorem morning_ends_with_a_slot :
    0 < fiftyMinutes.micros ∧ 0 ≤ quarterHour.micros ∧ nine ≤ noon ∧
      Interval.SumsExist ⟨nine, noon⟩ fiftyMinutes quarterHour ∧
      ∃ xs, Interval.slots ⟨nine, noon⟩ fiftyMinutes quarterHour = .ok xs ∧
        Interval.CutInto ⟨nine, noon⟩ fiftyMinutes.micros quarterHour.micros xs ∧
        xs.length = 3 ∧ ∃ x, xs[2]? = some x ∧ x.stop = noon := by
  have hlength : 0 < fiftyMinutes.micros := by decide
  have hpause : 0 ≤ quarterHour.micros := by decide
  have hmorning : nine ≤ noon := by decide
  have hsums : Interval.SumsExist ⟨nine, noon⟩ fiftyMinutes quarterHour := by
    refine ⟨⟨⟨65 * Micros.minute, by decide⟩, by decide⟩, ?_⟩
    unfold Interval.RoomFor InCalendar
    decide
  obtain ⟨xs, hxs, hcut, -⟩ :=
    (Interval.cut_until_none_fits (a := ⟨nine, noon⟩) hlength hpause hmorning).1 hsums
  have hcount : xs.length = 3 := Int.ofNat_inj.1 (hcut.count.trans (by decide))
  have hlast : xs[2]? = some xs[2] := List.getElem?_eq_getElem (by omega)
  refine ⟨hlength, hpause, hmorning, hsums, xs, hxs, hcut, hcount, xs[2], hlast, ?_⟩
  exact Instant.ext_micros ((hcut.placed 2 _ hlast).2.trans (by decide))

end Practice
end Appointments
