-- Slots cut from working time: how many there are, and where each of them
-- lies.
import Appointments.Proofs.Instants
namespace Appointments.Interval

/-- The counts of start and end. -/
def bounds (a : Interval) : Int × Int := (a.start.micros, a.stop.micros)

theorem bounds_injective : Function.Injective bounds := by
  intro x y hxy
  obtain ⟨hstart, hstop⟩ := Prod.mk.inj hxy
  exact ext_micros (Int.ofNat_inj.1 hstart) (Int.ofNat_inj.1 hstop)

/-- How many slots of a length, with a pause after each, fit into some room.
The last one needs no room for its pause. -/
def slotCount (room length pause : Int) : Nat := ((room + pause) / (length + pause)).toNat

section
variable {length pause : Int}

theorem slotCount_eq_zero (hlength : 0 < length) (hpause : 0 ≤ pause) {room : Int}
    (h : room < length) : slotCount room length pause = 0 := by
  have hlt : (room + pause) / (length + pause) < 1 :=
    Int.ediv_lt_of_lt_mul (by omega) (by omega)
  unfold slotCount
  omega

theorem slotCount_eq_succ (hlength : 0 < length) (hpause : 0 ≤ pause) {room : Int}
    (h : length ≤ room) :
    slotCount room length pause = slotCount (room - (length + pause)) length pause + 1 := by
  have hsplit : room + pause = room - (length + pause) + pause + (length + pause) := by omega
  have hdiv : (room + pause) / (length + pause) =
      (room - (length + pause) + pause) / (length + pause) + 1 := by
    rw [hsplit, Int.add_ediv_of_dvd_right (Int.dvd_refl _), Int.ediv_self (by omega)]
  have hnonneg : 0 ≤ (room - (length + pause) + pause) / (length + pause) :=
    Int.ediv_nonneg (by omega) (by omega)
  unfold slotCount
  rw [hdiv]
  omega

/-- The slot with number `k` is there if it ends within the room. -/
theorem lt_slotCount (hlength : 0 < length) (hpause : 0 ≤ pause) {room : Int} {k : Nat} :
    k < slotCount room length pause ↔ k * (length + pause) + length ≤ room := by
  have hstep : 0 < length + pause := by omega
  have hiff : (k : Int) + 1 ≤ (room + pause) / (length + pause) ↔ _ := Int.le_ediv_iff_mul_le hstep
  unfold slotCount
  rw [Int.lt_toNat]
  rw [Int.add_mul] at hiff
  omega

/-! ## The loop -/

/-- The first slots from an instant on, each with the length and after it the
pause. -/
def slotBounds (start length pause : Int) (count : Nat) : List (Int × Int) :=
  (List.range count).map fun k : Nat =>
    (start + k * (length + pause), start + k * (length + pause) + length)

theorem slotBounds_succ (start : Int) (count : Nat) :
    slotBounds start length pause (count + 1) =
      (start, start + length) :: slotBounds (start + (length + pause)) length pause count := by
  unfold slotBounds
  rw [List.range_succ_eq_map, List.map_cons, List.map_map]
  refine congr (congrArg _ (by simp)) (List.map_congr_left fun k _ => ?_)
  simp only [Function.comp_apply, Nat.succ_eq_add_one, Int.natCast_add, Int.cast_ofNat_Int,
    Int.add_mul, Int.one_mul, Prod.mk.injEq]
  omega

theorem length_of_slotBounds {start : Int} {count : Nat} {xs : List Interval}
    (h : xs.map bounds = slotBounds start length pause count) : xs.length = count := by
  simpa [slotBounds] using congrArg List.length h

section
variable {stop cursor finish next : Instant} {step : Int} {fuel : Nat}

theorem slotsFrom_fits (hfinish : cursor.shift length = .ok finish) (hfits : finish ≤ stop)
    (hnext : cursor.shift step = .ok next) :
    slotsFrom stop length step (fuel + 1) cursor =
      (⟨cursor, finish⟩ :: ·) <$> slotsFrom stop length step fuel next := by
  conv_lhs => unfold slotsFrom
  rw [hfinish, ok_bind, if_pos hfits, hnext, ok_bind]
  rfl

theorem slotsFrom_ends (hfinish : cursor.shift length = .ok finish) (hstop : ¬ finish ≤ stop) :
    slotsFrom stop length step (fuel + 1) cursor = .ok [] := by
  unfold slotsFrom
  rw [hfinish, ok_bind, if_neg hstop]
  rfl

/-- A slot that leaves the calendar. -/
theorem slotsFrom_error (h : ¬ InCalendar (cursor.micros + length)) :
    slotsFrom stop length step (fuel + 1) cursor = .error .outOfRange := by
  unfold slotsFrom
  rw [Instant.shift_eq_error h]
  rfl

/-- A slot after which the next one leaves the calendar. -/
theorem slotsFrom_next_error (hfinish : cursor.shift length = .ok finish) (hfits : finish ≤ stop)
    (h : ¬ InCalendar (cursor.micros + step)) :
    slotsFrom stop length step (fuel + 1) cursor = .error .outOfRange := by
  unfold slotsFrom
  rw [hfinish, ok_bind, if_pos hfits, Instant.shift_eq_error h]
  rfl

end

/-- The loop cuts the slots that fit if the one after the last of them still
ends within the calendar, and else it leaves the calendar. -/
theorem slotsFrom_eq (hlength : 0 < length) (hpause : 0 ≤ pause) {stop : Instant} {fuel : Nat}
    {cursor : Instant} {count : Nat}
    (hcount : slotCount (stop.micros - cursor.micros) length pause = count) (hfuel : count < fuel) :
    (InCalendar (cursor.micros + count * (length + pause) + length) →
      ∃ xs, slotsFrom stop length (length + pause) fuel cursor = .ok xs ∧
        xs.map bounds = slotBounds cursor.micros length pause count) ∧
    (¬ InCalendar (cursor.micros + count * (length + pause) + length) →
      slotsFrom stop length (length + pause) fuel cursor = .error .outOfRange) := by
  induction fuel generalizing cursor count with
  | zero => omega
  | succ fuel ih =>
    have hcursor := cursor.inCalendar
    have hall : 0 ≤ count * (length + pause) := Int.mul_nonneg (by omega) (by omega)
    by_cases hin : InCalendar (cursor.micros + length)
    · obtain ⟨finish, hfinish⟩ := Instant.shift_isOk hin
      have hmicros := Instant.shift_eq_ok.1 hfinish
      by_cases hfits : finish ≤ stop
      · have hle := Instant.le_iff.1 hfits
        rw [slotCount_eq_succ hlength hpause (by omega)] at hcount
        obtain ⟨rest, rfl⟩ : ∃ rest, count = rest + 1 := ⟨_, hcount.symm⟩
        have hsplit : ((rest + 1 : Nat) : Int) * (length + pause) =
            rest * (length + pause) + (length + pause) := by
          simp [Int.add_mul]
        have hrest : 0 ≤ rest * (length + pause) := Int.mul_nonneg (by omega) (by omega)
        by_cases hin' : InCalendar (cursor.micros + (length + pause))
        · obtain ⟨next, hnext⟩ := Instant.shift_isOk hin'
          have hnextMicros := Instant.shift_eq_ok.1 hnext
          have hnextCount : slotCount (stop.micros - next.micros) length pause = rest := by
            rw [hnextMicros, ← Int.sub_sub]
            omega
          have hsame : next.micros + rest * (length + pause) + length =
              cursor.micros + (rest + 1 : Nat) * (length + pause) + length := by
            omega
          obtain ⟨hok, herror⟩ := ih hnextCount (by omega)
          rw [hsame] at hok herror
          rw [slotsFrom_fits hfinish hfits hnext]
          constructor
          · intro h
            obtain ⟨xs, hxs, hbounds⟩ := hok h
            refine ⟨⟨cursor, finish⟩ :: xs, by rw [hxs]; rfl, ?_⟩
            rw [List.map_cons, hbounds, slotBounds_succ, hnextMicros]
            simp [bounds, hmicros]
          · intro h
            rw [herror h]
            rfl
        · refine ⟨fun h => absurd ?_ hin', fun _ => slotsFrom_next_error hfinish hfits hin'⟩
          unfold InCalendar at *
          omega
      · have hlt := mt Instant.le_iff.2 hfits
        rw [slotCount_eq_zero hlength hpause (by omega)] at hcount
        subst hcount
        refine ⟨fun _ => ⟨[], slotsFrom_ends hfinish hfits, rfl⟩, fun h => absurd ?_ h⟩
        simpa using hin
    · refine ⟨fun h => absurd ?_ hin, fun _ => slotsFrom_error hin⟩
      unfold InCalendar at *
      omega

end

/-! ## Slots of an interval -/

/-- The slot after the last one that fits into the interval would still end
within the calendar. -/
def RoomFor (a : Interval) (length pause : Int) : Prop :=
  InCalendar (a.start.micros +
    slotCount (a.stop.micros - a.start.micros) length pause * (length + pause) + length)

/-- Where there is room for the slot after the last one, there is room for the
first one. -/
theorem RoomFor.first {a : Interval} {length pause : Int} (h : a.RoomFor length pause)
    (hstep : 0 ≤ length ∧ 0 ≤ pause) : InCalendar (a.start.micros + length) := by
  have hstart := a.start.inCalendar
  have hall : 0 ≤ slotCount (a.stop.micros - a.start.micros) length pause * (length + pause) :=
    Int.mul_nonneg (by omega) (by omega)
  unfold RoomFor InCalendar at *
  omega

/-- The loop ends by itself: turns that it does not need change nothing. -/
theorem slotsFrom_settles {a : Interval} {length pause : Int} (hlength : 0 < length)
    (hpause : 0 ≤ pause) (hroom : a.RoomFor length pause) :
    ∃ xs : List Interval,
      xs.length = slotCount (a.stop.micros - a.start.micros) length pause ∧
        ∀ turns, xs.length < turns →
          slotsFrom a.stop length (length + pause) turns a.start = .ok xs := by
  obtain ⟨count, hcount⟩ : ∃ count,
      slotCount (a.stop.micros - a.start.micros) length pause = count := ⟨_, rfl⟩
  have hcut : ∀ turns, count < turns → ∃ xs,
      slotsFrom a.stop length (length + pause) turns a.start = .ok xs ∧
        xs.map bounds = slotBounds a.start.micros length pause count := by
    intro turns hturns
    refine (slotsFrom_eq hlength hpause hcount hturns).1 ?_
    rw [← hcount]
    exact hroom
  obtain ⟨xs, -, hbounds⟩ := hcut (count + 1) (Nat.lt_succ_self _)
  have hxs : xs.length = count := length_of_slotBounds hbounds
  refine ⟨xs, by rw [hxs, hcount], fun turns hturns => ?_⟩
  obtain ⟨ys, hys, hsame⟩ := hcut turns (by omega)
  rwa [List.map_injective_iff.2 bounds_injective (hbounds.trans hsame.symm)]

/-- There is room where the interval ends far enough from the edge of the
calendar. -/
theorem roomFor_of_margin {a : Interval} {length pause : Int} (hlength : 0 < length)
    (hpause : 0 ≤ pause) (ha : a.start ≤ a.stop)
    (hmargin : a.stop.micros + length + pause < dayCount * Micros.day) :
    a.RoomFor length pause := by
  rw [Instant.le_iff] at ha
  unfold RoomFor InCalendar
  generalize hcount : slotCount (a.stop.micros - a.start.micros) length pause = count
  have hall : 0 ≤ count * (length + pause) := Int.mul_nonneg (by omega) (by omega)
  refine ⟨by omega, ?_⟩
  cases count with
  | zero =>
    simp only [Int.ofNat_zero, Int.zero_mul]
    omega
  | succ n =>
    -- The slot before ends within the interval.
    have hlt : n < slotCount (a.stop.micros - a.start.micros) length pause := by omega
    rw [lt_slotCount hlength hpause] at hlt
    rw [Int.natCast_add, Int.add_mul]
    omega

/-- The loop has enough fuel for all slots. -/
theorem slotCount_lt_fuel {length pause : Int} (hlength : 0 < length) (hpause : 0 ≤ pause)
    (room : Int) : slotCount room length pause < (room - length).toNat + 2 := by
  by_contra hnot
  have hlast : (room - length).toNat + 1 < slotCount room length pause := by omega
  rw [lt_slotCount hlength hpause] at hlast
  have hstep : (((room - length).toNat + 1 : Nat) : Int) * 1 ≤
      ((room - length).toNat + 1 : Nat) * (length + pause) :=
    Int.mul_le_mul_of_nonneg_left (by omega) (by omega)
  omega

section
variable {a : Interval} {length pause step : Span}

theorem slots_eq_slotsFrom (hlength : 0 < length.micros) (hpause : 0 ≤ pause.micros)
    (hstep : length.plus pause = .ok step)
    (hfirst : InCalendar (a.start.micros + length.micros)) :
    a.slots length pause = slotsFrom a.stop length.micros (length.micros + pause.micros)
      ((a.stop.micros - a.start.micros - length.micros).toNat + 2) a.start := by
  have hmicros : step.micros = length.micros + pause.micros := Span.micros_of_ofMicros hstep
  obtain ⟨finish, hfinish⟩ := Instant.shift_isOk hfirst
  unfold slots Instant.after
  rw [hstep, ok_bind, hfinish, ok_bind, hmicros]
  rw [if_neg (by omega)]
  rfl

/-- An interval is cut into as many slots as fit. -/
theorem slots_eq_ok (hlength : 0 < length.micros) (hpause : 0 ≤ pause.micros)
    (hstep : length.plus pause = .ok step) (hroom : a.RoomFor length.micros pause.micros) :
    ∃ xs, a.slots length pause = .ok xs ∧
      xs.map bounds = slotBounds a.start.micros length.micros pause.micros
        (slotCount (a.stop.micros - a.start.micros) length.micros pause.micros) := by
  rw [slots_eq_slotsFrom hlength hpause hstep (hroom.first (by omega))]
  exact (slotsFrom_eq hlength hpause rfl (slotCount_lt_fuel hlength hpause _)).1 hroom

/-- The slots of an interval are all that the loop finds, however many turns it
may take. -/
theorem slots_settle (hlength : 0 < length.micros) (hpause : 0 ≤ pause.micros)
    (hstep : length.plus pause = .ok step) (hroom : a.RoomFor length.micros pause.micros) :
    ∃ xs, a.slots length pause = .ok xs ∧ ∀ turns, xs.length < turns →
      slotsFrom a.stop length.micros (length.micros + pause.micros) turns a.start = .ok xs := by
  obtain ⟨xs, hcount, hxs⟩ := slotsFrom_settles hlength hpause hroom
  refine ⟨xs, ?_, hxs⟩
  rw [slots_eq_slotsFrom hlength hpause hstep (hroom.first (by omega))]
  apply hxs
  rw [hcount]
  exact slotCount_lt_fuel hlength hpause _

theorem slots_eq_error (hlength : 0 < length.micros) (hpause : 0 ≤ pause.micros)
    (hstep : length.plus pause = .ok step) (hroom : ¬ a.RoomFor length.micros pause.micros) :
    a.slots length pause = .error .outOfRange := by
  by_cases hfirst : InCalendar (a.start.micros + length.micros)
  · rw [slots_eq_slotsFrom hlength hpause hstep hfirst]
    exact (slotsFrom_eq hlength hpause rfl (slotCount_lt_fuel hlength hpause _)).2 hroom
  · unfold slots Instant.after
    rw [hstep, ok_bind, Instant.shift_eq_error hfirst]
    rfl

/-- The slots of an interval are those that start a whole number of lengths
and pauses after it and end within it. -/
theorem mem_slots (hlength : 0 < length.micros) (hpause : 0 ≤ pause.micros)
    (hstep : length.plus pause = .ok step) {xs : List Interval}
    (hxs : a.slots length pause = .ok xs) {x : Interval} :
    x ∈ xs ↔ x.stop ≤ a.stop ∧ (x.stop.micros : Int) = x.start.micros + length.micros ∧
      ∃ k : Nat, (x.start.micros : Int) = a.start.micros + k * (length.micros + pause.micros) := by
  have hroom : a.RoomFor length.micros pause.micros := by
    by_contra hnot
    rw [slots_eq_error hlength hpause hstep hnot] at hxs
    cases hxs
  obtain ⟨ys, hys, hbounds⟩ := slots_eq_ok hlength hpause hstep hroom
  obtain rfl : ys = xs := Except.ok.inj (hys.symm.trans hxs)
  rw [← List.mem_map_of_injective bounds_injective, hbounds]
  unfold slotBounds
  simp only [List.mem_map, List.mem_range, lt_slotCount hlength hpause, bounds, Prod.mk.injEq,
    Instant.le_iff]
  constructor
  · rintro ⟨k, hk, hstart, hstop⟩
    exact ⟨by omega, by omega, k, hstart.symm⟩
  · rintro ⟨hstop, hlen, k, hstart⟩
    exact ⟨k, by omega, hstart.symm, by omega⟩

end
end Appointments.Interval
