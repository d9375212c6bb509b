-- Away from the edges of the calendar nothing leaves it: instants that a text
-- spells, the local days of an instant, and the free slots around both.
import Appointments.Proofs.FailureKinds
import Appointments.Proofs.PartialUpdates
import Appointments.Proofs.WholeStore
import Appointments.Proofs.Matters
namespace Appointments

/-! ## Days inside the calendar -/

/-- The day lies at least so many days away from both edges of the calendar. -/
def Day.Inside (margin : Nat) (d : Day) : Prop :=
  margin ≤ d.number ∧ d.number + margin < dayCount

instance (margin : Nat) (d : Day) : Decidable (d.Inside margin) :=
  inferInstanceAs (Decidable (margin ≤ d.number ∧ d.number + margin < dayCount))

theorem Day.Inside.mono {d : Day} {margin less : Nat} (h : d.Inside margin) (hle : less ≤ margin) :
    d.Inside less := by
  unfold Day.Inside at *
  omega

/-- An instant that is moved by less than a day stays about as far inside the
calendar. -/
theorem Instant.inside_of_near {t u : Instant} {margin : Nat} {n : Int}
    (ht : t.day.Inside (margin + 1)) (hn : n.natAbs < Micros.day) (hu : (u.micros : Int) = t.micros + n) :
    u.day.Inside margin := by
  unfold Day.Inside Instant.day at ht ⊢
  dsimp only at ht ⊢
  rw [Micros.day_eq] at *
  omega

theorem Instant.shift_of_inside {t : Instant} {margin : Nat} {n : Int}
    (ht : t.day.Inside (margin + 1)) (hn : n.natAbs < Micros.day) :
    ∃ u, t.shift n = .ok u ∧ u.day.Inside margin := by
  obtain ⟨u, hu⟩ : ∃ u, t.shift n = .ok u := by
    apply Instant.shift_isOk
    unfold InCalendar
    unfold Day.Inside Instant.day at ht
    dsimp only at ht
    rw [Micros.day_eq] at *
    omega
  exact ⟨u, hu, inside_of_near ht hn (Instant.shift_eq_ok.1 hu)⟩

/-! ## Instants that a text spells -/

namespace Stamp

theorem offset_lt_of_offset? {cs : List Char} {o : Int} (h : offset? cs = some (some o)) :
    o.natAbs < Micros.day := by
  unfold offset? at h
  split at h
  · cases h
  · split at h
    · split at h
      · cases h
      · cases h
        decide
    · split at h
      · rename_i c _
        split at h
        · cases h
        · rename_i hlength
          have hlt : c.length < Micros.day := by omega
          have hoffset : c.offset.natAbs < Micros.day := by
            unfold Clock.offset
            split
            · decide
            · omega
          cases h
          split
          · rw [Int.natAbs_neg]
            exact hoffset
          · exact hoffset
      · cases h

theorem offset_lt_of_parse? {cs : List Char} {stamp : Stamp} {o : Int}
    (h : parse? cs = some stamp) (ho : stamp.offset = some o) : o.natAbs < Micros.day := by
  unfold parse? at h
  obtain ⟨day, -, h⟩ := Option.bind_eq_some_iff.1 h
  split at h
  · cases h
    cases ho
  · obtain ⟨clock, -, h⟩ := Option.bind_eq_some_iff.1 h
    split at h
    · cases h
    · obtain ⟨offset, hoffset, h⟩ := Option.bind_eq_some_iff.1 h
      obtain ⟨wall, -, h⟩ := Option.bind_eq_some_iff.1 h
      cases h
      cases ho
      exact offset_lt_of_offset? hoffset

theorem offset_lt_of_ofRequest? {s : String} {stamp : Stamp} {o : Int}
    (h : ofRequest? s = some stamp) (ho : stamp.offset = some o) : o.natAbs < Micros.day := by
  unfold ofRequest? at h
  dsimp only at h
  split at h
  · cases h
  · split at h
    · exact offset_lt_of_parse? h ho
    · exact offset_lt_of_parse? h ho

end Stamp

namespace Request

/-- The value spells a clock reading that is less than three weeks away from an
edge of the calendar. -/
def NamesEdge (v : Value) : Prop :=
  ∃ s stamp, v = .text s ∧ Stamp.ofRequest? s = some stamp ∧ ¬ stamp.wall.day.Inside 21

theorem instant_of_stamp {field s : String} {stamp : Stamp}
    (h : Stamp.ofRequest? s = some stamp) :
    instant field (.text s) = CalendarFault.orFail stamp.toInstant := by
  unfold instant
  dsimp only
  rw [h]

/-- The instant of a reading is as far inside the calendar, up to the offset
from UTC. -/
theorem toInstant_of_inside {s : String} {stamp : Stamp} (h : Stamp.ofRequest? s = some stamp)
    (hin : stamp.wall.day.Inside 21) : ∃ t, stamp.toInstant = .ok t ∧ t.day.Inside 20 := by
  unfold Stamp.toInstant
  cases ho : stamp.offset with
  | none => exact ⟨stamp.wall, rfl, hin.mono (by decide)⟩
  | some o =>
    apply Instant.shift_of_inside hin
    rw [Int.natAbs_neg]
    exact Stamp.offset_lt_of_ofRequest? h ho

theorem toInstant_of_not_edge {s : String} {stamp : Stamp} (h : Stamp.ofRequest? s = some stamp)
    (hedge : ¬ NamesEdge (.text s)) : ∃ t, stamp.toInstant = .ok t ∧ t.day.Inside 20 := by
  apply toInstant_of_inside h
  by_contra hout
  exact hedge ⟨s, stamp, rfl, h, hout⟩

theorem asExpected_instant (field : String) (v : Value) :
    AsExpected (NamesEdge v) (instant field v) := by
  cases v with
  | text s =>
    cases hstamp : Stamp.ofRequest? s with
    | none =>
      unfold instant
      dsimp only
      rw [hstamp]
      exact asExpected_error rfl
    | some stamp =>
      rw [instant_of_stamp hstamp]
      apply asExpected_orFail
      intro hedge
      obtain ⟨t, ht, -⟩ := toInstant_of_not_edge hstamp hedge
      exact ⟨t, ht⟩
  | _ => exact asExpected_error rfl

theorem inside_of_instant {field : String} {v : Value} {t : Instant} (h : instant field v = .ok t)
    (hedge : ¬ NamesEdge v) : t.day.Inside 20 := by
  cases v with
  | text s =>
    cases hstamp : Stamp.ofRequest? s with
    | none =>
      unfold instant at h
      dsimp only at h
      rw [hstamp] at h
      cases h
    | some stamp =>
      rw [instant_of_stamp hstamp, orFail_eq_ok] at h
      obtain ⟨u, hu, huIn⟩ := toInstant_of_not_edge hstamp hedge
      rw [hu] at h
      cases h
      exact huIn
  | _ => cases h

theorem mem_zones_of_zone {zones : Registry} {name : String} {zone : Zone}
    (h : Request.zone zones name = .ok zone) : zone ∈ zones.zones := by
  unfold Request.zone at h
  split at h
  · cases h
  · split at h
    · rename_i found hnamed
      cases h
      unfold Registry.named? Registry.find? at hnamed
      split at hnamed
      · exact List.mem_of_find?_eq_some hnamed
      · split at hnamed
        · exact List.mem_of_find?_eq_some hnamed
        · cases hnamed
    · cases h

end Request

/-! ## Local days and free slots -/

theorem Zone.dayAt_of_inside {zone : Zone} (hzone : zone.rules.NearUtc) {t : Instant}
    {margin : Nat} (ht : t.day.Inside (margin + 1)) :
    ∃ d, zone.dayAt t = .ok d ∧ d.Inside margin := by
  have hoffset := hzone.offsetAt t.micros
  obtain ⟨w, hw, hin⟩ := Instant.shift_of_inside (n := zone.rules.offsetAt t.micros) ht (by omega)
  exact ⟨w.day, map_eq_ok.2 ⟨w, hw, rfl⟩, hin⟩

theorem Zone.inside_of_dayAt {zone : Zone} (hzone : zone.rules.NearUtc) {t : Instant} {d : Day}
    {margin : Nat} (hd : zone.dayAt t = .ok d) (ht : t.day.Inside (margin + 1)) :
    d.Inside margin := by
  obtain ⟨e, he, hin⟩ := Zone.dayAt_of_inside hzone ht
  rw [hd] at he
  cases he
  exact hin

namespace Store

section
variable {zones : Registry} {s : Store} {exclude : List String}

theorem Proper.interval_isOk (hs : s.Proper zones) {b : Booking} (hb : b ∈ s.bookings) :
    ∃ x, b.interval = .ok x := by
  obtain ⟨r, hr, rfl⟩ := List.mem_map.1 hb
  exact hs.records r hr

theorem Proper.stop_isOk (hs : s.Proper zones) {b : Booking} (hb : b ∈ s.bookings) :
    ∃ stop, b.stop = .ok stop := by
  obtain ⟨x, hx⟩ := hs.interval_isOk hb
  obtain ⟨stop, hstop, -⟩ := interval_eq_ok.1 hx
  exact ⟨stop, hstop⟩

/-- The openings are found on days that stay clear of the edges of the
calendar. -/
theorem Proper.openings_isOk (hs : s.Proper zones) {t : Template} (ht : t.Measured) {zone : Zone}
    (hzone : zone.rules.NearUtc) {first last : Day} (hfirst : 2 ≤ first.number)
    (hlast : last.number + 4 ≤ dayCount) :
    ∃ found, s.openings t zone first last exclude = .ok found :=
  Store.openings_isOk ht hzone hfirst hlast fun _ hb => hs.interval_isOk hb.stored

theorem Proper.asExpected_checkFree (hs : s.Proper zones) {edge : Prop} {b : Booking}
    (hb : ∃ stop, b.stop = .ok stop) : AsExpected edge (s.checkFree b exclude) := by
  obtain ⟨stop, hstop⟩ := hb
  obtain ⟨taken, htaken⟩ : ∃ taken, s.overlapping b.provider b.start stop exclude = .ok taken :=
    overlapping_isOk fun c hc _ => hs.stop_isOk hc
  unfold checkFree
  split
  · rw [hstop]
    refine asExpected_bind (asExpected_ok stop) fun _ hstop => ?_
    cases hstop
    rw [htaken]
    refine asExpected_bind (asExpected_ok taken) fun _ _ => ?_
    split
    · exact asExpected_error rfl
    · exact asExpected_ok ()
  · exact asExpected_ok ()

/-- An insertion of what ends within the calendar. -/
theorem Proper.asExpected_checkInsert (hs : s.Proper zones) {edge : Prop} {b : Booking}
    (hb : ∃ stop, b.stop = .ok stop) : AsExpected edge (s.checkInsert b exclude) := by
  unfold checkInsert
  split
  · exact asExpected_error rfl
  · exact asExpected_bind (hs.asExpected_checkFree hb) fun _ _ => s.asExpected_checkOnlySuccessor b

end
end Store

namespace Desk

/-- Settings that keep days and lengths small, and zones whose clocks stay near
UTC. -/
structure Usual (desk : Desk) : Prop where
  zones : ∀ z ∈ desk.zones.zones, z.rules.NearUtc
  defaults : desk.defaults.Valid desk.zones
  minMinutes : 0 ≤ desk.bookings.minMinutes
  maxMinutes : desk.bookings.maxMinutes ≤ 1440
  cancelHours : ∃ span, Span.ofHours desk.bookings.cancelHours = .ok span
  rescheduleHours : ∃ span, Span.ofHours desk.bookings.rescheduleHours = .ok span
  rangeDays : 0 ≤ desk.slots.defaultRangeDays ∧ desk.slots.defaultRangeDays ≤ 14
  maxRangeDays : desk.slots.maxRangeDays ≤ 14
  maxBlackoutDays : ∃ span, Span.ofDays desk.slots.maxBlackoutDays = .ok span

theorem asExpected_futureStart (now : Instant) (v : Value) :
    AsExpected (Request.NamesEdge v) (futureStart now v) := by
  refine asExpected_bind (Request.asExpected_instant _ v) fun start _ => ?_
  split
  · exact asExpected_error rfl
  · exact asExpected_ok start

theorem inside_of_futureStart {now t : Instant} {v : Value} (h : futureStart now v = .ok t)
    (hedge : ¬ Request.NamesEdge v) : t.day.Inside 20 := by
  obtain ⟨start, hstart, h⟩ := bind_eq_ok.1 h
  split at h
  · cases h
  · cases h
    exact Request.inside_of_instant hstart hedge

section
variable {desk : Desk} (hdesk : desk.Usual) {s : Store} (hs : s.Proper desk.zones)
  {exclude : List String}
include hdesk hs

theorem asExpected_slotsAround (provider : String) (x : Instant) :
    AsExpected (¬ x.day.Inside 20) (desk.slotsAround s provider x exclude) := by
  unfold slotsAround
  cases hfound : (s.templates.get? provider).filter (·.isActive) with
  | none => exact asExpected_ok []
  | some t =>
    obtain ⟨ht, -⟩ := Option.filter_eq_some_iff.1 hfound
    have hsound := hs.templates t (Shelf.mem_of_get? ht)
    refine asExpected_bind (Request.asExpected_zone _ _) fun zone hzone => ?_
    have hnear := hdesk.zones zone (Request.mem_zones_of_zone hzone)
    refine asExpected_bind (asExpected_orFail fun hin => ?_) fun d hd => ?_
    · have hinside : x.day.Inside (19 + 1) := not_not.1 hin
      obtain ⟨d, hd, -⟩ := Zone.dayAt_of_inside hnear hinside
      exact ⟨d, hd⟩
    rw [orFail_eq_ok] at hd
    have hday : x.day.Inside 20 → d.Inside 19 := fun hin => Zone.inside_of_dayAt hnear hd hin
    refine asExpected_bind (asExpected_orFail fun hin => ?_) fun first hfirst => ?_
    · obtain ⟨hlow, hhigh⟩ := hday (not_not.1 hin)
      exact Day.shift_isOk (by omega) (by omega)
    refine asExpected_bind (asExpected_orFail fun hin => ?_) fun last hlast => ?_
    · obtain ⟨hlow, hhigh⟩ := hday (not_not.1 hin)
      exact Day.shift_isOk (by omega) (by omega)
    rw [orFail_eq_ok, Day.shift_eq_ok] at hfirst hlast
    refine asExpected_orFail fun hin => ?_
    obtain ⟨hlow, hhigh⟩ := hday (not_not.1 hin)
    obtain ⟨found, hopenings⟩ : ∃ found, s.openings t zone first last exclude = .ok found :=
      hs.openings_isOk hsound.toMeasured hnear (by omega) (by omega)
    exact ⟨found.slots, map_eq_ok.2 ⟨found, hopenings, rfl⟩⟩

theorem asExpected_slotFree (provider : String) (start : Instant) {minutes : Int}
    (hzero : 0 ≤ minutes) (hle : minutes ≤ 1440) :
    AsExpected (¬ start.day.Inside 20) (desk.slotFree s provider start minutes exclude) := by
  unfold slotFree
  refine asExpected_bind (asExpected_orFail fun _ => Span.ofMinutes_isOk hzero hle)
    fun length hlength => ?_
  rw [orFail_eq_ok] at hlength
  refine asExpected_bind (asExpected_orFail fun hin => ?_) fun stop _ => ?_
  · apply Instant.shift_isOk
    have hmicros := Span.micros_of_ofMinutes hlength
    obtain ⟨hlow, hhigh⟩ := not_not.1 hin
    unfold Instant.day at hlow hhigh
    dsimp only at hlow hhigh
    unfold InCalendar
    rw [hmicros, Micros.minute_eq]
    rw [Micros.day_eq] at *
    omega
  refine asExpected_bind (asExpected_slotsAround hdesk hs _ _) fun slots _ => ?_
  split
  · exact asExpected_ok ()
  · exact asExpected_error rfl

/-- The time that a request asks for is free or not. -/
theorem asExpected_askedSlot {now t : Instant} {start minutes : Value} {default n : Int}
    (ht : futureStart now start = .ok t) (hn : desk.duration default minutes = .ok n)
    (provider : String) :
    AsExpected (Request.NamesEdge start) (desk.slotFree s provider t n exclude) := by
  obtain ⟨hleast, hgreatest⟩ := duration_eq_ok hn
  have hmin := hdesk.minMinutes
  have hmax := hdesk.maxMinutes
  refine (asExpected_slotFree hdesk hs provider t (by omega) (by omega)).mono fun hout => ?_
  by_contra hedge
  exact hout (inside_of_futureStart ht hedge)

omit hdesk hs in
/-- The time of what is booked ends within the calendar. -/
theorem stop_of_slotFree {b : Booking} {provider : String}
    (h : desk.slotFree s provider b.start b.minutes exclude = .ok ()) :
    ∃ stop, b.stop = .ok stop := by
  obtain ⟨length, hlength, h⟩ := bind_eq_ok.1 h
  obtain ⟨stop, hstop, -⟩ := bind_eq_ok.1 h
  exact ⟨stop, bind_eq_ok.2 ⟨length, orFail_eq_ok.1 hlength, orFail_eq_ok.1 hstop⟩⟩

end

section
variable {desk : Desk} (hdesk : desk.Usual) {v : View} (hs : v.store.Proper desk.zones)
include hdesk hs

theorem asExpected_bookDecision (actor : Actor) (request response provider start minutes : Value)
    (note : Option String) :
    AsExpected (Request.NamesEdge start) (desk.bookDecision v actor request response provider start
      minutes (Value.ofOption .text note)) := by
  refine asExpected_bind (Request.asExpected_requiredId _ _) fun request _ => ?_
  refine asExpected_bind (Request.asExpected_requiredId _ _) fun response _ => ?_
  refine asExpected_bind (Request.asExpected_requiredId _ _) fun provider _ => ?_
  refine asExpected_bind (asExpected_futureStart _ _) fun t ht => ?_
  refine asExpected_bind (desk.asExpected_duration _ _) fun n hn => ?_
  refine asExpected_bind (Request.asExpected_text _ _) fun note _ => ?_
  refine asExpected_bind (actor.asExpected_permit _ _ _) fun _ _ => ?_
  refine asExpected_bind (asExpected_askedSlot hdesk hs ht hn provider) fun _ hfree => ?_
  refine asExpected_bind (hs.asExpected_checkInsert ?_) fun _ _ => asExpected_ok _
  exact stop_of_slotFree hfree

theorem asExpected_rescheduleDecision (actor : Actor) (id start minutes : Value)
    (reason : Option String) :
    AsExpected (Request.NamesEdge start) (desk.rescheduleDecision v actor id start minutes
      (Value.ofOption .text reason)) := by
  refine asExpected_bind (asExpected_futureStart _ _) fun t ht => ?_
  refine asExpected_bind (Request.asExpected_text _ _) fun reason _ => ?_
  refine asExpected_bind (v.store.asExpected_named id) fun old _ => ?_
  refine asExpected_bind (actor.asExpected_permit _ _ _) fun _ _ => ?_
  refine asExpected_bind (asExpected_nextStatus _ _) fun status _ => ?_
  refine asExpected_bind (asExpected_checkNotice hdesk.rescheduleHours _ _ _) fun _ _ => ?_
  refine asExpected_bind (desk.asExpected_duration _ _) fun n hn => ?_
  refine asExpected_bind (asExpected_stillConfirmed _ _) fun _ _ => ?_
  refine asExpected_bind (asExpected_askedSlot hdesk hs ht hn old.provider) fun _ hfree => ?_
  refine asExpected_bind (hs.asExpected_checkInsert ?_) fun _ _ => ?_
  · exact stop_of_slotFree (b := successor old v.nextId t n) hfree
  exact asExpected_bind (v.store.asExpected_amended _ _ _) fun _ _ => asExpected_ok _

omit hdesk in
theorem asExpected_completeDecision {edge : Prop} (actor : Actor) (id : Value) :
    AsExpected edge (completeDecision v actor id) := by
  refine asExpected_bind (v.store.asExpected_named id) fun b hb => ?_
  have hstored : b ∈ v.store.bookings := by
    obtain ⟨r, hr, rfl⟩ := Store.booking?_eq_some.1 (Store.named_eq_ok.1 hb).2
    exact List.mem_map_of_mem (Shelf.mem_of_get? hr)
  refine asExpected_bind (actor.asExpected_permit _ _ _) fun _ _ => ?_
  refine asExpected_bind (asExpected_nextStatus _ _) fun status _ => ?_
  refine asExpected_bind (asExpected_orFail fun _ => hs.stop_isOk hstored) fun stop _ => ?_
  split
  · exact asExpected_error rfl
  · exact asExpected_map _ (v.store.asExpected_amended _ _ _)

omit hs in
theorem asExpected_addBlackoutDecision (provider start stop : Value) (reason : Option String)
    (isActive : Bool) :
    AsExpected (Request.NamesEdge start ∨ Request.NamesEdge stop)
      (desk.addBlackoutDecision v provider start stop (Value.ofOption .text reason)
        (.bool isActive)) := by
  refine asExpected_bind (Request.asExpected_requiredId _ _) fun provider _ => ?_
  refine asExpected_bind ((Request.asExpected_instant _ start).mono .inl) fun from_ _ => ?_
  refine asExpected_bind ((Request.asExpected_instant _ stop).mono .inr) fun until_ _ => ?_
  split
  · exact asExpected_error rfl
  · rename_i hafter
    have hlt : from_ < until_ := Nat.lt_of_not_le hafter
    refine asExpected_bind (asExpected_askedBlackout _ _ hlt _ _) fun b _ => ?_
    refine asExpected_bind (asExpected_orFail fun _ => hdesk.maxBlackoutDays) fun longest _ => ?_
    split
    · exact asExpected_error rfl
    · exact asExpected_bind (asExpected_checkClear _ _ _ _ _) fun _ _ =>
        asExpected_bind (asExpected_checkNewBlackout _ _) fun _ _ => asExpected_ok _

end

/-! ## Runs of days -/

/-- The first day of a query is less than three weeks away from an edge of the
calendar. -/
def StartsAtEdge (now : Instant) : Request.DayInput → Prop
  | .value .null => ¬ now.day.Inside 21
  | given => ∃ d, Request.day "from" given = .ok d ∧ ¬ d.Inside 21

section
variable {desk : Desk} (hdesk : desk.Usual) {v : View} (hs : v.store.Proper desk.zones)
include hdesk

theorem asExpected_firstDay {zone : Zone} (hzone : zone ∈ desk.zones.zones) (now : Instant)
    (first : Request.DayInput) :
    AsExpected (StartsAtEdge now first) (firstDay zone now first) := by
  unfold firstDay
  split
  · refine asExpected_orFail fun hin => ?_
    obtain ⟨d, hd, -⟩ := Zone.dayAt_of_inside (hdesk.zones zone hzone) (not_not.1 hin)
    exact ⟨d, hd⟩
  · exact Request.asExpected_day _ _

theorem inside_of_firstDay {zone : Zone} (hzone : zone ∈ desk.zones.zones) {now : Instant}
    {first : Request.DayInput} {d : Day} (h : firstDay zone now first = .ok d)
    (hedge : ¬ StartsAtEdge now first) : d.Inside 20 := by
  unfold firstDay at h
  split at h
  · exact Zone.inside_of_dayAt (hdesk.zones zone hzone) (orFail_eq_ok.1 h) (not_not.1 hedge)
  · rename_i hgiven
    by_contra hout
    apply hedge
    unfold StartsAtEdge
    split
    · exact absurd rfl hgiven
    · exact ⟨d, h, fun hin => hout (hin.mono (by decide))⟩

theorem asExpected_lastDay {edge : Prop} {first : Day} (hfirst : ¬ edge → first.Inside 20)
    (last : Request.DayInput) : AsExpected edge (desk.lastDay first last) := by
  unfold lastDay
  split
  · refine asExpected_orFail fun hedge => ?_
    obtain ⟨-, hhigh⟩ := hfirst hedge
    obtain ⟨hzero, hle⟩ := hdesk.rangeDays
    obtain ⟨span, hspan⟩ : ∃ span, Span.ofDays desk.slots.defaultRangeDays = .ok span := by
      apply Span.ofMicros_isOk
      rw [Micros.day_eq, maxSpanDays]
      omega
    obtain ⟨e, he⟩ := Day.shift_isOk (d := first) (n := desk.slots.defaultRangeDays) (by omega)
      (by omega)
    exact ⟨e, bind_eq_ok.2 ⟨span, hspan, he⟩⟩
  · exact Request.asExpected_day _ _

omit hdesk in
theorem days_of_checkDays {first last : Day} (h : desk.checkDays first last = .ok ()) :
    (last.number : Int) ≤ first.number + desk.slots.maxRangeDays := by
  unfold checkDays at h
  dsimp only at h
  split at h
  · cases h
  · split at h
    · cases h
    · simp only [Int.ofNat_eq_natCast] at *
      omega

include hs

theorem asExpected_slotsListed (provider : String) (first last : Request.DayInput)
    (timeZone : Option String) :
    AsExpected (StartsAtEdge v.now first)
      (desk.slotsListed v provider first last (Value.ofOption .text timeZone)) := by
  unfold slotsListed
  cases hfound : (v.store.templates.get? provider).filter (·.isActive) with
  | none => exact asExpected_ok []
  | some t =>
    obtain ⟨ht, -⟩ := Option.filter_eq_some_iff.1 hfound
    have hsound := hs.templates t (Shelf.mem_of_get? ht)
    refine asExpected_bind (Request.asExpected_zoneName _ _) fun name _ => ?_
    refine asExpected_bind (Request.asExpected_zone _ _) fun zone hzone => ?_
    have hmem := Request.mem_zones_of_zone hzone
    refine asExpected_bind (asExpected_firstDay hdesk hmem _ _) fun d hd => ?_
    have hday : ¬ StartsAtEdge v.now first → d.Inside 20 := inside_of_firstDay hdesk hmem hd
    refine asExpected_bind (asExpected_lastDay hdesk hday _) fun e _ => ?_
    refine asExpected_bind (desk.asExpected_checkDays _ _) fun _ hdays => ?_
    have hlast := days_of_checkDays hdays
    have hmax := hdesk.maxRangeDays
    refine asExpected_bind (asExpected_orFail fun hedge => ?_) fun _ _ => asExpected_ok _
    obtain ⟨hlow, hhigh⟩ := hday hedge
    obtain ⟨found, hopenings⟩ : ∃ found, v.store.openings t zone d e [] = .ok found :=
      hs.openings_isOk hsound.toMeasured (hdesk.zones zone hmem) (by omega) (by omega)
    exact ⟨found.slots, map_eq_ok.2 ⟨found, hopenings, rfl⟩⟩

end
end Desk
end Appointments
