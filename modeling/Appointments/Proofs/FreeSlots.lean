-- Free slots: which intervals the openings of a provider are, said without
-- the steps by which they are found.
import Appointments.Openings
import Appointments.Proofs.Merging
import Appointments.Proofs.Readings
import Appointments.Proofs.Schedules
import Appointments.Proofs.SlotCutting
import Appointments.Proofs.ZoneClocks
namespace Appointments

/-! ## Intervals of bookings -/

/-- The interval of a booking starts with it and is as long as its minutes
say. -/
theorem Booking.interval_eq_ok {b : Booking} {x : Interval} :
    b.interval = .ok x ↔
      x.start = b.start ∧ (x.stop.micros : Int) = b.start.micros + b.minutes * Micros.minute := by
  unfold interval stop
  constructor
  · intro h
    obtain ⟨e, he, rfl⟩ := map_eq_ok.1 h
    obtain ⟨span, hspan, he⟩ := bind_eq_ok.1 he
    refine ⟨rfl, ?_⟩
    rw [← Span.micros_of_ofMinutes hspan]
    exact Instant.shift_eq_ok.1 he
  · rintro ⟨hstart, hstop⟩
    obtain ⟨span, hspan⟩ := Span.ofMinutes_isOk_of_stop hstop
    have hmicros := Span.micros_of_ofMinutes hspan
    refine map_eq_ok.2 ⟨x.stop, bind_eq_ok.2 ⟨span, hspan, ?_⟩, ?_⟩
    · apply Instant.shift_eq_ok.2
      omega
    · rw [← hstart]

theorem Booking.start_lt_stop {b : Booking} {x : Interval} (hb : 1 ≤ b.minutes)
    (h : b.interval = .ok x) : x.start < x.stop := by
  obtain ⟨hstart, hstop⟩ := interval_eq_ok.1 h
  rw [Micros.minute_eq] at hstop
  rw [hstart, Instant.lt_iff]
  omega

/-! ## What a free slot is -/

/-- The lengths of slots and pauses are within the bounds of validation. -/
structure Template.Measured (t : Template) : Prop where
  slot_least : 15 ≤ t.slotMinutes
  slot_greatest : t.slotMinutes ≤ 240
  buffer_least : 0 ≤ t.bufferMinutes
  buffer_greatest : t.bufferMinutes ≤ 120

theorem Value.within_of_readIntWithin {least greatest n : Int} {v : Value}
    (h : v.readIntWithin (some least) (some greatest) = .ok n) : least ≤ n ∧ n ≤ greatest := by
  obtain ⟨m, -, h⟩ := Reading.check_eq_ok.1 h
  split at h
  · cases h
  · split at h
    · cases h
    · rename_i hleast hgreatest
      cases h
      simp only [Option.any_some, decide_eq_true_eq] at hleast hgreatest
      omega

/-- A field is read, or else it has its default. -/
theorem FieldName.of_withDefault {α : Type} {f : FieldName} {a x : α} {read : Value → Reading α}
    {fields : List (String × Value)} (h : f.withDefault a read fields = .ok x) :
    x = a ∨ ∃ v, read v = .ok x := by
  unfold withDefault at h
  split at h
  · exact .inr ⟨_, Reading.under_eq_ok.1 h⟩
  · cases h
    exact .inl rfl

theorem FieldName.within_of_withDefault {f : FieldName} {least greatest a n : Int}
    {fields : List (String × Value)} (hleast : least ≤ a) (hgreatest : a ≤ greatest)
    (h : f.withDefault a (Value.readIntWithin (some least) (some greatest)) fields = .ok n) :
    least ≤ n ∧ n ≤ greatest := by
  rcases of_withDefault h with rfl | ⟨v, hv⟩
  · exact ⟨hleast, hgreatest⟩
  · exact Value.within_of_readIntWithin hv

theorem SettingsFault.unless_eq_ok {fault : SettingsFault} {holds : Bool} :
    fault.unless holds = .ok () ↔ holds = true := by
  cases holds <;> simp [SettingsFault.unless]

/-- The template of a provider who has set nothing yet is measured, where the
defaults are checked. -/
theorem Template.measured_initial {defaults : SlotSettings} (h : defaults.check = .ok ())
    (provider : String) : (initial defaults provider).Measured := by
  obtain ⟨_, hslot, h⟩ := bind_eq_ok.1 h
  obtain ⟨_, hbuffer, -⟩ := bind_eq_ok.1 h
  rw [SettingsFault.unless_eq_ok, Bool.and_eq_true, decide_eq_true_eq, decide_eq_true_eq]
    at hslot hbuffer
  exact ⟨hslot.1, hslot.2, hbuffer.1, hbuffer.2⟩

/-- Templates that are read are measured, and so are those that are changed,
as a change reads all fields again. -/
theorem Template.measured_of_readFields {zones : Registry} {defaults : SlotSettings}
    {fields : List (String × Value)} {t : Template} (hdefaults : defaults.check = .ok ())
    (h : readFields zones defaults fields = .ok t) : t.Measured := by
  obtain ⟨hslot, hslot', hbuffer, hbuffer'⟩ := measured_initial hdefaults ""
  obtain ⟨hread, -⟩ := readFields_eq_ok.1 h
  obtain ⟨hleast, hgreatest⟩ := FieldName.within_of_withDefault hslot hslot' hread.slotMinutes
  obtain ⟨hleast', hgreatest'⟩ :=
    FieldName.within_of_withDefault hbuffer hbuffer' hread.bufferMinutes
  exact ⟨hleast, hgreatest, hleast', hgreatest'⟩

/-- The interval starts a whole number of slots and pauses after the start of
some working range of the day, is as long as a slot, and ends within the
range. -/
def Template.Cuts (t : Template) (zone : Zone) (day : Day) (x : Interval) : Prop :=
  ∃ r ∈ t.rangesFor day.weekday, ∃ s e,
    zone.instantAt day r.start.minutes = .ok (some s) ∧
    zone.instantAt day r.stop.minutes = .ok (some e) ∧ s < e ∧ x.stop ≤ e ∧
    (x.stop.micros : Int) = x.start.micros + t.slotMinutes * Micros.minute ∧
    ∃ k : Nat, (x.start.micros : Int) =
      s.micros + k * ((t.slotMinutes + t.bufferMinutes) * Micros.minute)

namespace Openings

/-- The interval overlaps no active blackout and no booking that is not
cancelled. -/
def Untaken (blackouts : List Blackout) (bookings : List Booking) (x : Interval) : Prop :=
  (∀ b ∈ blackouts, b.isActive = true → x.overlaps b.interval = false) ∧
    ∀ b ∈ bookings, b.status ≠ .cancelled → ∀ y, b.interval = .ok y → x.overlaps y = false

/-- No instant that is computed on the way leaves the calendar. -/
structure StayInCalendar (t : Template) (zone : Zone) (bookings : List Booking)
    (first last : Day) : Prop where
  days : ¬ (first ≤ last ∧ last.isLast = true)
  hours : ∀ day, first ≤ day → day ≤ last → ∀ r ∈ t.rangesFor day.weekday,
    (∃ s, zone.instantAt day r.start.minutes = .ok s) ∧
      ∃ e, zone.instantAt day r.stop.minutes = .ok e
  slots : ∀ day, first ≤ day → day ≤ last → ∀ r ∈ t.rangesFor day.weekday, ∀ s e,
    zone.instantAt day r.start.minutes = .ok (some s) →
    zone.instantAt day r.stop.minutes = .ok (some e) → s < e →
    Interval.RoomFor ⟨s, e⟩ (t.slotMinutes * Micros.minute) (t.bufferMinutes * Micros.minute)
  bookings : ∀ b ∈ bookings, b.status ≠ .cancelled → ∃ x, b.interval = .ok x

/-! ## Working time -/

theorem ofRange_isOk {zone : Zone} {day : Day} {r : TimeRange} :
    (∃ o, Occurrence.ofRange zone day r = .ok o) ↔
      (∃ s, zone.instantAt day r.start.minutes = .ok s) ∧
        ∃ e, zone.instantAt day r.stop.minutes = .ok e := by
  unfold Occurrence.ofRange
  constructor
  · rintro ⟨o, h⟩
    obtain ⟨s, hs, h⟩ := bind_eq_ok.1 h
    obtain ⟨e, he, -⟩ := bind_eq_ok.1 h
    exact ⟨⟨s, hs⟩, e, he⟩
  · rintro ⟨⟨s, hs⟩, e, he⟩
    exact ⟨_, bind_eq_ok.2 ⟨s, hs, bind_eq_ok.2 ⟨e, he, rfl⟩⟩⟩

theorem ofRange_eq_working {zone : Zone} {day : Day} {r : TimeRange} {a : Interval} :
    Occurrence.ofRange zone day r = .ok (.working a) ↔
      zone.instantAt day r.start.minutes = .ok (some a.start) ∧
        zone.instantAt day r.stop.minutes = .ok (some a.stop) ∧ a.start < a.stop := by
  unfold Occurrence.ofRange
  constructor
  · intro h
    obtain ⟨s, hs, h⟩ := bind_eq_ok.1 h
    obtain ⟨e, he, h⟩ := bind_eq_ok.1 h
    have h := pure_eq_ok.1 h
    split at h
    · split at h
      · rename_i hlt
        cases h
        exact ⟨hs, he, hlt⟩
      · cases h
    · cases h
  · rintro ⟨hs, he, hlt⟩
    rw [hs, he, ok_bind, ok_bind]
    dsimp only
    rw [if_pos hlt]
    rfl

theorem mem_occurrences {t : Template} {zone : Zone} {first last : Day}
    (h : ¬ (first ≤ last ∧ last.isLast = true)) {x : Except CalendarFault Occurrence} :
    x ∈ t.occurrences zone first last ↔ ∃ day, first ≤ day ∧ day ≤ last ∧
      ∃ r ∈ t.rangesFor day.weekday, Occurrence.ofRange zone day r = x := by
  unfold Template.occurrences
  dsimp only
  rw [if_neg h]
  simp [List.mem_flatMap, Day.mem_upTo, and_assoc]

theorem not_last_of_occurrences {t : Template} {zone : Zone} {first last : Day}
    (h : ∀ x ∈ t.occurrences zone first last, ∃ o, x = .ok o) :
    ¬ (first ≤ last ∧ last.isLast = true) := by
  intro hlast
  have hfault := h (.error .outOfRange) (by simp [Template.occurrences, hlast])
  obtain ⟨o, ho⟩ := hfault
  cases ho

/-- The working time is found if the walk over the days ends within the
calendar and so do the hours of each day. -/
theorem workingTime_isOk {t : Template} {zone : Zone} {first last : Day} :
    (∃ working, t.workingTime zone first last = .ok working) ↔
      ¬ (first ≤ last ∧ last.isLast = true) ∧
        ∀ day, first ≤ day → day ≤ last → ∀ r ∈ t.rangesFor day.weekday,
          (∃ s, zone.instantAt day r.start.minutes = .ok s) ∧
            ∃ e, zone.instantAt day r.stop.minutes = .ok e := by
  unfold Template.workingTime
  constructor
  · rintro ⟨working, h⟩
    obtain ⟨found, hfound, -⟩ := bind_eq_ok.1 h
    have hall : ∀ x ∈ t.occurrences zone first last, ∃ o, x = .ok o := by
      intro x hx
      obtain ⟨o, -, ho⟩ := ok_of_mem_of_mapM hfound hx
      exact ⟨o, ho⟩
    have hdays := not_last_of_occurrences hall
    refine ⟨hdays, fun day hfirst hlast r hr => ofRange_isOk.1 ?_⟩
    exact hall _ ((mem_occurrences hdays).2 ⟨day, hfirst, hlast, r, hr, rfl⟩)
  · rintro ⟨hdays, hhours⟩
    obtain ⟨found, hfound⟩ : ∃ found, (t.occurrences zone first last).mapM (fun x => x) =
        .ok found := by
      apply mapM_ok_of_forall
      intro x hx
      obtain ⟨day, hfirst, hlast, r, hr, rfl⟩ := (mem_occurrences hdays).1 hx
      exact ofRange_isOk.2 (hhours day hfirst hlast r hr)
    exact ⟨_, bind_eq_ok.2 ⟨found, hfound, rfl⟩⟩

theorem mem_workingTime {t : Template} {zone : Zone} {first last : Day} {working : List Interval}
    (h : t.workingTime zone first last = .ok working) {a : Interval} :
    a ∈ working ↔ ∃ day, first ≤ day ∧ day ≤ last ∧ ∃ r ∈ t.rangesFor day.weekday,
      zone.instantAt day r.start.minutes = .ok (some a.start) ∧
        zone.instantAt day r.stop.minutes = .ok (some a.stop) ∧ a.start < a.stop := by
  have hdays := (workingTime_isOk.1 ⟨working, h⟩).1
  obtain ⟨found, hfound, h⟩ := bind_eq_ok.1 h
  obtain rfl := pure_eq_ok.1 h
  have hinterval : ∀ o : Occurrence, o.interval? = some a ↔ o = .working a := by
    intro o
    cases o <;> simp [Occurrence.interval?]
  simp only [List.mem_filterMap, hinterval, exists_eq_right]
  rw [mem_of_mapM hfound]
  simp only [exists_eq_right, mem_occurrences hdays, ofRange_eq_working]

/-! ## Busy time -/

theorem busyTime_isOk {blackouts : List Blackout} {bookings : List Booking} :
    (∃ busy, busyTime blackouts bookings = .ok busy) ↔
      ∀ b ∈ bookings, b.status ≠ .cancelled → ∃ x, b.interval = .ok x := by
  unfold busyTime
  constructor
  · rintro ⟨busy, h⟩ b hb hstatus
    obtain ⟨taken, htaken, -⟩ := bind_eq_ok.1 h
    obtain ⟨x, -, hx⟩ := ok_of_mem_of_mapM htaken (x := b) (by simp [hb, hstatus])
    exact ⟨x, hx⟩
  · intro h
    obtain ⟨taken, htaken⟩ : ∃ taken,
        (bookings.filter (·.status ≠ .cancelled)).mapM Booking.interval = .ok taken := by
      apply mapM_ok_of_forall
      simpa using h
    exact ⟨_, bind_eq_ok.2 ⟨taken, htaken, rfl⟩⟩

/-- The interval overlaps an active blackout, or a booking that is not
cancelled and takes any time. -/
def Taken (blackouts : List Blackout) (bookings : List Booking) (x : Interval) : Prop :=
  (∃ b ∈ blackouts, b.isActive = true ∧ x.overlaps b.interval = true) ∨
    ∃ b ∈ bookings, b.status ≠ .cancelled ∧
      ∃ y, b.interval = .ok y ∧ y.start < y.stop ∧ x.overlaps y = true

/-- A slot overlaps busy time if it overlaps something that makes it up. -/
theorem overlapsAnyWith_busyTime_iff {blackouts : List Blackout} {bookings : List Booking}
    {busy : List Interval} (h : busyTime blackouts bookings = .ok busy) {x : Interval}
    (hx : x.start < x.stop) :
    Interval.overlapsAnyWith (Interval.ends busy) busy x = true ↔ Taken blackouts bookings x := by
  obtain ⟨taken, htaken, h⟩ := bind_eq_ok.1 h
  obtain rfl := pure_eq_ok.1 h
  rw [Interval.overlapsAnyWith_normalize hx]
  have hmem : ∀ a, a ∈ taken ↔ ∃ b ∈ bookings, b.status ≠ .cancelled ∧ b.interval = .ok a := by
    intro a
    rw [mem_of_mapM htaken]
    simp [and_assoc]
  constructor
  · rintro ⟨a, ha, hlt, hover⟩
    rcases List.mem_append.1 ha with ha | ha
    · obtain ⟨b, hb, rfl⟩ := List.mem_map.1 ha
      obtain ⟨hb, hactive⟩ := List.mem_filter.1 hb
      exact .inl ⟨b, hb, hactive, hover⟩
    · obtain ⟨b, hb, hstatus, hy⟩ := (hmem a).1 ha
      exact .inr ⟨b, hb, hstatus, a, hy, hlt, hover⟩
  · rintro (⟨b, hb, hactive, hover⟩ | ⟨b, hb, hstatus, y, hy, hlt, hover⟩)
    · refine ⟨b.interval, List.mem_append.2 (.inl ?_), b.start_lt, hover⟩
      exact List.mem_map.2 ⟨b, List.mem_filter.2 ⟨hb, hactive⟩, rfl⟩
    · exact ⟨y, List.mem_append.2 (.inr ((hmem y).2 ⟨b, hb, hstatus, hy⟩)), hlt, hover⟩

/-- Where every booking lasts at least a minute, nothing takes the interval if
it overlaps nothing at all. -/
theorem not_taken_iff {blackouts : List Blackout} {bookings : List Booking}
    (hbookings : ∀ b ∈ bookings, 1 ≤ b.minutes) {x : Interval} :
    ¬ Taken blackouts bookings x ↔ Untaken blackouts bookings x := by
  constructor
  · intro hfree
    refine ⟨fun b hb hactive => ?_, fun b hb hstatus y hy => ?_⟩
    · rw [Bool.eq_false_iff]
      intro hover
      exact hfree (.inl ⟨b, hb, hactive, hover⟩)
    · rw [Bool.eq_false_iff]
      intro hover
      exact hfree
        (.inr ⟨b, hb, hstatus, y, hy, Booking.start_lt_stop (hbookings b hb) hy, hover⟩)
  · rintro ⟨hblackouts, htaken⟩ (⟨b, hb, hactive, hover⟩ | ⟨b, hb, hstatus, y, hy, -, hover⟩)
    · simp [hblackouts b hb hactive] at hover
    · simp [htaken b hb hstatus y hy] at hover

/-! ## Each slot once, in order -/

theorem mem_withoutRepeats {x : Interval} {items : List Interval} :
    x ∈ withoutRepeats items ↔ x ∈ items := by
  fun_induction withoutRepeats items with
  | case1 a rest ih => simp [ih]
  | case2 a b rest hne ih => rw [List.mem_cons, ih, List.mem_cons (b := a)]
  | case3 rest hrest => rfl

theorem pairwise_withoutRepeats {items : List Interval}
    (h : items.Pairwise fun a b => a.notAfter b = true) :
    (withoutRepeats items).Pairwise Interval.Precedes := by
  fun_induction withoutRepeats items with
  | case1 a rest ih => exact ih (List.pairwise_cons.1 h).2
  | case2 a b rest hne ih =>
    obtain ⟨ha, hrest⟩ := List.pairwise_cons.1 h
    refine List.pairwise_cons.2 ⟨fun c hc => ?_, ih hrest⟩
    rw [mem_withoutRepeats] at hc
    apply Interval.precedes_of_notAfter (ha c hc)
    rintro rfl
    -- The next one stands between two equal ones.
    rcases List.mem_cons.1 hc with rfl | hc
    · exact hne rfl
    · exact hne (Interval.notAfter_antisymm (ha b (by simp)) ((List.pairwise_cons.1 hrest).1 a hc))
  | case3 rest hrest =>
    match rest with
    | [] => exact List.Pairwise.nil
    | [a] => exact List.pairwise_singleton _ _
    | a :: b :: rest => exact (hrest a b rest rfl).elim

theorem pairwise_ofCandidates (busy candidates : List Interval) :
    (ofCandidates busy candidates).slots.Pairwise Interval.Precedes :=
  pairwise_withoutRepeats
    (List.pairwise_sortedBy Interval.notAfter_total Interval.notAfter_trans _)

theorem mem_ofCandidates {busy candidates : List Interval} {x : Interval} :
    x ∈ (ofCandidates busy candidates).slots ↔
      x ∈ candidates ∧ Interval.overlapsAnyWith (Interval.ends busy) busy x = false := by
  unfold ofCandidates
  simp [List.partition_eq_filter_filter, mem_withoutRepeats, (List.sortedBy_perm _ _).mem_iff]

/-! ## All free slots -/

/-- The length of slots, the pause after each and the step from slot to slot,
as spans. -/
structure Measures (t : Template) (length pause step : Span) : Prop where
  length_eq : Span.ofMinutes t.slotMinutes = .ok length
  pause_eq : Span.ofMinutes t.bufferMinutes = .ok pause
  step_eq : length.plus pause = .ok step
  length_micros : length.micros = t.slotMinutes * Micros.minute
  pause_micros : pause.micros = t.bufferMinutes * Micros.minute
  length_pos : 0 < length.micros
  pause_nonneg : 0 ≤ pause.micros

theorem exists_measures {t : Template} (ht : t.Measured) :
    ∃ length pause step, Measures t length pause step := by
  obtain ⟨hslot, hslot', hbuffer, hbuffer'⟩ := ht
  obtain ⟨length, hlength⟩ := Span.ofMinutes_isOk (n := t.slotMinutes) (by omega) (by omega)
  obtain ⟨pause, hpause⟩ := Span.ofMinutes_isOk (n := t.bufferMinutes) hbuffer (by omega)
  have hlengthMicros := Span.micros_of_ofMinutes hlength
  have hpauseMicros := Span.micros_of_ofMinutes hpause
  have hminute := Micros.minute_eq
  obtain ⟨step, hstep⟩ : ∃ step, length.plus pause = .ok step := by
    apply Span.ofMicros_isOk
    rw [hlengthMicros, hpauseMicros, hminute, Micros.day_eq]
    unfold maxSpanDays
    omega
  refine ⟨length, pause, step, hlength, hpause, hstep, hlengthMicros, hpauseMicros, ?_, ?_⟩
  · rw [hlengthMicros, hminute]
    omega
  · rw [hpauseMicros, hminute]
    omega

/-- The free slots are found if all that is computed on the way stays in the
calendar. -/
theorem between_isOk {t : Template} (ht : t.Measured) {zone : Zone} {blackouts : List Blackout}
    {bookings : List Booking} {first last : Day} :
    (∃ found, between t zone blackouts bookings first last = .ok found) ↔
      StayInCalendar t zone bookings first last := by
  obtain ⟨length, pause, step, hm⟩ := exists_measures ht
  unfold between
  rw [hm.length_eq, hm.pause_eq, ok_bind, ok_bind]
  constructor
  · rintro ⟨found, h⟩
    obtain ⟨working, hworking, h⟩ := bind_eq_ok.1 h
    obtain ⟨busy, hbusy, h⟩ := bind_eq_ok.1 h
    obtain ⟨candidates, hcandidates, -⟩ := bind_eq_ok.1 h
    obtain ⟨hdays, hhours⟩ := workingTime_isOk.1 ⟨working, hworking⟩
    refine ⟨hdays, hhours, ?_, busyTime_isOk.1 ⟨busy, hbusy⟩⟩
    intro day hfirst hlast r hr s e hs he hlt
    have hmem : ⟨s, e⟩ ∈ working :=
      (mem_workingTime hworking).2 ⟨day, hfirst, hlast, r, hr, hs, he, hlt⟩
    obtain ⟨xs, -, hxs⟩ := ok_of_mem_of_mapM hcandidates hmem
    by_contra hroom
    rw [← hm.length_micros, ← hm.pause_micros] at hroom
    rw [Interval.slots_eq_error hm.length_pos hm.pause_nonneg hm.step_eq hroom] at hxs
    cases hxs
  · rintro ⟨hdays, hhours, hslots, hbookings⟩
    obtain ⟨working, hworking⟩ := workingTime_isOk.2 ⟨hdays, hhours⟩
    obtain ⟨busy, hbusy⟩ : ∃ busy, busyTime blackouts bookings = .ok busy :=
      busyTime_isOk.2 hbookings
    obtain ⟨candidates, hcandidates⟩ : ∃ candidates,
        working.mapM (fun a => a.slots length pause) = .ok candidates := by
      apply mapM_ok_of_forall
      intro a ha
      obtain ⟨day, hfirst, hlast, r, hr, hs, he, hlt⟩ := (mem_workingTime hworking).1 ha
      have hroom := hslots day hfirst hlast r hr a.start a.stop hs he hlt
      rw [← hm.length_micros, ← hm.pause_micros] at hroom
      obtain ⟨xs, hxs, -⟩ := Interval.slots_eq_ok hm.length_pos hm.pause_nonneg hm.step_eq hroom
      exact ⟨xs, hxs⟩
    rw [hworking, hbusy, ok_bind, ok_bind, hcandidates]
    exact ⟨_, rfl⟩

theorem pairwise_between {t : Template} {zone : Zone} {blackouts : List Blackout}
    {bookings : List Booking} {first last : Day} {found : Openings}
    (h : between t zone blackouts bookings first last = .ok found) :
    found.slots.Pairwise Interval.Precedes := by
  obtain ⟨length, -, h⟩ := bind_eq_ok.1 h
  obtain ⟨pause, -, h⟩ := bind_eq_ok.1 h
  obtain ⟨working, -, h⟩ := bind_eq_ok.1 h
  obtain ⟨busy, -, h⟩ := bind_eq_ok.1 h
  obtain ⟨candidates, -, h⟩ := bind_eq_ok.1 h
  obtain rfl := pure_eq_ok.1 h
  exact pairwise_ofCandidates busy candidates.flatten

/-- Working time is cut into the slots of the days. -/
theorem mem_candidates {t : Template} {length pause step : Span} (hm : Measures t length pause step)
    {zone : Zone} {first last : Day} {working : List Interval}
    (hworking : t.workingTime zone first last = .ok working) {candidates : List (List Interval)}
    (hcandidates : working.mapM (fun a => a.slots length pause) = .ok candidates) {x : Interval} :
    x ∈ candidates.flatten ↔ ∃ day, first ≤ day ∧ day ≤ last ∧ t.Cuts zone day x := by
  have hslots {a : Interval} {xs : List Interval} (h : a.slots length pause = .ok xs) :=
    Interval.mem_slots hm.length_pos hm.pause_nonneg hm.step_eq h (x := x)
  rw [List.mem_flatten]
  unfold Template.Cuts
  constructor
  · rintro ⟨xs, hxs, hx⟩
    obtain ⟨a, ha, hxs⟩ := (mem_of_mapM hcandidates).1 hxs
    obtain ⟨hstop, hlong, k, hk⟩ := (hslots hxs).1 hx
    obtain ⟨day, hfirst, hlast, r, hr, hs, he, hlt⟩ := (mem_workingTime hworking).1 ha
    rw [hm.length_micros] at hlong
    rw [hm.length_micros, hm.pause_micros, ← Int.add_mul] at hk
    exact ⟨day, hfirst, hlast, r, hr, a.start, a.stop, hs, he, hlt, hstop, hlong, k, hk⟩
  · rintro ⟨day, hfirst, hlast, r, hr, s, e, hs, he, hlt, hstop, hlong, k, hk⟩
    have hmem : ⟨s, e⟩ ∈ working :=
      (mem_workingTime hworking).2 ⟨day, hfirst, hlast, r, hr, hs, he, hlt⟩
    obtain ⟨xs, hxsMem, hxs⟩ := ok_of_mem_of_mapM hcandidates hmem
    rw [← hm.length_micros] at hlong
    rw [Int.add_mul, ← hm.length_micros, ← hm.pause_micros] at hk
    exact ⟨xs, hxsMem, (hslots hxs).2 ⟨hstop, hlong, k, hk⟩⟩

/-- The free slots are those that some working range of a day is cut into and
that nothing takes. -/
theorem mem_between {t : Template} (ht : t.Measured) {zone : Zone} {blackouts : List Blackout}
    {bookings : List Booking} {first last : Day} {found : Openings}
    (h : between t zone blackouts bookings first last = .ok found) {x : Interval} :
    x ∈ found.slots ↔ (∃ day, first ≤ day ∧ day ≤ last ∧ t.Cuts zone day x) ∧
      ¬ Taken blackouts bookings x := by
  obtain ⟨length, pause, step, hm⟩ := exists_measures ht
  unfold between at h
  rw [hm.length_eq, hm.pause_eq, ok_bind, ok_bind] at h
  obtain ⟨working, hworking, h⟩ := bind_eq_ok.1 h
  obtain ⟨busy, hbusy, h⟩ := bind_eq_ok.1 h
  obtain ⟨candidates, hcandidates, h⟩ := bind_eq_ok.1 h
  obtain rfl := pure_eq_ok.1 h
  rw [mem_ofCandidates, mem_candidates hm hworking hcandidates, and_congr_right_iff]
  rintro ⟨day, -, -, r, -, s, e, -, -, -, -, hlong, -⟩
  have hpos := hm.length_pos
  rw [hm.length_micros] at hpos
  rw [Bool.eq_false_iff, Ne, overlapsAnyWith_busyTime_iff hbusy]
  rw [Instant.lt_iff]
  omega

/-- The free slots are found if and only if nothing leaves the calendar, and
then they are, once each and in ascending order, the slots that working ranges
of the days are cut into and that nothing takes. -/
theorem exactly_the_free_slots {t : Template} (ht : t.Measured) (zone : Zone)
    (blackouts : List Blackout) {bookings : List Booking}
    (hbookings : ∀ b ∈ bookings, 1 ≤ b.minutes) (first last : Day) :
    ((∃ found, between t zone blackouts bookings first last = .ok found) ↔
      StayInCalendar t zone bookings first last) ∧
    ∀ found, between t zone blackouts bookings first last = .ok found →
      found.slots.Pairwise Interval.Precedes ∧
      ∀ x, x ∈ found.slots ↔ (∃ day, first ≤ day ∧ day ≤ last ∧ t.Cuts zone day x) ∧
        Untaken blackouts bookings x := by
  refine ⟨between_isOk ht, fun found h => ⟨?_, fun x => ?_⟩⟩
  · exact pairwise_between h
  · rw [mem_between ht h, not_taken_iff hbookings]

theorem booked_hour_is_no_free_slot :
    ∃ found, between Practice.hours ⟨"UTC", .fixed 0⟩ [] [Practice.booked] Practice.monday
        Practice.monday = .ok found ∧
      found.slots = [⟨Practice.nine, Practice.ten⟩, ⟨Practice.eleven, Practice.noon⟩] ∧
      found.slots.Pairwise Interval.Precedes ∧
      ∀ x, x ∈ found.slots ↔
        (∃ day, Practice.monday ≤ day ∧ day ≤ Practice.monday ∧
          Practice.hours.Cuts ⟨"UTC", .fixed 0⟩ day x) ∧ Untaken [] [Practice.booked] x := by
  have hhours : Practice.hours.Measured := by
    constructor <;> decide
  have hfound : between Practice.hours ⟨"UTC", .fixed 0⟩ [] [Practice.booked] Practice.monday
      Practice.monday =
        .ok ⟨[⟨Practice.nine, Practice.ten⟩, ⟨Practice.eleven, Practice.noon⟩], 1⟩ := by
    apply toOption_eq_some.1
    decide +kernel
  have hbooked : ∀ b ∈ [Practice.booked], 1 ≤ b.minutes := by decide
  have hspec := (exactly_the_free_slots hhours ⟨"UTC", .fixed 0⟩ [] hbooked Practice.monday
    Practice.monday).2 _ hfound
  exact ⟨_, hfound, rfl, hspec⟩

/-! ## Days away from the edges of the calendar -/

/-- Nothing leaves the calendar where the days stay clear of its edges. -/
theorem stayInCalendar {t : Template} (ht : t.Measured) {zone : Zone} (hzone : zone.rules.NearUtc)
    {bookings : List Booking}
    (hbookings : ∀ b ∈ bookings, b.status ≠ .cancelled → ∃ x, b.interval = .ok x) {first last : Day}
    (hfirst : 2 ≤ first.number) (hlast : last.number + 4 ≤ dayCount) :
    StayInCalendar t zone bookings first last := by
  have hin : ∀ day : Day, first ≤ day → day ≤ last →
      2 ≤ day.number ∧ day.number + 4 ≤ dayCount := by
    intro day hlow hhigh
    rw [Day.le_iff] at hlow hhigh
    omega
  refine ⟨?_, fun day hlow hhigh r _ => ?_, fun day hlow hhigh r _ s e _ he hlt => ?_, hbookings⟩
  · rintro ⟨-, h⟩
    rw [Day.isLast, beq_iff_eq] at h
    omega
  · obtain ⟨h2, h4⟩ := hin day hlow hhigh
    exact ⟨Zone.instantAt_isOk hzone r.start.minutes_lt h2 (by omega),
      Zone.instantAt_isOk hzone r.stop.minutes_lt h2 (by omega)⟩
  · obtain ⟨-, h4⟩ := hin day hlow hhigh
    obtain ⟨hslot, hslot', hbuffer, hbuffer'⟩ := ht
    have hclock := Zone.clockAt_of_instantAt r.stop.minutes_lt he
    have hoffset := hzone.offsetAt e.micros
    have hminutes := r.stop.minutes_lt
    unfold ZoneRules.clockAt at hclock
    rw [Micros.day_eq, Micros.minute_eq] at *
    apply Interval.roomFor_of_margin
    · omega
    · omega
    · exact Nat.le_of_lt hlt
    · dsimp only
      rw [Micros.day_eq]
      omega

end Openings
end Appointments
