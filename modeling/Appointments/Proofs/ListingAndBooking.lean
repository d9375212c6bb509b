-- Listing and booking agree: a client can book exactly the slots that the
-- listing of some local day shows, unless the store holds a booking that only
-- the listing overlooks.
import Appointments.Proofs.Rebooking
import Appointments.Proofs.WholeStore
namespace Appointments

/-! ## What a listing may overlook -/

/-- The booking has no end in the calendar, or it lasts less than a minute and
still overlaps the interval. -/
def Booking.Obstructs (b : Booking) (x : Interval) : Prop :=
  (∀ y, b.interval ≠ .ok y) ∨ b.minutes < 1 ∧ ∃ y, b.interval = .ok y ∧ x.overlaps y = true

/-- No booking obstructs anything that was made at a desk whose bookings last
at least a minute. -/
theorem Crowd.AtDesk.not_obstructs {desk : Desk} {c : Crowd Errand Booking} (h : c.AtDesk desk)
    (hleast : 1 ≤ desk.bookings.minMinutes) {b : Booking} (hb : b ∈ c.store.bookings)
    (x : Interval) : ¬ b.Obstructs x := by
  obtain ⟨r, hr, rfl⟩ := List.mem_map.1 hb
  have hstored := Shelf.mem_items.1 hr
  rintro (hnone | ⟨hshort, -⟩)
  · obtain ⟨y, hy⟩ := h.interval_of_stored hstored
    exact hnone y hy
  · obtain ⟨hlong, -⟩ := h.minutes_within hstored
    omega

/-! ## Local days -/

/-- The day before a day and the day after it. -/
theorem Day.exists_neighbours {d : Day} (hlow : 1 ≤ d.number) (hhigh : d.number + 1 < dayCount) :
    ∃ first last, d.shift (-1) = .ok first ∧ d.shift 1 = .ok last ∧
      first.number + 1 = d.number ∧ last.number = d.number + 1 := by
  obtain ⟨first, hfirst⟩ := Day.shift_isOk (d := d) (n := -1) (by omega) (by omega)
  obtain ⟨last, hlast⟩ := Day.shift_isOk (d := d) (n := 1) (by omega) (by omega)
  refine ⟨first, last, hfirst, hlast, ?_, ?_⟩
  · rw [Day.shift_eq_ok] at hfirst
    omega
  · rw [Day.shift_eq_ok] at hlast
    omega

/-- A slot that a local day is cut into starts on that day, or on the day
before or after it. -/
theorem Template.Cuts.near {t : Template} {zone : Zone} {day d : Day} {x : Interval}
    (h : t.Cuts zone day x) (ht : t.Measured) (hcalm : zone.rules.Calm)
    (hd : zone.dayAt x.start = .ok d) : d.number ≤ day.number + 1 ∧ day.number ≤ d.number + 1 := by
  obtain ⟨hslot, -, hbuffer, -⟩ := ht
  obtain ⟨r, -, a, b, ha, hb, -, hstop, hlong, k, hstart⟩ := h
  obtain ⟨reading, hreading, rfl⟩ := map_eq_ok.1 hd
  rw [ZoneRules.reading_eq_ok] at hreading
  have haClock := Zone.clockAt_of_instantAt r.start.minutes_lt ha
  have hbClock := Zone.clockAt_of_instantAt r.stop.minutes_lt hb
  have hbMinutes := r.stop.minutes_lt
  have hsteps : 0 ≤ k * ((t.slotMinutes + t.bufferMinutes) * Micros.minute) :=
    Int.mul_nonneg (by omega) (Int.mul_nonneg (by omega) (by omega))
  rw [Instant.le_iff] at hstop
  have hlength : 0 ≤ t.slotMinutes * Micros.minute := Int.mul_nonneg (by omega) (by omega)
  have hfrom := hcalm.clock_lt (s := a.micros) (t := x.start.micros) (by omega)
  have hto := hcalm.clock_lt (s := x.start.micros) (t := b.micros) (by omega)
  unfold Instant.day
  dsimp only
  rw [Micros.day_eq, Micros.minute_eq] at *
  omega

/-- A slot that a local day is cut into ends by the end of the next day in
UTC. -/
theorem Template.Cuts.stop_le {t : Template} {zone : Zone} {day : Day} {x : Interval}
    (h : t.Cuts zone day x) (hzone : zone.rules.NearUtc) :
    x.stop.micros ≤ (day.number + 2) * Micros.day := by
  obtain ⟨r, -, a, b, -, hb, -, hstop, -⟩ := h
  have hclock := Zone.clockAt_of_instantAt r.stop.minutes_lt hb
  have hoffset := hzone.offsetAt b.micros
  have hminutes := r.stop.minutes_lt
  unfold ZoneRules.clockAt at hclock
  rw [Instant.le_iff] at hstop
  rw [Micros.day_eq, Micros.minute_eq] at *
  omega

/-! ## What is stored -/

namespace Store

variable {s : Store}

theorem TakesBefore.mono {provider : String} {day day' : Nat} {b : Booking}
    (h : s.TakesBefore provider day b) (hle : day ≤ day') : s.TakesBefore provider day' b where
  stored := h.stored
  provider_eq := h.provider_eq
  takes := h.takes
  before := Nat.lt_of_lt_of_le h.before (Nat.mul_le_mul_right _ hle)

/-- Something that is stored for the provider takes the interval. -/
def Busy (s : Store) (provider : String) (x : Interval) : Prop :=
  Openings.Taken (s.blackoutsOf provider) (s.bookingsOf provider []) x

/-- What overlaps an interval that nothing takes lasts less than a minute. -/
theorem obstructs_of_overlaps {provider : String} {x y : Interval} (hfree : ¬ s.Busy provider x)
    {b : Booking} (hb : b ∈ s.bookings) (hprovider : b.provider = provider)
    (hstatus : b.status ≠ .cancelled) (hy : b.interval = .ok y) (hover : x.overlaps y = true) :
    b.Obstructs x := by
  refine .inr ⟨?_, y, hy, hover⟩
  by_contra hlong
  have hlt : y.start < y.stop := Booking.start_lt_stop (by omega) hy
  exact hfree (.inr ⟨b, mem_bookingsOf.2 ⟨hb, hprovider, List.not_mem_nil⟩, hstatus, y, hy, hlt,
    hover⟩)

/-- The time of a booking is found free where none of the bookings that start
before its end obstructs it or takes it. -/
theorem checkFree_isOk {b : Booking} {x : Interval} (hx : b.interval = .ok x)
    (hfree : ¬ s.Busy b.provider x)
    (hclear : ∀ c ∈ s.bookings, c.provider = b.provider → c.status ≠ .cancelled →
      c.start < x.stop → ¬ c.Obstructs x) : s.checkFree b [] = .ok () := by
  obtain ⟨stop, hstop, rfl⟩ := interval_eq_ok.1 hx
  obtain ⟨taken, htaken⟩ : ∃ taken, s.overlapping b.provider b.start stop [] = .ok taken := by
    apply overlapping_isOk
    intro c hc hmay
    obtain ⟨hprovider, hstatus, -, hbefore⟩ := mayOverlap_iff.1 hmay
    by_contra hnone
    refine hclear c hc hprovider hstatus hbefore (.inl fun y hy => hnone ?_)
    obtain ⟨e, he, -⟩ := interval_eq_ok.1 hy
    exact ⟨e, he⟩
  have hempty : taken = [] := by
    rw [List.eq_nil_iff_forall_not_mem]
    intro c hc
    obtain ⟨hc, hmay, e, he, hlt⟩ := (overlapping_eq_ok htaken).1 hc
    obtain ⟨hprovider, hstatus, -, hbefore⟩ := mayOverlap_iff.1 hmay
    exact hclear c hc hprovider hstatus hbefore (obstructs_of_overlaps hfree hc hprovider hstatus
      (interval_eq_ok.2 ⟨e, he, rfl⟩) (Interval.overlaps_iff.2 ⟨hlt, hbefore⟩))
  subst hempty
  unfold checkFree
  split
  · refine bind_eq_ok.2 ⟨stop, orFail_eq_ok.2 hstop, bind_eq_ok.2 ⟨[], orFail_eq_ok.2 htaken, rfl⟩⟩
  · rfl

/-- The time of a booking that is found free is obstructed by nothing that has
an end. -/
theorem not_obstructs_of_checkFree {b c : Booking} {x : Interval} (hx : b.interval = .ok x)
    (hlive : b.status ≠ .cancelled) (hfree : s.checkFree b [] = .ok ()) (hc : c ∈ s.bookings)
    (hprovider : c.provider = b.provider) (hstatus : c.status ≠ .cancelled)
    (hend : ∃ y, c.interval = .ok y) : ¬ c.Obstructs x := by
  obtain ⟨x', hx', hclear⟩ := checkFree_eq_ok hfree hlive
  obtain rfl : x' = x := Except.ok.inj (hx'.symm.trans hx)
  rintro (hnone | ⟨-, y, hy, hover⟩)
  · obtain ⟨y, hy⟩ := hend
    exact hnone y hy
  · have hnot := hclear c hc hprovider hstatus List.not_mem_nil y hy
    rw [hover] at hnot
    cases hnot

end Store

namespace Desk

/-! ## What is asked for -/

/-- A provider with active weekly hours, whose slots are as long as a booking
may be and whose clocks are in order. -/
structure Serves (desk : Desk) (s : Store) (provider : Value) (t : Template) (zone : Zone) :
    Prop where
  given : Request.id provider ≠ ""
  template : s.templates.get? (Request.id provider) = some t
  measured : t.Measured
  active : t.isActive = true
  least : desk.bookings.minMinutes ≤ t.slotMinutes
  greatest : t.slotMinutes ≤ desk.bookings.maxMinutes
  zone_known : Request.zone desk.zones t.timeZone = .ok zone
  near : zone.rules.NearUtc
  calm : zone.rules.Calm

/-- A client asks for an interval of whole minutes in the future. -/
structure Asks (w : World) (actor : Actor) (request response start : Value) (x : Interval)
    (m : Int) : Prop where
  client : actor.role = .client
  request : Request.id request ≠ ""
  response : Request.id response ≠ ""
  start : Request.instant "startAt" start = .ok x.start
  future : w.clock < x.start
  positive : 1 ≤ m
  length : (x.stop.micros : Int) = x.start.micros + m * Micros.minute
  fresh : w.store.records.get? w.nextId = none

/-! ## Booking -/

section
variable {desk : Desk} {w : World} {actor : Actor} {request response provider start : Value}
  {x : Interval} {m : Int} {slots : List Interval}

theorem futureStart_eq (h : Asks w actor request response start x m) :
    futureStart w.clock start = .ok x.start := by
  have hfuture := h.future
  unfold futureStart
  rw [h.start, ok_bind, if_neg]
  rw [Instant.lt_iff] at hfuture
  rw [Instant.le_iff]
  omega

/-- The length of an interval is a span that leads from its start to its
end. -/
theorem after_eq (hlong : (x.stop.micros : Int) = x.start.micros + m * Micros.minute) :
    ∃ length, Span.ofMinutes m = .ok length ∧ x.start.after length = .ok x.stop := by
  obtain ⟨length, hlength⟩ := Span.ofMinutes_isOk_of_stop hlong
  refine ⟨length, hlength, ?_⟩
  apply Instant.shift_eq_ok.2
  rw [Span.micros_of_ofMinutes hlength]
  exact hlong

/-- The time from the start on is free if and only if it is one of the slots
that are found around its start. -/
theorem slotFree_eq_ok {s : Store} {provider : String} {exclude : List String}
    (hlong : (x.stop.micros : Int) = x.start.micros + m * Micros.minute) :
    desk.slotFree s provider x.start m exclude = .ok () ↔
      ∃ slots, desk.slotsAround s (Request.id (.text provider)) x.start exclude = .ok slots ∧
        x ∈ slots := by
  obtain ⟨length, hlength, hstop⟩ := after_eq hlong
  unfold slotFree
  rw [orFail_eq_ok.2 hlength, ok_bind, orFail_eq_ok.2 hstop, ok_bind, bind_eq_ok]
  apply exists_congr
  intro slots
  rw [and_congr_right_iff]
  intro _
  by_cases hmem : x ∈ slots
  · exact iff_of_true (if_pos (List.contains_iff_mem.2 hmem)) hmem
  · refine iff_of_false (fun hcontains => ?_) hmem
    rw [if_neg (by simpa using hmem)] at hcontains
    cases hcontains

/-- A client is given a booking if and only if it is as long as a booking may
be, its time is one free slot, and nothing overlaps it. -/
theorem booked_iff_judged (h : Asks w actor request response start x m)
    (hprovider : Request.id provider ≠ "") :
    (∃ b w', (World.run (desk.book actor request response provider start (.int m) .null)).run w =
        (.ok b, w')) ↔
      (desk.bookings.minMinutes ≤ m ∧ m ≤ desk.bookings.maxMinutes) ∧
        desk.judge w.store (.made w.nextId (Request.id request) (Request.id response)
          (Request.id provider) actor.id x.start m none) [] = .ok () := by
  obtain ⟨client, role⟩ := actor
  obtain rfl : role = .client := h.client
  rw [succeeds_iff,
    outcome_of_follows (desk.follows_book w.view _ request response provider start _ _) rfl]
  by_cases hbounds : desk.bookings.minMinutes ≤ m ∧ m ≤ desk.bookings.maxMinutes
  · have hfresh : w.store.booking? w.nextId = none := Option.map_eq_none_iff.2 h.fresh
    rw [and_iff_right hbounds, bookDecision_eq ⟨h.request, h.response, rfl, hfresh⟩ hprovider
      (futureStart_eq h) hbounds]
  · have hrefused : desk.duration desk.bookings.defaultMinutes (.int m) =
        .error (.rejected (.durationOutside desk.bookings.minMinutes desk.bookings.maxMinutes)) :=
      if_neg hbounds
    refine iff_of_false (fun hbooked => ?_) fun hjudged => hbounds hjudged.1
    obtain ⟨out, hdecision, -⟩ := map_eq_ok.1 hbooked
    simp only [bookDecision, bind_eq_ok] at hdecision
    obtain ⟨_, -, _, -, _, -, _, -, n, hduration, -⟩ := hdecision
    rw [hrefused] at hduration
    cases hduration

/-! ## Listing -/

/-- The listing of a day shows fewer slots than the settings allow. -/
def Uncapped (desk : Desk) (w : World) (provider : Value) (day : Day) : Prop :=
  ∀ slots w', (World.run (desk.freeSlots provider (.day day) (.day day) .null)).run w =
    (.ok slots, w') → (slots.length : Int) < desk.slots.maxSlots

theorem atMost_sublist (desk : Desk) (slots : List Interval) :
    List.Sublist (desk.atMost slots) slots := by
  unfold atMost
  split
  · exact (List.drop_sublist ..).trans (List.take_sublist ..)
  · exact List.Sublist.refl slots

/-- Slots are left out only where the limit is reached. -/
theorem atMost_eq {slots : List Interval}
    (h : ((desk.atMost slots).length : Int) < desk.slots.maxSlots) : desk.atMost slots = slots := by
  unfold atMost at *
  split at h
  · -- A list that is cut is as long as the limit.
    simp only [Store.page, Store.position, Int.zero_add, List.length_drop, List.length_take,
      Int.lt_irrefl, if_false, Int.toNat_zero, Nat.zero_min, Nat.sub_zero] at h
    split at h <;> omega
  · rename_i hcap
    rw [if_neg hcap]

theorem reports_day {t : Template} {zone : Zone} (h : desk.Serves w.store provider t zone)
    (hrange : 0 ≤ desk.slots.maxRangeDays) (day : Day) :
    (desk.freeSlots provider (.day day) (.day day) .null).Reports w.view
      (CalendarFault.orFail ((fun found => desk.atMost (found.slots.filter (w.clock < ·.stop))) <$>
        w.store.openings t zone day day [])) := by
  have hname : Request.zoneName .null t.timeZone = .ok (Text.strip t.timeZone) := rfl
  have hzone : Request.zone desk.zones (Text.strip t.timeZone) = .ok zone := by
    rw [Request.zone_strip]
    exact h.zone_known
  have hdays : desk.checkDays day day = .ok () := by
    unfold checkDays
    dsimp only
    rw [if_neg (by omega), if_neg (by omega)]
  have hfirst : firstDay zone w.view.now (.day day) = .ok day := rfl
  have hlast : desk.lastDay day (.day day) = .ok day := rfl
  have hlisted := slotsListed_eq (v := w.view) h.template h.active hname hzone hfirst hlast hdays
  exact hlisted ▸ reports_slotsListed _ _ _ _

variable {t : Template} {zone : Zone} {day : Day}

theorem mem_day (h : desk.Serves w.store provider t zone) {found : Openings}
    (hfound : w.store.openings t zone day day [] = .ok found) :
    x ∈ found.slots ↔ t.Cuts zone day x ∧ ¬ w.store.Busy t.provider x := by
  rw [Store.mem_openings h.measured h.near hfound]
  apply and_congr_left
  intro _
  constructor
  · rintro ⟨e, hlow, hhigh, hcuts⟩
    obtain rfl : e = day := Day.ext (Nat.le_antisymm hhigh hlow)
    exact hcuts
  · intro hcuts
    exact ⟨day, Nat.le_refl _, Nat.le_refl _, hcuts⟩

/-- What the listing of a day shows is a slot of that day, and nothing takes
it. -/
theorem cuts_of_listed (h : desk.Serves w.store provider t zone)
    (hrange : 0 ≤ desk.slots.maxRangeDays) {w' : World}
    (hrun : (World.run (desk.freeSlots provider (.day day) (.day day) .null)).run w =
      (.ok slots, w')) (hx : x ∈ slots) :
    t.Cuts zone day x ∧ ¬ w.store.Busy t.provider x := by
  obtain ⟨hslots, -⟩ := reports_day h hrange day w rfl
  rw [hrun] at hslots
  obtain ⟨found, hfound, rfl⟩ := map_eq_ok.1 (orFail_eq_ok.1 hslots.symm)
  have hmem := (atMost_sublist desk _).subset hx
  exact (mem_day h hfound).1 (List.mem_filter.1 hmem).1

/-- The listing of a day shows a slot of that day that nothing takes and that
has not ended, if all bookings that it looks at have ends. -/
theorem listed_of_cuts (h : desk.Serves w.store provider t zone)
    (hrange : 0 ≤ desk.slots.maxRangeDays) (hcap : desk.Uncapped w provider day)
    (hlow : 2 ≤ day.number) (hhigh : day.number + 4 ≤ dayCount)
    (hends : ∀ b, w.store.TakesBefore t.provider (day.number + 2) b → ∃ y, b.interval = .ok y)
    (hcuts : t.Cuts zone day x) (hfree : ¬ w.store.Busy t.provider x)
    (hfuture : w.clock < x.stop) :
    ∃ slots w', (World.run (desk.freeSlots provider (.day day) (.day day) .null)).run w =
      (.ok slots, w') ∧ x ∈ slots := by
  obtain ⟨found, hfound⟩ : ∃ found, w.store.openings t zone day day [] = .ok found :=
    Store.openings_isOk h.measured h.near hlow hhigh hends
  obtain ⟨hslots, -⟩ := reports_day h hrange day w rfl
  rw [hfound] at hslots
  generalize hrun : (World.run (desk.freeSlots provider (.day day) (.day day) .null)).run w = out
    at hslots
  rcases out with ⟨r, w'⟩
  obtain rfl : r = .ok (desk.atMost (found.slots.filter (w.clock < ·.stop))) := hslots
  refine ⟨_, w', rfl, ?_⟩
  rw [atMost_eq (hcap _ _ hrun), List.mem_filter]
  exact ⟨(mem_day h hfound).2 ⟨hcuts, hfree⟩, by simpa using hfuture⟩

/-! ## Booking around an instant -/

/-- Around its start a slot is found if any day is cut into it and nothing takes
it, as that day is no further off than the next one. -/
theorem mem_around {d first last : Day} (h : desk.Serves w.store provider t zone)
    (hd : zone.dayAt x.start = .ok d) (hfirst : first.number + 1 = d.number)
    (hlast : last.number = d.number + 1) {found : Openings}
    (hfound : w.store.openings t zone first last [] = .ok found) :
    x ∈ found.slots ↔ (∃ day, t.Cuts zone day x) ∧ ¬ w.store.Busy t.provider x := by
  rw [Store.mem_openings h.measured h.near hfound]
  apply and_congr_left
  intro _
  constructor
  · rintro ⟨day, -, -, hcuts⟩
    exact ⟨day, hcuts⟩
  · rintro ⟨day, hcuts⟩
    obtain ⟨hbefore, hafter⟩ := hcuts.near h.measured h.calm hd
    refine ⟨day, ?_, ?_, hcuts⟩
    · rw [Day.le_iff]
      omega
    · rw [Day.le_iff]
      omega

/-- A client is given a booking if and only if its time is found around its
start and the store takes it. -/
theorem booked_iff_around {d first last : Day} (h : desk.Serves w.store provider t zone)
    (hasks : Asks w actor request response start x m) (hd : zone.dayAt x.start = .ok d)
    (hfirst : d.shift (-1) = .ok first) (hlast : d.shift 1 = .ok last) :
    (∃ b w', (World.run (desk.book actor request response provider start (.int m) .null)).run w =
        (.ok b, w')) ↔
      (∃ found, w.store.openings t zone first last [] = .ok found ∧ x ∈ found.slots) ∧
        w.store.checkFree (.made w.nextId (Request.id request) (Request.id response)
          (Request.id provider) actor.id x.start m none) [] = .ok () := by
  have hslots : desk.slotsAround w.store (Request.id (.text (Request.id provider))) x.start [] =
      CalendarFault.orFail (Openings.slots <$> w.store.openings t zone first last []) := by
    rw [Request.id_text_id]
    exact slotsAround_eq h.template h.active h.zone_known hd hfirst hlast
  rw [booked_iff_judged hasks h.given]
  constructor
  · rintro ⟨-, hjudged⟩
    obtain ⟨⟨⟩, hslot, hstored⟩ := bind_eq_ok.1 hjudged
    obtain ⟨slots, haround, hx⟩ := (slotFree_eq_ok hasks.length).1 hslot
    obtain ⟨found, hfound, rfl⟩ := map_eq_ok.1 (orFail_eq_ok.1 (hslots.symm.trans haround))
    exact ⟨⟨found, hfound, hx⟩, hstored⟩
  · rintro ⟨⟨found, hfound, hx⟩, hstored⟩
    have haround : desk.slotsAround w.store (Request.id (.text (Request.id provider))) x.start [] =
        .ok found.slots := by
      rw [hslots]
      exact orFail_eq_ok.2 (map_eq_ok.2 ⟨found, hfound, rfl⟩)
    have hslot := (slotFree_eq_ok hasks.length).2 ⟨found.slots, haround, hx⟩
    refine ⟨?_, bind_eq_ok.2 ⟨(), hslot, hstored⟩⟩
    -- A slot is as long as the template says.
    obtain ⟨⟨day, -, -, r, -, a, b, -, -, -, -, hlong, -⟩, -⟩ :=
      (Store.mem_openings h.measured h.near hfound).1 hx
    have hlength := hasks.length
    have hleast := h.least
    have hgreatest := h.greatest
    rw [Micros.minute_eq] at hlong hlength
    omega

/-! ## Listing and booking -/

theorem Asks.lt_stop (h : Asks w actor request response start x m) : w.clock < x.stop := by
  have hstart := h.future
  have hlength := h.length
  have hpositive := h.positive
  rw [Micros.minute_eq] at hlength
  rw [Instant.lt_iff] at hstart ⊢
  omega

/-- What is found around its start is shown by the listing of its day. -/
theorem listed_of_around {d first last : Day} (h : desk.Serves w.store provider t zone)
    (hrange : 0 ≤ desk.slots.maxRangeDays)
    (hasks : Asks w actor request response start x m) (hd : zone.dayAt x.start = .ok d)
    (hearly : 4 ≤ d.number) (hlate : d.number + 4 < dayCount)
    (hcap : ∀ day : Day, d.number ≤ day.number + 1 → day.number ≤ d.number + 1 →
      desk.Uncapped w provider day)
    (hfirst : first.number + 1 = d.number) (hlast : last.number = d.number + 1) {found : Openings}
    (hfound : w.store.openings t zone first last [] = .ok found) (hx : x ∈ found.slots) :
    ∃ day slots w', (World.run (desk.freeSlots provider (.day day) (.day day) .null)).run w =
      (.ok slots, w') ∧ x ∈ slots := by
  obtain ⟨⟨day, hcuts⟩, hfree⟩ := (mem_around h hd hfirst hlast hfound).1 hx
  obtain ⟨hbefore, hafter⟩ := hcuts.near h.measured h.calm hd
  have hends : ∀ b, w.store.TakesBefore t.provider (day.number + 2) b → ∃ y, b.interval = .ok y :=
    fun b hb => Store.interval_of_openings hfound (hb.mono (by omega))
  exact ⟨day, listed_of_cuts h hrange (hcap day hbefore hafter) (by omega) (by omega) hends hcuts
    hfree hasks.lt_stop⟩

/-- What the listing of some day shows is found around its start, if all
bookings that are looked at have ends. -/
theorem around_of_listed {d first last : Day} (h : desk.Serves w.store provider t zone)
    (hrange : 0 ≤ desk.slots.maxRangeDays) (hd : zone.dayAt x.start = .ok d)
    (hearly : 4 ≤ d.number) (hlate : d.number + 4 < dayCount)
    (hfirst : first.number + 1 = d.number) (hlast : last.number = d.number + 1)
    (hends : ∀ b, w.store.TakesBefore t.provider (d.number + 3) b → ∃ y, b.interval = .ok y)
    {w' : World}
    (hrun : (World.run (desk.freeSlots provider (.day day) (.day day) .null)).run w =
      (.ok slots, w')) (hx : x ∈ slots) :
    ∃ found, w.store.openings t zone first last [] = .ok found ∧ x ∈ found.slots := by
  obtain ⟨found, hfound⟩ : ∃ found, w.store.openings t zone first last [] = .ok found :=
    Store.openings_isOk h.measured h.near (by omega) (by omega)
      fun b hb => hends b (hb.mono (by omega))
  obtain ⟨hcuts, hfree⟩ := cuts_of_listed h hrange hrun hx
  exact ⟨found, hfound, (mem_around h hd hfirst hlast hfound).2 ⟨⟨day, hcuts⟩, hfree⟩⟩

/-- A client is given a booking of an interval if and only if the listing of
some local day shows it and no booking obstructs it that starts before the
second day after it has ended in UTC. -/
theorem booked_iff_listed {d : Day} (h : desk.Serves w.store provider t zone)
    (hrange : 0 ≤ desk.slots.maxRangeDays)
    (hasks : Asks w actor request response start x m) (hd : zone.dayAt x.start = .ok d)
    (hearly : 4 ≤ d.number) (hlate : d.number + 4 < dayCount)
    (hcap : ∀ day : Day, d.number ≤ day.number + 1 → day.number ≤ d.number + 1 →
      desk.Uncapped w provider day) :
    (∃ b w', (World.run (desk.book actor request response provider start (.int m) .null)).run w =
        (.ok b, w')) ↔
      (∃ day slots w', (World.run (desk.freeSlots provider (.day day) (.day day) .null)).run w =
        (.ok slots, w') ∧ x ∈ slots) ∧
      ∀ b, w.store.TakesBefore t.provider (d.number + 3) b → ¬ b.Obstructs x := by
  have hprovider : t.provider = Request.id provider := Shelf.key_of_get? h.template
  obtain ⟨first, last, hfirst, hlast, hbefore, hafter⟩ :=
    Day.exists_neighbours (d := d) (by omega) (by omega)
  have hinterval : (Booking.made w.nextId (Request.id request) (Request.id response)
      (Request.id provider) actor.id x.start m none).interval = .ok x :=
    Booking.interval_eq_ok.2 ⟨rfl, hasks.length⟩
  rw [booked_iff_around h hasks hd hfirst hlast]
  constructor
  · rintro ⟨⟨found, hfound, hx⟩, hstored⟩
    refine ⟨listed_of_around h hrange hasks hd hearly hlate hcap hbefore hafter hfound hx, ?_⟩
    intro b hb
    have hend : ∃ y, b.interval = .ok y :=
      Store.interval_of_openings hfound (hb.mono (by omega))
    exact Store.not_obstructs_of_checkFree hinterval nofun hstored hb.stored
      (hb.provider_eq.trans hprovider) hb.takes hend
  · rintro ⟨⟨day, slots, w', hrun, hx⟩, hclear⟩
    have hends : ∀ b, w.store.TakesBefore t.provider (d.number + 3) b →
        ∃ y, b.interval = .ok y := by
      intro b hb
      by_contra hnone
      exact hclear b hb (.inl fun y hy => hnone ⟨y, hy⟩)
    obtain ⟨hcuts, hfree⟩ := cuts_of_listed h hrange hrun hx
    refine ⟨around_of_listed h hrange hd hearly hlate hbefore hafter hends hrun hx,
      Store.checkFree_isOk hinterval (hprovider ▸ hfree) ?_⟩
    -- What starts before the interval ends is among the bookings looked at.
    intro c hc hsame hstatus hlt
    have hstop := hcuts.stop_le h.near
    obtain ⟨-, hnext⟩ := hcuts.near h.measured h.calm hd
    refine hclear c ⟨hc, hsame.trans hprovider.symm, hstatus, ?_⟩
    rw [Instant.lt_iff] at hlt
    rw [Micros.day_eq] at hstop ⊢
    omega

end

end Desk

namespace Practice

/-- Half an hour before noon. -/
def halfPastEleven : Instant :=
  ⟨739676 * Micros.day + 11 * Micros.hour + 30 * Micros.minute, by decide⟩

/-- Two days after the Monday that is booked. -/
def wednesday : Instant := .ofDay ⟨739678, by decide⟩

/-- The patient asks the doctor for the hour before noon. -/
def lateMorning : Action Booking :=
  ({} : Desk).book patient (.text "request") (.text "response") (.text "doctor")
    (.text "2026-03-02T11:00:00Z") (.int 60) .null

theorem doctor_serves (start : Instant) (minutes : Int) :
    ({} : Desk).Serves (bookedFrom start minutes).store (.text "doctor") hours
      ⟨"UTC", .fixed 0⟩ := by
  refine ⟨by decide, ?_, by constructor <;> decide, rfl, by decide, by decide, ?_, ?_, trivial⟩
  · show opening.templates.get? _ = _
    decide +kernel
  · apply toOption_eq_some.1
    decide +kernel
  · intro p hp
    obtain rfl := List.mem_singleton.1 hp
    decide

theorem patient_asks (start : Instant) (minutes : Int) :
    Desk.Asks (bookedFrom start minutes) patient (.text "request") (.text "response")
      (.text "2026-03-02T11:00:00Z") ⟨eleven, noon⟩ 60 := by
  have hfuture : today < eleven := by decide
  refine ⟨rfl, by decide, by decide, ?_, hfuture, by decide, by decide, ?_⟩
  · apply toOption_eq_some.1
    decide +kernel
  · have hother : "a" ≠ (bookedFrom start minutes).nextId := by
      show "a" ≠ "g" ++ toString (0 + 1)
      decide
    have hnone : opening.records.get? (bookedFrom start minutes).nextId = none := rfl
    exact (Shelf.get?_put _ _ _).trans ((if_neg hother).trans hnone)

/-- Where no day around that Monday shows many slots, no slots are left out. -/
theorem doctor_uncapped {w : World}
    (hshort : ∀ day ∈ [⟨739675, by decide⟩, monday, ⟨739677, by decide⟩],
      ((World.run (({} : Desk).freeSlots (.text "doctor") (.day day) (.day day) .null)).run
        w).1.toOption.all (·.length < 500))
    {day : Day} (hlow : monday.number ≤ day.number + 1) (hhigh : day.number ≤ monday.number + 1) :
    ({} : Desk).Uncapped w (.text "doctor") day := by
  intro slots w' hrun
  have hnumber : monday.number = 739676 := rfl
  have hday : day ∈ [⟨739675, by decide⟩, monday, ⟨739677, by decide⟩] := by
    simp only [List.mem_cons, List.not_mem_nil, or_false, Day.ext_iff]
    omega
  have hlength := hshort day hday
  rw [hrun] at hlength
  exact Int.ofNat_lt.2 (of_decide_eq_true hlength)

theorem eleven_is_on_monday : Zone.dayAt ⟨"UTC", .fixed 0⟩ eleven = .ok monday := by
  apply toOption_eq_some.1
  decide +kernel

/-- Monday shows the hour after the one that is booked, so it can be booked. -/
theorem eleven_is_listed_and_booked :
    (∃ day slots w', (World.run (({} : Desk).freeSlots (.text "doctor") (.day day) (.day day)
        .null)).run (bookedFrom ten 60) = (.ok slots, w') ∧ ⟨eleven, noon⟩ ∈ slots) ∧
      ∃ b w', (World.run lateMorning).run (bookedFrom ten 60) = (.ok b, w') := by
  have hlisted : ((World.run mondaySlots).run (bookedFrom ten 60)).1.toOption =
      some [⟨nine, ten⟩, ⟨eleven, noon⟩] := by decide +kernel
  have hshown : ∃ day slots w', (World.run (({} : Desk).freeSlots (.text "doctor") (.day day)
      (.day day) .null)).run (bookedFrom ten 60) = (.ok slots, w') ∧ ⟨eleven, noon⟩ ∈ slots :=
    ⟨monday, _, _, Prod.ext (toOption_eq_some.1 hlisted) rfl, by decide⟩
  have hclear : ∀ b, (bookedFrom ten 60).store.TakesBefore hours.provider (monday.number + 3) b →
      ¬ b.Obstructs ⟨eleven, noon⟩ := by
    intro b hb
    obtain rfl := List.mem_singleton.1 hb.stored
    rintro (hnone | ⟨hshort, -⟩)
    · exact hnone ⟨ten, eleven⟩ (Booking.interval_eq_ok.2 ⟨rfl, by decide⟩)
    · exact absurd hshort (by decide)
  exact ⟨hshown, (Desk.booked_iff_listed (doctor_serves ten 60) (by decide) (patient_asks ten 60)
    eleven_is_on_monday (by decide) (by decide)
    fun _ => doctor_uncapped (by decide +kernel)).2 ⟨hshown, hclear⟩⟩

/-- All is in order, and Monday shows the hour before noon, but it cannot be
booked. -/
structure ShowsInVain (w : World) : Prop where
  serves : ({} : Desk).Serves w.store (.text "doctor") hours ⟨"UTC", .fixed 0⟩
  asks : Desk.Asks w patient (.text "request") (.text "response") (.text "2026-03-02T11:00:00Z")
    ⟨eleven, noon⟩ 60
  day : Zone.dayAt ⟨"UTC", .fixed 0⟩ eleven = .ok monday
  uncapped : ∀ day : Day, monday.number ≤ day.number + 1 → day.number ≤ monday.number + 1 →
    ({} : Desk).Uncapped w (.text "doctor") day
  shown : ∃ slots w', (World.run mondaySlots).run w = (.ok slots, w') ∧ ⟨eleven, noon⟩ ∈ slots
  refused : ¬ ∃ b w', (World.run lateMorning).run w = (.ok b, w')

theorem showsInVain {start : Instant} {minutes : Int}
    (hshort : ∀ day ∈ [⟨739675, by decide⟩, monday, ⟨739677, by decide⟩],
      ((World.run (({} : Desk).freeSlots (.text "doctor") (.day day) (.day day) .null)).run
        (bookedFrom start minutes)).1.toOption.all (·.length < 500))
    (hshown : ((World.run mondaySlots).run (bookedFrom start minutes)).1.toOption =
      some [⟨nine, ten⟩, ⟨ten, eleven⟩, ⟨eleven, noon⟩])
    (hrefused : ((World.run lateMorning).run (bookedFrom start minutes)).1.isOk = false) :
    ShowsInVain (bookedFrom start minutes) where
  serves := doctor_serves start minutes
  asks := patient_asks start minutes
  day := eleven_is_on_monday
  uncapped _ := doctor_uncapped hshort
  shown := ⟨_, _, Prod.ext (toOption_eq_some.1 hshown) rfl, by decide⟩
  refused := by
    rintro ⟨b, w', hrun⟩
    rw [hrun] at hrefused
    cases hrefused

/-- Monday shows an hour that cannot be booked where a booking on Wednesday has
no end in the calendar, and where a booking within the hour takes no time. -/
theorem hour_is_shown_in_vain :
    ShowsInVain (bookedFrom wednesday 5000000000) ∧ ShowsInVain (bookedFrom halfPastEleven 0) := by
  constructor
  · apply showsInVain <;> decide +kernel
  · apply showsInVain <;> decide +kernel

end Practice
end Appointments
