-- Where bookings come from. Whatever the calls at a desk do, each booking in
-- the store, and each one that a call was shown, was inserted by exactly one
-- of the calls and has been changed since in few of its fields only.
import Appointments.Proofs.Runs
namespace Appointments.Crowd

variable {desk : Desk} {c d : Crowd Errand Booking}

/-! ## The books -/

/-- What is known of the records that were inserted, of what goes back to them,
and of what the store holds. -/
structure Accounted (c : Crowd Errand Booking) : Prop where
  ends : ∀ r, c.Born r → ∃ x, r.booking.interval = .ok x
  older : ∀ r p, c.Born r → r.booking.rescheduledFrom = some p →
    ∃ q, c.Born q ∧ q.key = p ∧ q.stamp < r.stamp
  seen : ∀ k b, c.Saw k b → ∃ r, c.Born r ∧ r.key = k ∧ r.booking = b.asMade
  from_birth : ∀ u, c.Did (.changed u) → c.Born u.before
  written : ∀ k x, c.store.records.get? k = some x →
    c.Born x ∨ ∃ u, c.Did (.changed u) ∧ u.after = x

theorem accounted_start {s : Store} (h : s.records = .empty) : Accounted ⟨s, []⟩ := by
  have hdid : ∀ deed, ¬ Did (⟨s, []⟩ : Crowd Errand Booking) deed :=
    fun deed ⟨_, hcall, _⟩ => nomatch hcall
  have hborn : ∀ r, ¬ Born ⟨s, []⟩ r := fun r ⟨_, hr⟩ => hdid _ hr
  refine ⟨?_, ?_, ?_, ?_, ?_⟩
  · exact fun r hr => absurd hr (hborn r)
  · exact fun r p hr => absurd hr (hborn r)
  · rintro k b ⟨_, hcall, _⟩
    cases hcall
  · exact fun u hu => absurd hu (hdid _)
  · intro k x hx
    rw [h] at hx
    cases hx

/-- Each stored booking was inserted under its key, and has changed since in
its status and what goes with it at most. -/
theorem Accounted.stored (hc : c.Accounted) (hat : c.AtDesk desk) {k : String} {x : Record}
    (hx : c.store.records.get? k = some x) :
    ∃ r, c.Born r ∧ r.key = k ∧ r.booking = x.booking.asMade := by
  rcases hc.written k x hx with hx' | ⟨u, hu, rfl⟩
  · exact ⟨x, hx', Shelf.key_of_get? hx, (hat.born_key hx').2.2.symm⟩
  · have hborn := hc.from_birth u hu
    obtain ⟨hkey, -, -, hmade⟩ := hat.changed hu
    refine ⟨u.before, hborn, ?_, ?_⟩
    · rw [← hkey]
      exact Shelf.key_of_get? hx
    · rw [hmade]
      exact (hat.born_key hborn).2.2.symm

/-- A confirmed record is one that nobody has changed. -/
theorem Accounted.born_of_confirmed (hc : c.Accounted) (hat : c.AtDesk desk) {k : String}
    {x : Record} (hx : c.store.records.get? k = some x)
    (hconfirmed : x.booking.status = .confirmed) : c.Born x := by
  rcases hc.written k x hx with hborn | ⟨u, hu, rfl⟩
  · exact hborn
  · exact absurd hconfirmed (hat.changed hu).2.2.1

/-! ## Step by step -/

/-- What a call sees in the store was inserted before. -/
theorem Accounted.saw (hc : c.Accounted) (hat : c.AtDesk desk)
    (h : Step (Errand.serve desk) c d) {k : String} {b : Booking} (hsaw : d.Saw k b) :
    ∃ r, c.Born r ∧ r.key = k ∧ r.booking = b.asMade := by
  rcases h.saw hsaw with hsaw | hstored
  · exact hc.seen k b hsaw
  · obtain ⟨x, hx, rfl⟩ := Store.booking?_eq_some.1 hstored
    exact hc.stored hat hx

theorem seen_step (hc : c.Accounted) (hat : c.AtDesk desk) (h : Step (Errand.serve desk) c d)
    {k : String} {b : Booking} (hsaw : d.Saw k b) :
    ∃ r, d.Born r ∧ r.key = k ∧ r.booking = b.asMade := by
  obtain ⟨r, hr, hrest⟩ := hc.saw hat h hsaw
  exact ⟨r, h.born_mono hr, hrest⟩

theorem Accounted.written_mono (hc : c.Accounted) (h : Step (Errand.serve desk) c d) {k : String}
    {x : Record} (hx : c.store.records.get? k = some x) :
    d.Born x ∨ ∃ u, d.Did (.changed u) ∧ u.after = x :=
  (hc.written k x hx).imp h.born_mono fun ⟨u, hu, hux⟩ => ⟨u, h.did_mono hu, hux⟩

theorem written_step (hc : c.Accounted) (hat : c.AtDesk desk)
    (h : Step (Errand.serve desk) c d) {k : String} {x : Record}
    (hx : d.store.records.get? k = some x) :
    d.Born x ∨ ∃ u, d.Did (.changed u) ∧ u.after = x := by
  cases hat.happens h with
  | quiet hsame =>
    rw [hsame.1] at hx
    exact hc.written_mono h hx
  | inserted hpass hdeeds hinserts =>
    rw [hinserts.get?] at hx
    split at hx
    · cases hx
      exact .inl ⟨_, hpass.did hdeeds⟩
    · exact hc.written_mono h hx
  | changed hpass hdeeds hchanges =>
    rw [hchanges.get?] at hx
    split at hx
    · cases hx
      exact .inr ⟨_, hpass.did hdeeds, rfl⟩
    · exact hc.written_mono h hx
  | removed _ _ _ _ hrecords =>
    rw [hrecords, Shelf.get?_erase] at hx
    split at hx
    · cases hx
    · exact hc.written_mono h hx

theorem accounted_of_no_birth (hc : c.Accounted) (hat : c.AtDesk desk)
    (h : Step (Errand.serve desk) c d) (hborn : ∀ r, d.Born r → c.Born r)
    (hchanged : ∀ u, d.Did (.changed u) → c.Born u.before) : d.Accounted := by
  refine ⟨?_, ?_, fun _ _ => seen_step hc hat h, ?_, fun _ _ => written_step hc hat h⟩
  · exact fun r hr => hc.ends r (hborn r hr)
  · intro r p hr hp
    obtain ⟨q, hq, hrest⟩ := hc.older r p (hborn r hr) hp
    exact ⟨q, h.born_mono hq, hrest⟩
  · exact fun u hu => h.born_mono (hchanged u hu)

/-- What a booking that is inserted is to replace was seen, and so is older. -/
theorem older_of_inserted (hc : c.Accounted) (hat : c.AtDesk desk) (hd : d.AtDesk desk)
    (h : Step (Errand.serve desk) c d) {r : Record} {exclude : List String} {p : String}
    (hdid : d.Did (.inserted r exclude)) (hp : r.booking.rescheduledFrom = some p) :
    ∃ q, c.Born q ∧ q.key = p := by
  obtain ⟨call, hcall, hmem⟩ := hdid
  rcases (hd.inserted hcall hmem).origin with ⟨-, hnone⟩ | ⟨k, old, t, n, -, -, hseen, hsucc⟩
  · rw [hnone] at hp
    cases hp
  · obtain ⟨q, hq, -, hmade⟩ := hc.saw hat h ⟨call, hcall, hseen⟩
    refine ⟨q, hq, ?_⟩
    rw [hsucc] at hp
    rw [(hat.born_key hq).1, hmade]
    exact Option.some.inj hp

theorem accounted_inserted (hc : c.Accounted) (hat : c.AtDesk desk)
    (h : Step (Errand.serve desk) c d) {b : Booking} {exclude : List String} {r : Record}
    (hinserts : c.store.Inserts b exclude r d.store) (hdid : d.Did (.inserted r exclude))
    (hnew : ∀ x, d.Did x → x = .inserted r exclude ∨ c.Did x) : d.Accounted := by
  have hd : d.AtDesk desk := .step hat h
  refine ⟨?_, ?_, fun _ _ => seen_step hc hat h, ?_, fun _ _ => written_step hc hat h⟩
  · intro q hq
    rcases born_of_inserted hnew hq with rfl | hq
    · have hconfirmed : b.status ≠ .cancelled := by
        rw [← hinserts.booking_eq, ← (hd.born_key ⟨exclude, hdid⟩).2.2]
        exact nofun
      obtain ⟨x, hx, -⟩ := hinserts.free hconfirmed
      exact ⟨x, hinserts.booking_eq ▸ hx⟩
    · exact hc.ends q hq
  · intro q p hq hp
    rcases born_of_inserted hnew hq with rfl | hq
    · obtain ⟨q', hq', hkey⟩ := older_of_inserted hc hat hd h hdid hp
      refine ⟨q', h.born_mono hq', hkey, ?_⟩
      rw [hinserts.stamp_eq]
      exact hat.lasting.stamp_lt q' hq'
    · obtain ⟨q', hq', hrest⟩ := hc.older q p hq hp
      exact ⟨q', h.born_mono hq', hrest⟩
  · intro u hu
    exact h.born_mono (hc.from_birth u ((hnew _ hu).resolve_left nofun))

theorem accounted_step (hc : c.Accounted) (hat : c.AtDesk desk)
    (h : Step (Errand.serve desk) c d) : d.Accounted := by
  cases hat.happens h with
  | quiet _ hborn hchanged =>
    exact accounted_of_no_birth hc hat h hborn fun u hu => hc.from_birth u (hchanged u hu)
  | inserted hpass hdeeds hinserts hnew =>
    exact accounted_inserted hc hat h hinserts (hpass.did hdeeds) hnew
  | changed hpass hdeeds hchanges hnew =>
    refine accounted_of_no_birth hc hat h
      (fun r hr => hr.imp fun _ hr => (hnew _ hr).resolve_left nofun) fun v hv => ?_
    rcases hnew _ hv with heq | hv
    · cases heq
      exact hc.born_of_confirmed hat hchanges.before
        ((hat.step h).changed (hpass.did hdeeds)).2.1
    · exact hc.from_birth v hv
  | removed _ _ _ _ _ _ hnew =>
    exact accounted_of_no_birth hc hat h
      (fun r hr => hr.imp fun _ hr => (hnew _ hr).resolve_left nofun)
      fun u hu => hc.from_birth u ((hnew _ hu).resolve_left nofun)

/-! ## The books are kept -/

theorem AtDesk.accounted (h : c.AtDesk desk) : c.Accounted := by
  induction h with
  | start hopening => exact accounted_start hopening
  | step hreach hstep ih => exact accounted_step ih hreach hstep

theorem AtDesk.stored (h : c.AtDesk desk) {k : String} {x : Record}
    (hx : c.store.records.get? k = some x) :
    ∃ r, c.Born r ∧ r.key = k ∧ r.booking = x.booking.asMade := h.accounted.stored h hx

/-- Bookings have the ids under which they are kept. -/
theorem AtDesk.id_of_stored (h : c.AtDesk desk) {k : String} {x : Record}
    (hx : c.store.records.get? k = some x) : x.booking.id = k := by
  obtain ⟨r, hr, hkey, hmade⟩ := h.stored hx
  rw [← hkey, (h.born_key hr).1, hmade]
  rfl

/-- Bookings have ends. -/
theorem AtDesk.interval_of_stored (h : c.AtDesk desk) {k : String} {x : Record}
    (hx : c.store.records.get? k = some x) : ∃ a, x.booking.interval = .ok a := by
  obtain ⟨r, hr, -, hmade⟩ := h.stored hx
  obtain ⟨a, ha⟩ := h.accounted.ends r hr
  rw [hmade] at ha
  exact ⟨a, ha⟩

/-- Every booking takes as long as the settings allow. -/
theorem AtDesk.minutes_within (h : c.AtDesk desk) {k : String} {x : Record}
    (hx : c.store.records.get? k = some x) :
    desk.bookings.minMinutes ≤ x.booking.minutes ∧
      x.booking.minutes ≤ desk.bookings.maxMinutes := by
  obtain ⟨r, ⟨exclude, call, hcall, hmem⟩, -, hmade⟩ := h.stored hx
  have hwithin := (h.onCourse hcall).minutes_within hmem
  rw [hmade] at hwithin
  exact hwithin

theorem AtDesk.id_of_seen (h : c.AtDesk desk) {k : String} {b : Booking} (hb : c.Saw k b) :
    b.id = k := by
  obtain ⟨r, hr, hkey, hmade⟩ := h.accounted.seen k b hb
  rw [← hkey, (h.born_key hr).1, hmade]
  rfl

end Appointments.Crowd
