-- What queries and writes of bookings do to a store, said once for each of
-- them.
import Appointments.Proofs.Outcomes
import Appointments.Store.Write
namespace Appointments

namespace Shelf

variable {α : Type} {key : α → String}

theorem mem_items {s : Shelf key} {a : α} : a ∈ s.items ↔ s.get? (key a) = some a :=
  ⟨get?_key_of_mem, mem_of_get?⟩

end Shelf

namespace Store

/-! ## Queries -/

theorem mem_bookings {s : Store} {b : Booking} :
    b ∈ s.bookings ↔ ∃ k r, s.records.get? k = some r ∧ r.booking = b := by
  unfold bookings
  rw [List.mem_map]
  constructor
  · rintro ⟨r, hr, rfl⟩
    exact ⟨r.key, r, Shelf.mem_items.1 hr, rfl⟩
  · rintro ⟨k, r, hr, rfl⟩
    exact ⟨r, Shelf.mem_of_get? hr, rfl⟩

theorem booking?_eq_some {s : Store} {k : String} {b : Booking} :
    s.booking? k = some b ↔ ∃ r, s.records.get? k = some r ∧ r.booking = b := by
  unfold booking?
  rw [Option.map_eq_some_iff]

theorem booking?_of_mem {s : Store} {r : Record} (hr : r ∈ s.records.items) :
    s.booking? r.key = some r.booking :=
  booking?_eq_some.2 ⟨r, Shelf.mem_items.1 hr, rfl⟩

/-- The bookings that a query selects, with the ids under which they are
kept. -/
def kept (s : Store) (query : Booking → Bool) : List (String × Booking) :=
  (s.records.items.filter (query ·.booking)).map fun r => (r.key, r.booking)

theorem mem_kept {s : Store} {query : Booking → Bool} {k : String} {b : Booking} :
    (k, b) ∈ s.kept query ↔ s.booking? k = some b ∧ query b = true := by
  unfold kept
  rw [List.mem_map]
  constructor
  · rintro ⟨r, hr, heq⟩
    obtain ⟨hmem, hquery⟩ := List.mem_filter.1 hr
    cases heq
    exact ⟨booking?_of_mem hmem, hquery⟩
  · rintro ⟨hb, hquery⟩
    obtain ⟨r, hr, rfl⟩ := booking?_eq_some.1 hb
    obtain rfl := Shelf.key_of_get? hr
    exact ⟨r, List.mem_filter.2 ⟨Shelf.mem_of_get? hr, hquery⟩, rfl⟩

theorem map_kept (s : Store) (query : Booking → Bool) :
    (s.kept query).map (·.2) = s.bookings.filter query := by
  unfold kept bookings
  rw [List.map_map, List.filter_map]
  rfl

theorem mayOverlap_iff {provider : String} {stop : Instant} {exclude : List String} {b : Booking} :
    mayOverlap provider stop exclude b = true ↔
      b.provider = provider ∧ b.status ≠ .cancelled ∧ b.id ∉ exclude ∧ b.start < stop := by
  simp [mayOverlap, and_assoc]

/-- The overlapping bookings are found unless one that may overlap has no
end. -/
theorem overlapping_isOk {s : Store} {provider : String} {start stop : Instant}
    {exclude : List String}
    (h : ∀ b ∈ s.bookings, mayOverlap provider stop exclude b = true → ∃ e, b.stop = .ok e) :
    ∃ found, s.overlapping provider start stop exclude = .ok found := by
  obtain ⟨found, hfound⟩ : ∃ found, (s.bookings.filter (mayOverlap provider stop exclude)).mapM
      (fun b => do return (b, ← b.stop)) = Except.ok (ε := CalendarFault) found := by
    apply mapM_ok_of_forall
    intro b hb
    obtain ⟨e, he⟩ := h b (List.mem_filter.1 hb).1 (List.mem_filter.1 hb).2
    exact ⟨(b, e), bind_eq_ok.2 ⟨e, he, rfl⟩⟩
  exact ⟨_, bind_eq_ok.2 ⟨found, hfound, rfl⟩⟩

/-- Where the overlapping bookings are found, each one that may overlap has an
end. -/
theorem stop_isOk_of_overlapping {s : Store} {provider : String} {start stop : Instant}
    {exclude : List String} {found : List Booking}
    (h : s.overlapping provider start stop exclude = .ok found) {b : Booking}
    (hb : b ∈ s.bookings) (hmay : mayOverlap provider stop exclude b = true) :
    ∃ e, b.stop = .ok e := by
  obtain ⟨pairs, hpairs, -⟩ := bind_eq_ok.1 h
  obtain ⟨p, -, hp⟩ := ok_of_mem_of_mapM hpairs (List.mem_filter.2 ⟨hb, hmay⟩)
  obtain ⟨e, he, -⟩ := bind_eq_ok.1 hp
  exact ⟨e, he⟩

theorem overlapping_eq_ok {s : Store} {provider : String} {start stop : Instant}
    {exclude : List String} {found : List Booking}
    (h : s.overlapping provider start stop exclude = .ok found) {b : Booking} :
    b ∈ found ↔ b ∈ s.bookings ∧ mayOverlap provider stop exclude b = true ∧
      ∃ e, b.stop = .ok e ∧ start < e := by
  obtain ⟨pairs, hpairs, h⟩ := bind_eq_ok.1 h
  rw [← pure_eq_ok.1 h, (List.sortedBy_perm _ _).mem_iff, List.mem_map]
  constructor
  · rintro ⟨⟨c, e⟩, hc, rfl⟩
    obtain ⟨hmem, hlt⟩ := List.mem_filter.1 hc
    obtain ⟨x, hx, hxe⟩ := (mem_of_mapM hpairs).1 hmem
    obtain ⟨e', he', heq⟩ := bind_eq_ok.1 hxe
    obtain ⟨rfl, rfl⟩ := Prod.mk.inj (pure_eq_ok.1 heq)
    rw [List.mem_filter] at hx
    exact ⟨hx.1, hx.2, e', he', by simpa using hlt⟩
  · rintro ⟨hb, hmay, e, he, hlt⟩
    refine ⟨(b, e), List.mem_filter.2 ⟨?_, by simpa using hlt⟩, rfl⟩
    exact (mem_of_mapM hpairs).2
      ⟨b, List.mem_filter.2 ⟨hb, hmay⟩, bind_eq_ok.2 ⟨e, he, rfl⟩⟩

/-! ## Insertions -/

theorem interval_eq_ok {b : Booking} {x : Interval} :
    b.interval = .ok x ↔ ∃ e, b.stop = .ok e ∧ ⟨b.start, e⟩ = x := map_eq_ok

/-- A booking that takes time is as long as its minutes say, and does not
overlap any other one that takes time of the provider, but for those that are
excluded. -/
theorem checkFree_eq_ok {s : Store} {b : Booking} {exclude : List String}
    (h : s.checkFree b exclude = .ok ()) (hb : b.status ≠ .cancelled) :
    ∃ x, b.interval = .ok x ∧ ∀ c ∈ s.bookings, c.provider = b.provider →
      c.status ≠ .cancelled → c.id ∉ exclude → ∀ y, c.interval = .ok y →
      x.overlaps y = false := by
  unfold checkFree at h
  rw [if_pos hb] at h
  obtain ⟨stop, hstop, h⟩ := bind_eq_ok.1 h
  obtain ⟨taken, htaken, h⟩ := bind_eq_ok.1 h
  rw [orFail_eq_ok] at hstop htaken
  refine ⟨⟨b.start, stop⟩, interval_eq_ok.2 ⟨stop, hstop, rfl⟩, ?_⟩
  intro c hc hprovider hstatus hid y hy
  obtain ⟨e, he, rfl⟩ := interval_eq_ok.1 hy
  have hempty : taken = [] := by
    cases taken with
    | nil => rfl
    | cons d ds => exact nomatch h
  subst hempty
  have hnot : ¬ (c.start < stop ∧ b.start < e) := by
    rintro ⟨h1, h2⟩
    have hmem := (overlapping_eq_ok htaken (b := c)).2
      ⟨hc, mayOverlap_iff.2 ⟨hprovider, hstatus, hid, h1⟩, e, he, h2⟩
    cases hmem
  simp only [Interval.overlaps, Bool.and_eq_false_iff, decide_eq_false_iff_not]
  by_cases h1 : b.start < e
  · exact .inr fun h2 => hnot ⟨h2, h1⟩
  · exact .inl h1

/-- What an insertion has checked and written. -/
structure Inserts (s : Store) (b : Booking) (exclude : List String) (r : Record) (t : Store) :
    Prop where
  fresh : s.records.get? b.id = none
  free : b.status ≠ .cancelled → ∃ x, b.interval = .ok x ∧ ∀ c ∈ s.bookings,
    c.provider = b.provider → c.status ≠ .cancelled → c.id ∉ exclude → ∀ y, c.interval = .ok y →
    x.overlaps y = false
  only : ∀ id, b.predecessor? = some id → ∀ c ∈ s.bookings, c.rescheduledFrom ≠ some id
  record : r = ⟨b.id, s.nextStamp, b⟩
  records : t.records = s.records.put r
  stamp : t.nextStamp = s.nextStamp + 1

namespace Inserts

variable {s t : Store} {b : Booking} {exclude : List String} {r : Record}

theorem key_eq (h : s.Inserts b exclude r t) : r.key = b.id := by rw [h.record]

theorem booking_eq (h : s.Inserts b exclude r t) : r.booking = b := by rw [h.record]

theorem stamp_eq (h : s.Inserts b exclude r t) : r.stamp = s.nextStamp := by rw [h.record]

theorem get?_key (h : s.Inserts b exclude r t) : s.records.get? r.key = none := by
  rw [h.key_eq]
  exact h.fresh

theorem get? (h : s.Inserts b exclude r t) (k : String) :
    t.records.get? k = if r.key = k then some r else s.records.get? k := by
  rw [h.records, Shelf.get?_put]

end Inserts

theorem insert_eq_ok {s t : Store} {b : Booking} {exclude : List String} {r : Record}
    (h : s.insert b exclude = .ok (r, t)) : s.Inserts b exclude r t := by
  unfold insert at h
  split at h
  · cases h
  · rename_i hnone
    obtain ⟨⟨⟩, hfree, h⟩ := bind_eq_ok.1 h
    obtain ⟨⟨⟩, honly, h⟩ := bind_eq_ok.1 h
    cases pure_eq_ok.1 h
    refine ⟨by simpa using hnone, checkFree_eq_ok hfree, ?_, rfl, rfl, rfl⟩
    intro id hid c hc hfrom
    unfold checkOnlySuccessor at honly
    rw [hid] at honly
    dsimp only at honly
    rw [if_pos (List.any_eq_true.2 ⟨c, hc, by simpa using hfrom⟩)] at honly
    cases honly

/-! ## Changes -/

/-- What an update has checked and written. -/
structure Changes (s : Store) (id : String) (expected : Status) (changes : List Booking.Change)
    (u : Update) (t : Store) : Prop where
  before : s.records.get? id = some u.before
  status : u.before.booking.status = expected
  after : u.after = ⟨id, s.nextStamp, u.before.booking.change changes⟩
  records : t.records = s.records.put u.after
  stamp : t.nextStamp = s.nextStamp + 1

namespace Changes

variable {s t : Store} {id : String} {expected : Status} {changes : List Booking.Change}
  {u : Update}

theorem key_eq (h : s.Changes id expected changes u t) : u.after.key = id := by rw [h.after]

theorem booking_eq (h : s.Changes id expected changes u t) :
    u.after.booking = u.before.booking.change changes := by rw [h.after]

theorem stamp_eq (h : s.Changes id expected changes u t) : u.after.stamp = s.nextStamp := by
  rw [h.after]

theorem get?_key (h : s.Changes id expected changes u t) :
    s.records.get? u.after.key = some u.before := by
  rw [h.key_eq]
  exact h.before

theorem get? (h : s.Changes id expected changes u t) (k : String) :
    t.records.get? k = if u.after.key = k then some u.after else s.records.get? k := by
  rw [h.records, Shelf.get?_put]

end Changes

theorem update_eq_ok {s t : Store} {id : String} {expected : Status}
    {changes : List Booking.Change} {u : Update}
    (h : s.update id expected changes = .ok (u, t)) : s.Changes id expected changes u t := by
  unfold update at h
  split at h
  · cases h
  · rename_i record hrecord
    split at h
    · rename_i hstatus
      cases h
      have hkey := Shelf.key_of_get? hrecord
      refine ⟨hrecord, hstatus, ?_, rfl, rfl⟩
      rw [← hkey]
    · cases h

/-! ## Undoing -/

theorem holds_iff {s : Store} {r : Record} :
    s.holds r = true ↔ ∃ x, s.records.get? r.booking.id = some x ∧ x.stamp = r.stamp := by
  unfold holds
  cases s.records.get? r.booking.id <;> simp

theorem undo_remove {s t : Store} {r : Record} (h : s.undo (.remove r) = (true, t)) :
    s.holds r = true ∧ t = { s with records := s.records.erase r.booking.id } := by
  unfold undo at h
  split at h
  · rename_i hholds
    cases h
    exact ⟨hholds, rfl⟩
  · cases h

theorem undo_false {s t : Store} {u : Undo} (h : s.undo u = (false, t)) : t = s := by
  unfold undo at h
  split at h
  · cases u <;> cases h
  · cases h
    rfl

end Store
end Appointments
