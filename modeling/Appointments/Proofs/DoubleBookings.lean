-- No double booking. Two bookings of a provider that are not cancelled never
-- overlap, but for one that is just being replaced and the one that replaces
-- it. No order of steps and no mix of errands makes an exception.
import Appointments.Proofs.Origins
import Appointments.Proofs.Schedules
namespace Appointments

/-! ## Bookings that take time -/

/-- Under this id stands a booking that takes time of the provider. -/
def Store.Takes (s : Store) (k provider : String) (a : Interval) : Prop :=
  ∃ x, s.records.get? k = some x ∧ x.booking.provider = provider ∧
    x.booking.status ≠ .cancelled ∧ x.booking.interval = .ok a

/-- Two bookings of one provider take time, and some of it is the same. -/
def Store.Clash (s : Store) (i j : String) : Prop :=
  i ≠ j ∧ ∃ provider a b, s.Takes i provider a ∧ s.Takes j provider b ∧ a.overlaps b = true

theorem Interval.overlaps_comm (a b : Interval) : a.overlaps b = b.overlaps a :=
  Bool.and_comm _ _

theorem Booking.interval_of_asMade {a b : Booking} (h : a.asMade = b.asMade) :
    a.interval = b.interval ∧ a.provider = b.provider := by
  have hinterval := congrArg Booking.interval h
  have hprovider := congrArg Booking.provider h
  exact ⟨hinterval, hprovider⟩

theorem Store.Clash.symm {s : Store} {i j : String} (h : s.Clash i j) : s.Clash j i := by
  obtain ⟨hne, provider, a, b, hi, hj, hover⟩ := h
  exact ⟨hne.symm, provider, b, a, hj, hi, by rw [Interval.overlaps_comm]; exact hover⟩

/-- Whoever takes time still did so before. -/
theorem Store.Clash.imp {s t : Store} {i j : String} (h : t.Clash i j)
    (htakes : ∀ k provider a, (k = i ∨ k = j) → t.Takes k provider a → s.Takes k provider a) :
    s.Clash i j := by
  obtain ⟨hne, provider, a, b, hi, hj, hover⟩ := h
  exact ⟨hne, provider, a, b, htakes _ _ _ (.inl rfl) hi, htakes _ _ _ (.inr rfl) hj, hover⟩

namespace Crowd

variable {desk : Desk} {c d : Crowd Errand Booking}

/-! ## Replacements on their way -/

/-- The deeds have inserted `new` beside `old`, have not changed `old` yet,
and have not taken `new` away again. -/
def Pends (old new : String) (deeds : List Deed) : Prop :=
  ∃ r, .inserted r [old] ∈ deeds ∧ r.key = new ∧ (∀ u, .changed u ∉ deeds) ∧
    .undid (.remove r) ∉ deeds

def Pending (c : Crowd Errand Booking) (old new : String) : Prop :=
  ∃ call ∈ c.calls, Pends old new call.ledger.deeds

theorem Pends.cons {old new : String} {deed : Deed} {deeds : List Deed} (h : Pends old new deeds)
    (hchanged : ∀ u, deed ≠ .changed u) (hundid : ∀ v, deed ≠ .undid v) :
    Pends old new (deed :: deeds) := by
  obtain ⟨r, hr, hkey, hnone, hnot⟩ := h
  refine ⟨r, List.mem_cons_of_mem _ hr, hkey, fun u hu => ?_, fun hu => ?_⟩
  · exact hnone u ((List.mem_cons.1 hu).resolve_left fun heq => hchanged u heq.symm)
  · exact hnot ((List.mem_cons.1 hu).resolve_left fun heq => hundid _ heq.symm)

/-- Where one of the calls goes on, a replacement stays on its way unless it
is this call's, and its deed changes or undoes something. -/
theorem Passes.pending {before after : Call Errand Booking} {deed : Deed} {old new : String}
    (hpass : c.Passes d before after) (hdeeds : after.ledger.deeds = deed :: before.ledger.deeds)
    (h : c.Pending old new) : d.Pending old new ∨ (Pends old new before.ledger.deeds ∧
      ((∃ u, deed = .changed u) ∨ ∃ v, deed = .undid v)) := by
  obtain ⟨call, hcall, hpends⟩ := h
  rcases hpass.others call hcall with rfl | hcall
  · by_cases hdeed : (∃ u, deed = .changed u) ∨ ∃ v, deed = .undid v
    · exact .inr ⟨hpends, hdeed⟩
    · refine .inl ⟨after, hpass.mem_after, ?_⟩
      rw [hdeeds]
      exact hpends.cons (fun u heq => hdeed (.inl ⟨u, heq⟩)) fun v heq => hdeed (.inr ⟨v, heq⟩)
  · exact .inl ⟨call, hcall, hpends⟩

/-- A replacement on its way is one as the calls themselves tell it. -/
theorem AtDesk.replacing (h : c.AtDesk desk) {old new : String} (hp : c.Pending old new) :
    c.Replacing old new := by
  obtain ⟨call, hcall, r, hr, hkey, hnone, hnot⟩ := hp
  have hinserted := h.inserted hcall hr
  refine ⟨call, hcall, ?_, ⟨r, [old], hr, hkey⟩, ?_⟩
  · rcases hinserted.origin with ⟨hempty, -⟩ | ⟨k, b, t, n, hold, hfor, hseen, -⟩
    · cases hempty
    · cases hold
      rw [h.id_of_seen ⟨call, hcall, hseen⟩]
      exact hfor
  · cases hresult : call.result? with
    | none => exact .inl rfl
    | some result =>
      rcases (h.outcome hcall hresult).inserted (h.onCourse hcall) hr with
        ⟨u, hu⟩ | hundid | ⟨why, rfl⟩
      · exact absurd hu (hnone u)
      · exact absurd hundid hnot
      · exact .inr ⟨why, rfl⟩

/-! ## The invariant -/

/-- Where two bookings clash, one of them is on its way to replace the other. -/
def Spaced (c : Crowd Errand Booking) : Prop :=
  ∀ i j, c.store.Clash i j → c.Pending i j ∨ c.Pending j i

theorem takes_of_same {s t : Store} (h : s.SameRecords t) {k provider : String} {a : Interval}
    (htakes : t.Takes k provider a) : s.Takes k provider a := by
  unfold Store.Takes at htakes ⊢
  rwa [h.1] at htakes

/-- Who inserts a booking that clashes with another one is on the way to
replace the other one. -/
theorem pending_of_inserted (hc : c.AtDesk desk) (hd : d.AtDesk desk)
    {before after : Call Errand Booking} (hpass : c.Passes d before after) {b : Booking}
    {exclude : List String} {r : Record}
    (hdeeds : after.ledger.deeds = .inserted r exclude :: before.ledger.deeds)
    (hinserts : c.store.Inserts b exclude r d.store) {j provider : String} {x y : Interval}
    (hprovider : b.provider = provider) (hx : b.interval = .ok x)
    (hj : c.store.Takes j provider y) (hover : x.overlaps y = true) : d.Pending j r.key := by
  have hmem : .inserted r exclude ∈ after.ledger.deeds := hdeeds ▸ List.mem_cons_self
  have hinserted := hd.inserted hpass.mem_after hmem
  have hbooking := hinserts.booking_eq
  have hconfirmed : b.status ≠ .cancelled := by
    rw [← hbooking, ← hinserted.as_made]
    exact nofun
  obtain ⟨x', hx', hfree⟩ := hinserts.free hconfirmed
  obtain ⟨z, hz, hzprovider, hzstatus, hzy⟩ := hj
  -- The insertion did not look at the other booking.
  have hexcluded : j ∈ exclude := by
    by_contra hnot
    rw [← hc.id_of_stored hz] at hnot
    have hno := hfree z.booking (Store.mem_bookings.2 ⟨j, z, hz, rfl⟩)
      (hzprovider.trans hprovider.symm) hzstatus hnot y hzy
    rw [hx] at hx'
    rw [← Except.ok.inj hx', hover] at hno
    cases hno
  rcases hinserted.origin with ⟨rfl, -⟩ | ⟨k, old, t, n, rfl, -, -, -⟩
  · cases hexcluded
  · obtain rfl := List.mem_singleton.1 hexcluded
    have hbefore := (hdeeds ▸ hd.onCourse hpass.mem_after).before_inserted
    refine ⟨after, hpass.mem_after, r, hmem, rfl, fun u hu => ?_, fun hu => ?_⟩
    · rw [hdeeds, hbefore] at hu
      simp at hu
    · rw [hdeeds, hbefore] at hu
      simp at hu

theorem spaced_inserted (hs : c.Spaced) (hc : c.AtDesk desk) (hd : d.AtDesk desk)
    {before after : Call Errand Booking} (hpass : c.Passes d before after) {b : Booking}
    {exclude : List String} {r : Record}
    (hdeeds : after.ledger.deeds = .inserted r exclude :: before.ledger.deeds)
    (hinserts : c.store.Inserts b exclude r d.store) : d.Spaced := by
  have hbooking := hinserts.booking_eq
  -- Who takes time is the new booking, or took it before.
  have htakes : ∀ k provider a, d.store.Takes k provider a →
      (r.key = k ∧ b.provider = provider ∧ b.interval = .ok a) ∨
        (r.key ≠ k ∧ c.store.Takes k provider a) := by
    rintro k provider a ⟨x, hx, hprovider, hstatus, ha⟩
    rw [hinserts.get?] at hx
    split at hx
    · rename_i hk
      cases hx
      exact .inl ⟨hk, hbooking ▸ hprovider, hbooking ▸ ha⟩
    · rename_i hk
      exact .inr ⟨hk, x, hx, hprovider, hstatus, ha⟩
  have hpending : ∀ i j, c.Pending i j → d.Pending i j := by
    intro i j hp
    rcases hpass.pending hdeeds hp with hp | ⟨-, ⟨u, heq⟩ | ⟨v, heq⟩⟩
    · exact hp
    · cases heq
    · cases heq
  rintro i j ⟨hne, provider, x, y, hi, hj, hover⟩
  rcases htakes i provider x hi with ⟨rfl, hprovider, hx⟩ | ⟨-, hi⟩
  · rcases htakes j provider y hj with ⟨rfl, -⟩ | ⟨-, hj⟩
    · exact absurd rfl hne
    · exact .inr (pending_of_inserted hc hd hpass hdeeds hinserts hprovider hx hj hover)
  · rcases htakes j provider y hj with ⟨rfl, hprovider, hy⟩ | ⟨-, hj⟩
    · rw [Interval.overlaps_comm] at hover
      exact .inl (pending_of_inserted hc hd hpass hdeeds hinserts hprovider hy hi hover)
    · exact (hs i j ⟨hne, provider, x, y, hi, hj, hover⟩).imp (hpending i j) (hpending j i)

/-- Where a call cancels or completes a booking, no other booking comes to
take time, and a replacement that is done has cancelled the old booking. -/
theorem spaced_changed (hs : c.Spaced) (hd : d.AtDesk desk) {before after : Call Errand Booking}
    (hpass : c.Passes d before after) {id : String} {expected : Status}
    {changes : List Booking.Change} {u : Store.Update}
    (hdeeds : after.ledger.deeds = .changed u :: before.ledger.deeds)
    (hchanges : c.store.Changes id expected changes u d.store) : d.Spaced := by
  have hmem : .changed u ∈ after.ledger.deeds := hdeeds ▸ List.mem_cons_self
  have hchanged := (hd.onCourse hpass.mem_after).changed hmem
  obtain ⟨hinterval, hprovider⟩ := Booking.interval_of_asMade hchanged.as_made
  have hafter : d.store.records.get? u.after.key = some u.after := by
    rw [hchanges.get?, if_pos rfl]
  have htakes : ∀ k provider a, d.store.Takes k provider a → c.store.Takes k provider a := by
    rintro k provider a ⟨x, hx, hxprovider, hxstatus, ha⟩
    rw [hchanges.get?] at hx
    split at hx
    · rename_i hk
      cases hx
      refine ⟨u.before, hk ▸ hchanges.get?_key, hprovider ▸ hxprovider, ?_, hinterval ▸ ha⟩
      rw [hchanged.before]
      exact nofun
    · exact ⟨x, hx, hxprovider, hxstatus, ha⟩
  have hpending : ∀ i j, d.store.Clash i j → c.Pending i j → d.Pending i j := by
    rintro i j ⟨-, provider, a, _, ⟨x, hx, -, hxstatus, -⟩, -⟩ hp
    rcases hpass.pending hdeeds hp with hp | ⟨⟨r, hr, -⟩, -⟩
    · exact hp
    · have hr : .inserted r [i] ∈ after.ledger.deeds := hdeeds ▸ List.mem_cons_of_mem _ hr
      rcases hchanged.link with ⟨hnone, -⟩ | ⟨q, hq, hcancelled, -⟩
      · exact absurd hr (hnone r _)
      · obtain ⟨-, hkey⟩ := (hd.inserted hpass.mem_after hr).only q _ hq
        rw [← List.singleton_inj.1 hkey, hafter] at hx
        rw [← Option.some.inj hx] at hxstatus
        exact absurd hcancelled hxstatus
  intro i j hclash
  have hclash' := hclash.imp fun k provider a _ => htakes k provider a
  exact (hs i j hclash').imp (hpending i j hclash) (hpending j i hclash.symm)

theorem spaced_removed (hs : c.Spaced) (hd : d.AtDesk desk) {before after : Call Errand Booking}
    (hpass : c.Passes d before after) {r : Record}
    (hdeeds : after.ledger.deeds = .undid (.remove r) :: before.ledger.deeds)
    (hrecords : d.store.records = c.store.records.erase r.booking.id) : d.Spaced := by
  have htakes : ∀ k provider a, d.store.Takes k provider a →
      r.booking.id ≠ k ∧ c.store.Takes k provider a := by
    rintro k provider a ⟨x, hx, hrest⟩
    rw [hrecords, Shelf.get?_erase] at hx
    split at hx
    · cases hx
    · exact ⟨‹_›, x, hx, hrest⟩
  have hpending : ∀ i j, d.store.Clash i j → c.Pending i j → d.Pending i j := by
    rintro i j ⟨-, provider, _, b, -, hj, -⟩ hp
    rcases hpass.pending hdeeds hp with hp | ⟨⟨q, hq, hkey, -⟩, -⟩
    · exact hp
    · -- The call takes its own insertion away, which is the booking `j`.
      have hq : .inserted q [i] ∈ after.ledger.deeds := hdeeds ▸ List.mem_cons_of_mem _ hq
      obtain ⟨r', exclude, heq, hr⟩ := (hd.onCourse hpass.mem_after).undid
        (hdeeds ▸ List.mem_cons_self)
      cases heq
      obtain ⟨rfl, -⟩ := (hd.inserted hpass.mem_after hr).only q _ hq
      refine absurd ?_ (htakes j provider b hj).1
      rw [← hkey, (hd.inserted hpass.mem_after hr).key]
  intro i j hclash
  have hclash' := hclash.imp fun k provider a _ htaken => (htakes k provider a htaken).2
  exact (hs i j hclash').imp (hpending i j hclash) (hpending j i hclash.symm)

theorem spaced_step (hs : c.Spaced) (hc : c.AtDesk desk) (h : Step (Errand.serve desk) c d) :
    d.Spaced := by
  have hd : d.AtDesk desk := .step hc h
  -- Where the records stay and no replacement is done, nothing changes.
  have hquiet : c.store.SameRecords d.store → (∀ i j, c.Pending i j → d.Pending i j) →
      d.Spaced := by
    intro hsame hpending i j hclash
    exact (hs i j (hclash.imp fun _ _ _ _ => takes_of_same hsame)).imp (hpending i j) (hpending j i)
  rcases h.passes with ⟨hstore, new, -, hcalls⟩ | ⟨before, after, hpass⟩
  · refine hquiet ⟨congrArg _ hstore, congrArg _ hstore⟩ ?_
    rintro i j ⟨call, hcall, hpends⟩
    exact ⟨call, hcalls ▸ List.mem_append_left _ hcall, hpends⟩
  rcases hpass.deeds with ⟨hold, hsame⟩ | ⟨deed, hdeeds, hwrites⟩
  · apply hquiet hsame
    rintro i j ⟨call, hcall, hpends⟩
    rcases hpass.others call hcall with rfl | hcall
    · exact ⟨after, hpass.mem_after, hold ▸ hpends⟩
    · exact ⟨call, hcall, hpends⟩
  have hnone : (∀ u, deed ≠ .changed u) → (∀ v, deed ≠ .undid v) →
      ∀ i j, c.Pending i j → d.Pending i j := by
    intro hchanged hundid i j hp
    rcases hpass.pending hdeeds hp with hp | ⟨-, ⟨u, rfl⟩ | ⟨v, rfl⟩⟩
    · exact hp
    · exact absurd rfl (hchanged u)
    · exact absurd rfl (hundid v)
  cases hwrites with
  | inserted hinserts => exact spaced_inserted hs hc hd hpass hdeeds hinserts
  | changed hchanges => exact spaced_changed hs hd hpass hdeeds hchanges
  | removed _ hrecords _ => exact spaced_removed hs hd hpass hdeeds hrecords
  | restored =>
    obtain ⟨r, exclude, heq, -⟩ := (hd.onCourse hpass.mem_after).undid
      (hdeeds ▸ List.mem_cons_self)
    cases heq
  | drew hsame | refused hsame | stuck hsame | wrote hsame =>
    exact hquiet hsame (hnone (fun _ => nofun) fun _ => nofun)

theorem AtDesk.spaced (h : c.AtDesk desk) : c.Spaced := by
  induction h with
  | start hopening =>
    rintro i j ⟨-, _, _, _, ⟨x, hx, -⟩, -⟩
    rw [hopening] at hx
    cases hx
  | step hreach hstep ih => exact spaced_step ih hreach hstep

/-! ## The law -/

/-- Whatever people ask of the desk, and in whatever order their steps come,
two bookings of one provider that are not cancelled share no time, but for a
booking that is just being replaced and the one that replaces it. -/
theorem AtDesk.bookings_never_overlap (h : c.AtDesk desk) {i j : String} {a b : Booking}
    (hi : c.store.booking? i = some a) (hj : c.store.booking? j = some b) (hne : i ≠ j)
    (hprovider : a.provider = b.provider) (ha : a.status ≠ .cancelled)
    (hb : b.status ≠ .cancelled) :
    ∃ x y, a.interval = .ok x ∧ b.interval = .ok y ∧
      (x.overlaps y = true → c.Replacing i j ∨ c.Replacing j i) := by
  obtain ⟨r, hr, rfl⟩ := Store.booking?_eq_some.1 hi
  obtain ⟨q, hq, rfl⟩ := Store.booking?_eq_some.1 hj
  obtain ⟨x, hx⟩ := h.interval_of_stored hr
  obtain ⟨y, hy⟩ := h.interval_of_stored hq
  refine ⟨x, y, hx, hy, fun hover => ?_⟩
  exact (h.spaced i j ⟨hne, _, x, y, ⟨r, hr, hprovider, ha, hx⟩, ⟨q, hq, rfl, hb, hy⟩, hover⟩).imp
    h.replacing h.replacing

open Practice in
/-- A patient moves a booking to the time that it has already. The new
booking is in the store, and the old one is not cancelled yet. -/
theorem moved_booking_overlaps_until_replaced : ∃ c : Crowd Errand Booking, c.AtDesk {} ∧
    ∃ a b x y, c.store.booking? "a" = some a ∧ c.store.booking? "b" = some b ∧
      a.interval = .ok x ∧ b.interval = .ok y ∧ x.overlaps y = true ∧
      (c.Replacing "a" "b" ∨ c.Replacing "b" "a") := by
  have hmap : (crowdAfter (.arrive booking :: go 0 30 "a" ++
      .arrive (moving "a" "2026-03-02T10:00:00Z") :: go 1 13 "b")).map
        (fun c => (c.store.booking? "a", c.store.booking? "b")) =
      some (some booked, some (Desk.successor booked "b" ten 60)) := by decide +kernel
  obtain ⟨c, hplay, hbookings⟩ := Option.map_eq_some_iff.1 hmap
  obtain ⟨ha, hb⟩ := Prod.mk.inj hbookings
  have hat : c.AtDesk {} := Reachable.play (.start rfl) hplay
  obtain ⟨x, y, hx, hy, hover⟩ :=
    hat.bookings_never_overlap ha hb (by decide) rfl (by decide) (by decide)
  have hinterval : booked.interval = .ok ⟨ten, eleven⟩ := rfl
  have hxy : x.overlaps y = true := by
    rw [hinterval] at hx
    cases hx
    cases (show booked.interval = .ok y from hy).symm.trans hinterval
    decide
  exact ⟨c, hat, _, _, x, y, ha, hb, hx, hy, hxy, hover hxy⟩

end Crowd
end Appointments
