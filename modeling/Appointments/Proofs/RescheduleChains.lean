-- Chains of replacements. A booking that was rescheduled and the one that
-- replaces it name each other, nothing is replaced twice, and following the
-- replacements back comes to an end.
import Appointments.Proofs.Origins
import Appointments.Proofs.Schedules
namespace Appointments

/-- The id that is reached from an id by following `n` bookings back to what
they replace. -/
def Store.goBack (s : Store) : (n : Nat) → (id : String) → Option String
  | 0, id => some id
  | n + 1, id => ((s.booking? id).bind (·.rescheduledFrom)).bind (s.goBack n)

/-- The bookings are about one and the same agreement. -/
def Booking.SameParties (a b : Booking) : Prop :=
  a.request = b.request ∧ a.response = b.response ∧ a.provider = b.provider ∧ a.client = b.client

theorem Booking.SameParties.refl (a : Booking) : a.SameParties a := ⟨rfl, rfl, rfl, rfl⟩

theorem Booking.SameParties.symm {a b : Booking} (h : a.SameParties b) : b.SameParties a :=
  ⟨h.1.symm, h.2.1.symm, h.2.2.1.symm, h.2.2.2.symm⟩

theorem Booking.SameParties.trans {a b b' : Booking} (h : a.SameParties b)
    (h' : b.SameParties b') : a.SameParties b' :=
  ⟨h.1.trans h'.1, h.2.1.trans h'.2.1, h.2.2.1.trans h'.2.2.1, h.2.2.2.trans h'.2.2.2⟩

theorem Booking.sameParties_of_asMade {a b : Booking} (h : a.asMade = b.asMade) :
    a.SameParties b := by
  have hrequest := congrArg Booking.request h
  have hresponse := congrArg Booking.response h
  have hprovider := congrArg Booking.provider h
  have hclient := congrArg Booking.client h
  exact ⟨hrequest, hresponse, hprovider, hclient⟩

namespace Crowd

variable {desk : Desk} {c d : Crowd Errand Booking}

/-- The links between the bookings of the store make simple chains. -/
structure Chained (c : Crowd Errand Booking) : Prop where
  /-- What a booking replaces is cancelled in its favour, once the replacement
  is done. -/
  back : ∀ k b p, c.store.booking? k = some b → b.rescheduledFrom = some p →
    (∃ old, c.Replacing old k) ∨ ∃ q, c.store.booking? p = some q ∧ q.status = .cancelled ∧
      q.rescheduledTo = some b.id ∧ q.SameParties b
  forth : ∀ k q n, c.store.booking? k = some q → q.rescheduledTo = some n →
    ∃ b, c.store.booking? n = some b ∧ b.rescheduledFrom = some q.id
  once : ∀ i j a b p, c.store.booking? i = some a → c.store.booking? j = some b →
    a.rescheduledFrom = some p → b.rescheduledFrom = some p → i = j
  ends : ∀ k, ∃ n, c.store.goBack n k = none

/-! ## Nothing is replaced twice -/

/-- No two stored bookings replace the same one. -/
def ReplacesOnce (c : Crowd Errand Booking) : Prop :=
  ∀ i j x y p, c.store.records.get? i = some x → c.store.records.get? j = some y →
    x.booking.rescheduledFrom = some p → y.booking.rescheduledFrom = some p → i = j

/-- A booking replaces another one that has an id. -/
theorem AtDesk.predecessor_of_born (h : c.AtDesk desk) {r : Record} {p : String} (hr : c.Born r)
    (hp : r.booking.rescheduledFrom = some p) : r.booking.predecessor? = some p := by
  obtain ⟨q, hq, rfl, -⟩ := h.accounted.older r p hr hp
  have hne := (h.born_key hq).2.1
  unfold Booking.predecessor? Booking.link?
  rw [hp]
  simpa using hne

/-- Where each record replaces what one of before replaces under the same
key, still nothing is replaced twice. -/
theorem replacesOnce_of_old (hc : c.ReplacesOnce)
    (hold : ∀ k x, d.store.records.get? k = some x → ∃ y, c.store.records.get? k = some y ∧
      y.booking.rescheduledFrom = x.booking.rescheduledFrom) : d.ReplacesOnce := by
  intro i j x y p hx hy hxp hyp
  obtain ⟨x', hx', hxx⟩ := hold i x hx
  obtain ⟨y', hy', hyy⟩ := hold j y hy
  exact hc i j x' y' p hx' hy' (hxx.trans hxp) (hyy.trans hyp)

theorem replacesOnce_inserted (hc : c.ReplacesOnce) (hd : d.AtDesk desk) {b : Booking}
    {exclude : List String} {r : Record} (hinserts : c.store.Inserts b exclude r d.store)
    (hdid : d.Did (.inserted r exclude)) : d.ReplacesOnce := by
  have hbooking := hinserts.booking_eq
  have hcases : ∀ k x, d.store.records.get? k = some x →
      (r.key = k ∧ x = r) ∨ c.store.records.get? k = some x := by
    intro k x hx
    rw [hinserts.get?] at hx
    split at hx
    · exact .inl ⟨‹_›, (Option.some.inj hx).symm⟩
    · exact .inr hx
  -- No booking of before replaces what the new one replaces.
  have hnone : ∀ k x p, c.store.records.get? k = some x → r.booking.rescheduledFrom = some p →
      x.booking.rescheduledFrom ≠ some p := by
    intro k x p hx hp
    have hpredecessor := hd.predecessor_of_born ⟨exclude, hdid⟩ hp
    rw [hbooking] at hpredecessor
    exact hinserts.only p hpredecessor x.booking (Store.mem_bookings.2 ⟨k, x, hx, rfl⟩)
  intro i j x y p hx hy hxp hyp
  rcases hcases i x hx with ⟨rfl, rfl⟩ | hx
  · rcases hcases j y hy with ⟨rfl, -⟩ | hy
    · rfl
    · exact absurd hyp (hnone j y p hy hxp)
  · rcases hcases j y hy with ⟨rfl, rfl⟩ | hy
    · exact absurd hxp (hnone i x p hx hyp)
    · exact hc i j x y p hx hy hxp hyp

theorem replacesOnce_step (hc : c.ReplacesOnce) (hat : c.AtDesk desk)
    (h : Step (Errand.serve desk) c d) : d.ReplacesOnce := by
  have hd : d.AtDesk desk := .step hat h
  cases hat.happens h with
  | quiet hsame =>
    refine replacesOnce_of_old hc fun k x hx => ⟨x, ?_, rfl⟩
    rw [hsame.1] at hx
    exact hx
  | inserted hpass hdeeds hinserts =>
    exact replacesOnce_inserted hc hd hinserts (hpass.did hdeeds)
  | @changed _ _ u _ _ _ hpass hdeeds hchanges =>
    obtain ⟨-, -, -, hmade⟩ := hd.changed (hpass.did hdeeds)
    apply replacesOnce_of_old hc
    intro k x hx
    rw [hchanges.get?] at hx
    split at hx
    · rename_i hk
      cases hx
      exact ⟨u.before, hk ▸ hchanges.get?_key, (congrArg Booking.rescheduledFrom hmade).symm⟩
    · exact ⟨x, hx, rfl⟩
  | removed _ _ _ _ hrecords =>
    refine replacesOnce_of_old hc fun k x hx => ⟨x, ?_, rfl⟩
    rw [hrecords, Shelf.get?_erase] at hx
    split at hx
    · cases hx
    · exact hx

theorem AtDesk.replacesOnce (h : c.AtDesk desk) : c.ReplacesOnce := by
  induction h with
  | start hopening =>
    intro i j x y p hx
    rw [hopening] at hx
    cases hx
  | step hreach hstep ih => exact replacesOnce_step ih hreach hstep

/-! ## Both ends of a link -/

/-- A link forward stands where a call has inserted the next booking and then
changed this one. -/
theorem AtDesk.linked (h : c.AtDesk desk) {k n : String} {x : Record}
    (hx : c.store.records.get? k = some x) (hn : x.booking.rescheduledTo = some n) :
    ∃ call ∈ c.calls, ∃ r, .inserted r [k] ∈ call.ledger.deeds ∧ r.booking.id = n ∧
      ∀ v, .undid v ∉ call.ledger.deeds := by
  have hborn : ∀ r, c.Born r → r.booking.rescheduledTo ≠ some n := by
    intro r hr
    rw [← (h.born_key hr).2.2]
    exact nofun
  rcases h.accounted.written k x hx with hx' | ⟨u, hu, rfl⟩
  · exact absurd hn (hborn x hx')
  · have hbefore := h.accounted.from_birth u hu
    obtain ⟨call, hcall, hmem⟩ := hu
    rcases ((h.onCourse hcall).changed hmem).link with ⟨-, hsame⟩ | ⟨r, hr, -, hto⟩
    · exact absurd (hsame ▸ hn) (hborn u.before hbefore)
    · refine ⟨call, hcall, r, ?_, ?_, fun v => (h.onCourse hcall).changed_not_undid hmem⟩
      · rw [← Shelf.key_of_get? hx]
        exact hr
      · rw [hto] at hn
        exact Option.some.inj hn

/-- The booking that a link forward leads to replaces the one that has it. -/
theorem AtDesk.forth (h : c.AtDesk desk) {k n : String} {q : Booking}
    (hq : c.store.booking? k = some q) (hn : q.rescheduledTo = some n) :
    ∃ b, c.store.booking? n = some b ∧ b.rescheduledFrom = some q.id := by
  obtain ⟨x, hx, rfl⟩ := Store.booking?_eq_some.1 hq
  obtain ⟨call, hcall, r, hr, rfl, hnot⟩ := h.linked hx hn
  have hinserted := h.inserted hcall hr
  obtain ⟨y, hy, hmade⟩ := h.kept hcall hr (hnot _)
  rw [hinserted.key] at hy
  refine ⟨y.booking, Store.booking?_eq_some.2 ⟨y, hy, rfl⟩, ?_⟩
  rcases hinserted.origin with ⟨hempty, -⟩ | ⟨_, old, t, m, hold, -, -, hsucc⟩
  · cases hempty
  · have hfrom := congrArg Booking.rescheduledFrom hmade
    rw [hsucc] at hfrom
    rw [h.id_of_stored hx, List.singleton_inj.1 hold]
    exact hfrom.symm

/-- The booking that is kept under the id of one that was seen has the same
parties. -/
theorem AtDesk.sameParties_of_saw (h : c.AtDesk desk) {k : String} {b : Booking} {x : Record}
    (hsaw : c.Saw k b) (hx : c.store.records.get? b.id = some x) : x.booking.SameParties b := by
  obtain ⟨q, hq, hqkey, hqmade⟩ := h.stored hx
  obtain ⟨r, hr, hrkey, hrmade⟩ := h.accounted.seen k b hsaw
  have hkey : q.key = r.key := by
    rw [hqkey, hrkey, h.id_of_seen hsaw]
  obtain rfl := h.born_once hq hr hkey
  exact Booking.sameParties_of_asMade (hqmade.symm.trans hrmade)

/-- What a call has changed after it has inserted a booking is cancelled in
favour of that booking, and nobody touches it any more. -/
theorem AtDesk.replaced (h : c.AtDesk desk) {call : Call Errand Booking} (hcall : call ∈ c.calls)
    {r : Record} {old : String} {u : Store.Update}
    (hr : .inserted r [old] ∈ call.ledger.deeds) (hu : .changed u ∈ call.ledger.deeds) :
    c.store.records.get? old = some u.after ∧ u.after.booking.status = .cancelled ∧
      u.after.booking.rescheduledTo = some r.booking.id := by
  have hsettled := h.lasting.settled u ⟨call, hcall, hu⟩
  rcases ((h.onCourse hcall).changed hu).link with ⟨hnone, -⟩ | ⟨q, hq, hcancelled, hto⟩
  · exact absurd hr (hnone r _)
  · obtain ⟨rfl, hkey⟩ := (h.inserted hcall hr).only q _ hq
    rw [List.singleton_inj.1 hkey] at hsettled
    exact ⟨hsettled, hcancelled, hto⟩

/-- What a booking replaces is cancelled in its favour, unless the call that
has inserted it is not done or has left corruption. -/
theorem AtDesk.back (h : c.AtDesk desk) {k p : String} {b : Booking}
    (hb : c.store.booking? k = some b) (hp : b.rescheduledFrom = some p) :
    (∃ old, c.Replacing old k) ∨ ∃ q, c.store.booking? p = some q ∧ q.status = .cancelled ∧
      q.rescheduledTo = some b.id ∧ q.SameParties b := by
  obtain ⟨x, hx, rfl⟩ := Store.booking?_eq_some.1 hb
  obtain ⟨r, ⟨exclude, call, hcall, hr⟩, rfl, hmade⟩ := h.stored hx
  have hinserted := h.inserted hcall hr
  rcases hinserted.origin with ⟨-, hnone⟩ | ⟨k', old, t, m, rfl, hfor, hseen, hsucc⟩
  · rw [hmade] at hnone
    exact absurd (hnone.symm.trans hp) nofun
  have hold : old.id = p := by
    have hfrom := congrArg Booking.rescheduledFrom (hsucc.symm.trans hmade)
    exact Option.some.inj (hfrom.trans hp)
  have hreplacing : (call.result? = none ∨ ∃ why, call.result? = some (.error (.corrupted why))) →
      ∃ old, c.Replacing old r.key := fun hresult =>
    ⟨k', call, hcall, hfor, ⟨r, _, hr, rfl⟩, hresult⟩
  cases hresult : call.result? with
  | none => exact .inl (hreplacing (.inl hresult))
  | some result =>
    rcases (h.outcome hcall hresult).inserted (h.onCourse hcall) hr with
      ⟨u, hu⟩ | hundid | ⟨why, rfl⟩
    · right
      obtain ⟨hsettled, hcancelled, hto⟩ := h.replaced hcall hr hu
      have hparties := h.sameParties_of_saw ⟨call, hcall, hseen⟩ hsettled
      have hnew : old.SameParties r.booking := by
        rw [hsucc]
        exact ⟨rfl, rfl, rfl, rfl⟩
      rw [hold] at hsettled
      have hbooking := Store.booking?_eq_some.2 ⟨u.after, hsettled, rfl⟩
      refine ⟨u.after.booking, hbooking, hcancelled, ?_, ?_⟩
      · rw [hto, hmade]
        rfl
      · exact hparties.trans (hnew.trans (Booking.sameParties_of_asMade (by rw [hmade]; rfl)))
    · have hgone := h.lasting.gone r ⟨call, hcall, hundid⟩
      rw [hx] at hgone
      cases hgone
    · exact .inl (hreplacing (.inr ⟨why, hresult⟩))

/-! ## Back to the root -/

/-- What a booking replaces was inserted before it, and so has a lower
stamp. -/
theorem AtDesk.goBack_of_stamps (h : c.AtDesk desk) (bound : Nat) (k : String)
    (hbound : ∀ r, c.Born r → r.key = k → r.stamp < bound) :
    ∃ n, c.store.goBack n k = none := by
  induction bound generalizing k with
  | zero =>
    refine ⟨1, ?_⟩
    cases hb : c.store.booking? k with
    | none => simp [Store.goBack, hb]
    | some b =>
      obtain ⟨x, hx, -⟩ := Store.booking?_eq_some.1 hb
      obtain ⟨r, hr, hkey, -⟩ := h.stored hx
      exact absurd (hbound r hr hkey) (Nat.not_lt_zero _)
  | succ bound ih =>
    cases hlink : (c.store.booking? k).bind (·.rescheduledFrom) with
    | none => exact ⟨1, by simp [Store.goBack, hlink]⟩
    | some p =>
      obtain ⟨b, hb, hp⟩ := Option.bind_eq_some_iff.1 hlink
      obtain ⟨x, hx, rfl⟩ := Store.booking?_eq_some.1 hb
      obtain ⟨r, hr, hkey, hmade⟩ := h.stored hx
      obtain ⟨q, hq, hqkey, hlt⟩ := h.accounted.older r p hr (by rw [hmade]; exact hp)
      obtain ⟨n, hn⟩ := ih p fun q' hq' hkey' => by
        obtain rfl := h.born_once hq hq' (hqkey.trans hkey'.symm)
        have := hbound r hr hkey
        omega
      refine ⟨n + 1, ?_⟩
      unfold Store.goBack
      rw [hlink]
      exact hn

theorem AtDesk.ends (h : c.AtDesk desk) (k : String) : ∃ n, c.store.goBack n k = none :=
  h.goBack_of_stamps c.store.nextStamp k fun r hr _ => h.lasting.stamp_lt r hr

/-! ## The law -/

/-- Whatever people ask of the desk, and in whatever order their steps come,
the links of bookings make simple chains. -/
theorem AtDesk.chained (h : c.AtDesk desk) : c.Chained where
  back _ _ _ := h.back
  forth _ _ _ := h.forth
  once i j a b p ha hb hap hbp := by
    obtain ⟨x, hx, rfl⟩ := Store.booking?_eq_some.1 ha
    obtain ⟨y, hy, rfl⟩ := Store.booking?_eq_some.1 hb
    exact h.replacesOnce i j x y p hx hy hap hbp
  ends := h.ends

open Practice in
/-- A patient moves a booking by an hour, and the new booking by another one.
The first of three bookings names the second one, which names the third. -/
theorem twice_moved_booking_is_chained : ∃ c : Crowd Errand Booking, c.AtDesk {} ∧ c.Chained ∧
    (c.store.booking? "a").bind (·.rescheduledTo) = some "b" ∧
    (c.store.booking? "b").bind (·.rescheduledTo) = some "c" ∧
    c.store.goBack 2 "c" = some "a" := by
  have hmap : (crowdAfter (.arrive booking :: go 0 30 "a" ++
      .arrive (moving "a" "2026-03-02T11:00:00Z") :: go 1 30 "b" ++
      .arrive (moving "b" "2026-03-02T09:00:00Z") :: go 2 30 "c")).map
        (fun c => ((c.store.booking? "a").bind (·.rescheduledTo),
          (c.store.booking? "b").bind (·.rescheduledTo), c.store.goBack 2 "c")) =
      some (some "b", some "c", some "a") := by decide +kernel
  obtain ⟨c, hplay, hlinks⟩ := Option.map_eq_some_iff.1 hmap
  obtain ⟨hab, hlinks⟩ := Prod.mk.inj hlinks
  obtain ⟨hbc, hback⟩ := Prod.mk.inj hlinks
  have hat : c.AtDesk {} := Reachable.play (.start rfl) hplay
  exact ⟨c, hat, hat.chained, hab, hbc, hback⟩

end Crowd
end Appointments
