-- What the calls at a desk never take back, whatever the store holds when
-- the first of them comes. Nobody moves a booking twice, a booking that is
-- cancelled or completed never changes again, and a booking that somebody
-- was given stays in the store.
import Appointments.Proofs.RescheduleChains
import Mathlib.Logic.Relation
namespace Appointments

/-! ## What calls are about -/

namespace Errand

/-- The id of the booking that the errand is to cancel, complete or
reschedule. -/
def target? : Errand → Option String
  | book .. => none
  | cancel _ id _ | complete _ id | reschedule _ id _ _ _ => some (Request.id id)

/-- The errand gives a new booking to who comes with it. -/
def Makes : Errand → Prop
  | book .. | reschedule .. => True
  | cancel .. | complete .. => False

variable {desk : Desk} {seen : List (String × Booking)} {times : List Instant} {errand : Errand}
  {deeds : List Deed} {b : Booking}

/-- Who has cancelled, completed or rescheduled a booking has changed the one
that was seen. -/
theorem Outcome.changed_target (h : Outcome deeds (.ok b))
    (hcourse : Course desk seen times errand deeds) {k : String} (hk : errand.target? = some k) :
    ∃ old u, (k, old) ∈ seen ∧ .changed u ∈ deeds ∧ u.after.key = old.id := by
  cases h with
  | booked =>
    cases hcourse with
    | booked => cases hk
  | changed =>
    cases hcourse with
    | cancelled hcancels =>
      obtain ⟨old, now, s, hseen, -, -, -, -, hmakes⟩ := hcancels
      cases hk
      exact ⟨old, _, hseen, List.mem_cons_self, hmakes.after_key⟩
    | completed hcompletes =>
      obtain ⟨old, now, stop, hseen, -, -, -, -, hmakes⟩ := hcompletes
      cases hk
      exact ⟨old, _, hseen, List.mem_cons_self, hmakes.after_key⟩
  | replaced =>
    cases hcourse with
    | replaced hmoves hreplaces =>
      obtain ⟨s, -, hmakes⟩ := hreplaces
      cases hk
      exact ⟨_, _, hmoves.1, List.mem_cons_self, hmakes.after_key⟩

/-- Who was given a new booking has inserted it, and has undone nothing. -/
theorem Outcome.inserted_result (h : Outcome deeds (.ok b))
    (hcourse : Course desk seen times errand deeds) (hmakes : errand.Makes) :
    ∃ r exclude, .inserted r exclude ∈ deeds ∧ r.booking = b ∧ ∀ v, .undid v ∉ deeds := by
  cases h with
  | @booked r => exact ⟨r, [], List.mem_cons_self, rfl, by simp⟩
  | changed =>
    cases hcourse with
    | cancelled => cases hmakes
    | completed => cases hmakes
  | @replaced u r old => exact ⟨r, [old], by simp, rfl, by simp⟩

end Errand

/-- The id of the booking that is kept under a key, or the key itself where
there is none. -/
def Store.idAt (s : Store) (k : String) : String :=
  ((s.records.get? k).map (·.booking.id)).getD k

namespace Crowd

section
variable {serve : ι → Action α} {c d : Crowd ι α}

/-- A call that has ended goes no further. -/
theorem Step.ended (h : Step serve c d) {i : Nat} {call : Call ι α}
    (hcall : c.calls[i]? = some call) {result : Except Failure α}
    (hresult : call.result? = some result) : d.calls[i]? = some call := by
  rcases h.advances with ⟨-, new, -, hcalls⟩ | ⟨j, before, after, hbefore, hgoing, hcalls, -⟩
  · rw [hcalls, List.getElem?_append_left (List.getElem?_eq_some_iff.1 hcall).1]
    exact hcall
  · rw [hcalls, List.getElem?_set_ne]
    · exact hcall
    · rintro rfl
      rw [hcall] at hbefore
      rw [Option.some.inj hbefore, hgoing] at hresult
      cases hresult

end

variable {desk : Desk} {opening : Store → Prop} {c d : Crowd Errand Booking}

/-- One crowd comes about after another one. -/
def Later (desk : Desk) : Crowd Errand Booking → Crowd Errand Booking → Prop :=
  Relation.ReflTransGen (Step (Errand.serve desk))

theorem Reachable.later (h : Reachable (Errand.serve desk) opening c) (hlater : c.Later desk d) :
    Reachable (Errand.serve desk) opening d := by
  induction hlater with
  | refl => exact h
  | tail _ hstep ih => exact ih.step hstep

theorem Later.ended (hlater : c.Later desk d) {i : Nat} {call : Call Errand Booking}
    (hcall : c.calls[i]? = some call) {result : Except Failure Booking}
    (hresult : call.result? = some result) : d.calls[i]? = some call := by
  induction hlater with
  | refl => exact hcall
  | tail _ hstep ih => exact hstep.ended ih hresult

/-! ## The law, as it is stated -/

/-- What the calls so far have settled. -/
structure Permanent (desk : Desk) (c : Crowd Errand Booking) : Prop where
  /-- One call at most has cancelled, completed or rescheduled a booking. -/
  once : ∀ (i j : Nat) (x y : Call Errand Booking) (a b : Booking) (k : String),
    c.calls[i]? = some x → c.calls[j]? = some y →
    x.result? = some (.ok a) → y.result? = some (.ok b) →
    x.errand.target? = some k → y.errand.target? = some k → i = j
  /-- Nobody writes in the place of a booking that is cancelled or
  completed. -/
  final : ∀ d, c.Later desk d → ∀ k r, c.store.records.get? k = some r →
    r.booking.status.isFinal = true → d.store.records.get? k = some r
  /-- A booking that was made stays, for the same people and the same time. -/
  made : ∀ d, c.Later desk d → ∀ call ∈ c.calls, ∀ b, call.result? = some (.ok b) →
    call.errand.Makes → ∃ x, d.store.booking? b.id = some x ∧ x.id = b.id ∧ x.SameParties b ∧
      x.start = b.start ∧ x.minutes = b.minutes ∧ x.rescheduledFrom = b.rescheduledFrom

/-! ## No booking gets another id -/

theorem Reachable.idAt_step (h : Reachable (Errand.serve desk) opening c)
    (hstep : Step (Errand.serve desk) c d) (k : String) : d.store.idAt k = c.store.idAt k := by
  have hd := h.step hstep
  unfold Store.idAt
  cases h.happens hstep with
  | quiet hsame => rw [hsame.1]
  | inserted hpass hdeeds hinserts =>
    rw [hinserts.get?]
    split
    · rename_i hkey
      rw [← hkey, hinserts.get?_key]
      exact (hd.born_key ⟨_, hpass.did hdeeds⟩).1.symm
    · rfl
  | changed hpass hdeeds hchanges =>
    rw [hchanges.get?]
    split
    · rename_i hkey
      rw [← hkey, hchanges.get?_key]
      have hmade := (hd.changed (hpass.did hdeeds)).2.2.2
      have hid := congrArg Booking.id hmade
      exact hid
    · rfl
  | removed _ _ hr hholds hrecords =>
    have hid := (h.born_key hr).1
    rw [hrecords, Shelf.get?_erase, ← hid]
    split
    · rename_i hkey
      rw [← hkey, h.lasting.held h hr hholds]
      exact hid
    · rfl

/-- What a call was shown under a key has the id that is still kept there. -/
theorem Reachable.id_of_saw (h : Reachable (Errand.serve desk) opening c) {k : String}
    {b : Booking} (hsaw : c.Saw k b) : b.id = c.store.idAt k := by
  induction h with
  | start =>
    obtain ⟨call, hcall, -⟩ := hsaw
    cases hcall
  | step hreach hstep ih =>
    rw [hreach.idAt_step hstep]
    rcases hstep.saw hsaw with hsaw | hstored
    · exact ih hsaw
    · obtain ⟨x, hx, rfl⟩ := Store.booking?_eq_some.1 hstored
      unfold Store.idAt
      rw [hx]
      rfl

/-! ## Nobody moves a booking twice -/

/-- Both deeds have changed what is kept under one key. -/
def ChangeOne (a b : Deed) : Prop :=
  ∃ u v : Store.Update, a = .changed u ∧ b = .changed v ∧ u.after.key = v.after.key

/-- No two calls change what is kept under one key. -/
theorem Reachable.changesApart (h : Reachable (Errand.serve desk) opening c) :
    c.Apart ChangeOne := by
  induction h with
  | start =>
    intro i j x y a b hx
    cases hx
  | @step c d hreach hstep ih =>
    rcases hstep.advances with
      ⟨-, call, hcall, hcalls⟩ | ⟨i, before, after, hbefore, -, hcalls, hpass⟩
    · exact ih.arrive hcall hcalls
    refine ih.advance hbefore hcalls ?_ fun a ha => ?_
    · rintro _ _ ⟨u, v, rfl, rfl, hkey⟩
      exact ⟨v, u, rfl, rfl, hkey.symm⟩
    rcases hpass.deeds with ⟨hsame, -⟩ | ⟨deed, hdeeds, hwrites⟩
    · exact .inl (hsame ▸ ha)
    rcases List.mem_cons.1 (hdeeds ▸ ha) with rfl | hold
    · right
      rintro _ hv ⟨u, v, rfl, rfl, hkey⟩
      cases hwrites with
      | changed hchanges =>
        have hconfirmed := ((hreach.step hstep).changed (hpass.did hdeeds)).2.1
        exact hreach.lasting.changed_key_ne hreach hchanges hconfirmed hv hkey
    · exact .inl hold

/-- Two calls that have both moved the booking with one id are the same. -/
theorem Reachable.moved_once (h : Reachable (Errand.serve desk) opening c) {i j : Nat}
    {x y : Call Errand Booking} {a b : Booking} {k : String} (hx : c.calls[i]? = some x)
    (hy : c.calls[j]? = some y) (hxa : x.result? = some (.ok a)) (hyb : y.result? = some (.ok b))
    (hxk : x.errand.target? = some k) (hyk : y.errand.target? = some k) : i = j := by
  -- Each of them has changed what is kept under the id that is kept under `k`.
  have hchanged : ∀ {z : Call Errand Booking} {e : Booking}, z ∈ c.calls →
      z.result? = some (.ok e) → z.errand.target? = some k →
      ∃ u, .changed u ∈ z.ledger.deeds ∧ u.after.key = c.store.idAt k := by
    intro z e hz hresult htarget
    obtain ⟨old, u, hseen, hu, hkey⟩ :=
      (h.outcome hz hresult).changed_target (h.onCourse hz) htarget
    exact ⟨u, hu, hkey.trans (h.id_of_saw ⟨z, hz, hseen⟩)⟩
  obtain ⟨u, hu, hukey⟩ := hchanged (List.mem_of_getElem? hx) hxa hxk
  obtain ⟨v, hv, hvkey⟩ := hchanged (List.mem_of_getElem? hy) hyb hyk
  exact h.changesApart i j x y _ _ hx hy hu hv ⟨u, v, rfl, rfl, hukey.trans hvkey.symm⟩

/-! ## What is final, and what was made -/

theorem Reachable.final_step (h : Reachable (Errand.serve desk) opening c)
    (hstep : Step (Errand.serve desk) c d) {k : String} {x : Record}
    (hx : c.store.records.get? k = some x) (hfinal : x.booking.status.isFinal = true) :
    d.store.records.get? k = some x := by
  have hconfirmed : x.booking.status ≠ .confirmed := by
    intro heq
    rw [heq] at hfinal
    cases hfinal
  cases h.happens hstep with
  | quiet hsame =>
    rw [hsame.1]
    exact hx
  | inserted _ _ hinserts =>
    rw [hinserts.get?, if_neg]
    · exact hx
    · rintro rfl
      rw [hinserts.get?_key] at hx
      cases hx
  | changed hpass hdeeds hchanges =>
    rw [hchanges.get?, if_neg]
    · exact hx
    · rintro rfl
      rw [hchanges.get?_key] at hx
      cases hx
      exact hconfirmed ((h.step hstep).changed (hpass.did hdeeds)).2.1
  | removed _ _ hr hholds hrecords =>
    obtain ⟨hid, -, hmade⟩ := h.born_key hr
    rw [hrecords, Shelf.get?_erase, ← hid, if_neg]
    · exact hx
    · -- What is taken away is as it was made.
      rintro rfl
      rw [h.lasting.held h hr hholds] at hx
      cases hx
      rw [← hmade] at hconfirmed
      exact hconfirmed rfl

theorem Reachable.final_later (h : Reachable (Errand.serve desk) opening c)
    (hlater : c.Later desk d) {k : String} {x : Record} (hx : c.store.records.get? k = some x)
    (hfinal : x.booking.status.isFinal = true) : d.store.records.get? k = some x := by
  induction hlater with
  | refl => exact hx
  | tail hlater hstep ih => exact (h.later hlater).final_step hstep ih hfinal

/-- A booking that somebody was given stays in the store, and changes in
nothing that its insertion has set. -/
theorem Reachable.made_kept (h : Reachable (Errand.serve desk) opening c)
    {call : Call Errand Booking} (hcall : call ∈ c.calls) {b : Booking}
    (hresult : call.result? = some (.ok b)) (hmakes : call.errand.Makes) :
    ∃ x, c.store.booking? b.id = some x ∧ b = x.asMade := by
  obtain ⟨r, exclude, hr, rfl, hnot⟩ :=
    (h.outcome hcall hresult).inserted_result (h.onCourse hcall) hmakes
  obtain ⟨x, hx, hmade⟩ := h.kept hcall hr (hnot _)
  rw [(h.born_key ⟨exclude, call, hcall, hr⟩).1] at hx
  exact ⟨x.booking, Store.booking?_eq_some.2 ⟨x, hx, rfl⟩, hmade⟩

/-! ## The law -/

/-- Whatever people ask of the desk, in whatever order their steps come, and
whatever was in the store before: bookings move at most once, and are never
lost. -/
theorem Reachable.permanent (h : Reachable (Errand.serve desk) opening c) :
    c.Permanent desk where
  once _ _ _ _ _ _ _ hx hy hxa hyb hxk hyk := h.moved_once hx hy hxa hyb hxk hyk
  final _ hlater _ _ hr hfinal := h.final_later hlater hr hfinal
  made d hlater call hcall b hresult hmakes := by
    obtain ⟨i, hi⟩ := List.getElem?_of_mem hcall
    have hd := List.mem_of_getElem? (hlater.ended hi hresult)
    obtain ⟨x, hx, rfl⟩ := (h.later hlater).made_kept hd hresult hmakes
    exact ⟨x, hx, rfl, ⟨rfl, rfl, rfl, rfl⟩, rfl, rfl, rfl⟩

open Practice in
/-- The patient moves a booking by an hour and cancels it at the same time.
Both calls have seen it confirmed, and the one that cancels comes too late. -/
theorem moved_booking_is_not_cancelled : ∃ c : Crowd Errand Booking,
    Reachable (Errand.serve {}) (· = Practice.opening) c ∧ c.Permanent {} ∧
      c.calls.map (fun call => call.result?.map (·.isOk)) =
        [some true, some true, some false] ∧
      (c.store.booking? "a").bind (·.rescheduledTo) = some "b" := by
  have hmap : (crowdAfter (.arrive booking :: go 0 30 "a" ++
      .arrive (moving "a" "2026-03-02T11:00:00Z") ::
      .arrive (.cancel patient (.text "a") .null) :: go 1 12 "b" ++ go 2 3 "" ++ go 1 30 "b" ++
      go 2 30 "")).map
        (fun c => (c.calls.map (fun call => call.result?.map (·.isOk)),
          (c.store.booking? "a").bind (·.rescheduledTo))) =
      some ([some true, some true, some false], some "b") := by decide +kernel
  obtain ⟨c, hplay, hends⟩ := Option.map_eq_some_iff.1 hmap
  obtain ⟨hresults, hto⟩ := Prod.mk.inj hends
  have hreach : Reachable (Errand.serve {}) (· = Practice.opening) c := Reachable.play (.start rfl) hplay
  exact ⟨c, hreach, hreach.permanent, hresults, hto⟩

end Crowd
end Appointments
