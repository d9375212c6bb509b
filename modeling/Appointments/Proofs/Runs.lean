-- Runs of calls at a desk, whatever the store holds when the first call
-- comes. What the calls have inserted and changed stays in the store as they
-- have left it, and no step gives a booking another id.
import Appointments.Proofs.Courses
import Appointments.Proofs.Steps
namespace Appointments.Crowd

variable {desk : Desk} {opening : Store → Prop} {c d : Crowd Errand Booking}

/-! ## Calls at a desk -/

/-- Each call is on a course of its errand, and stays on it. -/
theorem Reachable.conduct (h : Reachable (Errand.serve desk) opening c) : ∀ call ∈ c.calls,
    Errand.OnCourse desk call.errand call.ledger ∧
      call.rest.Keeps (Errand.OnCourse desk call.errand)
        (fun l r => Errand.Outcome l.deeds r) call.ledger := by
  induction h with
  | start => exact fun call hcall => nomatch hcall
  | @step c d _ hstep ih =>
    intro call hcall
    cases hstep with
    | arrive errand =>
      rcases List.mem_append.1 hcall with hcall | hcall
      · exact ih call hcall
      · obtain rfl := List.mem_singleton.1 hcall
        exact ⟨.idle, Errand.serve_conduct errand⟩
    | @advance i old e next r store hold hrest _ hyields =>
      rcases List.mem_or_eq_of_mem_set hcall with hcall | rfl
      · exact ih call hcall
      · have hkeeps := (ih old (List.mem_of_getElem? hold)).2
        rw [hrest] at hkeeps
        exact hkeeps r ⟨c.store, store, hyields⟩

theorem Reachable.onCourse (h : Reachable (Errand.serve desk) opening c)
    {call : Call Errand Booking} (hcall : call ∈ c.calls) :
    Errand.Course desk call.ledger.seen call.ledger.times call.errand call.ledger.deeds :=
  (h.conduct call hcall).1

/-- A call that has ended has ended as its deeds say. -/
theorem Reachable.outcome (h : Reachable (Errand.serve desk) opening c)
    {call : Call Errand Booking} (hcall : call ∈ c.calls)
    {result : Except Failure Booking} (hresult : call.result? = some result) :
    Errand.Outcome call.ledger.deeds result := by
  have hkeeps := (h.conduct call hcall).2
  unfold Call.result? at hresult
  split at hresult
  · rename_i a hrest
    cases hresult
    rw [hrest] at hkeeps
    exact hkeeps
  · cases hresult

/-! ## Births -/

/-- A call has inserted the record. -/
def Born (c : Crowd Errand Booking) (r : Record) : Prop := ∃ exclude, c.Did (.inserted r exclude)

theorem Step.born_mono (h : Step (Errand.serve desk) c d) {r : Record} (hr : c.Born r) :
    d.Born r := hr.imp fun _ => h.did_mono

theorem born_of_inserted {r q : Record} {exclude : List String}
    (hnew : ∀ x, d.Did x → x = .inserted r exclude ∨ c.Did x) (hq : d.Born q) :
    q = r ∨ c.Born q := by
  obtain ⟨exclude', hq⟩ := hq
  rcases hnew _ hq with heq | hq
  · cases heq
    exact .inl rfl
  · exact .inr ⟨exclude', hq⟩

theorem Reachable.inserted (h : Reachable (Errand.serve desk) opening c)
    {call : Call Errand Booking} (hcall : call ∈ c.calls) {r : Record} {exclude : List String}
    (hr : .inserted r exclude ∈ call.ledger.deeds) :
    Errand.Inserted call.ledger.seen call.errand call.ledger.deeds r exclude :=
  (h.onCourse hcall).inserted hr

theorem Reachable.born_key (h : Reachable (Errand.serve desk) opening c) {r : Record}
    (hr : c.Born r) : r.key = r.booking.id ∧ r.key ≠ "" ∧ r.booking.asMade = r.booking := by
  obtain ⟨exclude, call, hcall, hmem⟩ := hr
  have hinserted := h.inserted hcall hmem
  exact ⟨hinserted.key, h.drawsApart.ne_empty _ ⟨call, hcall, hinserted.drew⟩, hinserted.as_made⟩

/-- One call inserts one record, and the ids of two calls are different. -/
theorem Reachable.inserted_once (h : Reachable (Errand.serve desk) opening c)
    {x y : Call Errand Booking} {r q : Record} {exclude exclude' : List String}
    (hx : x ∈ c.calls) (hy : y ∈ c.calls) (hr : .inserted r exclude ∈ x.ledger.deeds)
    (hq : .inserted q exclude' ∈ y.ledger.deeds) (hkey : r.key = q.key) : x = y ∧ r = q := by
  have hxr := h.inserted hx hr
  have hyq := h.inserted hy hq
  obtain rfl := h.drawsApart.eq hx hy hxr.drew (hkey ▸ hyq.drew)
  exact ⟨rfl, (hyq.only r exclude hr).1⟩

theorem Reachable.born_once (h : Reachable (Errand.serve desk) opening c) {r q : Record}
    (hr : c.Born r) (hq : c.Born q) (hkey : r.key = q.key) : r = q := by
  obtain ⟨exclude, x, hx, hr⟩ := hr
  obtain ⟨exclude', y, hy, hq⟩ := hq
  exact (h.inserted_once hx hy hr hq hkey).2

theorem Reachable.changed (h : Reachable (Errand.serve desk) opening c) {u : Store.Update}
    (hu : c.Did (.changed u)) :
    u.after.key = u.before.key ∧ u.before.booking.status = .confirmed ∧
      u.after.booking.status ≠ .confirmed ∧ u.after.booking.asMade = u.before.booking.asMade := by
  obtain ⟨call, hcall, hmem⟩ := hu
  have hchanged := (h.onCourse hcall).changed hmem
  exact ⟨hchanged.key, hchanged.before, hchanged.after, hchanged.as_made⟩

/-- What has been taken away again has been inserted, by the same call. -/
theorem Reachable.undid (h : Reachable (Errand.serve desk) opening c)
    {call : Call Errand Booking} (hcall : call ∈ c.calls) {r : Record}
    (hr : .undid (.remove r) ∈ call.ledger.deeds) :
    ∃ exclude, .inserted r exclude ∈ call.ledger.deeds := by
  obtain ⟨q, exclude, heq, hq⟩ := (h.onCourse hcall).undid hr
  cases heq
  exact ⟨exclude, hq⟩

/-! ## What a step does -/

theorem Passes.did {before after : Call Errand Booking} (h : c.Passes d before after)
    {deed : Deed} (hdeeds : after.ledger.deeds = deed :: before.ledger.deeds) : d.Did deed :=
  ⟨after, h.mem_after, hdeeds ▸ List.mem_cons_self⟩

/-- What a step at a desk does to the bookings: nothing, or one write of a
call that passes on. No step puts back a booking that was changed. -/
inductive Happens (c d : Crowd Errand Booking) : Prop
  | quiet : c.store.SameRecords d.store → (∀ r, d.Born r → c.Born r) →
      (∀ u, d.Did (.changed u) → c.Did (.changed u)) →
      (∀ v, d.Did (.undid v) → c.Did (.undid v)) → Happens c d
  | inserted {before after : Call Errand Booking} {r : Record} {exclude : List String}
      {b : Booking} : c.Passes d before after →
      after.ledger.deeds = .inserted r exclude :: before.ledger.deeds →
      c.store.Inserts b exclude r d.store →
      (∀ x, d.Did x → x = .inserted r exclude ∨ c.Did x) → Happens c d
  | changed {before after : Call Errand Booking} {u : Store.Update} {id : String}
      {expected : Status} {changes : List Booking.Change} : c.Passes d before after →
      after.ledger.deeds = .changed u :: before.ledger.deeds →
      c.store.Changes id expected changes u d.store →
      (∀ x, d.Did x → x = .changed u ∨ c.Did x) → Happens c d
  | removed {before after : Call Errand Booking} {r : Record} : c.Passes d before after →
      after.ledger.deeds = .undid (.remove r) :: before.ledger.deeds → c.Born r →
      c.store.holds r = true → d.store.records = c.store.records.erase r.booking.id →
      d.store.nextStamp = c.store.nextStamp →
      (∀ x, d.Did x → x = .undid (.remove r) ∨ c.Did x) → Happens c d

theorem Reachable.happens (h : Reachable (Errand.serve desk) opening c)
    (hstep : Step (Errand.serve desk) c d) : c.Happens d := by
  have hd := h.step hstep
  rcases hstep.did with ⟨hsame, hold⟩ | ⟨deed, before, after, hpass, hdeeds, hwrites, -, hnew⟩
  · exact .quiet hsame (fun r hr => hr.imp fun _ => hold _) (fun u => hold _) fun v => hold _
  cases hwrites with
  | inserted hinserts => exact .inserted hpass hdeeds hinserts hnew
  | changed hchanges => exact .changed hpass hdeeds hchanges hnew
  | @removed r _ _ hholds hrecords hstamp =>
    obtain ⟨exclude, hins⟩ := hd.undid hpass.mem_after (hdeeds ▸ List.mem_cons_self)
    rw [hdeeds] at hins
    have hold : .inserted r exclude ∈ before.ledger.deeds :=
      (List.mem_cons.1 hins).resolve_left nofun
    exact .removed hpass hdeeds ⟨exclude, before, hpass.mem_before, hold⟩ hholds hrecords hstamp
      hnew
  | restored =>
    obtain ⟨q, exclude, heq, -⟩ := (hd.onCourse hpass.mem_after).undid
      (hdeeds ▸ List.mem_cons_self)
    cases heq
  | drew hsame | refused hsame | stuck hsame | wrote hsame =>
    exact .quiet hsame (fun r hr => hr.imp fun _ hr => (hnew _ hr).resolve_left nofun)
      (fun u hu => (hnew _ hu).resolve_left nofun) fun v hv => (hnew _ hv).resolve_left nofun

/-! ## What lasts -/

/-- How the store has kept what was inserted and changed. -/
structure Lasting (c : Crowd Errand Booking) : Prop where
  stamp_lt : ∀ r, c.Born r → r.stamp < c.store.nextStamp
  /-- A record with the stamp of an insertion is the one that was inserted. -/
  same : ∀ r x, c.Born r → c.store.records.get? r.key = some x → x.stamp = r.stamp → x = r
  kept : ∀ r, c.Born r → ¬ c.Did (.undid (.remove r)) →
    ∃ x, c.store.records.get? r.key = some x ∧ r.booking = x.booking.asMade
  gone : ∀ r, c.Did (.undid (.remove r)) → c.store.records.get? r.key = none
  /-- Nobody touches a booking that somebody has changed. -/
  settled : ∀ u, c.Did (.changed u) → c.store.records.get? u.after.key = some u.after

/-- What was taken away from the store under its key was the record that was
inserted. -/
theorem Lasting.held (hc : c.Lasting) (h : Reachable (Errand.serve desk) opening c) {r : Record}
    (hr : c.Born r) (hholds : c.store.holds r = true) : c.store.records.get? r.key = some r := by
  obtain ⟨x, hx, hstamp⟩ := Store.holds_iff.1 hholds
  rw [← (h.born_key hr).1] at hx
  obtain rfl := hc.same r x hr hx hstamp
  exact hx

theorem lasting_start {s : Store} : Lasting ⟨s, []⟩ := by
  have hdid : ∀ deed, ¬ Did (⟨s, []⟩ : Crowd Errand Booking) deed :=
    fun deed ⟨_, hcall, _⟩ => nomatch hcall
  have hborn : ∀ r, ¬ Born ⟨s, []⟩ r := fun r ⟨_, hr⟩ => hdid _ hr
  exact ⟨fun r hr => absurd hr (hborn r), fun r x hr => absurd hr (hborn r),
    fun r hr => absurd hr (hborn r), fun r hr => absurd hr (hdid _),
    fun u hu => absurd hu (hdid _)⟩

theorem lasting_quiet (hc : c.Lasting) (h : Step (Errand.serve desk) c d)
    (hsame : c.store.SameRecords d.store) (hborn : ∀ r, d.Born r → c.Born r)
    (hchanged : ∀ u, d.Did (.changed u) → c.Did (.changed u))
    (hundid : ∀ v, d.Did (.undid v) → c.Did (.undid v)) : d.Lasting := by
  refine ⟨?_, ?_, ?_, ?_, ?_⟩
  · intro r hr
    rw [hsame.2]
    exact hc.stamp_lt r (hborn r hr)
  · intro r x hr hx
    rw [hsame.1] at hx
    exact hc.same r x (hborn r hr) hx
  · intro r hr hnot
    rw [hsame.1]
    exact hc.kept r (hborn r hr) fun hdid => hnot (h.did_mono hdid)
  · intro r hr
    rw [hsame.1]
    exact hc.gone r (hundid _ hr)
  · intro u hu
    rw [hsame.1]
    exact hc.settled u (hchanged u hu)

/-- The call that inserts a record has undone nothing yet, and nobody else has
its id. -/
theorem key_ne_of_gone (hd : Reachable (Errand.serve desk) opening d)
    {before after : Call Errand Booking} (hpass : c.Passes d before after) {r q : Record}
    {exclude : List String}
    (hdeeds : after.ledger.deeds = .inserted r exclude :: before.ledger.deeds)
    (hgone : c.Did (.undid (.remove q))) : r.key ≠ q.key := by
  intro hkey
  have hbefore := (hdeeds ▸ hd.onCourse hpass.mem_after).before_inserted
  have hmem : .inserted r exclude ∈ after.ledger.deeds := hdeeds ▸ List.mem_cons_self
  obtain ⟨call, hcall, hundid⟩ := hgone
  rcases hpass.others call hcall with rfl | hcall
  · rw [hbefore] at hundid
    simp at hundid
  · obtain ⟨exclude', hins⟩ := hd.undid hcall hundid
    obtain ⟨rfl, -⟩ := hd.inserted_once hcall hpass.mem_after hins hmem hkey.symm
    rw [hdeeds, hbefore] at hundid
    simp at hundid

theorem lasting_inserted (hc : c.Lasting) (hd : Reachable (Errand.serve desk) opening d)
    (h : Step (Errand.serve desk) c d) {before after : Call Errand Booking}
    (hpass : c.Passes d before after) {b : Booking} {exclude : List String} {r : Record}
    (hdeeds : after.ledger.deeds = .inserted r exclude :: before.ledger.deeds)
    (hinserts : c.store.Inserts b exclude r d.store)
    (hnew : ∀ x, d.Did x → x = .inserted r exclude ∨ c.Did x) : d.Lasting := by
  have hr : d.Born r := ⟨exclude, hpass.did hdeeds⟩
  have hstamp := hinserts.stamp_eq
  refine ⟨?_, ?_, ?_, ?_, ?_⟩
  · intro q hq
    rw [hinserts.stamp]
    rcases born_of_inserted hnew hq with rfl | hq
    · omega
    · have := hc.stamp_lt q hq
      omega
  · intro q x hq hx hstamps
    rw [hinserts.get?] at hx
    rcases born_of_inserted hnew hq with rfl | hq
    · rw [if_pos rfl] at hx
      exact (Option.some.inj hx).symm
    · split at hx
      · cases hx
        have := hc.stamp_lt q hq
        omega
      · exact hc.same q x hq hx hstamps
  · intro q hq hnot
    rw [hinserts.get?]
    rcases born_of_inserted hnew hq with rfl | hborn
    · exact ⟨q, if_pos rfl, (hd.born_key hr).2.2.symm⟩
    · split
      · rename_i hkey
        obtain rfl := hd.born_once hr hq hkey
        exact ⟨r, rfl, (hd.born_key hr).2.2.symm⟩
      · exact hc.kept q hborn fun hdid => hnot (h.did_mono hdid)
  · intro q hq
    have hgone : c.Did (.undid (.remove q)) := (hnew _ hq).resolve_left nofun
    rw [hinserts.get?, if_neg (key_ne_of_gone hd hpass hdeeds hgone)]
    exact hc.gone q hgone
  · intro u hu
    have hsettled := hc.settled u ((hnew _ hu).resolve_left nofun)
    rw [hinserts.get?, if_neg]
    · exact hsettled
    · intro hkey
      have hfresh := hinserts.get?_key
      rw [hkey, hsettled] at hfresh
      cases hfresh

/-- What somebody has changed is not confirmed, and so nobody changes it
again. -/
theorem Lasting.changed_key_ne (hc : c.Lasting) (h : Reachable (Errand.serve desk) opening c)
    {id : String} {expected : Status} {changes : List Booking.Change} {u v : Store.Update}
    (hchanges : c.store.Changes id expected changes u d.store)
    (hconfirmed : u.before.booking.status = .confirmed) (hv : c.Did (.changed v)) :
    u.after.key ≠ v.after.key := by
  intro hkey
  have hsettled := hc.settled v hv
  rw [← hkey, hchanges.get?_key] at hsettled
  have hnot := (h.changed hv).2.2.1
  rw [← Option.some.inj hsettled] at hnot
  exact hnot hconfirmed

theorem lasting_changed (hc : c.Lasting) (hat : Reachable (Errand.serve desk) opening c)
    (h : Step (Errand.serve desk) c d) {id : String} {expected : Status}
    {changes : List Booking.Change} {u : Store.Update}
    (hchanges : c.store.Changes id expected changes u d.store) (hdid : d.Did (.changed u))
    (hnew : ∀ x, d.Did x → x = .changed u ∨ c.Did x) : d.Lasting := by
  obtain ⟨-, hconfirmed, -, hmade⟩ := (hat.step h).changed hdid
  have hborn : ∀ r, d.Born r → c.Born r :=
    fun r hr => hr.imp fun _ hr => (hnew _ hr).resolve_left nofun
  have hstamp := hchanges.stamp_eq
  refine ⟨?_, ?_, ?_, ?_, ?_⟩
  · intro r hr
    rw [hchanges.stamp]
    have := hc.stamp_lt r (hborn r hr)
    omega
  · intro r x hr hx hstamps
    rw [hchanges.get?] at hx
    split at hx
    · cases hx
      have := hc.stamp_lt r (hborn r hr)
      omega
    · exact hc.same r x (hborn r hr) hx hstamps
  · intro r hr hnot
    obtain ⟨x, hx, hrx⟩ := hc.kept r (hborn r hr) fun hdid => hnot (h.did_mono hdid)
    rw [hchanges.get?]
    split
    · rename_i hkey
      rw [← hkey, hchanges.get?_key] at hx
      cases hx
      exact ⟨u.after, rfl, hrx.trans hmade.symm⟩
    · exact ⟨x, hx, hrx⟩
  · intro r hr
    have hgone := hc.gone r ((hnew _ hr).resolve_left nofun)
    rw [hchanges.get?, if_neg]
    · exact hgone
    · intro hkey
      rw [← hkey, hchanges.get?_key] at hgone
      cases hgone
  · intro v hv
    rw [hchanges.get?]
    rcases hnew _ hv with heq | hv
    · cases heq
      exact if_pos rfl
    · rw [if_neg (hc.changed_key_ne hat hchanges hconfirmed hv)]
      exact hc.settled v hv

theorem lasting_removed (hc : c.Lasting) (hat : Reachable (Errand.serve desk) opening c)
    (h : Step (Errand.serve desk) c d) {r : Record} (hr : c.Born r)
    (hholds : c.store.holds r = true)
    (hrecords : d.store.records = c.store.records.erase r.booking.id)
    (hstamp : d.store.nextStamp = c.store.nextStamp) (hdid : d.Did (.undid (.remove r)))
    (hnew : ∀ x, d.Did x → x = .undid (.remove r) ∨ c.Did x) : d.Lasting := by
  have hborn : ∀ q, d.Born q → c.Born q :=
    fun q hq => hq.imp fun _ hq => (hnew _ hq).resolve_left nofun
  have hget : ∀ k, d.store.records.get? k =
      if r.key = k then none else c.store.records.get? k := by
    intro k
    rw [hrecords, Shelf.get?_erase, (hat.born_key hr).1]
  refine ⟨?_, ?_, ?_, ?_, ?_⟩
  · intro q hq
    rw [hstamp]
    exact hc.stamp_lt q (hborn q hq)
  · intro q x hq hx hstamps
    rw [hget] at hx
    split at hx
    · cases hx
    · exact hc.same q x (hborn q hq) hx hstamps
  · intro q hq hnot
    rw [hget, if_neg]
    · exact hc.kept q (hborn q hq) fun hdid => hnot (h.did_mono hdid)
    · intro hk
      obtain rfl := hat.born_once hr (hborn q hq) hk
      exact hnot hdid
  · intro q hq
    rw [hget]
    split
    · rfl
    · rename_i hne
      rcases hnew _ hq with heq | hq
      · cases heq
        exact absurd rfl hne
      · exact hc.gone q hq
  · intro u hu
    have hu := (hnew _ hu).resolve_left nofun
    have hsettled := hc.settled u hu
    rw [hget, if_neg]
    · exact hsettled
    · -- What is taken away is as it was made, and what is settled is not.
      intro hk
      have hheld := hc.held hat hr hholds
      rw [hk, hsettled] at hheld
      have hnot := (hat.changed hu).2.2.1
      rw [Option.some.inj hheld, ← (hat.born_key hr).2.2] at hnot
      exact hnot rfl

theorem lasting_step (hc : c.Lasting) (hat : Reachable (Errand.serve desk) opening c)
    (h : Step (Errand.serve desk) c d) : d.Lasting := by
  cases hat.happens h with
  | quiet hsame hborn hchanged hundid => exact lasting_quiet hc h hsame hborn hchanged hundid
  | inserted hpass hdeeds hinserts hnew =>
    exact lasting_inserted hc (hat.step h) h hpass hdeeds hinserts hnew
  | changed hpass hdeeds hchanges hnew =>
    exact lasting_changed hc hat h hchanges (hpass.did hdeeds) hnew
  | removed hpass hdeeds hr hholds hrecords hstamp hnew =>
    exact lasting_removed hc hat h hr hholds hrecords hstamp (hpass.did hdeeds) hnew

theorem Reachable.lasting (h : Reachable (Errand.serve desk) opening c) : c.Lasting := by
  induction h with
  | start => exact lasting_start
  | step hreach hstep ih => exact lasting_step ih hreach hstep

/-- What a call has inserted and has not taken away again is in the store,
and has changed in nothing that insertions set. -/
theorem Reachable.kept (h : Reachable (Errand.serve desk) opening c)
    {call : Call Errand Booking} (hcall : call ∈ c.calls) {r : Record} {exclude : List String}
    (hr : .inserted r exclude ∈ call.ledger.deeds)
    (hnot : .undid (.remove r) ∉ call.ledger.deeds) :
    ∃ x, c.store.records.get? r.key = some x ∧ r.booking = x.booking.asMade := by
  apply h.lasting.kept r ⟨exclude, call, hcall, hr⟩
  rintro ⟨other, hother, hundid⟩
  obtain ⟨exclude', hins⟩ := h.undid hother hundid
  obtain ⟨rfl, -⟩ := h.inserted_once hcall hother hr hins rfl
  exact hnot hundid

end Appointments.Crowd
