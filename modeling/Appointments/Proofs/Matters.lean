-- All that callers ask of the desk, and what no caller ever breaks: templates
-- in the store are sound, and bookings end within the calendar.
import Appointments.Proofs.BlackoutRaces
import Appointments.Proofs.DoubleBookings
import Appointments.Proofs.TemplateCourses
namespace Appointments

/-! ## Matters -/

/-- What callers may ask of the desk. A note or a reason is text, and a flag is
a truth value; everything else may be any value. -/
inductive Matter
  | book (actor : Actor) (request response provider start minutes : Value) (note : Option String)
  | look (actor : Actor) (id : Value)
  | cancel (actor : Actor) (id : Value) (reason : Option String)
  | complete (actor : Actor) (id : Value)
  | reschedule (actor : Actor) (id start minutes : Value) (reason : Option String)
  | list (actor : Actor) (filters : Filters)
  | history (actor : Actor) (id : Value)
  | template (provider : Value)
  | updateTemplate (provider : Value) (updates : List (String × Value))
  | addBlackout (provider start stop : Value) (reason : Option String) (isActive : Bool)
  | removeBlackout (provider blackout : Value)
  | slots (provider : Value) (first last : Request.DayInput) (timeZone : Option String)

/-- What callers are given. -/
inductive Finding
  | booking (b : Booking)
  | bookings (items : List Booking)
  | history (h : History)
  | template (t : Template)
  | blackout (b : Blackout)
  | removed
  | slots (items : List Interval)

def Matter.serve (desk : Desk) : Matter → Action Finding
  | book actor request response provider start minutes note => Finding.booking <$>
    desk.book actor request response provider start minutes (Value.ofOption .text note)
  | look actor id => Finding.booking <$> desk.booking actor id
  | cancel actor id reason => Finding.booking <$>
    desk.cancel actor id (Value.ofOption .text reason)
  | complete actor id => Finding.booking <$> desk.complete actor id
  | reschedule actor id start minutes reason => Finding.booking <$>
    desk.reschedule actor id start minutes (Value.ofOption .text reason)
  | list actor filters => Finding.bookings <$> desk.list actor filters
  | history actor id => Finding.history <$> desk.history actor id
  | template provider => Finding.template <$> desk.template provider
  | updateTemplate provider updates => Finding.template <$> desk.updateTemplate provider updates
  | addBlackout provider start stop reason isActive => Finding.blackout <$>
    desk.addBlackout provider start stop (Value.ofOption .text reason) (.bool isActive)
  | removeBlackout provider blackout => (fun _ => Finding.removed) <$>
    desk.removeBlackout provider blackout
  | slots provider first last timeZone => Finding.slots <$>
    desk.freeSlots provider first last (Value.ofOption .text timeZone)

/-! ## Stores that are in order -/

/-- All templates are sound, and all bookings end within the calendar. -/
structure Store.Proper (zones : Registry) (s : Store) : Prop where
  templates : ∀ t ∈ s.templates.items, t.Sound zones
  records : ∀ r ∈ s.records.items, ∃ x, r.booking.interval = .ok x

/-- Nothing is done to templates. A booking that is inserted takes time, one
that is changed keeps its own, and insertions alone are undone. -/
def Deed.Orderly : Deed → Prop
  | .inserted r _ => r.booking.status ≠ .cancelled
  | .changed u => u.after.booking.asMade = u.before.booking.asMade
  | .undid (.restore _) | .wrote (.saveTemplate _) => False
  | _ => True

section
variable {zones : Registry} {s t : Store} {deed : Deed}

theorem Deed.Writes.records_end (h : deed.Writes s t) (hdeed : deed.Orderly)
    (hs : ∀ r ∈ s.records.items, ∃ x, r.booking.interval = .ok x) :
    ∀ r ∈ t.records.items, ∃ x, r.booking.interval = .ok x := by
  cases h with
  | inserted hinserts =>
    intro x hx
    rw [hinserts.records] at hx
    rcases Shelf.mem_putInto hx with rfl | hx
    · rw [Deed.Orderly, hinserts.booking_eq] at hdeed
      rw [hinserts.booking_eq]
      obtain ⟨a, ha, -⟩ := hinserts.free hdeed
      exact ⟨a, ha⟩
    · exact hs x hx
  | changed hchanges =>
    intro x hx
    rw [hchanges.records] at hx
    rcases Shelf.mem_putInto hx with rfl | hx
    · rw [(Booking.interval_of_asMade hdeed).1]
      exact hs _ (Shelf.mem_of_get? hchanges.before)
    · exact hs x hx
  | removed _ hrecords _ =>
    intro x hx
    rw [hrecords] at hx
    exact hs x (List.mem_of_mem_filter hx)
  | restored => exact hdeed.elim
  | drew hsame | refused hsame | stuck hsame | wrote hsame =>
    rw [hsame.1]
    exact hs

/-- A step of somebody whose deeds are orderly leaves a proper store. -/
theorem Effect.Yields.proper {e : Effect} {r : e.Reply} {l : Ledger} (h : e.Yields s r t)
    (hdeeds : ∀ d ∈ (l.note e r).deeds, d.Orderly) (hs : s.Proper zones) : t.Proper zones where
  templates := by
    cases h.writesHours with
    | none hsame _ =>
      rw [hsame]
      exact hs.templates
    | saved htold _ =>
      cases e with
      | call c =>
        cases htold
        exact (hdeeds _ List.mem_cons_self).elim
      | _ => cases htold
    | added _ hstore | removed hstore =>
      rw [hstore]
      exact hs.templates
  records := by
    rcases h.notes (l := l) with ⟨-, hsame⟩ | ⟨deed, hnew, hwrites⟩
    · rw [hsame.1]
      exact hs.records
    · exact hwrites.records_end (hdeeds deed (hnew ▸ List.mem_cons_self)) hs.records

/-- A program whose deeds stay orderly keeps stores proper. -/
theorem Program.Keeps.minds {α : Type} {x : Program α} {rule : Ledger → Prop}
    {ends : Ledger → α → Prop} {l : Ledger} {past : List Exchange} (h : x.Keeps rule ends l)
    (hrule : ∀ l, rule l → ∀ d ∈ l.deeds, d.Orderly) :
    x.Minds (Store.Proper zones) (fun _ => True) (fun _ _ => True) past := by
  induction x generalizing l past with
  | done a => trivial
  | step e next ih =>
    intro s t r hs hyields
    obtain ⟨hnow, hnext⟩ := h r ⟨s, t, hyields⟩
    exact ⟨hyields.proper (hrule _ hnow) hs, trivial, ih r hnext⟩

end

/-! ## What the desk does keeps stores proper -/

namespace Desk

variable {desk : Desk}

/-- Whatever is done, proper stores stay proper. -/
def KeepsProper (desk : Desk) (a : Action α) : Prop :=
  a.Minds (Store.Proper desk.zones) (fun _ => True) (fun _ _ => True) []

theorem keepsProper_of_minds {a : Action α} {rule : List Exchange → Prop}
    {ends : List Exchange → Except Failure α → Prop}
    (h : a.Minds (Store.Proper desk.zones) rule ends []) (hnil : rule []) : desk.KeepsProper a :=
  Program.Minds.mono h hnil (fun _ _ => trivial) fun _ _ _ _ => trivial

theorem KeepsProper.map {a : Action α} (h : desk.KeepsProper a) (f : α → β) :
    desk.KeepsProper (f <$> a) := Action.minds_map f trivial h fun _ _ _ => trivial

end Desk

theorem Errand.Course.orderly {desk : Desk} {seen : List (String × Booking)} {times : List Instant}
    {errand : Errand} {deeds : List Deed} (h : Course desk seen times errand deeds) :
    ∀ d ∈ deeds, d.Orderly := by
  intro d hd
  cases d with
  | inserted r exclude =>
    have hstatus : Status.confirmed = r.booking.status :=
      congrArg Booking.status (h.inserted hd).as_made
    intro hcancelled
    rw [← hstatus] at hcancelled
    cases hcancelled
  | changed u => exact (h.changed hd).as_made
  | undid u =>
    obtain ⟨r, exclude, rfl, -⟩ := h.undid hd
    trivial
  | wrote c => cases h <;> simp at hd
  | _ => trivial

/-! ## Who only looks -/

namespace Action

/-- Nothing but orderly deeds comes of it. -/
def OnlyLooks (a : Action α) : Prop :=
  ∀ l : Ledger, (∀ d ∈ l.deeds, d.Orderly) →
    a.Keeps (fun l => ∀ d ∈ l.deeds, d.Orderly) (fun _ _ => True) l

theorem Silent.onlyLooks {a : Action α} (h : a.Silent) : a.OnlyLooks :=
  fun _ hl => Program.Silent.keeps h hl fun _ => trivial

theorem onlyLooks_bind {a : Action β} {f : β → Action α} (ha : a.OnlyLooks)
    (hf : ∀ b, (f b).OnlyLooks) : (a >>= f).OnlyLooks := by
  intro l hl
  rw [keeps_bind]
  apply Program.Keeps.mono (ha l hl) hl
  intro l r hl _
  cases r with
  | ok b => exact hf b l hl
  | error why => trivial

theorem onlyLooks_within {scope : Option String} {a : Action α} (h : a.OnlyLooks) :
    (within scope a).OnlyLooks := fun l hl => keeps_within hl (h l hl)

theorem onlyLooks_now : now.OnlyLooks := fun _ hl _ _ => ⟨hl, trivial⟩

theorem onlyLooks_booking (id : String) : (call (.booking id)).OnlyLooks := by
  intro l hl r _
  cases r with
  | error why => exact ⟨hl, trivial⟩
  | ok found => cases found <;> exact ⟨hl, trivial⟩

end Action

namespace Desk

open Appointments.Action

variable {desk : Desk}

theorem keepsProper_of_onlyLooks {a : Action α} (h : a.OnlyLooks) : desk.KeepsProper a :=
  Program.Keeps.minds (h {} fun _ hd => nomatch hd) fun _ => id

theorem onlyLooks_find (id : String) : (find id).OnlyLooks := by
  refine onlyLooks_bind (onlyLooks_booking id) fun found => ?_
  cases found with
  | none => exact (silent_throw _).onlyLooks
  | some b => exact (silent_pure b).onlyLooks

theorem onlyLooks_view (actor : Actor) (id : Value) : (desk.booking actor id).OnlyLooks := by
  unfold booking load
  apply onlyLooks_within
  refine onlyLooks_bind (onlyLooks_bind (silent_lift _).onlyLooks onlyLooks_find) fun b => ?_
  exact onlyLooks_bind (Errand.silent_authorize _ _ _ _).onlyLooks fun _ =>
    (silent_pure _).onlyLooks

theorem onlyLooks_list (actor : Actor) (filters : Filters) :
    (desk.list actor filters).OnlyLooks := by
  have hcall : ∀ q : Store.Query, (call (.list q)).Silent := fun q =>
    silent_call fun r l => by cases r <;> rfl
  unfold list
  apply onlyLooks_within
  apply Silent.onlyLooks
  cases filters.first with
  | none => exact hcall _
  | some first =>
    cases filters.last with
    | none => exact hcall _
    | some last =>
      dsimp only
      split
      · exact silent_bind (silent_throw _) fun _ => hcall _
      · exact hcall _

theorem onlyLooks_history (actor : Actor) (id : Value) : (desk.history actor id).OnlyLooks := by
  unfold history
  apply onlyLooks_within
  refine onlyLooks_bind (silent_lift _).onlyLooks fun id => ?_
  refine onlyLooks_bind (onlyLooks_find id) fun requested => ?_
  apply Silent.onlyLooks
  apply silent_bind (Errand.silent_authorize _ _ _ _)
  intro _
  apply silent_bind (silent_call fun r l => by cases r <;> rfl)
  intro candidates
  refine silent_bind ?_ fun h => ?_
  · unfold checkLinks
    split
    · exact silent_pure _
    · exact silent_bind (silent_log _ _ _) fun _ => silent_throw _
  · split
    · exact silent_bind (silent_log _ _ _) fun _ => silent_pure _
    · exact silent_pure _

theorem onlyLooks_freeSlots (provider : Value) (first last : Request.DayInput)
    (timeZone : Value) : (desk.freeSlots provider first last timeZone).OnlyLooks := by
  have htemplate : (activeTemplate? provider).Silent :=
    silent_bind (silent_call fun r l => by cases r <;> rfl) fun _ => silent_pure _
  unfold freeSlots
  apply onlyLooks_within
  refine onlyLooks_bind htemplate.onlyLooks fun found => ?_
  cases found with
  | none => exact (silent_pure _).onlyLooks
  | some t =>
    refine onlyLooks_bind (silent_lift _).onlyLooks fun name => ?_
    -- Which zone it is does not matter, and must not be computed.
    generalize Request.zone desk.zones name = zone
    refine onlyLooks_bind (silent_lift _).onlyLooks fun zone => ?_
    refine onlyLooks_bind onlyLooks_now fun now => ?_
    apply Silent.onlyLooks
    apply silent_bind (silent_lift _)
    intro first
    apply silent_bind (silent_lift _)
    intro last
    apply silent_bind (silent_lift _)
    intro _
    apply silent_bind (Errand.silent_openings _ _ _ _ _ _)
    intro slots
    unfold capped
    dsimp only
    split
    · exact silent_bind (silent_log _ _ _) fun _ => silent_pure _
    · exact silent_pure _

/-! ## Every matter -/

theorem keepsProper_errand (errand : Errand) : desk.KeepsProper (errand.serve desk) :=
  Program.Keeps.minds (Errand.serve_conduct errand) fun _ => Errand.Course.orderly

theorem savesSound_proper (desk : Desk) : desk.SavesSound (Store.Proper desk.zones) where
  sound _ t hs ht := hs.templates t ht
  saved _ _ hs ht := ⟨fun _ hx => sound_of_mem_saved hs.templates ht hx, hs.records⟩

/-- Nothing that callers may ask of the desk breaks a proper store, at any of
its steps, whatever others do to the store in between. -/
theorem keepsProper_matter (hdefaults : desk.defaults.Valid desk.zones) (m : Matter) :
    desk.KeepsProper (m.serve desk) := by
  cases m with
  | book actor request response provider start minutes note =>
    exact (keepsProper_errand (.book actor request response provider start minutes _)).map _
  | cancel actor id reason => exact (keepsProper_errand (.cancel actor id _)).map _
  | complete actor id => exact (keepsProper_errand (.complete actor id)).map _
  | reschedule actor id start minutes reason =>
    exact (keepsProper_errand (.reschedule actor id start minutes _)).map _
  | look actor id => exact (keepsProper_of_onlyLooks (onlyLooks_view actor id)).map _
  | list actor filters => exact (keepsProper_of_onlyLooks (onlyLooks_list actor filters)).map _
  | history actor id => exact (keepsProper_of_onlyLooks (onlyLooks_history actor id)).map _
  | slots provider first last timeZone =>
    exact (keepsProper_of_onlyLooks (onlyLooks_freeSlots provider first last _)).map _
  | template provider =>
    exact (keepsProper_of_minds
      (minds_template hdefaults desk.savesSound_proper provider []) .idle).map _
  | updateTemplate provider updates =>
    exact (keepsProper_of_minds
      (minds_updateTemplate hdefaults desk.savesSound_proper provider updates) .idle).map _
  | addBlackout provider start stop reason isActive =>
    have hadds : ∀ (s : Store) (b : Blackout), s.Proper desk.zones →
        Store.Proper desk.zones { s with blackouts := s.blackouts.put b } :=
      fun _ _ hs => ⟨hs.templates, hs.records⟩
    exact (keepsProper_of_minds
      (desk.minds_addBlackout hadds provider start stop _ isActive) .idle).map _
  | removeBlackout provider blackout =>
    have hremoves : ∀ (s : Store) (id : String), s.Proper desk.zones →
        Store.Proper desk.zones { s with blackouts := s.blackouts.erase id } :=
      fun _ _ hs => ⟨hs.templates, hs.records⟩
    exact (keepsProper_of_minds
      (desk.minds_removeBlackout hremoves provider blackout) .idle).map _

end Desk

theorem Store.proper_empty (zones : Registry) : Store.Proper zones {} where
  templates _ ht := nomatch ht
  records _ hr := nomatch hr

/-- Whatever any number of callers ask, in any order of their steps, the store
stays proper. -/
theorem Crowd.Reachable.proper {desk : Desk} {opening : Store → Prop} {c : Crowd Matter Finding}
    (h : Reachable (Matter.serve desk) opening c) (hdefaults : desk.defaults.Valid desk.zones)
    (hopening : ∀ s, opening s → s.Proper desk.zones) : c.store.Proper desk.zones := by
  obtain ⟨first, told, hfirst, htold⟩ := reachable_iff_chronicle.1 h
  exact (htold.minding (hopening first hfirst) (desk.keepsProper_matter hdefaults)
    fun _ => trivial).1

end Appointments
