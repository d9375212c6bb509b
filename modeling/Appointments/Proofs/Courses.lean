-- The courses that errands about bookings take: which writes each of them
-- makes, in which order, and what it has seen and checked before.
import Appointments.Proofs.Checks
import Appointments.Proofs.Conduct
import Appointments.Proofs.StoreWrites
namespace Appointments

/-! ## What the writes have to be -/

/-- The booking that a client makes. -/
def Booking.made (id request response provider client : String) (start : Instant) (minutes : Int)
    (note : Option String) : Booking where
  id := id
  request := request
  response := response
  provider := provider
  client := client
  start := start
  minutes := minutes
  status := .confirmed
  cancelledAt := none
  cancelledBy := none
  cancelReason := none
  rescheduledFrom := none
  rescheduledTo := none
  rescheduledAt := none
  rescheduleReason := none
  metadata := Desk.metadataOf note

/-- The booking as it was before anything happened to it. -/
def Booking.asMade (b : Booking) : Booking :=
  { b with
    status := .confirmed, cancelledAt := none, cancelledBy := none, cancelReason := none
    rescheduledTo := none, rescheduledAt := none, rescheduleReason := none }

/-- The update makes these changes to the confirmed booking under this id. -/
structure Store.Update.Makes (u : Store.Update) (id : String) (changes : List Booking.Change) :
    Prop where
  before_key : u.before.key = id
  after_key : u.after.key = id
  confirmed : u.before.booking.status = .confirmed
  booking : u.after.booking = u.before.booking.change changes

namespace Errand

section
variable (desk : Desk) (seen : List (String × Booking)) (times : List Instant)

/-- `r` is a new booking with what the client has asked for. -/
def Books (actor : Actor) (request response provider start minutes note : Value) (r : Record) :
    Prop :=
  r.key = r.booking.id ∧ ∃ now ∈ times, ∃ t n s,
    Desk.futureStart now start = .ok t ∧
    desk.duration desk.bookings.defaultMinutes minutes = .ok n ∧
    Request.text (some Booking.maxReasonLength) note = .ok s ∧
    r.booking = .made r.booking.id (Request.id request) (Request.id response)
      (Request.id provider) actor.id t n s

/-- `u` cancels the booking that was seen confirmed, and early enough. -/
def Cancels (actor : Actor) (id reason : Value) (u : Store.Update) : Prop :=
  ∃ b now s, (Request.id id, b) ∈ seen ∧ now ∈ times ∧ b.status = .confirmed ∧
    Desk.checkNotice .cancel desk.bookings.cancelHours now b = .ok () ∧
    Request.text (some Booking.maxReasonLength) reason = .ok s ∧
    u.Makes b.id [.status .cancelled, .cancelledAt (some now), .cancelledBy (some actor.role),
      .cancelReason s]

/-- `u` completes the booking that was seen confirmed, and has ended. -/
def Completes (id : Value) (u : Store.Update) : Prop :=
  ∃ b now stop, (Request.id id, b) ∈ seen ∧ now ∈ times ∧ b.status = .confirmed ∧
    b.stop = .ok stop ∧ stop ≤ now ∧ u.Makes b.id [.status .completed]

/-- `r` is to replace the booking `old`, which was seen confirmed and early
enough before it starts. -/
def Moves (id start minutes : Value) (old : Booking) (now : Instant) (r : Record) : Prop :=
  (Request.id id, old) ∈ seen ∧ now ∈ times ∧ old.status = .confirmed ∧
    Desk.checkNotice .reschedule desk.bookings.rescheduleHours now old = .ok () ∧
    r.key = r.booking.id ∧ ∃ t n, Desk.futureStart now start = .ok t ∧
      desk.duration old.minutes minutes = .ok n ∧
      r.booking = Desk.successor old r.booking.id t n

/-- `u` cancels the booking `old` in favour of the one in `r`. -/
def Replaces (reason : Value) (old : Booking) (now : Instant) (r : Record) (u : Store.Update) :
    Prop :=
  ∃ s, Request.text (some Booking.maxReasonLength) reason = .ok s ∧
    u.Makes old.id [.status .cancelled, .rescheduledTo (some r.booking.id),
      .rescheduledAt (some now), .rescheduleReason s]

/-! ## Courses -/

/-- The deeds of a call with this errand, latest first, at any moment. -/
inductive Course : Errand → List Deed → Prop
  | idle {errand : Errand} : Course errand []
  | drew {errand : Errand} {id : String} : Course errand [.drew id]
  | notInserted {errand : Errand} {c : StoreCall} {id : String} :
      Course errand [.refused c, .drew id]
  | notChanged {errand : Errand} {c : StoreCall} : Course errand [.refused c]
  | booked {actor : Actor} {request response provider start minutes note : Value} {r : Record} :
      Books desk times actor request response provider start minutes note r →
      Course (book actor request response provider start minutes note)
        [.inserted r [], .drew r.booking.id]
  | cancelled {actor : Actor} {id reason : Value} {u : Store.Update} :
      Cancels desk seen times actor id reason u → Course (cancel actor id reason) [.changed u]
  | completed {actor : Actor} {id : Value} {u : Store.Update} :
      Completes seen times id u → Course (complete actor id) [.changed u]
  | moved {actor : Actor} {id start minutes reason : Value} {old : Booking} {now : Instant}
      {r : Record} : Moves desk seen times id start minutes old now r →
      Course (reschedule actor id start minutes reason)
        [.inserted r [old.id], .drew r.booking.id]
  | replaced {actor : Actor} {id start minutes reason : Value} {old : Booking} {now : Instant}
      {r : Record} {u : Store.Update} : Moves desk seen times id start minutes old now r →
      Replaces reason old now r u →
      Course (reschedule actor id start minutes reason)
        [.changed u, .inserted r [old.id], .drew r.booking.id]
  /-- The old booking could not be changed, and the new one is to go again. -/
  | stranded {actor : Actor} {id start minutes reason : Value} {old : Booking} {now : Instant}
      {r : Record} {c : StoreCall} : Moves desk seen times id start minutes old now r →
      Course (reschedule actor id start minutes reason)
        [.refused c, .inserted r [old.id], .drew r.booking.id]
  | withdrawn {actor : Actor} {id start minutes reason : Value} {old : Booking} {now : Instant}
      {r : Record} {c : StoreCall} : Moves desk seen times id start minutes old now r →
      Course (reschedule actor id start minutes reason)
        [.undid (.remove r), .refused c, .inserted r [old.id], .drew r.booking.id]
  | left {actor : Actor} {id start minutes reason : Value} {old : Booking} {now : Instant}
      {r : Record} {c : StoreCall} : Moves desk seen times id start minutes old now r →
      Course (reschedule actor id start minutes reason)
        [.stuck (.remove r), .refused c, .inserted r [old.id], .drew r.booking.id]

/-- The rule that a call with this errand keeps. -/
def OnCourse (errand : Errand) (l : Ledger) : Prop := Course desk l.seen l.times errand l.deeds

end

/-! ## What stands in a course -/

section
variable {desk : Desk} {seen : List (String × Booking)} {times : List Instant} {errand : Errand}
  {deeds : List Deed} {r : Record} {exclude : List String} {u : Store.Update}

/-- What is known of a record that a call has inserted. -/
structure Inserted (seen : List (String × Booking)) (errand : Errand) (deeds : List Deed)
    (r : Record) (exclude : List String) : Prop where
  key : r.key = r.booking.id
  drew : .drew r.key ∈ deeds
  as_made : r.booking.asMade = r.booking
  only : ∀ r' exclude', .inserted r' exclude' ∈ deeds → r' = r ∧ exclude' = exclude
  origin : (exclude = [] ∧ r.booking.rescheduledFrom = none) ∨
    ∃ k old t n, exclude = [old.id] ∧ errand.Reschedules k ∧ (k, old) ∈ seen ∧
      r.booking = Desk.successor old r.booking.id t n

theorem Books.inserted {actor : Actor} {request response provider start minutes note : Value}
    (h : Books desk times actor request response provider start minutes note r) :
    r.key = r.booking.id ∧ r.booking.asMade = r.booking ∧ r.booking.rescheduledFrom = none := by
  obtain ⟨hkey, now, -, t, n, s, -, -, -, hr⟩ := h
  rw [hr]
  exact ⟨hr ▸ hkey, rfl, rfl⟩

theorem Moves.inserted {id start minutes : Value} {old : Booking} {now : Instant}
    (h : Moves desk seen times id start minutes old now r) (actor : Actor) (reason : Value) :
    r.key = r.booking.id ∧ r.booking.asMade = r.booking ∧
      ∃ k t n, (reschedule actor id start minutes reason).Reschedules k ∧ (k, old) ∈ seen ∧
        r.booking = Desk.successor old r.booking.id t n := by
  obtain ⟨hseen, -, -, -, hkey, t, n, -, -, hr⟩ := h
  refine ⟨hkey, ?_, Request.id id, t, n, ⟨_, _, _, _, _, rfl, rfl⟩, hseen, hr⟩
  rw [hr]
  rfl

theorem Course.inserted (h : Course desk seen times errand deeds)
    (hmem : .inserted r exclude ∈ deeds) : Inserted seen errand deeds r exclude := by
  cases h with
  | booked hbooks =>
    obtain ⟨hkey, hmade, hfrom⟩ := hbooks.inserted
    simp only [List.mem_cons, Deed.inserted.injEq, reduceCtorEq, List.not_mem_nil, or_false] at hmem
    obtain ⟨rfl, rfl⟩ := hmem
    exact ⟨hkey, by simp [hkey], hmade, by simp, .inl ⟨rfl, hfrom⟩⟩
  | @moved actor _ _ _ reason _ _ _ hmoves | @replaced actor _ _ _ reason _ _ _ _ hmoves _
  | @stranded actor _ _ _ reason _ _ _ _ hmoves | @withdrawn actor _ _ _ reason _ _ _ _ hmoves
  | @left actor _ _ _ reason _ _ _ _ hmoves =>
    obtain ⟨hkey, hmade, k, t, n, hfor, hseen, hr⟩ :=
      hmoves.inserted actor reason
    simp only [List.mem_cons, Deed.inserted.injEq, reduceCtorEq, List.not_mem_nil, or_false,
      false_or] at hmem
    obtain ⟨rfl, rfl⟩ := hmem
    exact ⟨hkey, by simp [hkey], hmade, by simp, .inr ⟨k, _, t, n, rfl, hfor, hseen, hr⟩⟩
  | _ => simp at hmem

/-- A booking takes as long as the settings allow. -/
theorem Course.minutes_within (h : Course desk seen times errand deeds)
    (hmem : .inserted r exclude ∈ deeds) :
    desk.bookings.minMinutes ≤ r.booking.minutes ∧
      r.booking.minutes ≤ desk.bookings.maxMinutes := by
  have hmoves : ∀ {id start minutes : Value} {old : Booking} {now : Instant} {q : Record},
      Moves desk seen times id start minutes old now q →
      desk.bookings.minMinutes ≤ q.booking.minutes ∧
        q.booking.minutes ≤ desk.bookings.maxMinutes := by
    rintro id start minutes old now q ⟨-, -, -, -, -, t, n, -, hn, hq⟩
    rw [hq]
    exact Desk.duration_eq_ok hn
  cases h with
  | booked hbooks =>
    obtain ⟨-, now, -, t, n, s, -, hn, -, hr⟩ := hbooks
    simp only [List.mem_cons, Deed.inserted.injEq, reduceCtorEq, List.not_mem_nil, or_false] at hmem
    obtain ⟨rfl, rfl⟩ := hmem
    rw [hr]
    exact Desk.duration_eq_ok hn
  | moved hmove | replaced hmove _ | stranded hmove | withdrawn hmove | left hmove =>
    simp only [List.mem_cons, Deed.inserted.injEq, reduceCtorEq, List.not_mem_nil, or_false,
      false_or] at hmem
    obtain ⟨rfl, rfl⟩ := hmem
    exact hmoves hmove
  | _ => simp at hmem

/-- Before a call inserts something it has only drawn an id. -/
theorem Course.before_inserted
    (h : Course desk seen times errand (.inserted r exclude :: deeds)) :
    deeds = [.drew r.booking.id] := by
  cases h <;> rfl

/-- What is known of a change that a call has made. -/
structure Changed (deeds : List Deed) (u : Store.Update) : Prop where
  key : u.after.key = u.before.key
  before : u.before.booking.status = .confirmed
  after : u.after.booking.status ≠ .confirmed
  as_made : u.after.booking.asMade = u.before.booking.asMade
  link : ((∀ r exclude, .inserted r exclude ∉ deeds) ∧
      u.after.booking.rescheduledTo = u.before.booking.rescheduledTo) ∨
    ∃ r, .inserted r [u.after.key] ∈ deeds ∧ u.after.booking.status = .cancelled ∧
      u.after.booking.rescheduledTo = some r.booking.id

theorem changed_of_makes {id : String} {changes : List Booking.Change} (h : u.Makes id changes)
    (hafter : ∀ b : Booking, (b.change changes).status ≠ .confirmed)
    (hmade : ∀ b : Booking, (b.change changes).asMade = b.asMade)
    (hlink : ((∀ r exclude, .inserted r exclude ∉ deeds) ∧
        ∀ b : Booking, (b.change changes).rescheduledTo = b.rescheduledTo) ∨
      ∃ r, .inserted r [id] ∈ deeds ∧ ∀ b : Booking, (b.change changes).status = .cancelled ∧
        (b.change changes).rescheduledTo = some r.booking.id) :
    Changed deeds u := by
  refine ⟨h.after_key.trans h.before_key.symm, h.confirmed, ?_, ?_, ?_⟩
  · rw [h.booking]
    exact hafter _
  · rw [h.booking]
    exact hmade _
  · rw [h.booking, h.after_key]
    exact hlink.imp (fun ⟨hnone, hto⟩ => ⟨hnone, hto _⟩) fun ⟨r, hr, hto⟩ => ⟨r, hr, hto _⟩

theorem Course.changed (h : Course desk seen times errand deeds) (hmem : .changed u ∈ deeds) :
    Changed deeds u := by
  cases h with
  | cancelled hcancels =>
    obtain ⟨b, now, s, -, -, -, -, -, hmakes⟩ := hcancels
    simp only [List.mem_cons, Deed.changed.injEq, List.not_mem_nil, or_false] at hmem
    subst hmem
    exact changed_of_makes hmakes (fun _ => nofun) (fun _ => rfl) (.inl ⟨by simp, fun _ => rfl⟩)
  | completed hcompletes =>
    obtain ⟨b, now, stop, -, -, -, -, -, hmakes⟩ := hcompletes
    simp only [List.mem_cons, Deed.changed.injEq, List.not_mem_nil, or_false] at hmem
    subst hmem
    exact changed_of_makes hmakes (fun _ => nofun) (fun _ => rfl) (.inl ⟨by simp, fun _ => rfl⟩)
  | @replaced _ _ _ _ _ _ _ r _ _ hreplaces =>
    obtain ⟨s, -, hmakes⟩ := hreplaces
    simp only [List.mem_cons, Deed.changed.injEq, reduceCtorEq, List.not_mem_nil, or_false] at hmem
    subst hmem
    exact changed_of_makes hmakes (fun _ => nofun) (fun _ => rfl)
      (.inr ⟨r, by simp, fun _ => ⟨rfl, rfl⟩⟩)
  | _ => simp at hmem

/-- Who has changed a booking has cancelled it, or completed it, or replaced
it by one that was inserted before. -/
theorem Course.how_changed (h : Course desk seen times errand deeds) (hmem : .changed u ∈ deeds) :
    (∃ actor id reason, Cancels desk seen times actor id reason u) ∨
      (∃ id, Completes seen times id u) ∨
      ∃ id start minutes reason old now r, Moves desk seen times id start minutes old now r ∧
        Replaces reason old now r u ∧ .inserted r [old.id] ∈ deeds := by
  cases h with
  | cancelled hcancels =>
    simp only [List.mem_cons, Deed.changed.injEq, List.not_mem_nil, or_false] at hmem
    subst hmem
    exact .inl ⟨_, _, _, hcancels⟩
  | completed hcompletes =>
    simp only [List.mem_cons, Deed.changed.injEq, List.not_mem_nil, or_false] at hmem
    subst hmem
    exact .inr (.inl ⟨_, hcompletes⟩)
  | replaced hmoves hreplaces =>
    simp only [List.mem_cons, Deed.changed.injEq, reduceCtorEq, List.not_mem_nil, or_false] at hmem
    subst hmem
    exact .inr (.inr ⟨_, _, _, _, _, _, _, hmoves, hreplaces, by simp⟩)
  | _ => simp at hmem

/-- A call that has changed a booking does not undo anything. -/
theorem Course.changed_not_undid {v : Store.Undo} (h : Course desk seen times errand deeds)
    (hchanged : .changed u ∈ deeds) : .undid v ∉ deeds := by
  cases h with
  | withdrawn => simp at hchanged
  | _ => simp

/-- Only insertions are undone. -/
theorem Course.undid {v : Store.Undo} (h : Course desk seen times errand deeds)
    (hmem : .undid v ∈ deeds) : ∃ r exclude, v = .remove r ∧ .inserted r exclude ∈ deeds := by
  cases h with
  | @withdrawn _ _ _ _ _ old _ r =>
    simp only [List.mem_cons, Deed.undid.injEq, reduceCtorEq, List.not_mem_nil, or_false] at hmem
    exact ⟨r, [old.id], hmem, by simp⟩
  | _ => simp at hmem

end

/-- How calls end after their deeds. -/
inductive Outcome : List Deed → Except Failure Booking → Prop
  | idle {why : Failure} : Outcome [] (.error why)
  | drew {id : String} {why : Failure} : Outcome [.drew id] (.error why)
  | notInserted {c : StoreCall} {id : String} {why : Failure} :
      Outcome [.refused c, .drew id] (.error why)
  | notChanged {c : StoreCall} {why : Failure} : Outcome [.refused c] (.error why)
  | booked {r : Record} {id : String} : Outcome [.inserted r [], .drew id] (.ok r.booking)
  | changed {u : Store.Update} : Outcome [.changed u] (.ok u.after.booking)
  | replaced {u : Store.Update} {r : Record} {old id : String} :
      Outcome [.changed u, .inserted r [old], .drew id] (.ok r.booking)
  | withdrawn {u : Store.Undo} {c : StoreCall} {r : Record} {old id : String} {why : Failure} :
      Outcome [.undid u, .refused c, .inserted r [old], .drew id] (.error why)
  | left {u : Store.Undo} {c : StoreCall} {r : Record} {old id : String} {why : Corruption} :
      Outcome [.stuck u, .refused c, .inserted r [old], .drew id] (.error (.corrupted why))

/-- A call that has inserted a record for another one and has ended has
changed the other one, or has taken the record away again, or has left
corruption. -/
theorem Outcome.inserted {desk : Desk} {seen : List (String × Booking)} {times : List Instant}
    {errand : Errand} {deeds : List Deed} {r : Record} {old : String}
    {result : Except Failure Booking} (h : Outcome deeds result)
    (hcourse : Course desk seen times errand deeds) (hmem : .inserted r [old] ∈ deeds) :
    (∃ u, .changed u ∈ deeds) ∨ .undid (.remove r) ∈ deeds ∨
      ∃ why, result = .error (.corrupted why) := by
  cases h with
  | replaced => exact .inl ⟨_, List.mem_cons_self⟩
  | withdrawn => cases hcourse with
    | withdrawn =>
      simp only [List.mem_cons, Deed.inserted.injEq, reduceCtorEq, List.not_mem_nil, or_false,
        false_or] at hmem
      obtain ⟨rfl, -⟩ := hmem
      exact .inr (.inl List.mem_cons_self)
  | left => exact .inr (.inr ⟨_, rfl⟩)
  | _ => simp at hmem

/-! ## What the store may answer to a write -/

theorem honest_insert {b : Booking} {exclude : List String} {r : Record}
    (h : (Effect.call (.insert b exclude)).Honest (.ok r)) : r.key = b.id ∧ r.booking = b := by
  obtain ⟨s, t, h⟩ := h
  simp only [Effect.Yields, StoreCall.answer] at h
  split at h
  · rename_i reply after hinsert
    cases h.1
    rw [(Store.insert_eq_ok hinsert).record]
    exact ⟨rfl, rfl⟩
  · cases h.1

theorem honest_update {id : String} {changes : List Booking.Change} {u : Store.Update}
    (h : (Effect.call (.update id .confirmed changes)).Honest (.ok u)) : u.Makes id changes := by
  obtain ⟨s, t, h⟩ := h
  simp only [Effect.Yields, StoreCall.answer] at h
  split at h
  · rename_i reply after hupdate
    cases h.1
    have hchanges := Store.update_eq_ok hupdate
    refine ⟨Shelf.key_of_get? hchanges.before, ?_, hchanges.status, ?_⟩
    · rw [hchanges.after]
    · rw [hchanges.after]
  · cases h.1

/-! ## Parts that leave no trace -/

theorem silent_authorize (op : Operation) (actor : Actor) (client provider : Option String) :
    (Desk.authorize op actor client provider).Silent := by
  unfold Desk.authorize
  dsimp only
  split
  · exact Action.silent_pure _
  · exact Action.silent_bind (Action.silent_log _ _ _) fun _ => Action.silent_throw _

theorem silent_openings (desk : Desk) (t : Template) (first last : Day) (zoneName : String)
    (exclude : List String) : (desk.openings t first last zoneName exclude).Silent := by
  unfold Desk.openings
  -- Which zone it is does not matter, and must not be computed.
  generalize Request.zone desk.zones zoneName = zone
  apply Action.silent_bind (Action.silent_lift _)
  intro window
  refine Action.silent_bind (Action.silent_call fun r l => ?_) fun blackouts => ?_
  · cases r <;> rfl
  refine Action.silent_bind (Action.silent_call fun r l => ?_) fun bookings => ?_
  · cases r <;> rfl
  apply Action.silent_bind (Action.silent_lift _)
  intro zone
  apply Action.silent_bind (Action.silent_forM _ _ fun _ => Action.silent_log _ _ _)
  intro _
  apply Action.silent_bind (Action.silent_lift _)
  intro found
  exact Action.silent_bind (Action.silent_log _ _ _) fun _ => Action.silent_pure _

theorem silent_freeSlotsAround (desk : Desk) (provider : Value) (t : Instant)
    (exclude : List String) : (desk.freeSlotsAround provider t exclude).Silent := by
  unfold Desk.freeSlotsAround
  refine Action.silent_within (Action.silent_bind ?_ fun found => ?_)
  · refine Action.silent_bind (Action.silent_call fun r l => ?_) fun _ => Action.silent_pure _
    cases r <;> rfl
  · cases found with
    | none => exact Action.silent_pure _
    | some template =>
      dsimp only
      generalize Request.zone desk.zones template.timeZone = zone
      apply Action.silent_bind (Action.silent_lift _)
      intro zone
      apply Action.silent_bind (Action.silent_lift _)
      intro day
      apply Action.silent_bind (Action.silent_lift _)
      intro first
      apply Action.silent_bind (Action.silent_lift _)
      intro last
      exact silent_openings ..

theorem silent_checkSlot (desk : Desk) (provider : String) (start : Instant) (minutes : Int)
    (exclude : List String) : (desk.checkSlot provider start minutes exclude).Silent := by
  unfold Desk.checkSlot
  apply Action.silent_bind (Action.silent_lift _)
  intro length
  apply Action.silent_bind (Action.silent_lift _)
  intro stop
  apply Action.silent_bind (silent_freeSlotsAround _ _ _ _)
  intro slots
  split
  · exact Action.silent_throw _
  · exact Action.silent_pure _

/-! ## The four errands keep to their courses -/

variable {desk : Desk}

section
variable {α : Type} {rule : Ledger → Prop} {l : Ledger}

/-- A booking that is found is seen. -/
theorem keeps_load {ends : Ledger → Except Failure α → Prop} {id : Value} {f : Booking → Action α}
    (hl : rule l) (herror : ∀ why, ends l (.error why))
    (hseen : ∀ b, rule { l with seen := (Request.id id, b) :: l.seen } ∧
      (f b).Keeps rule ends { l with seen := (Request.id id, b) :: l.seen }) :
    (Desk.load id >>= f).Keeps rule ends l := by
  rw [Action.keeps_bind]
  unfold Desk.load
  refine Action.keeps_lift (fun k hk => ?_) fun why _ => herror why
  obtain ⟨rfl, -⟩ := Request.requiredId_eq_ok hk
  refine Action.keeps_call (fun r _ => ?_) (fun found _ => ?_) fun why _ => herror why
  · cases r with
    | ok found => cases found with
      | some b => exact (hseen b).1
      | none => exact hl
    | error why => exact hl
  · cases found with
    | some b => exact Action.keeps_pure (hseen b).2
    | none => exact Action.keeps_throw (herror _)

theorem keeps_checkStillConfirmed {ends : Ledger → List Store.Undo → Except Failure α → Prop}
    {undos : List Store.Undo} {id : String} {f : Unit → Transaction α}
    (hrule : ∀ seen, l.seen ⊆ seen → rule { l with seen })
    (herror : ∀ seen why, l.seen ⊆ seen → ends { l with seen } undos (.error why))
    (hok : ∀ seen, l.seen ⊆ seen → (f ()).Keeps rule ends { l with seen } undos) :
    (Transaction.plain (Desk.checkStillConfirmed id) >>= f).Keeps rule ends l undos := by
  have hself : l.seen ⊆ l.seen := List.Subset.refl _
  rw [Transaction.keeps_bind]
  apply Transaction.keeps_plain
  unfold Desk.checkStillConfirmed
  refine Action.keeps_call (fun r _ => ?_) (fun found _ => ?_) fun why _ => herror _ why hself
  · cases r with
    | ok found => cases found with
      | some b => exact hrule _ (List.subset_cons_self _ _)
      | none => exact hrule _ hself
    | error why => exact hrule _ hself
  · have hseen : ∃ seen, l.seen ⊆ seen ∧
        l.note (.call (.booking id)) (.ok found) = { l with seen } := by
      cases found with
      | some b => exact ⟨_, List.subset_cons_self _ _, rfl⟩
      | none => exact ⟨_, hself, rfl⟩
    obtain ⟨seen, hsub, hnote⟩ := hseen
    rw [hnote]
    split
    · exact Action.keeps_throw (herror seen _ hsub)
    · exact Action.keeps_pure (hok seen hsub)

end

/-- Course and outcome of a call with this errand. -/
def Conduct (desk : Desk) (errand : Errand) (a : Action Booking) : Prop :=
  a.Keeps (OnCourse desk errand) (fun l r => Outcome l.deeds r) {}

theorem book_conduct (actor : Actor) (request response provider start minutes note : Value) :
    Conduct desk (.book actor request response provider start minutes note)
      (desk.book actor request response provider start minutes note) := by
  unfold Conduct Desk.book
  apply Action.keeps_within .idle
  refine Action.keeps_lift (fun request' hrequest => ?_) fun _ _ => .idle
  refine Action.keeps_lift (fun response' hresponse => ?_) fun _ _ => .idle
  refine Action.keeps_lift (fun provider' hprovider => ?_) fun _ _ => .idle
  refine Action.keeps_now fun now => ⟨.idle, ?_⟩
  refine Action.keeps_lift (fun t ht => ?_) fun _ _ => .idle
  refine Action.keeps_lift (fun n hn => ?_) fun _ _ => .idle
  refine Action.keeps_lift (fun s hs => ?_) fun _ _ => .idle
  refine Action.keeps_silent (silent_authorize _ _ _ _) .idle (fun _ => ?_) fun _ => .idle
  refine Action.keeps_bind.2 (Transaction.keeps_commit (fun _ => .idle) ?_)
  refine Transaction.keeps_silent (silent_checkSlot _ _ _ _ _) .idle (fun _ => ?_)
    fun _ _ => ⟨.idle, .idle⟩
  refine Transaction.keeps_freshId fun id => ⟨.drew, ?_⟩
  have hbooked : ∀ r : Record, r.key = id ∧ r.booking = .made id request' response' provider'
      actor.id t n s → Course desk [] [now]
        (.book actor request response provider start minutes note)
        [.inserted r [], .drew id] := by
    rintro ⟨key, stamp, b⟩ ⟨hkey, hb⟩
    dsimp only at hkey hb
    subst hb hkey
    refine .booked ⟨rfl, now, List.mem_cons_self, t, n, s, ht, hn, hs, ?_⟩
    rw [← (Request.requiredId_eq_ok hrequest).1, ← (Request.requiredId_eq_ok hresponse).1,
      ← (Request.requiredId_eq_ok hprovider).1]
    rfl
  refine Transaction.keeps_insert (fun r hr => ?_) (fun r hr held => ?_) fun why held => ?_
  · cases r with
    | ok r => exact hbooked r (honest_insert hr)
    | error why => exact .notInserted
  · have hcourse := hbooked r (honest_insert hr)
    exact ⟨hcourse, Action.keeps_log hcourse (Action.keeps_pure .booked)⟩
  · exact ⟨.notInserted, .notInserted⟩

theorem cancel_conduct (actor : Actor) (id reason : Value) :
    Conduct desk (.cancel actor id reason) (desk.cancel actor id reason) := by
  unfold Conduct Desk.cancel
  apply Action.keeps_within .idle
  refine keeps_load .idle (fun _ => .idle) fun b => ⟨.idle, ?_⟩
  refine Action.keeps_silent (silent_authorize _ _ _ _) .idle (fun _ => ?_) fun _ => .idle
  refine Action.keeps_lift (fun status hstatus => ?_) fun _ _ => .idle
  obtain ⟨hconfirmed, rfl⟩ := Desk.nextStatus_eq_ok hstatus
  refine Action.keeps_now fun now => ⟨.idle, ?_⟩
  refine Action.keeps_lift (fun _ hnotice => ?_) fun _ _ => .idle
  refine Action.keeps_lift (fun s hs => ?_) fun _ _ => .idle
  have hcancelled : ∀ u : Store.Update, u.Makes b.id [.status .cancelled, .cancelledAt (some now),
      .cancelledBy (some actor.role), .cancelReason s] →
      Course desk [(Request.id id, b)] [now] (.cancel actor id reason) [.changed u] :=
    fun u hu => .cancelled
      ⟨b, now, s, List.mem_cons_self, List.mem_cons_self, hconfirmed, hnotice, hs, hu⟩
  apply Action.keeps_bind.2
  unfold Desk.cancelConfirmed
  apply Action.keeps_tryCatch.2
  refine Action.keeps_call (fun r hr => ?_) (fun u hu => ?_) fun why _ => ?_
  · cases r with
    | ok u => exact hcancelled u (honest_update hr)
    | error why => exact .notChanged
  · have hcourse := hcancelled u (honest_update hu)
    exact Action.keeps_log hcourse (Action.keeps_pure .changed)
  · cases why with
    | conflict _ => exact Action.keeps_log .notChanged (Action.keeps_throw .notChanged)
    | _ => exact Action.keeps_throw .notChanged

theorem complete_conduct (actor : Actor) (id : Value) :
    Conduct desk (.complete actor id) (desk.complete actor id) := by
  unfold Conduct Desk.complete
  apply Action.keeps_within .idle
  refine keeps_load .idle (fun _ => .idle) fun b => ⟨.idle, ?_⟩
  refine Action.keeps_silent (silent_authorize _ _ _ _) .idle (fun _ => ?_) fun _ => .idle
  refine Action.keeps_lift (fun status hstatus => ?_) fun _ _ => .idle
  obtain ⟨hconfirmed, rfl⟩ := Desk.nextStatus_eq_ok hstatus
  refine Action.keeps_lift (fun stop hstop => ?_) fun _ _ => .idle
  refine Action.keeps_now fun now => ⟨.idle, ?_⟩
  dsimp only
  split
  · exact Action.keeps_bind.2 (Action.keeps_throw .idle)
  rename_i hended
  have hcompleted : ∀ u : Store.Update, u.Makes b.id [.status .completed] →
      Course desk [(Request.id id, b)] [now] (.complete actor id) [.changed u] :=
    fun u hu => .completed ⟨b, now, stop, List.mem_cons_self, List.mem_cons_self, hconfirmed,
      orFail_eq_ok.1 hstop, Nat.le_of_not_lt hended, hu⟩
  refine Action.keeps_call (fun r hr => ?_) (fun u hu => ?_) fun why _ => .notChanged
  · cases r with
    | ok u => exact hcompleted u (honest_update hr)
    | error why => exact .notChanged
  · have hcourse := hcompleted u (honest_update hu)
    exact Action.keeps_log hcourse (Action.keeps_pure .changed)

theorem reschedule_conduct (actor : Actor) (id start minutes reason : Value) :
    Conduct desk (.reschedule actor id start minutes reason)
      (desk.reschedule actor id start minutes reason) := by
  unfold Conduct Desk.reschedule
  apply Action.keeps_within .idle
  refine Action.keeps_now fun now => ⟨.idle, ?_⟩
  refine Action.keeps_lift (fun t ht => ?_) fun _ _ => .idle
  refine Action.keeps_lift (fun s hs => ?_) fun _ _ => .idle
  refine keeps_load .idle (fun _ => .idle) fun old => ⟨.idle, ?_⟩
  refine Action.keeps_silent (silent_authorize _ _ _ _) .idle (fun _ => ?_) fun _ => .idle
  refine Action.keeps_lift (fun status hstatus => ?_) fun _ _ => .idle
  obtain ⟨hconfirmed, rfl⟩ := Desk.nextStatus_eq_ok hstatus
  refine Action.keeps_lift (fun _ hnotice => ?_) fun _ _ => .idle
  refine Action.keeps_lift (fun n hn => ?_) fun _ _ => .idle
  refine Action.keeps_bind.2 (Transaction.keeps_commit (fun _ => .idle) ?_)
  refine keeps_checkStillConfirmed (fun _ _ => .idle) (fun _ _ _ _ => ⟨.idle, .idle⟩)
    fun seen hseen => ?_
  refine Transaction.keeps_silent (silent_checkSlot _ _ _ _ _) .idle (fun _ => ?_)
    fun _ _ => ⟨.idle, .idle⟩
  refine Transaction.keeps_freshId fun id' => ⟨.drew, ?_⟩
  have hmoves : ∀ r : Record, r.key = id' ∧ r.booking = Desk.successor old id' t n →
      Moves desk seen [now] id start minutes old now r ∧ r.booking.id = id' := by
    rintro r ⟨hkey, hb⟩
    have hid : r.booking.id = id' := by rw [hb]; rfl
    refine ⟨⟨hseen List.mem_cons_self, List.mem_cons_self, hconfirmed, hnotice, hkey.trans hid.symm,
      t, n, ht, hn, ?_⟩, hid⟩
    rw [hid]
    exact hb
  refine Transaction.keeps_bind.2
    (Transaction.keeps_insert (fun r hr => ?_) (fun r hr => ?_) fun why held => ?_)
  · cases r with
    | ok r =>
      obtain ⟨hmove, hid⟩ := hmoves r (honest_insert hr)
      subst hid
      exact .moved hmove
    | error why => exact .notInserted
  · obtain ⟨hmove, hid⟩ := hmoves r (honest_insert hr)
    subst hid
    refine Transaction.keeps_bind.2
      (Transaction.keeps_update (fun u hu => ?_) (fun u hu held => ?_) fun why => ?_)
    · cases u with
      | ok u => exact .replaced hmove ⟨s, hs, honest_update hu⟩
      | error why => exact .stranded hmove
    · have hcourse : Course desk seen [now] (.reschedule actor id start minutes reason)
          [.changed u, .inserted r [old.id], .drew r.booking.id] :=
        .replaced hmove ⟨s, hs, honest_update hu⟩
      exact ⟨hcourse, Action.keeps_log hcourse (Action.keeps_pure .replaced)⟩
    · -- The old booking is not changed, and so the new one is taken away.
      exact Transaction.keeps_rollBack
        ⟨.withdrawn hmove, fun _ => ⟨.withdrawn hmove, .withdrawn⟩⟩
        ⟨.left hmove, fun _ => ⟨.left hmove, .left⟩⟩
  · exact ⟨.notInserted, .notInserted⟩

/-- Every call keeps to a course of its errand, and ends as its deeds say. -/
theorem serve_conduct (errand : Errand) : Conduct desk errand (errand.serve desk) := by
  cases errand with
  | book => exact book_conduct _ _ _ _ _ _ _
  | cancel => exact cancel_conduct _ _ _
  | complete => exact complete_conduct _ _
  | reschedule => exact reschedule_conduct _ _ _ _ _

end Errand
end Appointments
