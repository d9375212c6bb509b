-- What calls at the desk decide while nobody else acts. From what a call can
-- find out about the world follow both its answer and what it writes.
import Appointments.Proofs.Courses
import Appointments.Proofs.Lookups
namespace Appointments

/-! ## What calls write -/

/-- A single write to the store. -/
inductive Entry
  | template (t : Template)
  | blackout (b : Blackout)
  | noBlackout (id : String)
  | booking (key : String) (b : Booking)

namespace Store

def enter (s : Store) : Entry → Store
  | .template t => s.saveTemplate t
  | .blackout b => { s with blackouts := s.blackouts.put b }
  | .noBlackout id => { s with blackouts := s.blackouts.erase id }
  | .booking key b => (s.write key b).2

def enterAll (s : Store) (entries : List Entry) : Store := entries.foldl enter s

theorem enterAll_append (s : Store) (entries entries' : List Entry) :
    s.enterAll (entries ++ entries') = (s.enterAll entries).enterAll entries' :=
  List.foldl_append

/-! ## What writes of bookings check -/

/-- What an insertion checks before it writes. -/
def checkInsert (s : Store) (b : Booking) (exclude : List String) : Except Failure Unit := do
  if (s.records.get? b.id).isSome then
    throw (.conflict (.bookingExists b.id))
  s.checkFree b exclude
  s.checkOnlySuccessor b

theorem insert_eq (s : Store) (b : Booking) (exclude : List String) :
    s.insert b exclude = (fun _ => s.write b.id b) <$> s.checkInsert b exclude := by
  unfold insert checkInsert
  split
  · rfl
  · cases s.checkFree b exclude with
    | error why => rfl
    | ok _ => cases s.checkOnlySuccessor b <;> rfl

theorem booking?_eq_none_of_checkInsert {s : Store} {b : Booking} {exclude : List String}
    (h : s.checkInsert b exclude = .ok ()) : s.booking? b.id = none := by
  unfold checkInsert at h
  unfold booking?
  cases hr : s.records.get? b.id with
  | none => rfl
  | some r =>
    rw [hr] at h
    cases h

theorem checkInsert_of_fresh {s : Store} {b : Booking} {exclude : List String}
    (hfresh : s.booking? b.id = none) (honly : s.checkOnlySuccessor b = .ok ()) :
    s.checkInsert b exclude = s.checkFree b exclude := by
  have hnone : s.records.get? b.id = none := Option.map_eq_none_iff.1 hfresh
  unfold checkInsert
  rw [hnone]
  cases hfree : s.checkFree b exclude with
  | error why => rfl
  | ok u => exact honly

/-- What an update writes. -/
def amended (s : Store) (id : String) (expected : Status) (changes : List Booking.Change) :
    Except Failure Booking :=
  match s.booking? id with
  | none => .error (.missing .booking)
  | some b =>
    if b.status = expected then .ok (b.change changes) else .error (.conflict .statusChanged)

theorem amended_eq_ok {s : Store} {id : String} {expected : Status}
    {changes : List Booking.Change} {b : Booking} (h : s.amended id expected changes = .ok b) :
    ∃ old, s.booking? id = some old ∧ old.status = expected ∧ b = old.change changes := by
  unfold amended at h
  split at h
  · cases h
  · rename_i old hold
    split at h
    · rename_i hstatus
      cases h
      exact ⟨old, hold, hstatus, rfl⟩
    · cases h

theorem amended_of_status {s : Store} {id : String} {expected : Status}
    {changes : List Booking.Change} {b : Booking} (hb : s.booking? id = some b)
    (hstatus : b.status = expected) : s.amended id expected changes = .ok (b.change changes) := by
  unfold amended
  rw [hb]
  exact if_pos hstatus

theorem update_of_amended_ok {s : Store} {id : String} {expected : Status}
    {changes : List Booking.Change} {b : Booking} (h : s.amended id expected changes = .ok b) :
    ∃ u, s.update id expected changes = .ok (u, (s.write id b).2) ∧ u.after.booking = b := by
  obtain ⟨old, hold, hstatus, rfl⟩ := amended_eq_ok h
  obtain ⟨r, hr, rfl⟩ := booking?_eq_some.1 hold
  obtain rfl := Shelf.key_of_get? hr
  refine ⟨⟨r, (s.write r.key (r.booking.change changes)).1⟩, ?_, rfl⟩
  unfold update
  rw [hr]
  dsimp only
  rw [if_pos hstatus]

theorem update_of_amended_error {s : Store} {id : String} {expected : Status}
    {changes : List Booking.Change} {why : Failure}
    (h : s.amended id expected changes = .error why) :
    s.update id expected changes = .error why := by
  unfold amended booking? at h
  unfold update
  cases hr : s.records.get? id with
  | none =>
    rw [hr] at h
    cases h
    rfl
  | some r =>
    rw [hr] at h
    dsimp only [Option.map_some] at h ⊢
    by_cases hstatus : r.booking.status = expected
    · rw [if_pos hstatus] at h
      cases h
    · rw [if_neg hstatus] at h ⊢
      cases h
      rfl

end Store

/-! ## Rulings -/

/-- What a call answers, and what it writes. -/
structure Ruling (α : Type) where
  answer : Except Failure α
  entries : List Entry

namespace Ruling

/-- A call that fails has written nothing. -/
def of : Except Failure (α × List Entry) → Ruling α
  | .ok (a, entries) => ⟨.ok a, entries⟩
  | .error why => ⟨.error why, []⟩

def map (f : α → β) (r : Ruling α) : Ruling β := ⟨f <$> r.answer, r.entries⟩

/-- A call whose second part depends on the answer of the first one. -/
def bind (r : Ruling α) (f : α → Ruling β) : Ruling β :=
  match r.answer with
  | .ok a => ⟨(f a).answer, r.entries ++ (f a).entries⟩
  | .error why => ⟨.error why, r.entries⟩

theorem mem_entries_of {d : Except Failure (α × List Entry)} {e : Entry}
    (h : e ∈ (of d).entries) : ∃ a entries, d = .ok (a, entries) ∧ e ∈ entries := by
  cases d with
  | error why => cases h
  | ok out => exact ⟨out.1, out.2, rfl, h⟩

theorem of_eq_of_answer {d : Except Failure (α × List Entry)} {a : α} (h : (of d).answer = .ok a) :
    ∃ entries, d = .ok (a, entries) := by
  cases d with
  | error why => cases h
  | ok out =>
    cases h
    exact ⟨out.2, rfl⟩

theorem mem_entries_bind {r : Ruling α} {f : α → Ruling β} {e : Entry}
    (h : e ∈ (r.bind f).entries) :
    e ∈ r.entries ∨ ∃ a, r.answer = .ok a ∧ e ∈ (f a).entries := by
  unfold bind at h
  cases hr : r.answer with
  | error why =>
    rw [hr] at h
    exact .inl h
  | ok a =>
    rw [hr] at h
    exact (List.mem_append.1 h).imp_right fun h => ⟨a, rfl, h⟩

theorem of_bind (x : Except Failure β) (g : β → Except Failure (α × List Entry)) :
    of (x >>= g) = bind ⟨x, []⟩ fun b => of (g b) := by
  cases x with
  | error why => rfl
  | ok b => cases hg : g b <;> simp [bind, of, hg]

end Ruling

namespace Action

/-- Wherever an action finds what the view shows, it ends as the ruling
says. -/
def Follows (v : View) (r : Ruling α) (a : Action α) : Prop :=
  ∀ w : World, w.view = v →
    a.Ends w fun answer w' => answer = r.answer ∧ w'.store = v.store.enterAll r.entries

section
variable {v : View}

theorem follows_of_reports {a : Action β} {f : β → Action α} {x : Except Failure β}
    {g : β → Except Failure (α × List Entry)} (ha : a.Reports v x)
    (hf : ∀ b, x = .ok b → (f b).Follows v (.of (g b))) :
    (a >>= f).Follows v (.of (x >>= g)) := by
  intro w hw
  have hstore : w.store = v.store := congrArg View.store hw
  cases x with
  | ok b => exact ends_of_reports hw ha (hf b rfl)
  | error why =>
    exact ends_of_reports_error hw ha fun w' hw' => ⟨rfl, congrArg View.store hw'⟩

theorem follows_of_report {a : Action β} {b : β} {f : β → Action α} {r : Ruling α}
    (ha : a.Reports v (.ok b)) (hf : (f b).Follows v r) : (a >>= f).Follows v r :=
  fun _ hw => ends_of_reports hw ha hf

theorem follows_freshId {f : String → Action α} {r : Ruling α}
    (hf : ∀ v' : View, v'.store = v.store → (f v.nextId).Follows v' r) :
    (freshId >>= f).Follows v r := by
  intro w hw
  have hstore : w.store = v.store := congrArg View.store hw
  have hid : w.nextId = v.nextId := congrArg View.nextId hw
  rw [ends_bind]
  apply ends_freshId.mono
  intro answer w' hw'
  obtain ⟨rfl, hw'⟩ := hw'
  rw [hid]
  have hsame : w'.store = v.store := hw'.trans hstore
  have hends := hf w'.view hsame w' rfl
  rw [World.view, hsame] at hends
  exact hends

theorem Reports.follows {a : Action α} {x : Except Failure α} (h : a.Reports v x) :
    a.Follows v ⟨x, []⟩ :=
  fun w hw => (h w hw).mono fun _ _ hends => ⟨hends.1, congrArg View.store hends.2⟩

theorem follows_pure (a : α) : (pure a : Action α).Follows v (.of (.ok (a, []))) :=
  fun _ hw => ⟨rfl, congrArg View.store hw⟩

theorem follows_throw (why : Failure) : (throw why : Action α).Follows v (.of (.error why)) :=
  fun _ hw => ⟨rfl, congrArg View.store hw⟩

/-- What is only noted in the log afterwards changes nothing. -/
theorem follows_then {a : Action α} {f : α → Action α} {r : Ruling α} (ha : a.Follows v r)
    (hf : ∀ b v', (f b).Reports v' (.ok b)) : (a >>= f).Follows v r := by
  intro w hw
  rw [ends_bind]
  apply (ha w hw).mono
  intro answer w' hw'
  obtain ⟨rfl, hstore⟩ := hw'
  cases hr : r.answer with
  | error why => exact ⟨rfl, hstore⟩
  | ok b =>
    apply (hf b w'.view w' rfl).mono
    intro answer w'' hw''
    obtain ⟨rfl, hview⟩ := hw''
    exact ⟨rfl, (congrArg View.store hview).trans hstore⟩

theorem follows_map {a : Action α} {r : Ruling α} (f : α → β) (ha : a.Follows v r) :
    (f <$> a).Follows v (r.map f) := by
  intro w hw
  rw [map_eq_pure_bind, ends_bind]
  apply (ha w hw).mono
  intro answer w' hw'
  obtain ⟨rfl, hstore⟩ := hw'
  unfold Ruling.map
  cases r.answer with
  | error why => exact ⟨rfl, hstore⟩
  | ok b => exact ⟨rfl, hstore⟩

theorem follows_within {scope : Option String} {a : Action α} {r : Ruling α}
    (h : a.Follows v r) : (within scope a).Follows v r :=
  fun w hw => ends_within fun scopes =>
    (h { w with scopes } hw).mono fun _ _ hends _ => hends

theorem follows_bind {a : Action β} {f : β → Action α} {r : Ruling β} {g : β → Ruling α}
    (ha : a.Follows v r)
    (hf : ∀ b v', v'.store = v.store.enterAll r.entries → (f b).Follows v' (g b)) :
    (a >>= f).Follows v (r.bind g) := by
  intro w hw
  rw [ends_bind]
  apply (ha w hw).mono
  intro answer w' hw'
  obtain ⟨rfl, hstore⟩ := hw'
  unfold Ruling.bind
  cases hr : r.answer with
  | error why => exact ⟨rfl, hstore⟩
  | ok b =>
    apply (hf b w'.view hstore w' rfl).mono
    intro answer w'' hw''
    obtain ⟨rfl, hlast⟩ := hw''
    refine ⟨rfl, hlast.trans ?_⟩
    rw [Store.enterAll_append, ← hstore]
    rfl

/-- A call of the store that writes, and what is only noted about it. -/
theorem follows_write {c : StoreCall} {f : c.Reply → Action α} (reply : c.Reply)
    (entries : List Entry) {answer : Except Failure α}
    (h : c.answer v.store = .ok (reply, v.store.enterAll entries))
    (hf : ∀ v', (f reply).Reports v' answer) : (call c >>= f).Follows v ⟨answer, entries⟩ := by
  intro w hw
  have hstore : w.store = v.store := congrArg View.store hw
  rw [ends_bind, ends_call, hstore, h]
  apply (hf _ _ rfl).mono
  intro answer w' hw'
  obtain ⟨rfl, hview⟩ := hw'
  exact ⟨rfl, congrArg View.store hview⟩

theorem follows_refusal {c : StoreCall} {f : c.Reply → Action α} {why : Failure}
    (h : c.answer v.store = .error why) : (call c >>= f).Follows v (.of (.error why)) := by
  intro w hw
  have hstore : w.store = v.store := congrArg View.store hw
  rw [ends_bind, ends_call, hstore, h]
  exact ⟨rfl, rfl⟩

theorem ends_tryCatch {w : World} {ends : Except Failure α → World → Prop} {a : Action α}
    {f : Failure → Action α} :
    (tryCatch a f).Ends w ends ↔ a.Ends w fun r w =>
      match r with
      | .ok b => ends (.ok b) w
      | .error why => (f why).Ends w ends := by
  unfold Ends World.run
  rw [ExceptT.run_tryCatch, Program.run_bind, StateT.run_bind]
  rcases (Program.run World.reply a.run).run w with ⟨r, w'⟩
  cases r <;> rfl

/-- An update of a booking and what is noted about it. -/
theorem follows_update {id : String} {expected : Status} {changes : List Booking.Change}
    {f : Store.Update → Action Booking} (hf : ∀ u v', (f u).Reports v' (.ok u.after.booking)) :
    (call (.update id expected changes) >>= f).Follows v
      (.of ((fun b => (b, [.booking id b])) <$> v.store.amended id expected changes)) := by
  cases hamended : v.store.amended id expected changes with
  | error why => exact follows_refusal (Store.update_of_amended_error hamended)
  | ok b =>
    obtain ⟨u, hu, rfl⟩ := Store.update_of_amended_ok hamended
    exact follows_write (c := .update id expected changes) u [.booking id u.after.booking] hu (hf u)

end
end Action

/-! ## Rulings in transactions -/

namespace Transaction

/-- As for actions, where the transaction fails only before it has written
anything. -/
def Follows (v : View) (d : Except Failure (α × List Entry)) (t : Transaction α) : Prop :=
  ∀ w : World, w.view = v → t.Ends w (fun answer undos w' =>
    match d with
    | .ok (a, entries) => answer = .ok a ∧ w'.store = v.store.enterAll entries
    | .error why => answer = .error why ∧ undos = [] ∧ w'.store = v.store) []

section
variable {v : View}

theorem follows_of_reports {a : Action β} {f : β → Transaction α} {x : Except Failure β}
    {g : β → Except Failure (α × List Entry)} (ha : a.Reports v x)
    (hf : ∀ b, x = .ok b → (f b).Follows v (g b)) :
    (plain a >>= f).Follows v (x >>= g) := by
  intro w hw
  cases x with
  | ok b => exact ends_of_reports hw ha (hf b rfl)
  | error why =>
    rw [ends_bind, ends_plain]
    apply (ha w hw).mono
    intro r w' hw'
    obtain ⟨rfl, hview⟩ := hw'
    exact ⟨rfl, rfl, congrArg View.store hview⟩

theorem follows_commit {provider : String} {d : Except Failure (α × List Entry)}
    {t : Transaction α} (h : t.Follows v d) :
    (commit provider t).Follows v (.of d) := by
  intro w hw
  apply ends_commit
  apply (h w hw).mono
  intro answer undos w' hw'
  cases d with
  | ok x =>
    obtain ⟨rfl, hstore⟩ := hw'
    exact ⟨rfl, hstore⟩
  | error why =>
    obtain ⟨rfl, hundos, hstore⟩ := hw'
    exact ⟨hundos, rfl, hstore⟩

theorem ends_insert_iff {w : World} {b : Booking} {exclude : List String} {undos : List Store.Undo}
    {ends : Except Failure Booking → List Store.Undo → World → Prop} :
    (insert b exclude).Ends w ends undos ↔
      match w.store.checkInsert b exclude with
      | .ok _ => ends (.ok b) (.remove (w.store.write b.id b).1 :: undos)
          { w with store := w.store.enter (.booking b.id b) }
      | .error why => ends (.error why) undos w := by
  unfold insert
  rw [ends_bind, ends_plain, Action.ends_call]
  simp only [StoreCall.answer, Store.insert_eq]
  cases w.store.checkInsert b exclude <;> rfl

theorem ends_amended {w : World} {id : String} {expected : Status}
    {changes : List Booking.Change} {b : Booking} {undos : List Store.Undo}
    {ends : Except Failure Booking → List Store.Undo → World → Prop}
    (h : w.store.amended id expected changes = .ok b)
    (hends : ∀ undos, ends (.ok b) undos { w with store := w.store.enter (.booking id b) }) :
    (update id expected changes).Ends w ends undos := by
  obtain ⟨u, hu, rfl⟩ := Store.update_of_amended_ok h
  unfold update
  rw [ends_bind, ends_plain, Action.ends_call]
  simp only [StoreCall.answer, hu]
  exact hends _

/-- A booking is inserted under an id that is drawn for it. -/
theorem follows_insertNew (made : String → Booking) {exclude : List String} :
    (do
      let id ← plain Action.freshId
      insert (made id) exclude : Transaction Booking).Follows v (do
        v.store.checkInsert (made v.nextId) exclude
        return (made v.nextId, [.booking (made v.nextId).id (made v.nextId)])) := by
  intro w hw
  have hstore : w.store = v.store := congrArg View.store hw
  have hid : w.nextId = v.nextId := congrArg View.nextId hw
  apply ends_freshId
  intro w' hw'
  rw [ends_insert_iff, hw', hstore, hid]
  cases v.store.checkInsert (made v.nextId) exclude with
  | error why => exact ⟨rfl, rfl, rfl⟩
  | ok _ => exact ⟨rfl, rfl⟩

/-- A booking is inserted under an id that is drawn for it, and then another
one is changed that was found confirmed, so that the change succeeds too. -/
theorem follows_replace (made : String → Booking) (changes : String → List Booking.Change)
    {exclude : List String} {id : String} {current : Booking}
    (hcurrent : v.store.booking? id = some current) (hstatus : current.status = .confirmed) :
    (do
      let new ← plain Action.freshId
      let created ← insert (made new) exclude
      let _ ← update id .confirmed (changes created.id)
      return created : Transaction Booking).Follows v (do
        let b := made v.nextId
        v.store.checkInsert b exclude
        let moved ← v.store.amended id .confirmed (changes b.id)
        return (b, [.booking b.id b, .booking id moved])) := by
  intro w hw
  have hstore : w.store = v.store := congrArg View.store hw
  have hid : w.nextId = v.nextId := congrArg View.nextId hw
  apply ends_freshId
  intro w' hw'
  rw [ends_bind, ends_insert_iff, hw', hstore, hid]
  dsimp only
  cases hinsert : v.store.checkInsert (made v.nextId) exclude with
  | error why => exact ⟨rfl, rfl, rfl⟩
  | ok _ =>
    have hne : (made v.nextId).id ≠ id := by
      rintro rfl
      have hfresh := Store.booking?_eq_none_of_checkInsert hinsert
      rw [hcurrent] at hfresh
      cases hfresh
    have hkept : (v.store.enter (.booking (made v.nextId).id (made v.nextId))).booking? id =
        some current := by
      simp [Store.enter, hne, hcurrent]
    rw [Store.amended_of_status hcurrent hstatus]
    dsimp only
    rw [ends_bind]
    exact ends_amended (Store.amended_of_status hkept hstatus) fun _ => ⟨rfl, rfl⟩

end
end Transaction

/-! ## What the desk decides about slots -/

namespace Desk

open Appointments.Action

/-- The time from the start on is exactly one free slot in a store. -/
def slotFree (desk : Desk) (s : Store) (provider : String) (start : Instant) (minutes : Int)
    (exclude : List String) : Except Failure Unit := do
  let length ← CalendarFault.orFail (Span.ofMinutes minutes)
  let stop ← CalendarFault.orFail (start.after length)
  let slots ← desk.slotsAround s (Request.id (.text provider)) start exclude
  if slots.contains ⟨start, stop⟩ then .ok () else .error (.conflict .slotTaken)

section
variable {desk : Desk} {v : View} {exclude : List String}

theorem reports_slotFree (provider : String) (start : Instant) (minutes : Int) :
    (desk.checkSlot provider start minutes exclude).Reports v
      (desk.slotFree v.store provider start minutes exclude) := by
  unfold checkSlot slotFree
  apply reports_bind (reports_lift _)
  intro length _
  apply reports_bind (reports_lift _)
  intro stop _
  apply reports_bind (reports_slotsAround _ _)
  intro slots _
  cases slots.contains ⟨start, stop⟩ with
  | true => exact reports_pure _
  | false => exact reports_throw _

end

/-! ## Booking -/

/-- What a call to book decides. -/
def bookDecision (desk : Desk) (v : View) (actor : Actor)
    (request response provider start minutes note : Value) :
    Except Failure (Booking × List Entry) := do
  let request ← Request.requiredId "requestId" request
  let response ← Request.requiredId "responseId" response
  let provider ← Request.requiredId "providerUserId" provider
  let start ← futureStart v.now start
  let minutes ← desk.duration desk.bookings.defaultMinutes minutes
  let note ← Request.text (some Booking.maxReasonLength) note
  let _ ← actor.permit .create actor.id provider
  desk.slotFree v.store provider start minutes []
  let b := Booking.made v.nextId request response provider actor.id start minutes note
  v.store.checkInsert b []
  return (b, [.booking b.id b])

theorem follows_book (desk : Desk) (v : View) (actor : Actor)
    (request response provider start minutes note : Value) :
    (desk.book actor request response provider start minutes note).Follows v
      (.of (desk.bookDecision v actor request response provider start minutes note)) := by
  unfold book bookDecision
  apply follows_within
  apply follows_of_reports (reports_lift _)
  intro request _
  apply follows_of_reports (reports_lift _)
  intro response _
  apply follows_of_reports (reports_lift _)
  intro provider _
  apply follows_of_report reports_now
  apply follows_of_reports (reports_lift _)
  intro start _
  apply follows_of_reports (reports_lift _)
  intro minutes _
  apply follows_of_reports (reports_lift _)
  intro note _
  apply follows_of_reports (reports_authorize _ _ _ _)
  intro _ _
  refine follows_then (Transaction.follows_commit ?_) fun b v' =>
    reports_ok_bind (reports_log _ _ _) (reports_pure b)
  apply Transaction.follows_of_reports (reports_slotFree _ _ _)
  intro _ _
  exact Transaction.follows_insertNew fun id =>
    .made id request response provider actor.id start minutes note

/-! ## Cancelling and completing -/

/-- What a call to cancel decides. -/
def cancelDecision (desk : Desk) (v : View) (actor : Actor) (id reason : Value) :
    Except Failure (Booking × List Entry) := do
  let b ← v.store.named id
  let _ ← actor.permit .cancel b.client b.provider
  let status ← nextStatus .cancel b
  checkNotice .cancel desk.bookings.cancelHours v.now b
  let reason ← Request.text (some Booking.maxReasonLength) reason
  (fun cancelled => (cancelled, [.booking b.id cancelled])) <$>
    v.store.amended b.id .confirmed [.status status, .cancelledAt (some v.now),
      .cancelledBy (some actor.role), .cancelReason reason]

theorem follows_cancelConfirmed (v : View) (id : String) (changes : List Booking.Change) :
    (cancelConfirmed id changes).Follows v
      (.of ((fun b => (b, [.booking id b])) <$> v.store.amended id .confirmed changes)) := by
  intro w hw
  unfold cancelConfirmed
  rw [ends_tryCatch]
  refine (follows_update (fun u v' => reports_pure _) w hw).mono fun answer w' hw' => ?_
  obtain ⟨rfl, hstore⟩ := hw'
  cases hr : v.store.amended id .confirmed changes with
  | ok b =>
    rw [hr] at hstore
    exact ⟨rfl, hstore⟩
  | error why =>
    rw [hr] at hstore
    have hthrows : ∀ {a : Action Booking}, a.Reports w'.view (.error why) →
        a.Ends w' fun answer w'' => answer = .error why ∧ w''.store = v.store := by
      intro a ha
      apply (ha w' rfl).mono
      intro answer w'' hw''
      obtain ⟨rfl, hview⟩ := hw''
      exact ⟨rfl, (congrArg View.store hview).trans hstore⟩
    apply hthrows
    cases why with
    | conflict _ => exact reports_ok_bind (reports_log _ _ _) (reports_throw _)
    | _ => exact reports_throw _

theorem follows_cancel (desk : Desk) (v : View) (actor : Actor) (id reason : Value) :
    (desk.cancel actor id reason).Follows v (.of (desk.cancelDecision v actor id reason)) := by
  unfold cancel cancelDecision
  apply follows_within
  apply follows_of_reports (reports_load id)
  intro b _
  apply follows_of_reports (reports_authorize _ _ _ _)
  intro _ _
  apply follows_of_reports (reports_lift _)
  intro status _
  apply follows_of_report reports_now
  apply follows_of_reports (reports_lift _)
  intro _ _
  apply follows_of_reports (reports_lift _)
  intro reason _
  exact follows_then (follows_cancelConfirmed v b.id _) fun cancelled v' =>
    reports_ok_bind (reports_log _ _ _) (reports_pure cancelled)

/-- What a call to complete decides. -/
def completeDecision (v : View) (actor : Actor) (id : Value) :
    Except Failure (Booking × List Entry) := do
  let b ← v.store.named id
  let _ ← actor.permit .complete b.client b.provider
  let status ← nextStatus .complete b
  let stop ← CalendarFault.orFail b.stop
  if v.now < stop then
    .error (.rejected .notEnded)
  else
    (fun completed => (completed, [.booking b.id completed])) <$>
      v.store.amended b.id .confirmed [.status status]

theorem follows_complete (desk : Desk) (v : View) (actor : Actor) (id : Value) :
    (desk.complete actor id).Follows v (.of (completeDecision v actor id)) := by
  unfold complete completeDecision
  apply follows_within
  apply follows_of_reports (reports_load id)
  intro b _
  apply follows_of_reports (reports_authorize _ _ _ _)
  intro _ _
  apply follows_of_reports (reports_lift _)
  intro status _
  apply follows_of_reports (reports_lift _)
  intro stop _
  apply follows_of_report reports_now
  split
  · exact follows_throw _
  · exact follows_update fun u v' => reports_ok_bind (reports_log _ _ _) (reports_pure _)

/-! ## Rescheduling -/

/-- The booking that is kept under an id is there and still confirmed. -/
def stillConfirmed (s : Store) (id : String) : Except Failure Unit :=
  if (s.booking? id).any (!·.status.isFinal) then .ok ()
  else .error (.conflict .noLongerConfirmed)

theorem stillConfirmed_eq_ok {s : Store} {id : String} :
    stillConfirmed s id = .ok () ↔ ∃ b, s.booking? id = some b ∧ b.status = .confirmed := by
  have hfinal : ∀ status : Status, (!status.isFinal) = true ↔ status = .confirmed := by
    intro status
    cases status <;> simp [Status.isFinal]
  unfold stillConfirmed
  split
  · rename_i hany
    simpa [Option.any_eq_true, hfinal] using hany
  · rename_i hany
    simpa [Option.any_eq_true, hfinal] using hany

theorem reports_stillConfirmed {v : View} (id : String) :
    (checkStillConfirmed id).Reports v (stillConfirmed v.store id) := by
  unfold checkStillConfirmed stillConfirmed
  refine reports_ok_bind (reports_call (x := .ok (v.store.booking? id)) rfl) ?_
  cases (v.store.booking? id).any (!·.status.isFinal) with
  | true => exact reports_pure _
  | false => exact reports_throw _

/-- What a call to reschedule decides. -/
def rescheduleDecision (desk : Desk) (v : View) (actor : Actor)
    (id start minutes reason : Value) : Except Failure (Booking × List Entry) := do
  let start ← futureStart v.now start
  let reason ← Request.text (some Booking.maxReasonLength) reason
  let old ← v.store.named id
  let _ ← actor.permit .reschedule old.client old.provider
  let status ← nextStatus .reschedule old
  checkNotice .reschedule desk.bookings.rescheduleHours v.now old
  let minutes ← desk.duration old.minutes minutes
  stillConfirmed v.store old.id
  desk.slotFree v.store old.provider start minutes [old.id]
  let b := successor old v.nextId start minutes
  v.store.checkInsert b [old.id]
  let moved ← v.store.amended old.id .confirmed [.status status, .rescheduledTo (some b.id),
    .rescheduledAt (some v.now), .rescheduleReason reason]
  return (b, [.booking b.id b, .booking old.id moved])

theorem follows_reschedule (desk : Desk) (v : View) (actor : Actor)
    (id start minutes reason : Value) :
    (desk.reschedule actor id start minutes reason).Follows v
      (.of (desk.rescheduleDecision v actor id start minutes reason)) := by
  unfold reschedule rescheduleDecision
  apply follows_within
  apply follows_of_report reports_now
  apply follows_of_reports (reports_lift _)
  intro start _
  apply follows_of_reports (reports_lift _)
  intro reason _
  apply follows_of_reports (reports_load id)
  intro old _
  apply follows_of_reports (reports_authorize _ _ _ _)
  intro _ _
  apply follows_of_reports (reports_lift _)
  intro status _
  apply follows_of_reports (reports_lift _)
  intro _ _
  apply follows_of_reports (reports_lift _)
  intro minutes _
  refine follows_then (Transaction.follows_commit ?_) fun b v' =>
    reports_ok_bind (reports_log _ _ _) (reports_pure b)
  apply Transaction.follows_of_reports (reports_stillConfirmed _)
  intro _ hstill
  obtain ⟨current, hcurrent, hstatus⟩ := stillConfirmed_eq_ok.1 hstill
  apply Transaction.follows_of_reports (reports_slotFree _ _ _)
  intro _ _
  exact Transaction.follows_replace (fun new => successor old new start minutes)
    (fun new => [.status status, .rescheduledTo (some new), .rescheduledAt (some v.now),
      .rescheduleReason reason]) hcurrent hstatus

end Desk
end Appointments
