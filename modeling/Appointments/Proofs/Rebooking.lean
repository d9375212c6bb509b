-- Moving a booking is judged as cancelling it and booking anew: its own time
-- counts as free, and nothing else about it matters.
import Appointments.Proofs.InTurn
import Appointments.Proofs.SameTime
namespace Appointments

/-! ## The time of a booking that is moved -/

namespace Shelf

variable {α : Type} {key : α → String}

/-- An item that a query passes over is put in the place of one that another
query passes over. -/
theorem filter_putInto_of_passed {p q : α → Bool} {a : α} {items : List α}
    (hnodup : (items.map key).Nodup) (ha : p a = false)
    (hsame : ∀ x ∈ items, key x = key a → q x = false)
    (hother : ∀ x ∈ items, key x ≠ key a → p x = q x) :
    (putInto key a items).filter p = items.filter q := by
  induction items with
  | nil => simp [putInto, ha]
  | cons b bs ih =>
    rw [List.map_cons, List.nodup_cons] at hnodup
    unfold putInto
    split
    · rename_i hkey
      have hne : ∀ x ∈ bs, key x ≠ key a := by
        intro x hx heq
        exact hnodup.1 (hkey.trans heq.symm ▸ List.mem_map_of_mem hx)
      rw [List.filter_cons_of_neg (by simp [ha]),
        List.filter_cons_of_neg (by simp [hsame b List.mem_cons_self hkey])]
      exact List.filter_congr fun x hx => hother x (List.mem_cons_of_mem _ hx) (hne x hx)
    · rename_i hkey
      rw [List.filter_cons, List.filter_cons, hother b List.mem_cons_self hkey,
        ih hnodup.2 (fun x hx => hsame x (List.mem_cons_of_mem _ hx))
          fun x hx => hother x (List.mem_cons_of_mem _ hx)]

end Shelf

namespace Store

variable {s : Store}

/-- The store where a booking is cancelled, and nothing else differs. -/
def withCancelled (s : Store) (old : Booking) (time : Option Instant) (role : Option Role)
    (why : Option String) : Store :=
  (s.write old.id { old with
    status := .cancelled
    cancelledAt := time
    cancelledBy := role
    cancelReason := why }).2

/-- Whether a booking is passed over or cancelled, the same time is taken. -/
theorem takesSame_of_cancelled (hs : s.Filed) {k : String} {b : Booking}
    (hb : b.status = .cancelled) (provider : String) :
    s.TakesSame (s.write k b).2 provider [k] [] where
  template := rfl
  blackouts := rfl
  bookings stop := by
    unfold bookings
    rw [List.filter_map, List.filter_map]
    congr 1
    symm
    apply Shelf.filter_putInto_of_passed s.records.nodup
    · simp [mayOverlap, hb]
    · intro r hr hkey
      have hid : r.booking.id = k := (hs r hr).trans hkey
      simp [mayOverlap, hid]
    · intro r hr hkey
      have hid : r.booking.id ≠ k := by
        rw [hs r hr]
        exact hkey
      simp [mayOverlap, hid]

end Store

/-! ## Both judgements -/

namespace Desk

/-- The time of a booking is one free slot, and nothing overlaps it. -/
def judge (desk : Desk) (s : Store) (b : Booking) (exclude : List String) :
    Except Failure Unit := do
  desk.slotFree s b.provider b.start b.minutes exclude
  s.checkFree b exclude

/-- A request to move a booking passes all checks but the one whether its new
time is free. -/
structure MayMove (desk : Desk) (w : World) (actor : Actor) (id start minutes reason : Value)
    (old : Booking) (t : Instant) (n : Int) : Prop where
  stored : w.store.booking? (Request.id id) = some old
  future : futureStart w.clock start = .ok t
  reason : ∃ why, Request.text (some Booking.maxReasonLength) reason = .ok why
  allowed : Operation.reschedule.isAllowed (actor.capabilities old.client old.provider) = true
  confirmed : old.status = .confirmed
  notice : checkNotice .reschedule desk.bookings.rescheduleHours w.clock old = .ok ()
  duration : desk.duration old.minutes minutes = .ok n
  fresh : w.store.booking? w.nextId = none

variable {desk : Desk} {w : World} {actor : Actor} {id start minutes reason : Value}
  {old : Booking} {t : Instant} {n : Int}

theorem rescheduleDecision_eq (hs : w.store.InOrder)
    (h : desk.MayMove w actor id start minutes reason old t n) :
    (fun _ => ()) <$> desk.rescheduleDecision w.view actor id start minutes reason =
      desk.judge w.store (successor old w.nextId t n) [old.id] := by
  obtain ⟨why, hreason⟩ := h.reason
  have hid := hs.filed.id_eq h.stored
  have hold : w.store.booking? old.id = some old := by rw [hid, h.stored]
  have hnamed : w.view.store.named id = .ok old :=
    Store.named_eq_ok.2 ⟨hs.given _ _ h.stored, h.stored⟩
  have hpermit : actor.permit .reschedule old.client old.provider =
      .ok (actor.capabilities old.client old.provider) := if_pos h.allowed
  have hstatus : nextStatus .reschedule old = .ok .cancelled := by
    unfold nextStatus
    rw [h.confirmed]
    rfl
  have hstill : stillConfirmed w.view.store old.id = .ok () :=
    stillConfirmed_eq_ok.2 ⟨old, hold, h.confirmed⟩
  have hinsert : w.view.store.checkInsert (successor old w.view.nextId t n) [old.id] =
      w.store.checkFree (successor old w.nextId t n) [old.id] :=
    Store.checkInsert_of_fresh h.fresh (hs.checkOnlySuccessor_eq hold h.confirmed rfl)
  have hamended : ∀ changes, w.view.store.amended old.id .confirmed changes =
      .ok (old.change changes) :=
    fun _ => Store.amended_of_status hold h.confirmed
  have hnow : futureStart w.view.now start = .ok t := h.future
  have hnotice : checkNotice .reschedule desk.bookings.rescheduleHours w.view.now old = .ok () :=
    h.notice
  unfold rescheduleDecision judge
  rw [hnow, ok_bind, hreason, ok_bind, hnamed, ok_bind, hpermit, ok_bind, hstatus, ok_bind,
    hnotice, ok_bind, h.duration, ok_bind, hstill, ok_bind]
  show _ = desk.slotFree w.view.store old.provider t n [old.id] >>= _
  cases desk.slotFree w.view.store old.provider t n [old.id] with
  | error why => rfl
  | ok _ =>
    simp only [ok_bind, hinsert, hamended]
    cases w.store.checkFree (successor old w.nextId t n) [old.id] <;> rfl

/-- A request for a booking with the provider gives all ids that it has to. -/
structure AsksFor (w : World) (request response asked : Value) (provider : String) : Prop where
  request : Request.id request ≠ ""
  response : Request.id response ≠ ""
  asked_eq : Request.id asked = provider
  fresh : w.store.booking? w.nextId = none

theorem bookDecision_eq {request response asked : Value} {client provider : String}
    (h : AsksFor w request response asked provider) (hgiven : provider ≠ "")
    (hfuture : futureStart w.clock start = .ok t)
    (hbounds : desk.bookings.minMinutes ≤ n ∧ n ≤ desk.bookings.maxMinutes) :
    (fun _ => ()) <$> desk.bookDecision w.view ⟨client, .client⟩ request response asked start
        (.int n) .null =
      desk.judge w.store (.made w.nextId (Request.id request) (Request.id response) provider client
        t n none) [] := by
  obtain ⟨hrequest, hresponse, rfl, hfresh⟩ := h
  have hnow : futureStart w.view.now start = .ok t := hfuture
  have hduration : desk.duration desk.bookings.defaultMinutes (.int n) = .ok n := if_pos hbounds
  have hnote : Request.text (some Booking.maxReasonLength) .null = .ok none := rfl
  have hpermit : Actor.permit ⟨client, .client⟩ .create client (Request.id asked) =
      .ok [.clientOwner] := by
    simp [Actor.permit, Actor.capabilities, Operation.isAllowed, Operation.allowedTo]
  have hinsert : w.view.store.checkInsert (.made w.view.nextId (Request.id request)
        (Request.id response) (Request.id asked) client t n none) [] =
      w.store.checkFree (.made w.nextId (Request.id request) (Request.id response)
        (Request.id asked) client t n none) [] := Store.checkInsert_of_fresh hfresh rfl
  unfold bookDecision judge
  rw [Request.requiredId_eq hrequest, ok_bind, Request.requiredId_eq hresponse, ok_bind,
    Request.requiredId_eq hgiven, ok_bind, hnow, ok_bind, hduration, ok_bind, hnote, ok_bind,
    hpermit, ok_bind]
  show _ = desk.slotFree w.view.store (Request.id asked) t n [] >>= _
  cases desk.slotFree w.view.store (Request.id asked) t n [] with
  | error why => rfl
  | ok _ =>
    simp only [ok_bind, hinsert]
    cases w.store.checkFree (.made w.nextId (Request.id request) (Request.id response)
      (Request.id asked) client t n none) [] <;> rfl

/-- In the store where the old booking is cancelled, a booking of its client is
judged as the one that is to replace it. -/
theorem judge_eq {s : Store} (hs : s.InOrder) (hold : s.booking? old.id = some old)
    (desk : Desk) (time : Option Instant) (role : Option Role) (why : Option String)
    (new new' request response : String) (t : Instant) (n : Int) :
    desk.judge s (successor old new t n) [old.id] =
      desk.judge (s.withCancelled old time role why)
        (.made new' request response old.provider old.client t n none) [] := by
  have hsame : s.TakesSame (s.withCancelled old time role why) old.provider [old.id] [] :=
    Store.takesSame_of_cancelled hs.filed rfl old.provider
  have hslot := hsame.slotFree desk (hs.trimmed _ old hold) t n
  have hfree := hsame.checkFree (a := successor old new t n)
    (b := .made new' request response old.provider old.client t n none) rfl rfl rfl rfl rfl
  unfold judge
  rw [hfree]
  exact congrArg (fun slot : Except Failure Unit => slot >>= fun _ => _) hslot

/-- What becomes of a request, but for the booking that it is answered with. -/
theorem outcome_of_follows {v : View} {d : Except Failure (Booking × List Entry)}
    {a : Action Booking} (h : a.Follows v (.of d)) {w : World} (hw : w.view = v) :
    (fun _ => ()) <$> ((World.run a).run w).1 = (fun _ => ()) <$> d := by
  rw [(h w hw).1]
  cases d <;> rfl

theorem succeeds_iff {a : Action Booking} :
    (∃ b w', (World.run a).run w = (.ok b, w')) ↔
      (fun _ => ()) <$> ((World.run a).run w).1 = .ok () := by
  rcases (World.run a).run w with ⟨r, w'⟩
  cases r with
  | ok b => exact iff_of_true ⟨b, w', rfl⟩ rfl
  | error why => exact iff_of_false (fun ⟨_, _, h⟩ => nomatch h) nofun

/-- The request to move a booking succeeds, or fails for the same reason, as
its client's request to book the new time anew once it is cancelled. -/
theorem Reaches.moved_as_booked_anew {w' : World} {request response asked : Value}
    {time : Option Instant} {role : Option Role} {why : Option String}
    (hreach : desk.Reaches w.store) (hmove : desk.MayMove w actor id start minutes reason old t n)
    (hstore : w'.store = w.store.withCancelled old time role why) (hclock : w'.clock = w.clock)
    (hask : AsksFor w' request response asked old.provider) :
    (fun _ => ()) <$> ((World.run (desk.reschedule actor id start minutes reason)).run w).1 =
      (fun _ => ()) <$> ((World.run (desk.book ⟨old.client, .client⟩ request response asked start
        (.int n) .null)).run w').1 := by
  have hs := hreach.inOrder
  have hold := hs.stored hmove.stored
  have hgiven := (hs.trimmed _ old hold).ne_empty
  have hfuture : futureStart w'.clock start = .ok t := hclock ▸ hmove.future
  rw [outcome_of_follows (desk.follows_reschedule w.view actor id start minutes reason) rfl,
    outcome_of_follows (desk.follows_book w'.view _ request response asked start _ _) rfl,
    rescheduleDecision_eq hs hmove,
    bookDecision_eq hask hgiven hfuture (duration_eq_ok hmove.duration), hstore]
  exact judge_eq hs hold desk time role why _ _ _ _ t n

/-- Moving a booking succeeds if and only if its client could book the new time
anew in the store where it is cancelled. -/
theorem Reaches.moves_iff_books_anew {w' : World} {request response asked : Value}
    {time : Option Instant} {role : Option Role} {why : Option String}
    (hreach : desk.Reaches w.store) (hmove : desk.MayMove w actor id start minutes reason old t n)
    (hstore : w'.store = w.store.withCancelled old time role why) (hclock : w'.clock = w.clock)
    (hask : AsksFor w' request response asked old.provider) :
    (∃ b v, (World.run (desk.reschedule actor id start minutes reason)).run w = (.ok b, v)) ↔
      ∃ b v, (World.run (desk.book ⟨old.client, .client⟩ request response asked start (.int n)
        .null)).run w' = (.ok b, v) := by
  rw [succeeds_iff, succeeds_iff, hreach.moved_as_booked_anew hmove hstore hclock hask]

/-- The patient has booked ten o'clock, and then cancelled it. -/
def cancelledOnce : World := { Practice.bookedOnce with
  store := Practice.bookedOnce.store.withCancelled Practice.booked (some Practice.today)
    (some .client) none }

open Practice in
/-- A booking at ten o'clock may be moved to ten o'clock, and if it is cancelled
then ten o'clock can be booked. -/
theorem own_time_is_booked_anew :
    (∃ b v, (World.run (({} : Desk).reschedule patient (.text "a") (.text "2026-03-02T10:00:00Z")
        .null .null)).run bookedOnce = (.ok b, v)) ∧
      ∃ b v, (World.run (({} : Desk).book ⟨booked.client, .client⟩ (.text "request")
        (.text "response") (.text "doctor") (.text "2026-03-02T10:00:00Z") (.int 60) .null)).run
          cancelledOnce = (.ok b, v) := by
  have hmove : ({} : Desk).MayMove bookedOnce patient (.text "a") (.text "2026-03-02T10:00:00Z")
      .null .null booked ten 60 :=
    ⟨by decide +kernel, toOption_eq_some.1 (by decide +kernel), ⟨none, rfl⟩, by decide, rfl,
      toOption_eq_some.1 (by decide +kernel), rfl, by decide +kernel⟩
  have hask : AsksFor cancelledOnce (.text "request") (.text "response") (.text "doctor")
      booked.provider := ⟨by decide, by decide, rfl, by decide +kernel⟩
  have hstore : cancelledOnce.store =
      bookedOnce.store.withCancelled booked (some today) (some .client) none := rfl
  have hclock : cancelledOnce.clock = bookedOnce.clock := rfl
  have hmoves : ∃ b v, (World.run (({} : Desk).reschedule patient (.text "a")
      (.text "2026-03-02T10:00:00Z") .null .null)).run bookedOnce = (.ok b, v) := by
    refine (Action.Ends.exists_run (P := True) (iff_true_intro ?_)).2 trivial
    decide +kernel
  exact ⟨hmoves,
    (bookedOnce_reached.moves_iff_books_anew hmove hstore hclock hask).1 hmoves⟩

end Desk
end Appointments
