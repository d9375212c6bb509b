-- Calls at the desk while nobody else acts, where any call of the store may
-- fail for any reason. A call that fails has changed nothing in the end, and
-- one that succeeds has changed nothing but what it is about.
import Appointments.Proofs.Courses
import Appointments.Proofs.Origins
import Appointments.Proofs.Reports
import Appointments.Proofs.Schedules
import Appointments.Proofs.Steps
namespace Appointments

/-! ## Calls of the store that fail -/

/-- The program where the store calls in the given positions, counted from
`n`, fail for the given reasons, and do nothing. -/
def Program.failingAt (faults : Nat → Option Failure) : Nat → Program α → Program α
  | _, done a => done a
  | n, step e next =>
    match e, next with
    | .call c, next =>
      match faults n with
      | some why => (next (.error why)).failingAt faults (n + 1)
      | none => step (.call c) fun r => (next r).failingAt faults (n + 1)
    | e, next => step e fun r => (next r).failingAt faults n

/-- The action where the store calls in the given positions fail. -/
def Action.failingAt (faults : Nat → Option Failure) (a : Action α) : Action α :=
  ExceptT.mk (Program.failingAt faults 0 a.run)

/-- As `Yields`, where a call of the store may also fail for any reason. -/
def Effect.Risks (s : Store) : (e : Effect) → e.Reply → Store → Prop
  | .call c, r, t => (call c).Yields s r t ∨ ((∃ why, r = .error why) ∧ t = s)
  | e, r, t => e.Yields s r t

namespace Effect

variable {s t : Store}

theorem risks_call {c : StoreCall} {r : Except Failure c.Reply} (h : (call c).Risks s r t) :
    (∃ a, r = .ok a ∧ c.answer s = .ok (a, t)) ∨ ((∃ why, r = .error why) ∧ t = s) := by
  rcases h with h | h
  · cases r with
    | ok a => exact .inl ⟨a, rfl, yields_ok h⟩
    | error why => exact .inr ⟨⟨why, rfl⟩, yields_error h⟩
  · exact .inr h

/-- A step that no ledger notes does not change the store. -/
theorem Risks.of_silent {e : Effect} {r : e.Reply} (h : e.Risks s r t)
    (hr : ∀ l : Ledger, l.note e r = l) : t = s := by
  have hdeeds : (Ledger.note {} e r).deeds = [] := by rw [hr]
  cases e with
  | call c =>
    obtain ⟨a, rfl, hanswer⟩ | ⟨-, rfl⟩ := risks_call h
    · cases c with
      | saveTemplate | addBlackout | deleteBlackout | insert | update => cases hdeeds
      | overlapping provider start stop exclude =>
        obtain ⟨found, -, hfound⟩ := map_eq_ok.1 hanswer
        cases hfound
        rfl
      | _ =>
        cases hanswer
        rfl
    · rfl
  | undo u => cases r <;> cases hdeeds
  | _ => exact h

end Effect

/-! ## Where programs lead -/

namespace Program

/-- From this store on, whichever calls fail, store and result are in the end
as `ends` says. -/
def Leads (ends : Store → α → Prop) : Store → Program α → Prop
  | s, done a => ends s a
  | s, step e next => ∀ r t, e.Risks s r t → (next r).Leads ends t

variable {ends : Store → α → Prop} {s : Store}

theorem leads_step {e : Effect} {next : e.Reply → Program α} :
    (step e next).Leads ends s ↔ ∀ r t, e.Risks s r t → (next r).Leads ends t := Iff.rfl

theorem leads_bind {x : Program β} {f : β → Program α} :
    (x >>= f).Leads ends s ↔ x.Leads (fun t b => (f b).Leads ends t) s := by
  induction x generalizing s with
  | done b => rfl
  | step e next ih =>
    rw [step_bind, leads_step, leads_step]
    simp only [ih]

theorem leads_perform {e : Effect} {f : e.Reply → Program α} :
    (perform e >>= f).Leads ends s ↔ ∀ r t, e.Risks s r t → (f r).Leads ends t := Iff.rfl

theorem Leads.mono {x : Program α} {ends' : Store → α → Prop} (h : x.Leads ends s)
    (himp : ∀ s a, ends s a → ends' s a) : x.Leads ends' s := by
  induction x generalizing s with
  | done a => exact himp s a h
  | step e next ih => exact fun r t hr => ih r (h r t hr)

theorem Silent.leads {x : Program α} (h : x.Silent) (hends : ∀ a, ends s a) : x.Leads ends s := by
  induction x with
  | done a => exact hends a
  | step e next ih =>
    intro r t hr
    obtain ⟨hnote, hnext⟩ := h r
    rw [hr.of_silent hnote]
    exact ih r hnext

/-- What the world replies is one of the replies that may come. -/
theorem risks_of_world (e : Effect) (w : World) :
    e.Risks w.store ((World.reply e).run w).1 ((World.reply e).run w).2.store := by
  cases e with
  | call c =>
    have hrun : (World.reply (.call c)).run w = (World.call c).run w := rfl
    rw [hrun]
    left
    simp only [Effect.Yields]
    cases h : c.answer w.store with
    | ok out =>
      rw [World.call_ok h]
      exact ⟨rfl, rfl⟩
    | error why =>
      rw [World.call_error h]
      exact ⟨rfl, rfl⟩
  | freshId =>
    obtain ⟨w', hdraw, hstore⟩ := w.drawId_eq
    have hrun : (World.reply .freshId).run w = World.drawId.run w := rfl
    rw [hrun, hdraw]
    exact hstore
  | _ => rfl

/-- Where a program leads, there it ends in any world, whichever of its calls
fail. -/
theorem Leads.run {x : Program α} {w : World} (h : x.Leads ends w.store)
    (faults : Nat → Option Failure) (n : Nat) :
    ends (((x.failingAt faults n).run World.reply).run w).2.store
      (((x.failingAt faults n).run World.reply).run w).1 := by
  induction x generalizing n w with
  | done a => exact h
  | step e next ih =>
    have hnext := ih _ (h _ _ (risks_of_world e w))
    cases e with
    | call c =>
      unfold failingAt
      dsimp only
      split
      · rename_i why _
        exact ih _ (h _ _ (.inr ⟨⟨why, rfl⟩, rfl⟩)) (n + 1)
      · exact hnext (n + 1)
    | _ => exact hnext n

end Program

namespace Action

def Leads (ends : Store → Except Failure α → Prop) (s : Store) (a : Action α) : Prop :=
  Program.Leads ends s a.run

variable {ends : Store → Except Failure α → Prop} {s : Store}

theorem leads_bind {a : Action β} {f : β → Action α} :
    (a >>= f).Leads ends s ↔ a.Leads (fun s r =>
      match r with
      | .ok b => (f b).Leads ends s
      | .error why => ends s (.error why)) s := by
  unfold Leads
  rw [ExceptT.run_bind, Program.leads_bind]
  refine iff_of_eq (congrArg (fun ends => Program.Leads ends s a.run) ?_)
  funext s r
  cases r <;> rfl

theorem leads_tryCatch {a : Action α} {f : Failure → Action α} :
    (tryCatch a f).Leads ends s ↔ a.Leads (fun s r =>
      match r with
      | .ok b => ends s (.ok b)
      | .error why => (f why).Leads ends s) s := by
  unfold Leads
  refine Program.leads_bind.trans
    (iff_of_eq (congrArg (fun ends => Program.Leads ends s a.run) ?_))
  funext s r
  cases r <;> rfl

theorem leads_pure {a : α} (h : ends s (.ok a)) : (pure a : Action α).Leads ends s := h

theorem leads_throw {why : Failure} (h : ends s (.error why)) :
    (throw why : Action α).Leads ends s := h

theorem leads_lift {x : Except Failure β} {f : β → Action α}
    (hok : ∀ b, x = .ok b → (f b).Leads ends s) (herror : ∀ why, ends s (.error why)) :
    (liftM x >>= f).Leads ends s := by
  rw [leads_bind]
  cases x with
  | ok b => exact hok b rfl
  | error why => exact herror why

theorem leads_silent {a : Action β} {f : β → Action α} (ha : a.Silent)
    (hok : ∀ b, (f b).Leads ends s) (herror : ∀ why, ends s (.error why)) :
    (a >>= f).Leads ends s := by
  rw [leads_bind]
  apply Program.Silent.leads ha
  intro r
  cases r with
  | ok b => exact hok b
  | error why => exact herror why

theorem leads_now {f : Instant → Action α} (h : ∀ t, (f t).Leads ends s) :
    (now >>= f).Leads ends s := by
  rw [leads_bind]
  rintro time t rfl
  exact h time

theorem leads_log {source : LogSource} {level : LogLevel} {message : String}
    {f : Unit → Action α} (h : (f ()).Leads ends s) :
    (log source level message >>= f).Leads ends s := by
  rw [leads_bind]
  rintro _ t rfl
  exact h

/-- A call of the store is answered, or it fails and changes nothing. -/
theorem leads_call {c : StoreCall} {f : c.Reply → Action α}
    (hok : ∀ a t, c.answer s = .ok (a, t) → (f a).Leads ends t)
    (herror : ∀ why, ends s (.error why)) : (call c >>= f).Leads ends s := by
  rw [leads_bind]
  intro r t hr
  obtain ⟨a, rfl, hanswer⟩ | ⟨⟨why, rfl⟩, rfl⟩ := Effect.risks_call hr
  · exact hok a t hanswer
  · exact herror why

theorem leads_within {scope : Option String} {a : Action α} (h : a.Leads ends s) :
    (within scope a).Leads ends s := by
  unfold within Leads
  rw [ExceptT.run_mk, Program.leads_perform]
  rintro _ t rfl
  rw [Program.leads_bind]
  apply Program.Leads.mono h
  rintro t r hends _ _ rfl
  exact hends

end Action

namespace Transaction

/-- As for actions, where `ends` also speaks of what would undo the writes. -/
def Leads (ends : Store → List Store.Undo → Except Failure α → Prop) (s : Store)
    (undos : List Store.Undo) (t : Transaction α) : Prop :=
  Program.Leads (fun s out => ends s out.2 out.1) s (t.run.run undos)

variable {ends : Store → List Store.Undo → Except Failure α → Prop} {s : Store}
  {undos : List Store.Undo}

theorem leads_bind {t : Transaction β} {f : β → Transaction α} :
    (t >>= f).Leads ends s undos ↔ t.Leads (fun s undos r =>
      match r with
      | .ok b => (f b).Leads ends s undos
      | .error why => ends s undos (.error why)) s undos := by
  unfold Leads
  rw [ExceptT.run_bind, StateT.run_bind, Program.leads_bind]
  refine iff_of_eq (congrArg (fun ends => Program.Leads ends s (t.run.run undos)) ?_)
  funext s out
  rcases out with ⟨r, undos⟩
  cases r <;> rfl

theorem leads_plain {a : Action α} (h : a.Leads (fun s r => ends s undos r) s) :
    (plain a).Leads ends s undos := by
  unfold Leads plain
  rw [ExceptT.run_mk, StateT.run_lift, Program.leads_bind]
  exact h

theorem leads_silent {a : Action β} {f : β → Transaction α} (ha : a.Silent)
    (hok : ∀ b, (f b).Leads ends s undos) (herror : ∀ why, ends s undos (.error why)) :
    (plain a >>= f).Leads ends s undos := by
  rw [leads_bind]
  refine leads_plain (Program.Silent.leads ha fun r => ?_)
  cases r with
  | ok b => exact hok b
  | error why => exact herror why

theorem leads_call {c : StoreCall} {f : c.Reply → Transaction α}
    (hok : ∀ a t, c.answer s = .ok (a, t) → (f a).Leads ends t undos)
    (herror : ∀ why, ends s undos (.error why)) :
    (plain (Action.call c) >>= f).Leads ends s undos := by
  rw [leads_bind]
  refine leads_plain fun r t hr => ?_
  obtain ⟨a, rfl, hanswer⟩ | ⟨⟨why, rfl⟩, rfl⟩ := Effect.risks_call hr
  · exact hok a t hanswer
  · exact herror why

theorem leads_freshId {f : String → Transaction α} (h : ∀ id, (f id).Leads ends s undos) :
    (plain Action.freshId >>= f).Leads ends s undos := by
  rw [leads_bind]
  apply leads_plain
  rintro id t rfl
  exact h id

theorem leads_insert {ends : Store → List Store.Undo → Except Failure Booking → Prop}
    {b : Booking} {exclude : List String}
    (hok : ∀ r t, s.insert b exclude = .ok (r, t) → ends t (.remove r :: undos) (.ok r.booking))
    (herror : ∀ why, ends s undos (.error why)) : (insert b exclude).Leads ends s undos :=
  leads_call hok herror

theorem leads_update {ends : Store → List Store.Undo → Except Failure Booking → Prop}
    {id : String} {expected : Status} {changes : List Booking.Change}
    (hok : ∀ u t, s.update id expected changes = .ok (u, t) →
      ends t (.restore u :: undos) (.ok u.after.booking))
    (herror : ∀ why, ends s undos (.error why)) :
    (update id expected changes).Leads ends s undos := leads_call hok herror

/-- A transaction that fails undoes its writes. -/
theorem leads_commit {provider : String} {body : Transaction α}
    {ends : Store → Except Failure α → Prop}
    (hbody : body.Leads (fun s undos r =>
      match r with
      | .ok a => ends s (.ok a)
      | .error why =>
        (rollBack undos >>= failureAfter why).Leads (fun s why => ends s (.error why)) s) s []) :
    (commit provider body).Leads ends s := by
  unfold commit Action.Leads
  rw [ExceptT.run_mk, Program.leads_perform]
  rintro _ t rfl
  rw [Program.leads_bind]
  apply Program.Leads.mono hbody
  intro s out hends
  rcases out with ⟨r, undos⟩
  cases r with
  | ok a =>
    rintro _ t rfl
    exact hends
  | error why =>
    dsimp only at hends ⊢
    rw [Program.leads_bind] at hends
    rw [Program.leads_bind]
    apply Program.Leads.mono hends
    intro s failed hends
    rw [Program.leads_bind]
    apply Program.Leads.mono hends
    rintro s why hends _ t rfl
    exact hends

/-- The one write of a transaction is undone. -/
theorem leads_rollBack {ends : Store → Failure → Prop} {u : Store.Undo} {why : Failure} {t : Store}
    (hundo : s.undo u = (true, t)) (h : ends t why) :
    Program.Leads ends s (rollBack [u] >>= failureAfter why) := by
  intro undone t' hundone
  obtain ⟨rfl, rfl⟩ := Prod.mk.inj (hundo.symm.trans hundone)
  exact h

end Transaction

/-! ## What becomes of the store -/

theorem Shelf.erase_put {α : Type} {key : α → String} {s : Shelf key} {a : α}
    (h : s.get? (key a) = none) : (s.put a).erase (key a) = s := by
  rw [get?_eq_none_iff] at h
  apply Shelf.ext
  unfold erase put
  dsimp only
  generalize s.items = items at h
  induction items with
  | nil => simp [putInto]
  | cons b bs ih =>
    have hb : key b ≠ key a := h b List.mem_cons_self
    unfold putInto
    rw [if_neg hb, List.filter_cons_of_pos (by simpa using hb),
      ih fun c hc => h c (List.mem_cons_of_mem _ hc)]

namespace Store

/-- Every booking is kept under its own id. -/
def Filed (s : Store) : Prop := ∀ r ∈ s.records.items, r.booking.id = r.key

/-- The two stores hold the same. -/
structure SameMaps (s t : Store) : Prop where
  templates : t.templates = s.templates
  blackouts : t.blackouts = s.blackouts
  records : t.records = s.records

/-- The two stores hold the same but for the bookings under these ids. -/
structure SameBut (s t : Store) (ids : List String) : Prop where
  templates : t.templates = s.templates
  blackouts : t.blackouts = s.blackouts
  elsewhere : ∀ k, k ∉ ids → t.records.get? k = s.records.get? k

/-- The store has got one confirmed booking more. -/
structure Adds (s t : Store) (b : Booking) : Prop where
  fresh : s.booking? b.id = none
  kept : t.booking? b.id = some b
  confirmed : b.status = .confirmed

variable {s t u : Store}

theorem SameMaps.refl (s : Store) : s.SameMaps s := ⟨rfl, rfl, rfl⟩

theorem SameBut.trans {ids ids' : List String} (h : s.SameBut t ids) (h' : t.SameBut u ids') :
    s.SameBut u (ids ++ ids') where
  templates := h'.templates.trans h.templates
  blackouts := h'.blackouts.trans h.blackouts
  elsewhere k hk := by
    rw [List.mem_append, not_or] at hk
    rw [h'.elsewhere k hk.2, h.elsewhere k hk.1]

theorem Filed.id_eq (hs : s.Filed) {k : String} {b : Booking} (hb : s.booking? k = some b) :
    b.id = k := by
  obtain ⟨r, hr, rfl⟩ := booking?_eq_some.1 hb
  rw [hs r (Shelf.mem_of_get? hr), Shelf.key_of_get? hr]

/-- Whatever happens at a desk, every booking stays under its own id. -/
theorem filed_of_atDesk {desk : Desk} {c : Crowd Errand Booking} (h : c.AtDesk desk) :
    c.store.Filed := fun _ hr => h.id_of_stored (Shelf.mem_items.1 hr)

/-- An insertion writes under the id of the booking, and nowhere else. -/
theorem inserted {b : Booking} {exclude : List String} {r : Record}
    (h : s.insert b exclude = .ok (r, t)) :
    s.booking? b.id = none ∧ t.booking? b.id = some b ∧ s.SameBut t [b.id] := by
  have hinserts := insert_eq_ok h
  unfold insert at h
  split at h
  · cases h
  obtain ⟨⟨⟩, -, h⟩ := bind_eq_ok.1 h
  obtain ⟨⟨⟩, -, h⟩ := bind_eq_ok.1 h
  cases pure_eq_ok.1 h
  refine ⟨?_, booking?_eq_some.2 ⟨_, by rw [hinserts.get?, if_pos rfl], rfl⟩, rfl, rfl,
    fun k hk => ?_⟩
  · unfold booking?
    rw [hinserts.fresh]
    rfl
  · rw [List.mem_singleton] at hk
    rw [hinserts.get?, if_neg (Ne.symm hk)]

/-- Nobody else has written since, and so the insertion is undone, and even
the order of the bookings is the old one. -/
theorem undo_inserted {b : Booking} {exclude : List String} {r : Record}
    (h : s.insert b exclude = .ok (r, t)) : ∃ u, t.undo (.remove r) = (true, u) ∧ s.SameMaps u := by
  have hinserts := insert_eq_ok h
  obtain ⟨-, -, hsame⟩ := inserted h
  have hheld : t.holds r = true := by
    rw [holds_iff, hinserts.booking_eq, ← hinserts.key_eq]
    exact ⟨r, by rw [hinserts.get?, if_pos rfl], rfl⟩
  refine ⟨{ t with records := t.records.erase r.booking.id }, ?_, hsame.templates,
    hsame.blackouts, ?_⟩
  · unfold undo Undo.written
    rw [if_pos hheld]
  · dsimp only
    rw [hinserts.booking_eq, ← hinserts.key_eq, hinserts.records,
      Shelf.erase_put hinserts.get?_key]

/-- An update of a booking that is kept under its own id changes that one, and
no other. -/
theorem updated {k : String} {b : Booking} {expected : Status} {changes : List Booking.Change}
    {u : Update} (h : s.update b.id expected changes = .ok (u, t)) (hb : s.booking? k = some b)
    (hid : b.id = k) :
    u.after.booking = b.change changes ∧ t.booking? k = some (b.change changes) ∧
      s.SameBut t [k] := by
  subst hid
  have hchanges := update_eq_ok h
  have hbefore : u.before.booking = b := by
    unfold booking? at hb
    rw [hchanges.before] at hb
    exact Option.some.inj hb
  have hafter : u.after.booking = b.change changes := by rw [hchanges.booking_eq, hbefore]
  have hsame : t.templates = s.templates ∧ t.blackouts = s.blackouts := by
    unfold update at h
    split at h
    · cases h
    · split at h
      · cases h
        exact ⟨rfl, rfl⟩
      · cases h
  refine ⟨hafter, booking?_eq_some.2 ⟨u.after, ?_, hafter⟩, hsame.1, hsame.2, fun k hk => ?_⟩
  · rw [hchanges.get?, if_pos hchanges.key_eq]
  · rw [List.mem_singleton] at hk
    rw [hchanges.get?, hchanges.key_eq, if_neg (Ne.symm hk)]

end Store

/-! ## What a call does -/

namespace Errand

/-- What a call does that answers with the booking `b`, on a store that becomes
`t`: it writes the bookings that it is about, and nothing else. -/
def Does (s t : Store) (b : Booking) : Errand → Prop
  | book .. => s.Adds t b ∧ s.SameBut t [b.id]
  | cancel actor id _ => ∃ old now why, s.booking? (Request.id id) = some old ∧
      b = { old with
        status := .cancelled, cancelledAt := some now, cancelledBy := some actor.role
        cancelReason := why } ∧
      t.booking? (Request.id id) = some b ∧ s.SameBut t [Request.id id]
  | complete _ id => ∃ old, s.booking? (Request.id id) = some old ∧
      b = { old with status := .completed } ∧
      t.booking? (Request.id id) = some b ∧ s.SameBut t [Request.id id]
  | reschedule _ id .. => ∃ old now why, s.booking? (Request.id id) = some old ∧
      s.Adds t b ∧ b.rescheduledFrom = some old.id ∧
      b.request = old.request ∧ b.response = old.response ∧
      b.provider = old.provider ∧ b.client = old.client ∧
      t.booking? (Request.id id) = some { old with
        status := .cancelled, rescheduledTo := some b.id, rescheduledAt := some now
        rescheduleReason := why } ∧
      s.SameBut t [b.id, Request.id id]

/-- How the store fares in a call with this errand. A failure leaves it as it
was. -/
def Fares (s : Store) (errand : Errand) (t : Store) : Except Failure Booking → Prop
  | .error _ => s.SameMaps t
  | .ok b => s.Filed → errand.Does s t b

variable {desk : Desk} {s : Store}

/-- The booking that is named is looked up. -/
theorem leads_load {ends : Store → Except Failure α → Prop} {id : Value} {f : Booking → Action α}
    (hok : ∀ b, s.booking? (Request.id id) = some b → (f b).Leads ends s)
    (herror : ∀ why, ends s (.error why)) : (Desk.load id >>= f).Leads ends s := by
  rw [Action.leads_bind]
  unfold Desk.load
  refine Action.leads_lift (fun k hk => ?_) herror
  obtain ⟨rfl, -⟩ := Request.requiredId_eq_ok hk
  refine Action.leads_call (fun found t hfound => ?_) herror
  cases hfound
  cases hb : s.booking? (Request.id id) with
  | some b => exact Action.leads_pure (hok b hb)
  | none => exact Action.leads_throw (herror _)

theorem leads_checkStillConfirmed {ends : Store → List Store.Undo → Except Failure α → Prop}
    {undos : List Store.Undo} {id : String} {f : Unit → Transaction α}
    (hok : (f ()).Leads ends s undos) (herror : ∀ why, ends s undos (.error why)) :
    (Transaction.plain (Desk.checkStillConfirmed id) >>= f).Leads ends s undos := by
  rw [Transaction.leads_bind]
  apply Transaction.leads_plain
  unfold Desk.checkStillConfirmed
  refine Action.leads_call (fun found t hfound => ?_) herror
  cases hfound
  split
  · exact Action.leads_throw (herror _)
  · exact Action.leads_pure hok

theorem book_fares (actor : Actor) (request response provider start minutes note : Value) :
    (desk.book actor request response provider start minutes note).Leads
      (Fares s (.book actor request response provider start minutes note)) s := by
  have hfailed : ∀ why, Fares s (.book actor request response provider start minutes note) s
      (.error why) := fun _ => .refl s
  unfold Desk.book
  apply Action.leads_within
  refine Action.leads_lift (fun request' _ => ?_) hfailed
  refine Action.leads_lift (fun response' _ => ?_) hfailed
  refine Action.leads_lift (fun provider' _ => ?_) hfailed
  refine Action.leads_now fun now => ?_
  refine Action.leads_lift (fun start' _ => ?_) hfailed
  refine Action.leads_lift (fun minutes' _ => ?_) hfailed
  refine Action.leads_lift (fun note' _ => ?_) hfailed
  refine Action.leads_silent (silent_authorize _ _ _ _) (fun _ => ?_) hfailed
  refine Action.leads_bind.2 (Transaction.leads_commit ?_)
  refine Transaction.leads_silent (silent_checkSlot _ _ _ _ _) (fun _ => ?_) hfailed
  refine Transaction.leads_freshId fun id => ?_
  refine Transaction.leads_insert (fun r t hinsert => ?_) hfailed
  obtain ⟨hfresh, hkept, hsame⟩ := Store.inserted hinsert
  have hr := (Store.insert_eq_ok hinsert).booking_eq
  refine Action.leads_log (Action.leads_pure fun _ => ?_)
  rw [hr]
  exact ⟨⟨hfresh, hkept, rfl⟩, hsame⟩

theorem cancel_fares (actor : Actor) (id reason : Value) :
    (desk.cancel actor id reason).Leads (Fares s (.cancel actor id reason)) s := by
  have hfailed : ∀ why, Fares s (.cancel actor id reason) s (.error why) := fun _ => .refl s
  unfold Desk.cancel
  apply Action.leads_within
  refine leads_load (fun b hb => ?_) hfailed
  refine Action.leads_silent (silent_authorize _ _ _ _) (fun _ => ?_) hfailed
  refine Action.leads_lift (fun status hstatus => ?_) hfailed
  obtain ⟨-, rfl⟩ := Desk.nextStatus_eq_ok hstatus
  refine Action.leads_now fun now => ?_
  refine Action.leads_lift (fun _ _ => ?_) hfailed
  refine Action.leads_lift (fun why _ => ?_) hfailed
  apply Action.leads_bind.2
  unfold Desk.cancelConfirmed
  apply Action.leads_tryCatch.2
  refine Action.leads_call (fun u t hupdate => ?_) fun why => ?_
  · refine Action.leads_log (Action.leads_pure fun hfiled => ?_)
    obtain ⟨hafter, hkept, hsame⟩ := Store.updated hupdate hb (hfiled.id_eq hb)
    exact ⟨b, now, why, hb, hafter, hafter ▸ hkept, hsame⟩
  · cases why with
    | conflict _ => exact Action.leads_log (Action.leads_throw (hfailed _))
    | _ => exact Action.leads_throw (hfailed _)

theorem complete_fares (actor : Actor) (id : Value) :
    (desk.complete actor id).Leads (Fares s (.complete actor id)) s := by
  have hfailed : ∀ why, Fares s (.complete actor id) s (.error why) := fun _ => .refl s
  unfold Desk.complete
  apply Action.leads_within
  refine leads_load (fun b hb => ?_) hfailed
  refine Action.leads_silent (silent_authorize _ _ _ _) (fun _ => ?_) hfailed
  refine Action.leads_lift (fun status hstatus => ?_) hfailed
  obtain ⟨-, rfl⟩ := Desk.nextStatus_eq_ok hstatus
  refine Action.leads_lift (fun stop _ => ?_) hfailed
  refine Action.leads_now fun now => ?_
  dsimp only
  split
  · exact Action.leads_bind.2 (Action.leads_throw (hfailed _))
  refine Action.leads_call (fun u t hupdate => ?_) hfailed
  refine Action.leads_log (Action.leads_pure fun hfiled => ?_)
  obtain ⟨hafter, hkept, hsame⟩ := Store.updated hupdate hb (hfiled.id_eq hb)
  exact ⟨b, hb, hafter, hafter ▸ hkept, hsame⟩

theorem reschedule_fares (actor : Actor) (id start minutes reason : Value) :
    (desk.reschedule actor id start minutes reason).Leads
      (Fares s (.reschedule actor id start minutes reason)) s := by
  have hfailed : ∀ why, Fares s (.reschedule actor id start minutes reason) s (.error why) :=
    fun _ => .refl s
  unfold Desk.reschedule
  apply Action.leads_within
  refine Action.leads_now fun now => ?_
  refine Action.leads_lift (fun start' _ => ?_) hfailed
  refine Action.leads_lift (fun why _ => ?_) hfailed
  refine leads_load (fun old hold => ?_) hfailed
  refine Action.leads_silent (silent_authorize _ _ _ _) (fun _ => ?_) hfailed
  refine Action.leads_lift (fun status hstatus => ?_) hfailed
  obtain ⟨-, rfl⟩ := Desk.nextStatus_eq_ok hstatus
  refine Action.leads_lift (fun _ _ => ?_) hfailed
  refine Action.leads_lift (fun minutes' _ => ?_) hfailed
  refine Action.leads_bind.2 (Transaction.leads_commit ?_)
  refine leads_checkStillConfirmed ?_ hfailed
  refine Transaction.leads_silent (silent_checkSlot _ _ _ _ _) (fun _ => ?_) hfailed
  refine Transaction.leads_freshId fun id' => ?_
  refine Transaction.leads_bind.2 (Transaction.leads_insert (fun r t hinsert => ?_) hfailed)
  obtain ⟨hfresh, hnew, hadded⟩ := Store.inserted hinsert
  have hr := (Store.insert_eq_ok hinsert).booking_eq
  refine Transaction.leads_bind.2 (Transaction.leads_update (fun u t' hupdate => ?_) fun _ => ?_)
  · refine Action.leads_log (Action.leads_pure fun hfiled => ?_)
    -- The new booking is under an id of its own, and so the old one is still there.
    have hne : Request.id id ≠ (Desk.successor old id' start' minutes').id := by
      intro heq
      rw [heq] at hold
      cases hold.symm.trans hfresh
    have hstill : t.booking? (Request.id id) = some old := by
      unfold Store.booking? at hold ⊢
      rw [hadded.elsewhere _ (by simpa using hne), hold]
    obtain ⟨-, hkept, hchanged⟩ := Store.updated hupdate hstill (hfiled.id_eq hold)
    have hboth := hadded.trans hchanged
    rw [hr] at hkept ⊢
    refine ⟨old, now, why, hold, ⟨hfresh, ?_, rfl⟩, rfl, rfl, rfl, rfl, rfl, hkept, hboth⟩
    unfold Store.booking? at hnew ⊢
    rw [hchanged.elsewhere _ (by simpa using hne.symm), hnew]
  · -- The old booking is not changed, and so the new one is taken away.
    obtain ⟨restored, hundo, hsame⟩ := Store.undo_inserted hinsert
    exact Transaction.leads_rollBack hundo hsame

/-- Whatever the store holds and whichever calls of it fail, a call that fails
has changed nothing, and one that succeeds has changed nothing but what it is
about, where the store keeps every booking under its own id. -/
theorem all_or_nothing (desk : Desk) (errand : Errand) (w : World)
    (faults : Nat → Option Failure) :
    ((errand.serve desk).failingAt faults).Ends w fun result w' =>
      Fares w.store errand w'.store result := by
  have hleads : (errand.serve desk).Leads (Fares w.store errand) w.store := by
    cases errand with
    | book => exact book_fares _ _ _ _ _ _ _
    | cancel => exact cancel_fares _ _ _
    | complete => exact @complete_fares desk _ _ _
    | reschedule => exact reschedule_fares _ _ _ _ _
  exact hleads.run faults 0

end Errand

namespace Practice

/-- The patient moves the booking at ten by an hour. -/
def delaying : Errand := moving "a" "2026-03-02T11:00:00Z"

/-- The move succeeds. Where the last call of the store fails, which is to
change the old booking, the new one is gone again. -/
theorem failed_move_leaves_no_trace :
    bookedAtTen.store.Filed ∧
      ((delaying.serve {}).failingAt fun _ => none).Ends bookedAtTen
        (fun result w => ∃ b, result = .ok b ∧ b.start = eleven ∧
          delaying.Does bookedAtTen.store w.store b) ∧
      ((delaying.serve {}).failingAt fun n => if n = 6 then some (.aborted "timeout") else none).Ends
        bookedAtTen fun result w => result.isOk = false ∧ bookedAtTen.store.SameMaps w.store := by
  have hfiled : bookedAtTen.store.Filed := by
    unfold Store.Filed
    decide +kernel
  refine ⟨hfiled, ?_, ?_⟩
  · have hfares := Errand.all_or_nothing {} delaying bookedAtTen fun _ => none
    have hstart : ((World.run ((delaying.serve {}).failingAt fun _ => none)).run
        bookedAtTen).1.toOption.map (·.start) = some eleven := by decide +kernel
    unfold Action.Ends at hfares ⊢
    generalize (World.run _).run bookedAtTen = out at hfares hstart ⊢
    rcases out with ⟨_ | b, w⟩
    · cases hstart
    · exact ⟨b, rfl, Option.some.inj hstart, hfares hfiled⟩
  · have hfares := Errand.all_or_nothing {} delaying bookedAtTen
      fun n => if n = 6 then some (.aborted "timeout") else none
    have hfails : ((World.run ((delaying.serve {}).failingAt
        fun n => if n = 6 then some (.aborted "timeout") else none)).run
          bookedAtTen).1.isOk = false := by decide +kernel
    unfold Action.Ends at hfares ⊢
    generalize (World.run _).run bookedAtTen = out at hfares hfails ⊢
    rcases out with ⟨_ | b, w⟩
    · exact ⟨rfl, hfares⟩
    · cases hfails

/-- The patient has a booking at ten and one at eleven, which is kept under "b"
but bears the id of the other one. -/
def misfiled : World where
  store := { opening with
    records := (Shelf.empty.put ⟨"a", 0, booked⟩).put ⟨"b", 2, { booked with start := eleven }⟩
    nextStamp := 3 }
  clock := today

/-- Who cancels the booking that is kept under "b" cancels another one. -/
theorem misfiled_booking_is_not_cancelled :
    ¬ ∀ (desk : Desk) (errand : Errand) (w : World) (faults : Nat → Option Failure),
      ((errand.serve desk).failingAt faults).Ends w fun result w' =>
        match result with
        | .error _ => w.store.SameMaps w'.store
        | .ok b => errand.Does w.store w'.store b := by
  intro h
  have hends := h {} (.cancel patient (.text "b") .null) misfiled fun _ => none
  have hrun : let out := (World.run (((Errand.cancel patient (.text "b") .null).serve {}).failingAt
        fun _ => none)).run misfiled
      out.1.toOption.map (·.start) = some ten ∧
        (out.2.store.booking? "b").map (·.start) = some eleven := by decide +kernel
  unfold Action.Ends at hends
  generalize (World.run _).run misfiled = out at hends hrun
  rcases out with ⟨_ | b, w⟩
  · cases hrun.1
  · obtain ⟨old, now, why, -, -, hkept, -⟩ := hends
    have hid : Request.id (.text "b") = "b" := by decide +kernel
    rw [hid] at hkept
    dsimp only at hrun
    rw [hkept] at hrun
    cases hrun.1.symm.trans hrun.2

end Practice
end Appointments
