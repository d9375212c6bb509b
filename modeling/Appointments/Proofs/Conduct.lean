-- How calls conduct themselves, whatever they are told on their way. A rule
-- about ledgers is kept by a program if every step leads from a ledger that
-- follows the rule to one that does.
import Appointments.Proofs.Crowd
namespace Appointments

/-! ## Programs that keep a rule -/

/-- After each step, whatever the reply, the ledger is as `rule` says, and at
the end ledger and result are as `ends` says. -/
def Program.Keeps (rule : Ledger → Prop) (ends : Ledger → α → Prop) : Ledger → Program α → Prop
  | l, .done a => ends l a
  | l, .step e next =>
    ∀ r, e.Honest r → rule (l.note e r) ∧ (next r).Keeps rule ends (l.note e r)

namespace Program

variable {rule : Ledger → Prop} {ends : Ledger → α → Prop} {l : Ledger}

theorem keeps_step {e : Effect} {next : e.Reply → Program α} :
    (step e next).Keeps rule ends l ↔
      ∀ r, e.Honest r → rule (l.note e r) ∧ (next r).Keeps rule ends (l.note e r) := Iff.rfl

theorem keeps_bind {x : Program β} {f : β → Program α} :
    (x >>= f).Keeps rule ends l ↔ x.Keeps rule (fun l b => (f b).Keeps rule ends l) l := by
  induction x generalizing l with
  | done b => rfl
  | step e next ih =>
    rw [step_bind, keeps_step, keeps_step]
    simp only [ih]

theorem keeps_perform {e : Effect} {f : e.Reply → Program α} :
    (perform e >>= f).Keeps rule ends l ↔
      ∀ r, e.Honest r → rule (l.note e r) ∧ (f r).Keeps rule ends (l.note e r) := Iff.rfl

theorem Keeps.mono {x : Program α} {ends' : Ledger → α → Prop} (h : x.Keeps rule ends l)
    (hl : rule l) (himp : ∀ l a, rule l → ends l a → ends' l a) : x.Keeps rule ends' l := by
  induction x generalizing l with
  | done a => exact himp l a hl h
  | step e next ih =>
    intro r hr
    obtain ⟨hrule, hnext⟩ := h r hr
    exact ⟨hrule, ih r hnext hrule⟩

/-! ## Programs that leave no trace -/

/-- No step of the program is written to the ledger. -/
def Silent : Program α → Prop
  | done _ => True
  | step e next => ∀ r, (∀ l : Ledger, l.note e r = l) ∧ (next r).Silent

theorem silent_bind {x : Program β} {f : β → Program α} (hx : x.Silent) (hf : ∀ b, (f b).Silent) :
    (x >>= f).Silent := by
  induction x with
  | done b => exact hf b
  | step e next ih =>
    intro r
    exact ⟨(hx r).1, ih r (hx r).2⟩

theorem Silent.keeps {x : Program α} (h : x.Silent) (hl : rule l) (hends : ∀ a, ends l a) :
    x.Keeps rule ends l := by
  induction x with
  | done a => exact hends a
  | step e next ih =>
    intro r _
    obtain ⟨hnote, hnext⟩ := h r
    rw [hnote]
    exact ⟨hl, ih r hnext⟩

end Program

/-! ## Actions -/

namespace Action

def Keeps (rule : Ledger → Prop) (ends : Ledger → Except Failure α → Prop) (l : Ledger)
    (a : Action α) : Prop := Program.Keeps rule ends l a.run

def Silent (a : Action α) : Prop := Program.Silent a.run

variable {rule : Ledger → Prop} {ends : Ledger → Except Failure α → Prop} {l : Ledger}

/-- An action that goes on after a result, and ends with a failure. -/
theorem keeps_bind {a : Action β} {f : β → Action α} :
    (a >>= f).Keeps rule ends l ↔ a.Keeps rule (fun l r =>
      match r with
      | .ok b => (f b).Keeps rule ends l
      | .error why => ends l (.error why)) l := by
  unfold Keeps
  rw [ExceptT.run_bind, Program.keeps_bind]
  refine iff_of_eq (congrArg (fun ends => Program.Keeps rule ends l a.run) ?_)
  funext l r
  cases r <;> rfl

/-- What is computed without a step is done before the action goes on. -/
theorem keeps_lift {x : Except Failure β} {f : β → Action α}
    (hok : ∀ b, x = .ok b → (f b).Keeps rule ends l)
    (herror : ∀ why, x = .error why → ends l (.error why)) :
    (liftM x >>= f).Keeps rule ends l := by
  rw [keeps_bind]
  cases x with
  | ok b => exact hok b rfl
  | error why => exact herror why rfl

theorem keeps_pure {a : α} (h : ends l (.ok a)) : (pure a : Action α).Keeps rule ends l := h

theorem keeps_throw {why : Failure} (h : ends l (.error why)) :
    (throw why : Action α).Keeps rule ends l := h

/-- A silent part changes nothing for what comes after it. -/
theorem keeps_silent {a : Action β} {f : β → Action α} (ha : a.Silent) (hl : rule l)
    (hok : ∀ b, (f b).Keeps rule ends l) (herror : ∀ why, ends l (.error why)) :
    (a >>= f).Keeps rule ends l := by
  rw [keeps_bind]
  apply Program.Silent.keeps ha hl
  intro r
  cases r with
  | ok b => exact hok b
  | error why => exact herror why

theorem keeps_now {f : Instant → Action α}
    (h : ∀ t, rule (l.note .now t) ∧ (f t).Keeps rule ends (l.note .now t)) :
    (now >>= f).Keeps rule ends l := by
  rw [keeps_bind]
  exact fun t _ => h t

theorem keeps_call {c : StoreCall} {f : c.Reply → Action α}
    (hrule : ∀ r, (Effect.call c).Honest r → rule (l.note (.call c) r))
    (hok : ∀ a, (Effect.call c).Honest (.ok a) → (f a).Keeps rule ends (l.note (.call c) (.ok a)))
    (herror : ∀ why, (Effect.call c).Honest (.error why) →
      ends (l.note (.call c) (.error why)) (.error why)) :
    (call c >>= f).Keeps rule ends l := by
  rw [keeps_bind]
  intro r hr
  refine ⟨hrule r hr, ?_⟩
  cases r with
  | ok a => exact hok a hr
  | error why => exact herror why hr

theorem keeps_log {source : LogSource} {level : LogLevel} {message : String}
    {f : Unit → Action α} (hl : rule l) (h : (f ()).Keeps rule ends l) :
    (log source level message >>= f).Keeps rule ends l := by
  rw [keeps_bind]
  exact fun _ _ => ⟨hl, h⟩

/-- An action that goes on after a failure, and ends with a result. -/
theorem keeps_tryCatch {a : Action α} {f : Failure → Action α} :
    (tryCatch a f).Keeps rule ends l ↔ a.Keeps rule (fun l r =>
      match r with
      | .ok b => ends l (.ok b)
      | .error why => (f why).Keeps rule ends l) l := by
  unfold Keeps
  refine Program.keeps_bind.trans
    (iff_of_eq (congrArg (fun ends => Program.Keeps rule ends l a.run) ?_))
  funext l r
  cases r <;> rfl

theorem keeps_within {scope : Option String} {a : Action α} (hl : rule l)
    (h : a.Keeps rule ends l) : (within scope a).Keeps rule ends l := by
  unfold within Keeps
  rw [ExceptT.run_mk, Program.keeps_perform]
  refine fun _ _ => ⟨hl, ?_⟩
  rw [Program.keeps_bind]
  apply Program.Keeps.mono h hl
  intro l r hrule hends
  rw [Program.keeps_perform]
  exact fun _ _ => ⟨hrule, hends⟩

/-! ## Silent actions -/

theorem silent_bind {a : Action β} {f : β → Action α} (ha : a.Silent) (hf : ∀ b, (f b).Silent) :
    (a >>= f).Silent := by
  unfold Silent
  rw [ExceptT.run_bind]
  apply Program.silent_bind ha
  intro r
  cases r with
  | ok b => exact hf b
  | error why => trivial

theorem silent_pure (a : α) : (pure a : Action α).Silent := trivial

theorem silent_throw (why : Failure) : (throw why : Action α).Silent := trivial

theorem silent_lift (x : Except Failure α) : (liftM x : Action α).Silent := trivial

theorem silent_log (source : LogSource) (level : LogLevel) (message : String) :
    (log source level message).Silent := fun _ => ⟨fun _ => rfl, trivial⟩

theorem silent_call {c : StoreCall} (h : ∀ r (l : Ledger), l.note (.call c) r = l) :
    (call c).Silent := fun r => ⟨h r, trivial⟩

theorem silent_within {scope : Option String} {a : Action α} (h : a.Silent) :
    (within scope a).Silent := by
  unfold within Silent
  rw [ExceptT.run_mk]
  refine Program.silent_bind (fun _ => ⟨fun _ => rfl, trivial⟩) fun _ => ?_
  apply Program.silent_bind h
  intro r
  exact fun _ => ⟨fun _ => rfl, trivial⟩

theorem silent_forM (items : List β) (f : β → Action PUnit) (h : ∀ b, (f b).Silent) :
    (items.forM f).Silent := by
  induction items with
  | nil => exact silent_pure _
  | cons b bs ih => exact silent_bind (h b) fun _ => ih

end Action

/-! ## Transactions -/

namespace Transaction

/-- As for actions, where `ends` also speaks of what would undo the writes. -/
def Keeps (rule : Ledger → Prop) (ends : Ledger → List Store.Undo → Except Failure α → Prop)
    (l : Ledger) (undos : List Store.Undo) (t : Transaction α) : Prop :=
  Program.Keeps rule (fun l out => ends l out.2 out.1) l (t.run.run undos)

variable {rule : Ledger → Prop} {ends : Ledger → List Store.Undo → Except Failure α → Prop}
  {l : Ledger} {undos : List Store.Undo}

theorem keeps_bind {t : Transaction β} {f : β → Transaction α} :
    (t >>= f).Keeps rule ends l undos ↔ t.Keeps rule (fun l undos r =>
      match r with
      | .ok b => (f b).Keeps rule ends l undos
      | .error why => ends l undos (.error why)) l undos := by
  unfold Keeps
  rw [ExceptT.run_bind, StateT.run_bind, Program.keeps_bind]
  refine iff_of_eq (congrArg (fun ends => Program.Keeps rule ends l (t.run.run undos)) ?_)
  funext l out
  rcases out with ⟨r, undos⟩
  cases r <;> rfl

theorem keeps_plain {a : Action α} (h : a.Keeps rule (fun l r => ends l undos r) l) :
    (plain a).Keeps rule ends l undos := by
  unfold Keeps plain
  rw [ExceptT.run_mk, StateT.run_lift, Program.keeps_bind]
  exact h

/-- A plain part of a transaction that leaves no trace. -/
theorem keeps_silent {a : Action β} {f : β → Transaction α} (ha : a.Silent) (hl : rule l)
    (hok : ∀ b, (f b).Keeps rule ends l undos) (herror : ∀ why, ends l undos (.error why)) :
    (plain a >>= f).Keeps rule ends l undos := by
  rw [keeps_bind]
  refine keeps_plain (Program.Silent.keeps ha hl fun r => ?_)
  cases r with
  | ok b => exact hok b
  | error why => exact herror why

theorem keeps_freshId {f : String → Transaction α}
    (h : ∀ id, rule (l.add (.drew id)) ∧ (f id).Keeps rule ends (l.add (.drew id)) undos) :
    (plain Action.freshId >>= f).Keeps rule ends l undos := by
  rw [keeps_bind]
  exact keeps_plain fun id _ => h id

theorem keeps_insert {ends : Ledger → List Store.Undo → Except Failure Booking → Prop}
    {b : Booking} {exclude : List String}
    (hrule : ∀ r : Except Failure Record, (Effect.call (.insert b exclude)).Honest r →
      rule (l.note (.call (.insert b exclude)) r))
    (hok : ∀ r : Record, (Effect.call (.insert b exclude)).Honest (.ok r) →
      ends (l.add (.inserted r exclude)) (.remove r :: undos) (.ok r.booking))
    (herror : ∀ why, ends (l.add (.refused (.insert b exclude))) undos (.error why)) :
    (insert b exclude).Keeps rule ends l undos := by
  unfold insert
  rw [keeps_bind]
  refine keeps_plain fun r hr => ⟨hrule r hr, ?_⟩
  cases r with
  | ok r => exact hok r hr
  | error why => exact herror why

theorem keeps_update {ends : Ledger → List Store.Undo → Except Failure Booking → Prop}
    {id : String} {expected : Status} {changes : List Booking.Change}
    (hrule : ∀ r : Except Failure Store.Update,
      (Effect.call (.update id expected changes)).Honest r →
      rule (l.note (.call (.update id expected changes)) r))
    (hok : ∀ u : Store.Update, (Effect.call (.update id expected changes)).Honest (.ok u) →
      ends (l.add (.changed u)) (.restore u :: undos) (.ok u.after.booking))
    (herror : ∀ why, ends (l.add (.refused (.update id expected changes))) undos (.error why)) :
    (update id expected changes).Keeps rule ends l undos := by
  unfold update
  rw [keeps_bind]
  refine keeps_plain fun r hr => ⟨hrule r hr, ?_⟩
  cases r with
  | ok u => exact hok u hr
  | error why => exact herror why

/-- One write is undone after a failure, or the failure says that it is not. -/
theorem keeps_rollBack {ends : Ledger → Failure → Prop} {u : Store.Undo} {why : Failure}
    (hundid : rule (l.add (.undid u)) ∧ ends (l.add (.undid u)) why)
    (hstuck : rule (l.add (.stuck u)) ∧
      ends (l.add (.stuck u)) (.corrupted (.notRolledBack [u.key]))) :
    Program.Keeps rule ends l (rollBack [u] >>= failureAfter why) := by
  intro undone _
  cases undone with
  | true => exact hundid
  | false => exact ⟨hstuck.1, fun _ _ => hstuck⟩

/-- The provider is held while the body runs and while it is undone, and then
released. -/
theorem keeps_commit {provider : String} {body : Transaction α}
    {ends : Ledger → Except Failure α → Prop} (hheld : ∀ held, rule { l with held })
    (hbody : body.Keeps rule (fun l undos r =>
      match r with
      | .ok a => ∀ held, rule { l with held } ∧ ends { l with held } (.ok a)
      | .error why => (rollBack undos >>= failureAfter why).Keeps rule
        (fun l why => ∀ held, rule { l with held } ∧ ends { l with held } (.error why)) l)
      { l with held := provider :: l.held } []) :
    (commit provider body).Keeps rule ends l := by
  unfold commit Action.Keeps
  rw [ExceptT.run_mk, Program.keeps_perform]
  refine fun _ _ => ⟨hheld _, ?_⟩
  rw [Program.keeps_bind]
  apply Program.Keeps.mono hbody (hheld _)
  intro l out hl hends
  rcases out with ⟨r, undos⟩
  cases r with
  | ok a => exact fun _ _ => hends _
  | error why =>
    dsimp only at hends ⊢
    rw [Program.keeps_bind] at hends
    rw [Program.keeps_bind]
    apply Program.Keeps.mono hends hl
    intro l failed hl hends
    rw [Program.keeps_bind]
    apply Program.Keeps.mono hends hl
    intro l why _ hends
    exact fun _ _ => hends _

end Transaction
end Appointments
