-- How actions end in a world where nobody else acts, told from what they can
-- find out about it. Many of them only report what they find.
import Appointments.Proofs.Outcomes
import Appointments.Transaction
import Appointments.World
namespace Appointments

/-! ## What can be found out about a world -/

/-- What an action can find out about a world. -/
structure View where
  store : Store
  now : Instant
  nextId : String

namespace World

/-- The id that is drawn next. -/
def nextId (w : World) : String :=
  match w.ids with
  | id :: _ => id
  | [] => "g" ++ toString (w.drawn + 1)

def view (w : World) : View := ⟨w.store, w.clock, w.nextId⟩

theorem drawId_eq (w : World) : ∃ w', drawId.run w = (w.nextId, w') ∧ w'.store = w.store := by
  rcases w with ⟨store, clock, ids, drawn, scopes, log⟩
  cases ids with
  | nil => exact ⟨_, rfl, rfl⟩
  | cons id ids => exact ⟨_, rfl, rfl⟩

theorem call_ok {c : StoreCall} {w : World} {a : c.Reply} {s : Store}
    (h : c.answer w.store = .ok (a, s)) : (call c).run w = (.ok a, { w with store := s }) := by
  simp [call, h]
  rfl

theorem call_error {c : StoreCall} {w : World} {why : Failure}
    (h : c.answer w.store = .error why) : (call c).run w = (.error why, w) := by
  simp [call, h]
  rfl

end World

/-! ## How actions end -/

namespace Action

/-- From this world on, the action ends as `ends` says. -/
def Ends (w : World) (ends : Except Failure α → World → Prop) (a : Action α) : Prop :=
  ends ((World.run a).run w).1 ((World.run a).run w).2

/-- Wherever an action finds what the view shows, it ends with this outcome,
and leaves behind what it has found. -/
def Reports (v : View) (r : Except Failure α) (a : Action α) : Prop :=
  ∀ w : World, w.view = v → a.Ends w fun r' w' => r' = r ∧ w'.view = v

section
variable {v : View} {w : World} {ends : Except Failure α → World → Prop}

theorem Ends.mono {ends' : Except Failure α → World → Prop} {a : Action α} (h : a.Ends w ends)
    (himp : ∀ r w, ends r w → ends' r w) : a.Ends w ends' := himp _ _ h

/-- The run of an action that ends with a result. -/
theorem Ends.exists_run {a : Action α} {P : Prop} (h : a.Ends w fun r _ => r.isOk = true ↔ P) :
    (∃ b w', (World.run a).run w = (.ok b, w')) ↔ P := by
  unfold Ends at h
  generalize (World.run a).run w = out at h ⊢
  rcases out with ⟨r, w'⟩
  refine Iff.trans ?_ h
  cases r with
  | ok b => exact iff_of_true ⟨b, w', rfl⟩ rfl
  | error why => exact iff_of_false (fun ⟨_, _, hb⟩ => nomatch hb) Bool.false_ne_true

/-- An action goes on after a result, and ends with a failure. -/
theorem ends_bind {a : Action β} {f : β → Action α} :
    (a >>= f).Ends w ends ↔ a.Ends w fun r w =>
      match r with
      | .ok b => (f b).Ends w ends
      | .error why => ends (.error why) w := by
  unfold Ends
  rw [World.run_bind]
  rcases (World.run a).run w with ⟨r, w'⟩
  cases r <;> rfl

/-- A call of the store is answered, or fails and changes nothing. -/
theorem ends_call {c : StoreCall} {ends : Except Failure c.Reply → World → Prop} :
    (call c).Ends w ends ↔
      match c.answer w.store with
      | .ok (reply, store) => ends (.ok reply) { w with store }
      | .error why => ends (.error why) w := by
  have hrun : (World.run (call c)).run w = (World.call c).run w := rfl
  unfold Ends
  rw [hrun]
  cases h : c.answer w.store with
  | ok out => rw [World.call_ok h]
  | error why => rw [World.call_error h]

/-- An action goes on with what its first part reports. -/
theorem ends_of_reports {a : Action β} {b : β} {f : β → Action α} (hw : w.view = v)
    (ha : a.Reports v (.ok b)) (hf : ∀ w' : World, w'.view = v → (f b).Ends w' ends) :
    (a >>= f).Ends w ends := by
  rw [ends_bind]
  apply (ha w hw).mono
  intro r w' hw'
  obtain ⟨rfl, hview⟩ := hw'
  exact hf w' hview

theorem ends_of_reports_error {a : Action β} {why : Failure} {f : β → Action α}
    (hw : w.view = v) (ha : a.Reports v (.error why))
    (hends : ∀ w' : World, w'.view = v → ends (.error why) w') : (a >>= f).Ends w ends := by
  rw [ends_bind]
  apply (ha w hw).mono
  intro r w' hw'
  obtain ⟨rfl, hview⟩ := hw'
  exact hends w' hview

end

/-! ## What actions report -/

section
variable {v : View}

theorem reports_pure (a : α) : (pure a : Action α).Reports v (.ok a) := fun _ hw => ⟨rfl, hw⟩

theorem reports_throw (why : Failure) : (throw why : Action α).Reports v (.error why) :=
  fun _ hw => ⟨rfl, hw⟩

theorem reports_lift (x : Except Failure α) : (liftM x : Action α).Reports v x := by
  cases x with
  | ok a => exact reports_pure a
  | error why => exact reports_throw why

theorem reports_ok_bind {a : Action β} {f : β → Action α} {b : β} {r : Except Failure α}
    (ha : a.Reports v (.ok b)) (hf : (f b).Reports v r) : (a >>= f).Reports v r := by
  intro w hw
  exact ends_of_reports hw ha hf

theorem reports_error_bind {a : Action β} {f : β → Action α} {why : Failure}
    (ha : a.Reports v (.error why)) : (a >>= f).Reports v (.error why) := by
  intro w hw
  apply ends_of_reports_error hw ha
  intro w' hw'
  exact ⟨rfl, hw'⟩

/-- An action reports in turn what its parts report. -/
theorem reports_bind {a : Action β} {f : β → Action α} {x : Except Failure β}
    {g : β → Except Failure α} (ha : a.Reports v x)
    (hf : ∀ b, x = .ok b → (f b).Reports v (g b)) : (a >>= f).Reports v (x >>= g) := by
  cases x with
  | ok b => exact reports_ok_bind ha (hf b rfl)
  | error why => exact reports_error_bind ha

theorem reports_now : now.Reports v (.ok v.now) := by
  intro w hw
  refine ⟨?_, hw⟩
  rw [← hw]
  rfl

/-- A call that does not change the store reports its answer. -/
theorem reports_call {c : StoreCall} {x : Except Failure c.Reply}
    (h : c.answer v.store = x.map fun a => (a, v.store)) : (call c).Reports v x := by
  intro w hw
  have hstore : v.store = w.store := by
    rw [← hw]
    rfl
  rw [hstore] at h
  rw [ends_call, h]
  cases x with
  | ok a => exact ⟨rfl, hw⟩
  | error why => exact ⟨rfl, hw⟩

theorem reports_log (source : LogSource) (level : LogLevel) (message : String) :
    (log source level message).Reports v (.ok ()) := fun _ hw => ⟨rfl, hw⟩

theorem reports_forM (items : List β) (f : β → Action PUnit)
    (h : ∀ b ∈ items, (f b).Reports v (.ok ⟨⟩)) : (items.forM f).Reports v (.ok ⟨⟩) := by
  induction items with
  | nil => exact reports_pure _
  | cons b bs ih =>
    exact reports_ok_bind (h b (by simp)) (ih fun c hc => h c (by simp [hc]))

end

/-! ## Scopes and ids -/

section
variable {w : World} {ends : Except Failure α → World → Prop}

theorem run_within (scope : Option String) (a : Action α) (w : World) :
    (World.run (within scope a)).run w =
      let (r, w') := (World.run a).run { w with scopes := w.scopes.enter scope }
      (r, { w' with scopes := w'.scopes.leave }) := by
  have hsplit : (within scope a).run =
      Program.perform (.enterScope scope) >>= fun _ => a.run >>= fun r =>
        Program.perform .leaveScope >>= fun _ => pure r := rfl
  unfold World.run
  rw [hsplit]
  simp only [Program.run_bind]
  rfl

/-- A scope changes nothing but the scopes. -/
theorem ends_within {scope : Option String} {a : Action α}
    (h : ∀ scopes, a.Ends { w with scopes } fun r w' => ∀ scopes, ends r { w' with scopes }) :
    (within scope a).Ends w ends := by
  unfold Ends
  rw [run_within]
  have hends := h (w.scopes.enter scope)
  unfold Ends at hends
  generalize (World.run a).run { w with scopes := w.scopes.enter scope } = out at hends ⊢
  exact hends _

theorem reports_within {v : View} {scope : Option String} {a : Action α} {r : Except Failure α}
    (h : a.Reports v r) : (within scope a).Reports v r :=
  fun w hw => ends_within fun scopes =>
    (h { w with scopes } hw).mono fun _ _ hends _ => hends

theorem ends_freshId : freshId.Ends w fun r w' => r = .ok w.nextId ∧ w'.store = w.store := by
  obtain ⟨w', hdraw, hstore⟩ := w.drawId_eq
  have hlift : (World.run freshId).run w =
      ((.ok (World.drawId.run w).1 : Except Failure String), (World.drawId.run w).2) := rfl
  unfold Ends
  rw [hlift, hdraw]
  exact ⟨rfl, hstore⟩

end
end Action

/-! ## Transactions -/

namespace Transaction

/-- As for actions, where `ends` also speaks of what would undo the writes. -/
def Ends (w : World) (ends : Except Failure α → List Store.Undo → World → Prop)
    (undos : List Store.Undo) (t : Transaction α) : Prop :=
  let out := (Program.run World.reply (t.run.run undos)).run w
  ends out.1.1 out.1.2 out.2

section
variable {w : World} {ends : Except Failure α → List Store.Undo → World → Prop}
  {undos : List Store.Undo}

theorem Ends.mono {ends' : Except Failure α → List Store.Undo → World → Prop} {t : Transaction α}
    (h : t.Ends w ends undos) (himp : ∀ r undos w, ends r undos w → ends' r undos w) :
    t.Ends w ends' undos := himp _ _ _ h

theorem ends_bind {t : Transaction β} {f : β → Transaction α} :
    (t >>= f).Ends w ends undos ↔ t.Ends w (fun r undos w =>
      match r with
      | .ok b => (f b).Ends w ends undos
      | .error why => ends (.error why) undos w) undos := by
  unfold Ends
  rw [ExceptT.run_bind, StateT.run_bind, Program.run_bind, StateT.run_bind]
  rcases (Program.run World.reply (t.run.run undos)).run w with ⟨⟨r, undos'⟩, w'⟩
  cases r <;> rfl

/-- What goes on after a failure keeps the writes made before. -/
theorem ends_tryCatch {t : Transaction α} {f : Failure → Transaction α} :
    (tryCatch t f).Ends w ends undos ↔ t.Ends w (fun r undos w =>
      match r with
      | .ok b => ends (.ok b) undos w
      | .error why => (f why).Ends w ends undos) undos := by
  unfold Ends
  rw [ExceptT.run_tryCatch, StateT.run_bind, Program.run_bind, StateT.run_bind]
  rcases (Program.run World.reply (t.run.run undos)).run w with ⟨⟨r, undos'⟩, w'⟩
  cases r <;> rfl

theorem ends_plain {a : Action α} :
    (plain a).Ends w ends undos ↔ a.Ends w fun r w => ends r undos w := by
  unfold Ends Action.Ends plain World.run
  rw [ExceptT.run_mk, StateT.run_lift, Program.run_bind, StateT.run_bind]
  rfl

theorem ends_of_reports {v : View} {a : Action β} {b : β} {f : β → Transaction α}
    (hw : w.view = v) (ha : a.Reports v (.ok b))
    (hf : ∀ w' : World, w'.view = v → (f b).Ends w' ends undos) :
    (plain a >>= f).Ends w ends undos := by
  rw [ends_bind, ends_plain]
  apply (ha w hw).mono
  intro r w' hw'
  obtain ⟨rfl, hview⟩ := hw'
  exact hf w' hview

theorem ends_freshId {f : String → Transaction α}
    (hf : ∀ w' : World, w'.store = w.store → (f w.nextId).Ends w' ends undos) :
    (plain Action.freshId >>= f).Ends w ends undos := by
  rw [ends_bind, ends_plain]
  apply Action.ends_freshId.mono
  intro r w' hw'
  obtain ⟨rfl, hstore⟩ := hw'
  exact hf w' hstore

/-- What a transaction does after its body. -/
def close (provider : String) (out : Except Failure α × List Store.Undo) :
    Program (Except Failure α) := do
  let outcome ← match out.1 with
    | .ok a => pure (.ok a)
    | .error why => do
      let failed ← rollBack out.2
      pure (.error (← failureAfter why failed))
  Program.perform (.release provider)
  return outcome

theorem run_commit (provider : String) (body : Transaction α) (w : World) :
    (World.run (commit provider body)).run w =
      let (out, w') := (Program.run World.reply (body.run.run [])).run w
      (Program.run World.reply (close provider out)).run w' := by
  have hsplit : (commit provider body).run =
      Program.perform (.hold provider) >>= fun _ => body.run.run [] >>= close provider := rfl
  unfold World.run
  rw [hsplit]
  simp only [Program.run_bind]
  rfl

/-- A transaction that succeeds keeps its writes, and one that fails before it
has written anything has nothing to undo. -/
theorem ends_commit {provider : String} {body : Transaction α}
    {ends : Except Failure α → World → Prop}
    (h : body.Ends w (fun r undos w =>
      match r with
      | .ok a => ends (.ok a) w
      | .error why => undos = [] ∧ ends (.error why) w) []) :
    (commit provider body).Ends w ends := by
  unfold Ends at h
  unfold Action.Ends
  rw [run_commit]
  generalize (Program.run World.reply (body.run.run [])).run w = out at h ⊢
  rcases out with ⟨⟨r, undos⟩, w'⟩
  cases r with
  | ok a => exact h
  | error why =>
    obtain ⟨hundos, hends⟩ := h
    dsimp only at hundos
    subst hundos
    exact hends

end
end Transaction
end Appointments
