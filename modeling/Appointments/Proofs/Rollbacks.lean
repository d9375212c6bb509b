-- Transactions that fail. While a transaction is open it may write as often
-- as it wants, and others may write in between. When it fails it takes back
-- its own writes and leaves theirs, and it says where it could not.
import Appointments.Proofs.LoneCalls
namespace Appointments

/-! ## What happens while a transaction is open -/

/-- An attempt to write bookings: by the transaction, or by somebody else, who
may also take away what was inserted. -/
inductive Act
  | insert (b : Booking) (exclude : List String)
  | change (id : String) (expected : Status) (changes : List Booking.Change)
  | foreign (c : StoreCall)
  | foreignRemoval (r : Record)

namespace Transaction

/-- Goes on whether or not it succeeds. -/
def attempt (t : Transaction α) : Transaction Unit :=
  tryCatch (do let _ ← t) fun _ => pure ()

def ofAct : Act → Transaction Unit
  | .insert b exclude => attempt (insert b exclude)
  | .change id expected changes => attempt (update id expected changes)
  | .foreign c => attempt (plain (Action.call c))
  | .foreignRemoval r => plain do let _ ← Action.perform (.undo (.remove r))

/-- The transaction in which all this happens, and which fails then. -/
def failing (acts : List Act) (why : Failure) : Transaction Unit := do
  acts.forM ofAct
  throw why

end Transaction

/-! ## The same as functions of the store -/

namespace Act

/-- What undoes the act, if it is a write of the transaction, and the store
after it. -/
def outcome (s : Store) : Act → List Store.Undo × Store
  | insert b exclude =>
    match s.insert b exclude with
    | .ok (r, t) => ([.remove r], t)
    | .error _ => ([], s)
  | change id expected changes =>
    match s.update id expected changes with
    | .ok (u, t) => ([.restore u], t)
    | .error _ => ([], s)
  | foreign c =>
    match c.answer s with
    | .ok (_, t) => ([], t)
    | .error _ => ([], s)
  | foreignRemoval r => ([], (s.undo (.remove r)).2)

/-- The store after the act. -/
def next (s : Store) (a : Act) : Store := (a.outcome s).2

end Act

/-- The call of the store writes the booking under `k`. -/
def StoreCall.Writes (s : Store) (k : String) : StoreCall → Prop
  | insert b exclude => b.id = k ∧ (s.insert b exclude).isOk = true
  | update id expected changes => id = k ∧ (s.update id expected changes).isOk = true
  | template _ | saveTemplate _ | blackouts _ | activeBlackouts .. | addBlackout _
  | deleteBlackout .. | booking _ | overlapping .. | chainCandidates _ | list _ => False

instance (s : Store) (k : String) (c : StoreCall) : Decidable (c.Writes s k) :=
  match c with
  | .insert .. | .update .. => inferInstanceAs (Decidable (_ ∧ _))
  | .template _ | .saveTemplate _ | .blackouts _ | .activeBlackouts .. | .addBlackout _
  | .deleteBlackout .. | .booking _ | .overlapping .. | .chainCandidates _ | .list _ => isFalse id

/-- The transaction writes the booking under `k`. -/
def Act.Writes (s : Store) (k : String) : Act → Prop
  | insert b exclude => (StoreCall.insert b exclude).Writes s k
  | change id expected changes => (StoreCall.update id expected changes).Writes s k
  | foreign _ | foreignRemoval _ => False

/-- Somebody else writes the booking under `k`, or takes it away. -/
def Act.Hits (s : Store) (k : String) : Act → Prop
  | insert .. | change .. => False
  | foreign c => c.Writes s k
  | foreignRemoval r => r.booking.id = k ∧ s.holds r = true

instance (s : Store) (k : String) (a : Act) : Decidable (a.Hits s k) :=
  match a with
  | .foreign c => inferInstanceAs (Decidable (c.Writes s k))
  | .foreignRemoval _ => inferInstanceAs (Decidable (_ ∧ _))
  | .insert .. | .change .. => isFalse id

/-- The transaction leaves a booking under another id than its own. -/
def Act.Misfiles (s : Store) (a : Act) : Prop :=
  ∃ u ∈ (a.outcome s).1, u.written.booking.id ≠ u.key

namespace Store

/-- The store after all of it. -/
def after (s : Store) (acts : List Act) : Store := acts.foldl Act.next s

/-- What undoes the writes of the transaction, latest first. -/
def undos : Store → List Act → List Undo
  | _, [] => []
  | s, a :: rest => (a.next s).undos rest ++ (a.outcome s).1

/-- The bookings whose writes could not be undone, and the store after the
rest has been undone. -/
def undoAll : Store → List Undo → List String × Store
  | s, [] => ([], s)
  | s, u :: rest =>
    let out := (s.undo u).2.undoAll rest
    (if (s.undo u).1 then out.1 else u.key :: out.1, out.2)

end Store

namespace Transaction

variable {w : World} {undos : List Store.Undo}

theorem ends_attempt {t : Transaction α}
    {ends : Except Failure Unit → List Store.Undo → World → Prop}
    (h : t.Ends w (fun _ undos w => ends (.ok ()) undos w) undos) :
    (attempt t).Ends w ends undos := by
  unfold attempt
  rw [ends_tryCatch, ends_bind]
  unfold Ends at h ⊢
  dsimp only at h ⊢
  generalize (Program.run World.reply (t.run.run undos)).run w = out at h ⊢
  rcases out with ⟨⟨r, undos'⟩, w'⟩
  cases r <;> exact h

/-- An act is what it is as a function of the store. -/
theorem ends_ofAct (a : Act) : (ofAct a).Ends w (fun r undos' w' => r = .ok () ∧
    undos' = (a.outcome w.store).1 ++ undos ∧ w' = { w with store := a.next w.store }) undos := by
  cases a with
  | insert b exclude =>
    apply ends_attempt
    unfold insert
    rw [ends_bind, ends_plain, Action.ends_call]
    dsimp only [StoreCall.answer, Act.next, Act.outcome]
    cases w.store.insert b exclude with
    | ok out => exact ⟨rfl, rfl, rfl⟩
    | error why => exact ⟨rfl, rfl, rfl⟩
  | change id expected changes =>
    apply ends_attempt
    unfold update
    rw [ends_bind, ends_plain, Action.ends_call]
    dsimp only [StoreCall.answer, Act.next, Act.outcome]
    cases w.store.update id expected changes with
    | ok out => exact ⟨rfl, rfl, rfl⟩
    | error why => exact ⟨rfl, rfl, rfl⟩
  | foreign c =>
    apply ends_attempt
    rw [ends_plain, Action.ends_call]
    dsimp only [Act.next, Act.outcome]
    cases c.answer w.store with
    | ok out => exact ⟨rfl, rfl, rfl⟩
    | error why => exact ⟨rfl, rfl, rfl⟩
  | foreignRemoval r => exact ⟨rfl, rfl, rfl⟩

theorem ends_acts (acts : List Act) : (acts.forM ofAct).Ends w (fun r undos' w' => r = .ok () ∧
    undos' = w.store.undos acts ++ undos ∧ w' = { w with store := w.store.after acts }) undos := by
  induction acts generalizing w undos with
  | nil => exact ⟨rfl, rfl, rfl⟩
  | cons a acts ih =>
    have hsplit : (a :: acts).forM ofAct = ofAct a >>= fun _ => acts.forM ofAct := rfl
    rw [hsplit, ends_bind]
    refine Ends.mono (ends_ofAct a) ?_
    rintro r undos' w' ⟨rfl, rfl, rfl⟩
    have hrest := @ih { w with store := a.next w.store } ((a.outcome w.store).1 ++ undos)
    rw [← List.append_assoc] at hrest
    exact hrest

theorem run_rollBack (us : List Store.Undo) (w : World) :
    (Program.run World.reply (rollBack us)).run w =
      ((w.store.undoAll us).1, { w with store := (w.store.undoAll us).2 }) := by
  induction us generalizing w with
  | nil => rfl
  | cons u us ih =>
    have hsplit : rollBack (u :: us) = Program.perform (.undo u) >>= fun undone =>
        rollBack us >>= fun failed => pure (if undone then failed else u.key :: failed) := rfl
    have hstep : (Program.run World.reply (Program.perform (.undo u))).run w =
        ((w.store.undo u).1, { w with store := (w.store.undo u).2 }) := rfl
    have hrest := ih { w with store := (w.store.undo u).2 }
    rw [hsplit]
    simp only [Program.run_bind, StateT.run_bind, hstep]
    dsimp only [bind, Id]
    rw [hrest]
    rfl

theorem ends_failing (acts : List Act) (why : Failure) : (failing acts why).Ends w
    (fun r undos w' => r = .error why ∧ undos = w.store.undos acts ∧
      w' = { w with store := w.store.after acts }) [] := by
  unfold failing
  rw [ends_bind]
  refine Ends.mono (ends_acts acts) ?_
  rintro r undos w' ⟨rfl, rfl, rfl⟩
  exact ⟨rfl, List.append_nil _, rfl⟩

/-- What a transaction does in the end, after its body has failed. -/
theorem close_error (provider : String) (why : Failure) (us : List Store.Undo) :
    close provider ((.error why, us) : Except Failure α × List Store.Undo) =
      rollBack us >>= fun failed => failureAfter why failed >>= fun why =>
        Program.perform (.release provider) >>= fun _ => pure (.error why) := by
  unfold close
  simp only [pure_bind]

/-- A transaction that fails ends with its failure, or else names the bookings
whose writes it could not undo. -/
theorem ends_commit_failing (provider : String) (acts : List Act) (why : Failure) :
    (commit provider (failing acts why)).Ends w fun r w' =>
      r = .error (if ((w.store.after acts).undoAll (w.store.undos acts)).1 = [] then why
        else .corrupted (.notRolledBack ((w.store.after acts).undoAll (w.store.undos acts)).1)) ∧
      w'.store = ((w.store.after acts).undoAll (w.store.undos acts)).2 := by
  have hbody := ends_failing (w := w) acts why
  unfold Ends at hbody
  unfold Action.Ends
  rw [run_commit]
  generalize (Program.run World.reply ((failing acts why).run.run [])).run w = out at hbody ⊢
  rcases out with ⟨⟨r, us⟩, w'⟩
  obtain ⟨rfl, rfl, rfl⟩ := hbody
  dsimp only
  rw [close_error]
  simp only [Program.run_bind, StateT.run_bind, run_rollBack]
  dsimp only [bind, Id]
  cases ((w.store.after acts).undoAll (w.store.undos acts)).1 with
  | nil => exact ⟨rfl, rfl⟩
  | cons id ids => exact ⟨rfl, rfl⟩

end Transaction

/-! ## Which bookings are whose -/

namespace Store

variable {s : Store} {a : Act} {acts : List Act} {k : String}

/-- At some point `p` holds of an act and of the store that it meets. -/
def Occurs (s : Store) (acts : List Act) (p : Store → Act → Prop) : Prop :=
  ∃ before a rest, acts = before ++ a :: rest ∧ p (s.after before) a

/-- The transaction has written the booking under `k`. -/
def Written (s : Store) (acts : List Act) (k : String) : Prop :=
  s.Occurs acts fun t a => a.Writes t k

/-- Somebody else has written the booking under `k`. -/
def Hit (s : Store) (acts : List Act) (k : String) : Prop := s.Occurs acts fun t a => a.Hits t k

/-- Somebody else has written the booking under `k` after the transaction. -/
def Overtaken (s : Store) (acts : List Act) (k : String) : Prop :=
  ∃ before a rest, acts = before ++ a :: rest ∧ a.Writes (s.after before) k ∧
    (s.after (before ++ [a])).Hit rest k

/-- What somebody else has last left under `k`, or `first` if nobody has. -/
def left (k : String) : Store → Option Record → List Act → Option Record
  | _, first, [] => first
  | s, first, a :: rest =>
    (a.next s).left k (if a.Hits s k then (a.next s).records.get? k else first) rest

theorem after_snoc (before : List Act) :
    s.after (before ++ [a]) = a.next (s.after before) := List.foldl_append ..

theorem exists_split_cons {P : List Act → Act → List Act → Prop} :
    (∃ before x rest, a :: acts = before ++ x :: rest ∧ P before x rest) ↔
      P [] a acts ∨ ∃ before x rest, acts = before ++ x :: rest ∧ P (a :: before) x rest := by
  constructor
  · rintro ⟨before, x, rest, heq, hp⟩
    cases before with
    | nil =>
      cases heq
      exact .inl hp
    | cons b before =>
      cases heq
      exact .inr ⟨before, x, rest, rfl, hp⟩
  · rintro (hp | ⟨before, x, rest, rfl, hp⟩)
    · exact ⟨[], a, acts, rfl, hp⟩
    · exact ⟨a :: before, x, rest, rfl, hp⟩

theorem occurs_cons {p : Store → Act → Prop} :
    s.Occurs (a :: acts) p ↔ p s a ∨ (a.next s).Occurs acts p := exists_split_cons

theorem overtaken_cons :
    s.Overtaken (a :: acts) k ↔
      (a.Writes s k ∧ (a.next s).Hit acts k) ∨ (a.next s).Overtaken acts k := exists_split_cons

theorem not_occurs_nil {p : Store → Act → Prop} : ¬ s.Occurs [] p := by
  rintro ⟨before, a, rest, heq, -⟩
  simp at heq

end Store

/-! ## What one act does -/

section
variable {s t : Store} {k : String}

/-- A write puts a record with the next stamp under its key. -/
structure Store.Stamps (s t : Store) (k : String) : Prop where
  here : ∃ x, t.records.get? k = some x ∧ x.stamp = s.nextStamp
  elsewhere : ∀ l, k ≠ l → t.records.get? l = s.records.get? l
  stamp : t.nextStamp = s.nextStamp + 1

theorem Store.Inserts.stamps {b : Booking} {exclude : List String} {r : Record}
    (h : s.Inserts b exclude r t) : s.Stamps t r.key := by
  refine ⟨⟨r, ?_, h.stamp_eq⟩, fun l hl => ?_, h.stamp⟩
  · rw [h.get?, if_pos rfl]
  · rw [h.get?, if_neg hl]

theorem Store.Changes.stamps {id : String} {expected : Status} {changes : List Booking.Change}
    {u : Store.Update} (h : s.Changes id expected changes u t) : s.Stamps t u.after.key := by
  refine ⟨⟨u.after, ?_, h.stamp_eq⟩, fun l hl => ?_, h.stamp⟩
  · rw [h.get?, if_pos rfl]
  · rw [h.get?, if_neg hl]

/-- A call of the store that succeeds writes under one key or under none. -/
theorem StoreCall.stamps {c : StoreCall} {reply : c.Reply} (h : c.answer s = .ok (reply, t)) :
    (s.SameRecords t ∧ ∀ k, ¬ c.Writes s k) ∨
      ∃ k, s.Stamps t k ∧ ∀ l, c.Writes s l ↔ k = l := by
  cases c with
  | insert b exclude =>
    have hok : (s.insert b exclude).isOk = true := by
      have hinsert : s.insert b exclude = .ok (reply, t) := h
      rw [hinsert]
      rfl
    have hinserts := Store.insert_eq_ok h
    exact .inr ⟨b.id, hinserts.key_eq ▸ hinserts.stamps, fun l => and_iff_left hok⟩
  | update id expected changes =>
    have hok : (s.update id expected changes).isOk = true := by
      have hupdate : s.update id expected changes = .ok (reply, t) := h
      rw [hupdate]
      rfl
    have hchanges := Store.update_eq_ok h
    exact .inr ⟨id, hchanges.key_eq ▸ hchanges.stamps, fun l => and_iff_left hok⟩
  | _ => exact .inl ⟨Effect.sameRecords_of_answer h (by simp) (by simp), fun _ => id⟩

theorem StoreCall.not_writes_of_error {c : StoreCall} {why : Failure}
    (h : c.answer s = .error why) : ¬ c.Writes s k := by
  cases c with
  | insert b exclude =>
    have hinsert : s.insert b exclude = .error why := h
    rintro ⟨-, hok⟩
    rw [hinsert] at hok
    cases hok
  | update id expected changes =>
    have hupdate : s.update id expected changes = .error why := h
    rintro ⟨-, hok⟩
    rw [hupdate] at hok
    cases hok
  | _ => exact id

/-- What undoes a write knows the record that was written, and the one that
was there before. -/
structure Store.Undo.Reverts (u : Store.Undo) (s t : Store) (k : String) : Prop where
  key : u.key = k
  written : t.records.get? k = some u.written
  stamp : u.written.stamp = s.nextStamp
  prior : s.records.get? k = match u with
    | .remove _ => none
    | .restore change => some change.before

/-- What one act does, by whose write it is. -/
inductive Act.Does (s : Store) (a : Act) : Prop
  | nothing : s.SameRecords (a.next s) → (a.outcome s).1 = [] → (∀ k, ¬ a.Writes s k) →
      (∀ k, ¬ a.Hits s k) → Does s a
  | writes {k : String} {u : Store.Undo} : s.Stamps (a.next s) k → (a.outcome s).1 = [u] →
      u.Reverts s (a.next s) k → (∀ l, a.Writes s l ↔ k = l) → (∀ l, ¬ a.Hits s l) → Does s a
  | hits {k : String} : (∀ x, (a.next s).records.get? k = some x → s.nextStamp ≤ x.stamp) →
      (∀ l, k ≠ l → (a.next s).records.get? l = s.records.get? l) →
      s.nextStamp ≤ (a.next s).nextStamp → (a.outcome s).1 = [] → (∀ l, ¬ a.Writes s l) →
      (∀ l, a.Hits s l ↔ k = l) → Does s a

theorem Act.does_nothing {a : Act} (hout : a.outcome s = ([], s)) (hwrites : ∀ k, ¬ a.Writes s k)
    (hhits : ∀ k, ¬ a.Hits s k) : a.Does s := by
  refine .nothing ?_ (congrArg Prod.fst hout) hwrites hhits
  have hnext : a.next s = s := congrArg Prod.snd hout
  rw [hnext]
  exact ⟨rfl, rfl⟩

theorem Act.does_insert (s : Store) (b : Booking) (exclude : List String) :
    (insert b exclude).Does s := by
  cases h : s.insert b exclude with
  | ok out =>
    obtain ⟨r, t⟩ := out
    have hinserts := Store.insert_eq_ok h
    have hstamps := hinserts.stamps
    have hkey := hinserts.key_eq
    have hout : (insert b exclude).outcome s = ([.remove r], t) := by simp [outcome, h]
    have hnext : (insert b exclude).next s = t := congrArg Prod.snd hout
    refine .writes (k := b.id) (u := .remove r) (hnext ▸ hkey ▸ hstamps) (congrArg Prod.fst hout)
      ⟨hkey, ?_, hinserts.stamp_eq, hinserts.fresh⟩ (fun l => ?_) fun _ => id
    · rw [hnext, hinserts.get?, if_pos hkey]
      rfl
    · exact and_iff_left (by rw [h]; rfl)
  | error why =>
    exact does_nothing (by simp [outcome, h])
      (fun _ => StoreCall.not_writes_of_error (c := .insert b exclude) h) fun _ => id

theorem Act.does_change (s : Store) (id : String) (expected : Status)
    (changes : List Booking.Change) : (change id expected changes).Does s := by
  cases h : s.update id expected changes with
  | ok out =>
    obtain ⟨u, t⟩ := out
    have hchanges := Store.update_eq_ok h
    have hstamps := hchanges.stamps
    have hkey := hchanges.key_eq
    have hout : (change id expected changes).outcome s = ([.restore u], t) := by
      simp [outcome, h]
    have hnext : (change id expected changes).next s = t := congrArg Prod.snd hout
    refine .writes (k := id) (u := .restore u) (hnext ▸ hkey ▸ hstamps) (congrArg Prod.fst hout)
      ⟨hkey, ?_, hchanges.stamp_eq, hchanges.before⟩ (fun l => ?_) fun _ => False.elim
    · rw [hnext, hchanges.get?, if_pos hkey]
      rfl
    · exact and_iff_left (by rw [h]; rfl)
  | error why =>
    exact does_nothing (by simp [outcome, h])
      (fun _ => StoreCall.not_writes_of_error (c := .update id expected changes) h)
      fun _ => False.elim

theorem Act.does_foreign (s : Store) (c : StoreCall) : (foreign c).Does s := by
  cases h : c.answer s with
  | ok out =>
    obtain ⟨reply, t⟩ := out
    have hout : (foreign c).outcome s = ([], t) := by simp [outcome, h]
    have hnext : (foreign c).next s = t := congrArg Prod.snd hout
    rcases StoreCall.stamps h with ⟨hsame, hnot⟩ | ⟨k, hstamps, hwrites⟩
    · exact .nothing (hnext ▸ hsame) (congrArg Prod.fst hout) (fun _ => id) hnot
    · rw [← hnext] at hstamps
      refine .hits (k := k) (fun x hx => ?_) hstamps.elsewhere ?_ (congrArg Prod.fst hout)
        (fun _ => id) hwrites
      · obtain ⟨y, hy, hstamp⟩ := hstamps.here
        rw [hx] at hy
        cases hy
        omega
      · have := hstamps.stamp
        omega
  | error why =>
    exact does_nothing (by simp [outcome, h]) (fun _ => id)
      fun _ => StoreCall.not_writes_of_error h

theorem Act.does_foreignRemoval (s : Store) (r : Record) : (foreignRemoval r).Does s := by
  cases hholds : s.holds r with
  | true =>
    have hnext : (foreignRemoval r).next s =
        { s with records := s.records.erase r.booking.id } := by
      simp [next, outcome, Store.undo, Store.Undo.written, hholds]
    refine .hits (k := r.booking.id) (fun x hx => ?_) (fun l hl => ?_) ?_ rfl (fun _ => id)
      fun l => and_iff_left hholds
    · rw [hnext, Shelf.get?_erase, if_pos rfl] at hx
      cases hx
    · rw [hnext, Shelf.get?_erase, if_neg hl]
    · exact Nat.le_of_eq (congrArg Store.nextStamp hnext).symm
  | false =>
    refine does_nothing (by simp [outcome, Store.undo, Store.Undo.written, hholds])
      (fun _ => id) fun k => ?_
    rintro ⟨-, htrue⟩
    rw [hholds] at htrue
    cases htrue

theorem Act.does (s : Store) (a : Act) : a.Does s := by
  cases a with
  | insert b exclude => exact does_insert s b exclude
  | change id expected changes => exact does_change s id expected changes
  | foreign c => exact does_foreign s c
  | foreignRemoval r => exact does_foreignRemoval s r

end

/-! ## Bookings that keep their ids -/

/-- The act gives no booking another id. -/
def Act.KeepsIds : Act → Prop
  | change _ _ changes | foreign (.update _ _ changes) => ∀ c ∈ changes, c.renames = false
  | insert .. | foreign _ | foreignRemoval _ => True

namespace Store

section
variable {s t : Store} {r : Record}

theorem Filed.of_sameRecords (hs : s.Filed) (h : s.SameRecords t) : t.Filed := by
  unfold Filed
  rw [h.1]
  exact hs

theorem Filed.put (hs : s.Filed) (hr : r.booking.id = r.key)
    (ht : t.records = s.records.put r) : t.Filed := by
  intro q hq
  rw [ht] at hq
  rcases Shelf.mem_putInto hq with rfl | hq
  · exact hr
  · exact hs q hq

theorem Inserts.id_eq {b : Booking} {exclude : List String} (h : s.Inserts b exclude r t) :
    r.booking.id = r.key := by
  rw [h.booking_eq, h.key_eq]

theorem Changes.id_eq {id : String} {expected : Status} {changes : List Booking.Change}
    {u : Update} (h : s.Changes id expected changes u t) (hs : s.Filed)
    (hkeeps : ∀ c ∈ changes, c.renames = false) : u.after.booking.id = u.after.key := by
  rw [h.booking_eq, Booking.change_id hkeeps, hs _ (Shelf.mem_of_get? h.before), h.key_eq,
    Shelf.key_of_get? h.before]

theorem Filed.answer (hs : s.Filed) {c : StoreCall} (hc : (Act.foreign c).KeepsIds)
    {reply : c.Reply} (h : c.answer s = .ok (reply, t)) : t.Filed := by
  cases c with
  | insert b exclude =>
    have hinserts := insert_eq_ok h
    exact hs.put hinserts.id_eq hinserts.records
  | update id expected changes =>
    have hchanges := update_eq_ok h
    exact hs.put (hchanges.id_eq hs hc) hchanges.records
  | _ => exact hs.of_sameRecords (Effect.sameRecords_of_answer h (by simp) (by simp))

/-- Where bookings are kept under their own ids, an act that gives none of them
another id keeps them so, and what it writes it writes under its own id. -/
theorem Filed.outcome (hs : s.Filed) {a : Act} (ha : a.KeepsIds) {undos : List Undo}
    (h : a.outcome s = (undos, t)) : t.Filed ∧ ∀ u ∈ undos, u.written.booking.id = u.key := by
  have hnone : ∀ u ∈ ([] : List Undo), u.written.booking.id = u.key := by simp
  cases a with
  | insert b exclude =>
    dsimp only [Act.outcome] at h
    split at h <;> cases h
    · rename_i hinsert
      have hinserts := insert_eq_ok hinsert
      exact ⟨hs.put hinserts.id_eq hinserts.records, List.forall_mem_singleton.2 hinserts.id_eq⟩
    · exact ⟨hs, hnone⟩
  | change id expected changes =>
    dsimp only [Act.outcome] at h
    split at h <;> cases h
    · rename_i hupdate
      have hchanges := update_eq_ok hupdate
      have hid := hchanges.id_eq hs ha
      exact ⟨hs.put hid hchanges.records, List.forall_mem_singleton.2 hid⟩
    · exact ⟨hs, hnone⟩
  | foreign c =>
    dsimp only [Act.outcome] at h
    split at h <;> cases h
    · rename_i hanswer
      exact ⟨hs.answer ha hanswer, hnone⟩
    · exact ⟨hs, hnone⟩
  | foreignRemoval r =>
    cases h
    refine ⟨fun q hq => ?_, hnone⟩
    unfold undo at hq
    split at hq
    · exact hs q (List.mem_filter.1 hq).1
    · exact hs q hq

/-- So a transaction leaves no booking under another id than its own, unless
somebody gives one another id. -/
theorem Filed.not_misfiles (hs : s.Filed) {acts : List Act} (hacts : ∀ a ∈ acts, a.KeepsIds) :
    ¬ s.Occurs acts Act.Misfiles := by
  induction acts generalizing s with
  | nil => exact not_occurs_nil
  | cons a rest ih =>
    obtain ⟨hnext, hids⟩ := hs.outcome (hacts a List.mem_cons_self) rfl
    rw [occurs_cons, not_or]
    refine ⟨?_, ih hnext fun b hb => hacts b (List.mem_cons_of_mem _ hb)⟩
    rintro ⟨u, hu, hne⟩
    exact hne (hids u hu)

end
end Store

/-! ## Undoing it again -/

section
variable {s t t' : Store} {u : Store.Undo} {a : Act} {k : String}

theorem Store.Undo.Reverts.id_of_filed (h : u.Reverts s t k) (hundos : (a.outcome s).1 = [u])
    (hfiled : ¬ a.Misfiles s) : u.written.booking.id = k := by
  by_contra hne
  refine hfiled ⟨u, by rw [hundos]; exact List.mem_cons_self, ?_⟩
  intro hid
  exact hne (hid.trans h.key)

/-- Where the written record stands again, the one before it is put back. -/
theorem Store.Undo.Reverts.undo_written (h : u.Reverts s t k) (hid : u.written.booking.id = k)
    (hheld : t'.records.get? k = some u.written) : (t'.undo u).1 = true ∧
      ∀ l, (t'.undo u).2.records.get? l = if k = l then s.records.get? k
        else t'.records.get? l := by
  have hholds : t'.holds u.written = true := Store.holds_iff.2 ⟨u.written, hid ▸ hheld, rfl⟩
  have hprior := h.prior
  unfold Store.undo
  rw [if_pos hholds]
  cases u with
  | remove r =>
    refine ⟨rfl, fun l => ?_⟩
    dsimp only at hprior ⊢
    rw [Shelf.get?_erase, hprior, ← hid]
    rfl
  | restore change =>
    refine ⟨rfl, fun l => ?_⟩
    dsimp only at hprior ⊢
    rw [Shelf.get?_put, hprior, Shelf.key_of_get? hprior]

/-- Where another record stands, or none, nothing is undone. -/
theorem Store.Undo.Reverts.undo_overtaken (h : u.Reverts s t k) (hid : u.written.booking.id = k)
    (hgone : ∀ x, t'.records.get? k = some x → s.nextStamp < x.stamp) :
    t'.undo u = (false, t') := by
  have hholds : ¬ t'.holds u.written = true := by
    intro hholds
    obtain ⟨x, hx, hstamp⟩ := Store.holds_iff.1 hholds
    rw [hid] at hx
    have := hgone x hx
    have := h.stamp
    omega
  unfold Store.undo
  rw [if_neg hholds]

end

namespace Store

variable {s : Store} {acts : List Act} {k : String}

theorem undoAll_cons (s : Store) (u : Undo) (us : List Undo) :
    s.undoAll (u :: us) = (if (s.undo u).1 then ((s.undo u).2.undoAll us).1
      else u.key :: ((s.undo u).2.undoAll us).1, ((s.undo u).2.undoAll us).2) := rfl

theorem undoAll_append (s : Store) (us vs : List Undo) :
    s.undoAll (us ++ vs) = ((s.undoAll us).1 ++ ((s.undoAll us).2.undoAll vs).1,
      ((s.undoAll us).2.undoAll vs).2) := by
  induction us generalizing s with
  | nil => rfl
  | cons u us ih =>
    rw [List.cons_append, undoAll_cons, undoAll_cons, ih]
    cases (s.undo u).1 <;> rfl

/-! ## What others leave -/

theorem nextStamp_le_next (s : Store) (a : Act) : s.nextStamp ≤ (a.next s).nextStamp := by
  cases a.does s with
  | nothing hsame => exact Nat.le_of_eq hsame.2.symm
  | writes hstamps =>
    rw [hstamps.stamp]
    exact Nat.le_succ _
  | hits _ _ hle => exact hle

theorem left_cons (s : Store) (first : Option Record) (a : Act) :
    s.left k first (a :: acts) =
      (a.next s).left k (if a.Hits s k then (a.next s).records.get? k else first) acts := rfl

theorem left_of_not_hit {first : Option Record} (h : ¬ s.Hit acts k) :
    s.left k first acts = first := by
  induction acts generalizing s first with
  | nil => rfl
  | cons a rest ih =>
    have hhits : ¬ a.Hits s k := fun hhits => h (occurs_cons.2 (.inl hhits))
    rw [left_cons, if_neg hhits]
    exact ih fun hrest => h (occurs_cons.2 (.inr hrest))

theorem left_of_hit (first other : Option Record) (h : s.Hit acts k) :
    s.left k first acts = s.left k other acts := by
  induction acts generalizing s first other with
  | nil => exact absurd h not_occurs_nil
  | cons a rest ih =>
    rw [left_cons, left_cons]
    rcases occurs_cons.1 h with hhits | hrest
    · rw [if_pos hhits, if_pos hhits]
    · exact ih _ _ hrest

/-- What others leave has a later stamp than what was there before. -/
theorem le_stamp_of_left {first : Option Record} {x : Record} (h : s.Hit acts k)
    (hx : s.left k first acts = some x) : s.nextStamp ≤ x.stamp := by
  induction acts generalizing s first with
  | nil => exact absurd h not_occurs_nil
  | cons a rest ih =>
    rw [left_cons] at hx
    by_cases hrest : (a.next s).Hit rest k
    · exact Nat.le_trans (nextStamp_le_next s a) (ih hrest hx)
    · rw [left_of_not_hit hrest] at hx
      have hhits : a.Hits s k := (occurs_cons.1 h).resolve_right hrest
      rw [if_pos hhits] at hx
      cases a.does s with
      | nothing _ _ _ hnot => exact absurd hhits (hnot k)
      | writes _ _ _ _ hnot => exact absurd hhits (hnot k)
      | hits hhere _ _ _ _ hiff =>
        obtain rfl := (hiff k).1 hhits
        exact hhere x hx

/-! ## The stack of undos -/

/-- Of the acts, the bookings are as others have left them, and `failed` are
those that somebody else has overtaken. -/
structure Unwound (s : Store) (acts : List Act) (failed : List String) (t : Store) : Prop where
  left : ∀ k, t.records.get? k = s.left k (s.records.get? k) acts
  failed : ∀ k, k ∈ failed ↔ s.Overtaken acts k

/-- An act that the transaction has not written leaves nothing to undo. -/
theorem Unwound.cons_of_not_writes {a : Act} {failed : List String} {t : Store}
    (h : (a.next s).Unwound acts failed t) (hwrites : ∀ k, ¬ a.Writes s k)
    (hsame : ∀ k, ¬ a.Hits s k → (a.next s).records.get? k = s.records.get? k) :
    s.Unwound (a :: acts) failed t := by
  refine ⟨fun k => ?_, fun k => ?_⟩
  · rw [h.left, left_cons]
    split
    · rfl
    · rename_i hhits
      rw [hsame k hhits]
  · rw [h.failed, overtaken_cons]
    simp [hwrites]

/-- A write of the transaction is undone if nobody has overtaken it. -/
theorem Unwound.cons_of_writes {a : Act} {k : String} {u : Undo} {failed : List String}
    {t : Store} (h : (a.next s).Unwound acts failed t) (hstamps : s.Stamps (a.next s) k)
    (hreverts : u.Reverts s (a.next s) k) (hid : u.written.booking.id = k)
    (hwrites : ∀ l, a.Writes s l ↔ k = l) (hhits : ∀ l, ¬ a.Hits s l) :
    s.Unwound (a :: acts) (failed ++ (t.undoAll [u]).1) (t.undoAll [u]).2 := by
  have hovertaken : ∀ l, s.Overtaken (a :: acts) l ↔
      l ∈ failed ∨ (k = l ∧ (a.next s).Hit acts k) := by
    intro l
    rw [overtaken_cons, h.failed, hwrites, or_comm]
    refine or_congr_right (and_congr_right ?_)
    rintro rfl
    rfl
  have hleft : ∀ l, s.left l (s.records.get? l) (a :: acts) =
      (a.next s).left l (s.records.get? l) acts := by
    intro l
    rw [left_cons, if_neg (hhits l)]
  have helsewhere : ∀ l, k ≠ l →
      t.records.get? l = s.left l (s.records.get? l) (a :: acts) := by
    intro l hl
    rw [h.left, hleft, hstamps.elsewhere l hl]
  by_cases hhit : (a.next s).Hit acts k
  · have hundo : t.undo u = (false, t) := by
      apply hreverts.undo_overtaken hid
      intro x hx
      rw [h.left] at hx
      have hle := le_stamp_of_left hhit hx
      rw [hstamps.stamp] at hle
      exact hle
    have hout : t.undoAll [u] = ([k], t) := by
      rw [undoAll_cons, hundo, hreverts.key]
      rfl
    rw [hout]
    refine ⟨fun l => ?_, fun l => ?_⟩
    · by_cases hl : k = l
      · subst hl
        rw [h.left, hleft]
        exact left_of_hit _ _ hhit
      · exact helsewhere l hl
    · rw [hovertaken, List.mem_append, List.mem_singleton, and_iff_left hhit, eq_comm]
  · have hheld : t.records.get? k = some u.written := by
      rw [h.left, left_of_not_hit hhit]
      exact hreverts.written
    obtain ⟨hdone, hback⟩ := hreverts.undo_written hid hheld
    have hout : t.undoAll [u] = ([], (t.undo u).2) := by
      rw [undoAll_cons, if_pos hdone]
      rfl
    rw [hout]
    refine ⟨fun l => ?_, fun l => ?_⟩
    · rw [hback]
      split
      · rename_i hl
        subst hl
        rw [hleft, left_of_not_hit hhit]
      · exact helsewhere l ‹_›
    · rw [hovertaken, List.append_nil]
      simp [hhit]

/-- A transaction that fails unwinds, unless it has given a booking an id
under which it is not kept. -/
theorem unwound (acts : List Act) (hfiled : ¬ s.Occurs acts Act.Misfiles) :
    s.Unwound acts ((s.after acts).undoAll (s.undos acts)).1
      ((s.after acts).undoAll (s.undos acts)).2 := by
  induction acts generalizing s with
  | nil =>
    refine ⟨fun k => rfl, fun k => ?_⟩
    refine iff_of_false List.not_mem_nil ?_
    rintro ⟨before, a, rest, heq, -⟩
    simp at heq
  | cons a rest ih =>
    rw [occurs_cons, not_or] at hfiled
    have hrest := ih hfiled.2
    have hafter : s.after (a :: rest) = (a.next s).after rest := rfl
    have hundos : s.undos (a :: rest) = (a.next s).undos rest ++ (a.outcome s).1 := rfl
    rw [hafter, hundos, undoAll_append]
    cases a.does s with
    | nothing hsame hnil hwrites _ =>
      rw [hnil, undoAll, List.append_nil]
      exact hrest.cons_of_not_writes hwrites fun k _ => by rw [hsame.1]
    | hits _ helse _ hnil hwrites hiff =>
      rw [hnil, undoAll, List.append_nil]
      exact hrest.cons_of_not_writes hwrites fun k hnot =>
        helse k fun hk => hnot ((hiff k).2 hk)
    | writes hstamps hone hreverts hwrites hhits =>
      rw [hone]
      exact hrest.cons_of_writes hstamps hreverts (hreverts.id_of_filed hone hfiled.1) hwrites hhits

/-! ## The bookings that nobody or somebody has overtaken -/

theorem left_append (first : Option Record) (before rest : List Act) :
    s.left k first (before ++ rest) = (s.after before).left k (s.left k first before) rest := by
  induction before generalizing s first with
  | nil => rfl
  | cons a before ih => exact ih _

/-- Where the transaction has written nothing, the store is as others have
left it. -/
theorem left_of_not_written (h : ¬ s.Written acts k) :
    s.left k (s.records.get? k) acts = (s.after acts).records.get? k := by
  induction acts generalizing s with
  | nil => rfl
  | cons a rest ih =>
    have hwrites : ¬ a.Writes s k := fun hwrites => h (occurs_cons.2 (.inl hwrites))
    have hrest : ¬ (a.next s).Written rest k := fun hrest => h (occurs_cons.2 (.inr hrest))
    have hafter : s.after (a :: rest) = (a.next s).after rest := rfl
    rw [hafter, ← ih hrest, left_cons]
    split
    · rfl
    · rename_i hhits
      congr 1
      cases a.does s with
      | nothing hsame => rw [hsame.1]
      | writes hstamps _ _ hiff =>
        exact (hstamps.elsewhere k fun hk => hwrites ((hiff k).2 hk)).symm
      | hits _ helse _ _ _ hiff => exact (helse k fun hk => hhits ((hiff k).2 hk)).symm

end Store

/-! ## The law -/

/-- What has become of the bookings, and what is told to the caller, after a
transaction has failed. -/
structure Store.RolledBack (s : Store) (acts : List Act) (why : Failure)
    (result : Except Failure Unit) (t : Store) : Prop where
  /-- What the transaction has written, and nobody after its first write, is as
  it was before that write. -/
  restored : ∀ before a rest k, acts = before ++ a :: rest → a.Writes (s.after before) k →
    ¬ s.Written before k → ¬ (s.after (before ++ [a])).Hit rest k →
    t.records.get? k = (s.after before).records.get? k
  /-- What somebody else has written is as the last such write has left it. -/
  overtaken : ∀ before a rest k, acts = before ++ a :: rest → a.Hits (s.after before) k →
    ¬ (s.after (before ++ [a])).Hit rest k →
    t.records.get? k = (s.after (before ++ [a])).records.get? k
  untouched : ∀ k, ¬ s.Written acts k → t.records.get? k = (s.after acts).records.get? k
  /-- The caller is told which bookings have been overtaken, if any have. -/
  told : ∃ failed, (∀ k, k ∈ failed ↔ s.Overtaken acts k) ∧
    result = .error (if failed = [] then why else .corrupted (.notRolledBack failed))

theorem Store.Unwound.rolledBack {s t : Store} {acts : List Act} {failed : List String}
    (h : s.Unwound acts failed t) (why : Failure) :
    s.RolledBack acts why
      (.error (if failed = [] then why else .corrupted (.notRolledBack failed))) t where
  restored before a rest k hacts hwrites hfirst hhit := by
    have hnot : ¬ a.Hits (s.after before) k := by
      cases a.does (s.after before) with
      | nothing _ _ hnot => exact absurd hwrites (hnot k)
      | writes _ _ _ _ hnot => exact hnot k
      | hits _ _ _ _ hnot => exact absurd hwrites (hnot k)
    rw [Store.after_snoc] at hhit
    rw [h.left, hacts, Store.left_append, Store.left_cons, if_neg hnot,
      Store.left_of_not_hit hhit, Store.left_of_not_written hfirst]
  overtaken before a rest k hacts hhits hhit := by
    rw [Store.after_snoc] at hhit
    rw [h.left, hacts, Store.left_append, Store.left_cons, if_pos hhits,
      Store.left_of_not_hit hhit, Store.after_snoc]
  untouched k hwritten := by rw [h.left, Store.left_of_not_written hwritten]
  told := ⟨failed, h.failed, rfl⟩

/-- Whatever a transaction and others have written while it was open, when it
fails it takes back its own writes and leaves those of the others, as long as
it gives no booking an id under which the booking is not kept. -/
theorem Transaction.commit_failing_rolls_back (w : World) (provider : String) (acts : List Act)
    (why : Failure) (hfiled : ¬ w.store.Occurs acts Act.Misfiles) :
    (commit provider (failing acts why)).Ends w fun result w' =>
      w.store.RolledBack acts why result w'.store := by
  refine Action.Ends.mono (ends_commit_failing provider acts why) ?_
  rintro result w' ⟨rfl, hstore⟩
  rw [hstore]
  exact (w.store.unwound acts hfiled).rolledBack why

namespace Practice

/-- The booking is moved by an hour, while somebody else completes the new
one. -/
def overtakenMove : List Act :=
  [.insert (Desk.successor booked "b" eleven 60) ["a"],
    .change "a" .confirmed [.status .cancelled, .rescheduledTo (some "b")],
    .foreign (.update "b" .confirmed [.status .completed])]

/-- The old booking is confirmed again, the new one stays as somebody else has
left it, and the caller is told so. -/
theorem overtaken_move_rolls_back :
    ¬ bookedAtTen.store.Occurs overtakenMove Act.Misfiles ∧
      (Transaction.commit "doctor" (Transaction.failing overtakenMove .denied)).Ends bookedAtTen
        (fun result w => bookedAtTen.store.RolledBack overtakenMove .denied result w.store) ∧
      (Transaction.commit "doctor" (Transaction.failing overtakenMove .denied)).Ends bookedAtTen
        fun result w => result = .error (.corrupted (.notRolledBack ["b"])) ∧
          w.store.booking? "a" = some booked ∧
          (w.store.booking? "b").map (·.status) = some .completed := by
  have hfiled : bookedAtTen.store.Filed := by
    unfold Store.Filed
    decide
  have hkeeps : ∀ a ∈ overtakenMove, a.KeepsIds := by
    simp [overtakenMove, Act.KeepsIds, Booking.Change.renames]
  have hnot := hfiled.not_misfiles hkeeps
  refine ⟨hnot, Transaction.commit_failing_rolls_back _ _ _ _ hnot, ?_⟩
  refine Action.Ends.mono (Transaction.ends_commit_failing _ _ _) ?_
  rintro result w ⟨rfl, hstore⟩
  rw [hstore]
  exact ⟨congrArg Except.error (by decide +kernel), by decide +kernel, by decide +kernel⟩

/-- A transaction that gives the booking another id cannot take that back,
though nobody else has written anything. -/
theorem renamed_booking_does_not_roll_back :
    ¬ ∀ (w : World) (provider : String) (acts : List Act) (why : Failure),
      (Transaction.commit provider (Transaction.failing acts why)).Ends w fun result w' =>
        w.store.RolledBack acts why result w'.store := by
  intro h
  obtain ⟨-, hstore⟩ := Transaction.ends_commit_failing (w := bookedAtTen) "doctor"
    [.change "a" .confirmed [.rename "z"]] .denied
  have hrestored := (h bookedAtTen "doctor" [.change "a" .confirmed [.rename "z"]] .denied).restored
    [] _ [] "a" rfl ⟨rfl, by decide +kernel⟩ Store.not_occurs_nil Store.not_occurs_nil
  rw [hstore] at hrestored
  revert hrestored
  decide +kernel

end Practice
end Appointments
