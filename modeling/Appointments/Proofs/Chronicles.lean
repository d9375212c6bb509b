-- Chronicles: which call has asked the store for what, in the order of their
-- steps, and what the store has answered. What a program does on its way is told
-- from its own exchanges with the store, whatever others do in between.
import Appointments.Proofs.Rulings
import Appointments.Proofs.Schedules
import Appointments.Proofs.Steps
namespace Appointments

/-! ## Exchanges with the store -/

/-- A call of the store, and the answer to it. -/
structure Exchange where
  call : StoreCall
  answer : Except Failure call.Reply

/-- The exchange that a step is, if it is one. -/
def Effect.exchanges : (e : Effect) → e.Reply → List Exchange
  | .call c, answer => [⟨c, answer⟩]
  | .undo _, _ | .now, _ | .freshId, _ | .enterScope _, _ | .leaveScope, _ | .log .., _
  | .hold _, _ | .release _, _ => []

/-! ## What steps do to templates and blackouts -/

/-- Nothing, or what the store was called for. -/
inductive Effect.WritesHours (e : Effect) (r : e.Reply) (s t : Store) : Prop
  | none (templates : t.templates = s.templates) (blackouts : t.blackouts = s.blackouts)
  | saved {x : Template} (told : e.exchanges r = [⟨.saveTemplate x, .ok ()⟩])
      (store : t = s.saveTemplate x)
  | added {b : Blackout} (told : e.exchanges r = [⟨.addBlackout b, .ok ()⟩])
      (store : t = { s with blackouts := s.blackouts.put b })
  | removed {id : String} (store : t = { s with blackouts := s.blackouts.erase id })

namespace StoreCall

variable {s t : Store}

theorem store_of_addBlackout {b : Blackout} {u : Unit}
    (h : (addBlackout b).answer s = .ok (u, t)) :
    t = { s with blackouts := s.blackouts.put b } := by
  obtain ⟨added, hadded, hu⟩ := map_eq_ok.1 h
  cases hu
  unfold Store.addBlackout at hadded
  split at hadded
  · cases hadded
  · cases hadded
    rfl

theorem store_of_deleteBlackout {provider id : String} {found : Bool}
    (h : (deleteBlackout provider id).answer s = .ok (found, t)) :
    t = s ∨ t = { s with blackouts := s.blackouts.erase id } := by
  injection h with h
  unfold Store.deleteBlackout at h
  split at h
  · cases h
    exact .inl rfl
  · split at h
    · cases h
      exact .inr rfl
    · cases h
      exact .inl rfl

end StoreCall

namespace Effect

theorem writesHours_insert {b : Booking} {exclude : List String} {out : Record × Store} {s : Store}
    (h : s.insert b exclude = .ok out) :
    out.2.templates = s.templates ∧ out.2.blackouts = s.blackouts := by
  rw [Store.insert_eq] at h
  obtain ⟨_, -, rfl⟩ := map_eq_ok.1 h
  exact ⟨rfl, rfl⟩

theorem writesHours_update {id : String} {expected : Status} {changes : List Booking.Change}
    {out : Store.Update × Store} {s : Store} (h : s.update id expected changes = .ok out) :
    out.2.templates = s.templates ∧ out.2.blackouts = s.blackouts := by
  unfold Store.update at h
  split at h
  · cases h
  · split at h
    · cases h
      exact ⟨rfl, rfl⟩
    · cases h

theorem writesHours_undo {u : Store.Undo} {undone : Bool} {s t : Store}
    (h : s.undo u = (undone, t)) : t.templates = s.templates ∧ t.blackouts = s.blackouts := by
  unfold Store.undo at h
  split at h
  · cases u <;> cases h <;> exact ⟨rfl, rfl⟩
  · cases h
    exact ⟨rfl, rfl⟩

theorem writesHours_answer {c : StoreCall} {reply : c.Reply} {s t : Store}
    (h : c.answer s = .ok (reply, t)) : (call c).WritesHours (.ok reply) s t := by
  cases c with
  | saveTemplate x =>
    cases h
    exact .saved rfl rfl
  | addBlackout b =>
    exact .added rfl (StoreCall.store_of_addBlackout h)
  | deleteBlackout provider id =>
    rcases StoreCall.store_of_deleteBlackout h with rfl | hremoved
    · exact .none rfl rfl
    · exact .removed hremoved
  | insert b exclude => exact .none (writesHours_insert h).1 (writesHours_insert h).2
  | update id expected changes => exact .none (writesHours_update h).1 (writesHours_update h).2
  | overlapping provider start stop exclude =>
    obtain ⟨found, -, hfound⟩ := map_eq_ok.1 h
    cases hfound
    exact .none rfl rfl
  | _ =>
    cases h
    exact .none rfl rfl

theorem Yields.writesHours {e : Effect} {s t : Store} {r : e.Reply} (h : e.Yields s r t) :
    e.WritesHours r s t := by
  cases e with
  | call c =>
    cases r with
    | error why =>
      obtain rfl := yields_error h
      exact .none rfl rfl
    | ok reply => exact writesHours_answer (yields_ok h)
  | undo u => exact .none (writesHours_undo h).1 (writesHours_undo h).2
  | _ =>
    obtain rfl := h
    exact .none rfl rfl

end Effect

/-! ## Programs that mind their past -/

/-- On stores that are as `good` says, each step leaves such a store, and the
exchanges so far, latest first, are as `rule` says. At the end exchanges and
result are as `ends` says. -/
def Program.Minds (good : Store → Prop) (rule : List Exchange → Prop)
    (ends : List Exchange → α → Prop) : List Exchange → Program α → Prop
  | past, .done a => ends past a
  | past, .step e next =>
    ∀ s t r, good s → e.Yields s r t → good t ∧ rule (e.exchanges r ++ past) ∧
      (next r).Minds good rule ends (e.exchanges r ++ past)

namespace Program

variable {good : Store → Prop} {rule : List Exchange → Prop} {ends : List Exchange → α → Prop}
  {past : List Exchange}

theorem minds_bind {x : Program β} {f : β → Program α} :
    (x >>= f).Minds good rule ends past ↔
      x.Minds good rule (fun past b => (f b).Minds good rule ends past) past := by
  induction x generalizing past with
  | done b => rfl
  | step e next ih =>
    rw [step_bind]
    unfold Minds
    simp only [ih]

theorem minds_perform {e : Effect} {f : e.Reply → Program α} :
    (perform e >>= f).Minds good rule ends past ↔ ∀ s t r, good s → e.Yields s r t →
      good t ∧ rule (e.exchanges r ++ past) ∧
        (f r).Minds good rule ends (e.exchanges r ++ past) := Iff.rfl

theorem Minds.mono {x : Program α} {rule' : List Exchange → Prop}
    {ends' : List Exchange → α → Prop} (h : x.Minds good rule ends past) (hpast : rule past)
    (hrule : ∀ past, rule past → rule' past)
    (hends : ∀ past a, rule past → ends past a → ends' past a) :
    x.Minds good rule' ends' past := by
  induction x generalizing past with
  | done a => exact hends past a hpast h
  | step e next ih =>
    intro s t r hs hyields
    obtain ⟨ht, hnow, hnext⟩ := h s t r hs hyields
    exact ⟨ht, hrule _ hnow, ih r hnext hnow⟩

end Program

namespace Action

def Minds (good : Store → Prop) (rule : List Exchange → Prop)
    (ends : List Exchange → Except Failure α → Prop) (past : List Exchange) (a : Action α) : Prop :=
  Program.Minds good rule ends past a.run

variable {good : Store → Prop} {rule : List Exchange → Prop}
  {ends : List Exchange → Except Failure α → Prop} {past : List Exchange}

theorem minds_bind {a : Action β} {f : β → Action α} :
    (a >>= f).Minds good rule ends past ↔ a.Minds good rule (fun past r =>
      match r with
      | .ok b => (f b).Minds good rule ends past
      | .error why => ends past (.error why)) past := by
  unfold Minds
  rw [ExceptT.run_bind, Program.minds_bind]
  refine iff_of_eq (congrArg (fun ends => Program.Minds good rule ends past a.run) ?_)
  funext past r
  cases r <;> rfl

theorem minds_pure {a : α} (h : ends past (.ok a)) :
    (pure a : Action α).Minds good rule ends past := h

theorem minds_throw {why : Failure} (h : ends past (.error why)) :
    (throw why : Action α).Minds good rule ends past := h

theorem minds_lift {x : Except Failure β} {f : β → Action α}
    (hok : ∀ b, x = .ok b → (f b).Minds good rule ends past)
    (herror : ∀ why, x = .error why → ends past (.error why)) :
    (liftM x >>= f).Minds good rule ends past := by
  rw [minds_bind]
  cases x with
  | ok b => exact hok b rfl
  | error why => exact herror why rfl

/-- What is made of the result of an action. -/
theorem minds_map {a : Action β} (f : β → α) {ends' : List Exchange → Except Failure β → Prop}
    (hpast : rule past) (ha : a.Minds good rule ends' past)
    (hends : ∀ past r, ends' past r → ends past (f <$> r)) :
    (f <$> a).Minds good rule ends past := by
  rw [map_eq_pure_bind, minds_bind]
  apply Program.Minds.mono ha hpast (fun _ => id)
  intro past r _ hr
  cases r with
  | ok b => exact hends past _ hr
  | error why => exact hends past _ hr

theorem minds_log {source : LogSource} {level : LogLevel} {message : String}
    {f : Unit → Action α} (hpast : rule past) (h : (f ()).Minds good rule ends past) :
    (log source level message >>= f).Minds good rule ends past := by
  rw [minds_bind]
  intro s t r hs ht
  obtain rfl := ht
  exact ⟨hs, hpast, h⟩

theorem minds_freshId {f : String → Action α} (hpast : rule past)
    (h : ∀ id, (f id).Minds good rule ends past) :
    (freshId >>= f).Minds good rule ends past := by
  rw [minds_bind]
  intro s t r hs ht
  obtain rfl := ht
  exact ⟨hs, hpast, h r⟩

/-- What the store answers, and what becomes of the store. -/
theorem minds_call {c : StoreCall} {f : c.Reply → Action α}
    (hok : ∀ s t a, good s → c.answer s = .ok (a, t) → good t ∧ rule (⟨c, .ok a⟩ :: past) ∧
      (f a).Minds good rule ends (⟨c, .ok a⟩ :: past))
    (herror : ∀ s why, good s → c.answer s = .error why → rule (⟨c, .error why⟩ :: past) ∧
      ends (⟨c, .error why⟩ :: past) (.error why)) :
    (call c >>= f).Minds good rule ends past := by
  rw [minds_bind]
  intro s t r hs hyields
  cases hanswer : c.answer s with
  | ok out =>
    simp only [Effect.Yields, hanswer] at hyields
    obtain ⟨rfl, rfl⟩ := hyields
    exact hok s out.2 out.1 hs hanswer
  | error why =>
    simp only [Effect.Yields, hanswer] at hyields
    obtain ⟨rfl, rfl⟩ := hyields
    exact ⟨hs, herror t why hs hanswer⟩

theorem minds_within {scope : Option String} {a : Action α} (hpast : rule past)
    (h : a.Minds good rule ends past) : (within scope a).Minds good rule ends past := by
  unfold within Minds
  rw [ExceptT.run_mk, Program.minds_perform]
  intro s t r hs ht
  obtain rfl := ht
  refine ⟨hs, hpast, ?_⟩
  rw [Program.minds_bind]
  apply Program.Minds.mono h hpast (fun _ => id)
  intro past result hpast hends
  rw [Program.minds_perform]
  intro s t r hs ht
  obtain rfl := ht
  exact ⟨hs, hpast, hends⟩

end Action

/-! ## Chronicles of crowds -/

namespace Crowd

/-- A crowd that has come about before a store that was `first`, with the
exchanges that the calls have had with the store, each with the number of the
call, latest first. -/
inductive Chronicle (serve : ι → Action α) (first : Store) :
    List (Nat × Exchange) → Crowd ι α → Prop
  | start : Chronicle serve first [] ⟨first, []⟩
  | arrive {told : List (Nat × Exchange)} {c : Crowd ι α} (errand : ι) :
      Chronicle serve first told c →
      Chronicle serve first told
        { c with calls := c.calls ++ [{ errand, rest := (serve errand).run }] }
  | advance {told : List (Nat × Exchange)} {c : Crowd ι α} {i : Nat} {call : Call ι α}
      {e : Effect} {next : e.Reply → Program (Except Failure α)} {r : e.Reply} {store : Store} :
      Chronicle serve first told c → c.calls[i]? = some call → call.rest = .step e next →
        c.Admits i e r → e.Yields c.store r store →
      Chronicle serve first ((e.exchanges r).map (i, ·) ++ told)
        ⟨store, c.calls.set i ⟨call.errand, call.ledger.note e r, next r⟩⟩

variable {serve : ι → Action α} {opening : Store → Prop} {first : Store} {c d : Crowd ι α}
  {told before : List (Nat × Exchange)}

/-- Every crowd that comes about has a chronicle. -/
theorem reachable_iff_chronicle :
    Reachable serve opening c ↔ ∃ first told, opening first ∧ Chronicle serve first told c := by
  constructor
  · intro h
    induction h with
    | start hopening => exact ⟨_, _, hopening, .start⟩
    | step _ hstep ih =>
      obtain ⟨first, told, hopening, htold⟩ := ih
      cases hstep with
      | arrive errand => exact ⟨first, told, hopening, htold.arrive errand⟩
      | advance hcall hrest hadmits hyields =>
        exact ⟨first, _, hopening, htold.advance hcall hrest hadmits hyields⟩
  · rintro ⟨first, told, hopening, h⟩
    induction h with
    | start => exact .start hopening
    | arrive errand _ ih => exact ih.step (.arrive _ errand)
    | advance _ hcall hrest hadmits hyields ih =>
      exact ih.step (.advance hcall hrest hadmits hyields)

/-- The exchanges of one call, latest first. -/
def own (i : Nat) (told : List (Nat × Exchange)) : List Exchange :=
  told.filterMap fun x => if x.1 = i then some x.2 else none

theorem own_cons_self (i : Nat) (x : Exchange) (told : List (Nat × Exchange)) :
    own i ((i, x) :: told) = x :: own i told := by simp [own]

theorem own_cons_of_ne {i j : Nat} (h : j ≠ i) (x : Exchange) (told : List (Nat × Exchange)) :
    own i ((j, x) :: told) = own i told := by simp [own, h]

theorem mem_own {i : Nat} {x : Exchange} : x ∈ own i told ↔ (i, x) ∈ told := by
  simp [own]

theorem own_exchanges_self (i : Nat) (e : Effect) (r : e.Reply) :
    own i ((e.exchanges r).map (i, ·) ++ told) = e.exchanges r ++ own i told := by
  cases e <;> simp [Effect.exchanges, own]

theorem own_exchanges_of_ne {i j : Nat} (h : j ≠ i) (e : Effect) (r : e.Reply) :
    own i ((e.exchanges r).map (j, ·) ++ told) = own i told := by
  cases e <;> simp [Effect.exchanges, own, h]

/-- Whoever has had an exchange is one of the calls. -/
theorem Chronicle.lt_length (h : Chronicle serve first told c) {i : Nat} {x : Exchange}
    (hx : (i, x) ∈ told) : i < c.calls.length := by
  induction h with
  | start => cases hx
  | arrive errand _ ih =>
    have hlt := ih hx
    simp only [List.length_append, List.length_singleton]
    omega
  | advance _ hcall _ _ _ ih =>
    rw [List.length_set]
    rcases List.mem_append.1 hx with hx | hx
    · obtain ⟨y, -, heq⟩ := List.mem_map.1 hx
      cases heq
      exact (List.getElem?_eq_some_iff.1 hcall).1
    · exact ih hx

theorem Chronicle.own_eq_nil (h : Chronicle serve first told c) {i : Nat}
    (hi : c.calls.length ≤ i) : own i told = [] := by
  rw [List.eq_nil_iff_forall_not_mem]
  intro x hx
  have hlt := h.lt_length (mem_own.1 hx)
  omega

theorem Chronicle.exists_call (h : Chronicle serve first told c) {i : Nat} {x : Exchange}
    (hx : (i, x) ∈ told) : ∃ call, c.calls[i]? = some call :=
  ⟨_, List.getElem?_eq_getElem (h.lt_length hx)⟩

/-! ## What calls have minded -/

/-- How far a call has come: its exchanges have followed the rule from the
first one on, and what is left of it minds the rule. -/
structure Minding (good : Store → Prop) (rule : List Exchange → Prop)
    (ends : List Exchange → Except Failure α → Prop) (past : List Exchange) (call : Call ι α) :
    Prop where
  rest : call.rest.Minds good rule ends past
  past : ∀ older, older <:+ past → rule older

variable {good : Store → Prop} {rule : ι → List Exchange → Prop}
  {ends : ι → List Exchange → Except Failure α → Prop}

/-- Where every errand is served by a program that minds its rule, the store
stays good, and every call keeps to the rule of its errand. -/
theorem Chronicle.minding (h : Chronicle serve first told c) (hfirst : good first)
    (hserve : ∀ errand, (serve errand).Minds good (rule errand) (ends errand) [])
    (hnil : ∀ errand, rule errand []) :
    good c.store ∧ ∀ i call, c.calls[i]? = some call →
      Minding good (rule call.errand) (ends call.errand) (own i told) call := by
  induction h with
  | start => exact ⟨hfirst, fun i call hcall => nomatch hcall⟩
  | @arrive told c errand h ih =>
    refine ⟨ih.1, fun i call hcall => ?_⟩
    rw [List.getElem?_append] at hcall
    split at hcall
    · exact ih.2 i call hcall
    · rename_i hi
      obtain rfl := List.mem_singleton.1 (List.mem_of_getElem? hcall)
      rw [h.own_eq_nil (by omega)]
      refine ⟨hserve errand, fun older holder => ?_⟩
      rw [List.suffix_nil.1 holder]
      exact hnil errand
  | @advance told c i old e next r store h hold hrest _ hyields ih =>
    obtain ⟨hgood, hcalls⟩ := ih
    obtain ⟨hminds, hpast⟩ := hcalls i old hold
    rw [hrest] at hminds
    obtain ⟨hstore, hrule, hnext⟩ := hminds _ _ r hgood hyields
    refine ⟨hstore, fun j call hcall => ?_⟩
    rw [List.getElem?_set] at hcall
    split at hcall
    · rename_i hij
      subst hij
      split at hcall
      · cases hcall
        rw [own_exchanges_self]
        refine ⟨hnext, fun older holder => ?_⟩
        -- A step has at most one exchange: what has come before it followed the rule.
        cases e with
        | call c' =>
          rcases List.suffix_cons_iff.1 holder with rfl | holder
          · exact hrule
          · exact hpast older holder
        | _ => exact hpast older holder
      · cases hcall
    · rename_i hij
      rw [own_exchanges_of_ne hij]
      exact hcalls j call hcall

theorem Minding.ended {call : Call ι α} {past : List Exchange} {rule : List Exchange → Prop}
    {ends : List Exchange → Except Failure α → Prop} {result : Except Failure α}
    (h : Minding good rule ends past call) (hresult : call.result? = some result) :
    ends past result := by
  have hrest := h.rest
  unfold Call.result? at hresult
  split at hresult
  · rename_i a ha
    cases hresult
    rw [ha] at hrest
    exact hrest
  · cases hresult

/-- Every exchange of a call follows its rule, together with those before it. -/
theorem Minding.rule_of_told {call : Call ι α} {rule : List Exchange → Prop}
    {ends : List Exchange → Except Failure α → Prop} {i : Nat} {x : Exchange}
    (h : Minding good rule ends (own i told) call) (hx : (i, x) :: before <:+ told) :
    rule (x :: own i before) := by
  apply h.past
  rw [← own_cons_self]
  exact hx.filterMap _

/-! ## Chronicles of schedules -/

/-- The exchange that a turn brings about, with the number of the call. -/
def tells (c : Crowd ι α) : Turn ι → List (Nat × Exchange)
  | .arrive _ => []
  | .go i time id =>
    match c.calls[i]?.map Call.rest with
    | some (.step e _) => (e.exchanges (e.reply c.store time id).1).map (i, ·)
    | _ => []

/-- The exchanges of a schedule that is played, latest first. -/
def telling (serve : ι → Action α) (c : Crowd ι α) : List (Turn ι) → List (Nat × Exchange)
  | [] => []
  | t :: rest =>
    match c.turn serve t with
    | some d => telling serve d rest ++ c.tells t
    | none => []

theorem Chronicle.turn (h : Chronicle serve first told c) {t : Turn ι}
    (ht : c.turn serve t = some d) : Chronicle serve first (c.tells t ++ told) d := by
  cases t with
  | arrive errand =>
    cases ht
    exact h.arrive errand
  | go i time id =>
    obtain ⟨call, hcall, ht⟩ := Option.bind_eq_some_iff.1 ht
    unfold tells
    dsimp only
    rw [hcall, Option.map_some]
    cases hrest : call.rest with
    | done result =>
      rw [hrest] at ht
      cases ht
      exact h
    | step e next =>
      rw [hrest] at ht
      dsimp only at ht
      split at ht
      · rename_i hadmits
        cases ht
        exact h.advance hcall hrest hadmits (e.yields_reply c.store time id)
      · cases ht

theorem Chronicle.play (h : Chronicle serve first told c) {schedule : List (Turn ι)}
    (hplay : c.play serve schedule = some d) :
    Chronicle serve first (c.telling serve schedule ++ told) d := by
  induction schedule generalizing c told with
  | nil =>
    cases hplay
    exact h
  | cons t rest ih =>
    obtain ⟨c', hturn, hrest⟩ := Option.bind_eq_some_iff.1 hplay
    unfold telling
    rw [hturn, List.append_assoc]
    exact ih (h.turn hturn) hrest

end Crowd

/-! ## The small practice -/

namespace Practice

/-- The call takes so many turns. -/
def turns {ι : Type} (i count : Nat) (id : String) : List (Turn ι) :=
  List.replicate count (.go i today id)

/-- How the calls have ended: why they have failed, if they have. -/
def endings {ι α : Type} (c : Crowd ι α) : List (Option (Option Failure)) :=
  c.calls.map fun call => call.result?.map fun
    | .ok _ => none
    | .error why => some why

theorem exists_ok_of_endings {ι α : Type} {c : Crowd ι α} (h : ∀ e ∈ endings c, e = some none)
    {call : Call ι α} (hcall : call ∈ c.calls) : ∃ a, call.result? = some (.ok a) := by
  have hended := h _ (List.mem_map_of_mem hcall)
  cases hresult : call.result? with
  | none =>
    rw [hresult] at hended
    cases hended
  | some result =>
    cases result with
    | ok a => exact ⟨a, rfl⟩
    | error why =>
      rw [hresult] at hended
      cases hended

end Practice
end Appointments
