-- What one step of a crowd does: to the bookings in the store, and to what
-- the calls have done and seen so far.
import Appointments.Proofs.Conduct
import Appointments.Proofs.StoreWrites
namespace Appointments

/-! ## Deeds and the store -/

/-- The two stores hold the same records, and give out the same stamp next. -/
def Store.SameRecords (s t : Store) : Prop := t.records = s.records ∧ t.nextStamp = s.nextStamp

theorem Store.sameRecords_addBlackout {s t : Store} {b : Blackout}
    (h : s.addBlackout b = .ok t) : s.SameRecords t := by
  unfold addBlackout at h
  split at h
  · cases h
  · cases h
    exact ⟨rfl, rfl⟩

theorem Store.sameRecords_deleteBlackout {s t : Store} {provider id : String} {found : Bool}
    (h : s.deleteBlackout provider id = (found, t)) : s.SameRecords t := by
  unfold deleteBlackout at h
  split at h
  · cases h
    exact ⟨rfl, rfl⟩
  · split at h
    · cases h
      exact ⟨rfl, rfl⟩
    · cases h
      exact ⟨rfl, rfl⟩

/-- What the deed does to the records of a store. -/
inductive Deed.Writes : Deed → Store → Store → Prop
  | inserted {r : Record} {exclude : List String} {b : Booking} {s t : Store} :
      s.Inserts b exclude r t → Writes (.inserted r exclude) s t
  | changed {u : Store.Update} {id : String} {expected : Status}
      {changes : List Booking.Change} {s t : Store} :
      s.Changes id expected changes u t → Writes (.changed u) s t
  | removed {r : Record} {s t : Store} : s.holds r = true →
      t.records = s.records.erase r.booking.id → t.nextStamp = s.nextStamp →
      Writes (.undid (.remove r)) s t
  | restored {u : Store.Update} {s t : Store} : Writes (.undid (.restore u)) s t
  | drew {id : String} {s t : Store} : s.SameRecords t → Writes (.drew id) s t
  | refused {c : StoreCall} {s t : Store} : s.SameRecords t → Writes (.refused c) s t
  | stuck {u : Store.Undo} {s t : Store} : s.SameRecords t → Writes (.stuck u) s t
  | wrote {c : StoreCall} {s t : Store} : s.SameRecords t → Writes (.wrote c) s t

namespace Effect

/-- A call that fails leaves the store as it was. -/
theorem yields_error {s t : Store} {c : StoreCall} {why : Failure}
    (h : (call c).Yields s (.error why) t) : t = s := by
  simp only [Yields] at h
  split at h
  · cases h.1
  · exact h.2

theorem yields_ok {s t : Store} {c : StoreCall} {reply : c.Reply}
    (h : (call c).Yields s (.ok reply) t) : c.answer s = .ok (reply, t) := by
  simp only [Yields] at h
  split at h
  · rename_i hanswer
    obtain ⟨hreply, rfl⟩ := h
    cases hreply
    exact hanswer
  · cases h.1

/-- What the ledger says of a step: one deed more, which does to the records
what has been done, or none, and then the records stay. -/
def Notes (e : Effect) (r : e.Reply) (l : Ledger) (s t : Store) : Prop :=
  ((l.note e r).deeds = l.deeds ∧ s.SameRecords t) ∨
    ∃ deed, (l.note e r).deeds = deed :: l.deeds ∧ deed.Writes s t

theorem notes_error {c : StoreCall} {why : Failure} {l : Ledger} {s : Store} :
    (call c).Notes (.error why) l s s := by
  cases c with
  | insert => exact .inr ⟨_, rfl, .refused ⟨rfl, rfl⟩⟩
  | update => exact .inr ⟨_, rfl, .refused ⟨rfl, rfl⟩⟩
  | _ => exact .inl ⟨rfl, rfl, rfl⟩

/-- Only insertions and updates write bookings. -/
theorem sameRecords_of_answer {c : StoreCall} {reply : c.Reply} {s t : Store}
    (h : c.answer s = .ok (reply, t)) (hinsert : ∀ b exclude, c ≠ .insert b exclude)
    (hupdate : ∀ id expected changes, c ≠ .update id expected changes) : s.SameRecords t := by
  cases c with
  | insert b exclude => exact absurd rfl (hinsert b exclude)
  | update id expected changes => exact absurd rfl (hupdate id expected changes)
  | addBlackout b =>
    obtain ⟨u, hadd, hu⟩ := map_eq_ok.1 h
    cases hu
    exact Store.sameRecords_addBlackout hadd
  | deleteBlackout provider id =>
    injection h with hdelete
    exact Store.sameRecords_deleteBlackout hdelete
  | overlapping provider start stop exclude =>
    obtain ⟨found, -, hfound⟩ := map_eq_ok.1 h
    cases hfound
    exact ⟨rfl, rfl⟩
  | _ =>
    cases h
    exact ⟨rfl, rfl⟩

theorem notes_ok {c : StoreCall} {reply : c.Reply} {l : Ledger} {s t : Store}
    (h : c.answer s = .ok (reply, t)) : (call c).Notes (.ok reply) l s t := by
  cases c with
  | insert b exclude => exact .inr ⟨_, rfl, .inserted (Store.insert_eq_ok h)⟩
  | update id expected changes => exact .inr ⟨_, rfl, .changed (Store.update_eq_ok h)⟩
  | saveTemplate | addBlackout | deleteBlackout =>
    exact .inr ⟨_, rfl, .wrote (sameRecords_of_answer h (by simp) (by simp))⟩
  | booking id =>
    have hsame := sameRecords_of_answer h (by simp) (by simp)
    cases reply with
    | some b => exact .inl ⟨rfl, hsame⟩
    | none => exact .inl ⟨rfl, hsame⟩
  | _ => exact .inl ⟨rfl, sameRecords_of_answer h (by simp) (by simp)⟩

theorem notes_undo {u : Store.Undo} {undone : Bool} {l : Ledger} {s t : Store}
    (h : s.undo u = (undone, t)) : (undo u).Notes undone l s t := by
  cases undone with
  | true => cases u with
    | remove r =>
      obtain ⟨hholds, rfl⟩ := Store.undo_remove h
      exact .inr ⟨_, rfl, .removed hholds rfl rfl⟩
    | restore u => exact .inr ⟨_, rfl, .restored⟩
  | false =>
    obtain rfl := Store.undo_false h
    exact .inr ⟨_, rfl, .stuck ⟨rfl, rfl⟩⟩

theorem Yields.notes {e : Effect} {s t : Store} {r : e.Reply} {l : Ledger}
    (h : e.Yields s r t) : e.Notes r l s t := by
  cases e with
  | call c =>
    cases r with
    | error why =>
      obtain rfl := yields_error h
      exact notes_error
    | ok reply => exact notes_ok (yields_ok h)
  | undo u => exact notes_undo h
  | freshId =>
    obtain rfl := h
    exact .inr ⟨_, rfl, .drew ⟨rfl, rfl⟩⟩
  | _ =>
    obtain rfl := h
    exact .inl ⟨rfl, rfl, rfl⟩

/-- A booking that a call has newly seen is in the store. -/
theorem Yields.seen {e : Effect} {s t : Store} {r : e.Reply} {l : Ledger} {k : String}
    {b : Booking} (h : e.Yields s r t) (hseen : (k, b) ∈ (l.note e r).seen) :
    (k, b) ∈ l.seen ∨ s.booking? k = some b := by
  cases e with
  | call c => cases c with
    | booking id => cases r with
      | error why => exact .inl hseen
      | ok found => cases found with
        | none => exact .inl hseen
        | some b' =>
          rcases List.mem_cons.1 hseen with heq | hold
          · cases heq
            exact .inr (Prod.mk.inj (Except.ok.inj (yields_ok h))).1
          · exact .inl hold
    | _ => cases r <;> exact .inl hseen
  | undo u => cases r <;> exact .inl hseen
  | _ => exact .inl hseen

end Effect

namespace Crowd

variable {serve : ι → Action α} {c d : Crowd ι α}

/-- An id that a call has newly drawn is not empty, and nobody has drawn it
before. -/
theorem Admits.drew {i : Nat} {e : Effect} {r : e.Reply} {l : Ledger} {id : String}
    (h : c.Admits i e r) (hdrew : .drew id ∈ (l.note e r).deeds) :
    .drew id ∈ l.deeds ∨ (id ≠ "" ∧ ∀ call ∈ c.calls, .drew id ∉ call.ledger.deeds) := by
  cases e with
  | freshId =>
    rcases List.mem_cons.1 hdrew with heq | hold
    · cases heq
      exact .inr h
    · exact .inl hold
  | call c => cases c with
    | booking id => cases r with
      | error why => exact .inl hdrew
      | ok found => cases found <;> exact .inl hdrew
    | _ =>
      cases r <;> first
        | exact .inl hdrew
        | exact .inl ((List.mem_cons.1 hdrew).resolve_left nofun)
  | undo u => cases r <;> exact .inl ((List.mem_cons.1 hdrew).resolve_left nofun)
  | _ => exact .inl hdrew

/-! ## One step of a crowd -/

/-- One of the calls goes on, from `before` to `after`. -/
structure Passes (c d : Crowd ι α) (before after : Call ι α) : Prop where
  mem_before : before ∈ c.calls
  mem_after : after ∈ d.calls
  others : ∀ x ∈ c.calls, x = before ∨ x ∈ d.calls
  only : ∀ x ∈ d.calls, x = after ∨ x ∈ c.calls
  errand : after.errand = before.errand
  seen : ∀ k b, (k, b) ∈ after.ledger.seen →
    (k, b) ∈ before.ledger.seen ∨ c.store.booking? k = some b
  deeds : (after.ledger.deeds = before.ledger.deeds ∧ c.store.SameRecords d.store) ∨
    ∃ deed, after.ledger.deeds = deed :: before.ledger.deeds ∧ deed.Writes c.store d.store

/-- Somebody arrives, with nothing seen or done, or the call at one of the
places goes on, which has not ended. -/
theorem Step.advances (h : Step serve c d) :
    (d.store = c.store ∧ ∃ call : Call ι α, call.ledger = {} ∧ d.calls = c.calls ++ [call]) ∨
      ∃ i before after, c.calls[i]? = some before ∧ before.result? = none ∧
        d.calls = c.calls.set i after ∧ c.Passes d before after := by
  cases h with
  | arrive errand => exact .inl ⟨rfl, _, rfl, rfl⟩
  | @advance i call e next r store hcall hrest hadmits hyields =>
    have hlt := (List.getElem?_eq_some_iff.1 hcall).1
    have hgoing : call.result? = none := by
      unfold Call.result?
      rw [hrest]
    refine .inr ⟨i, call, ⟨call.errand, call.ledger.note e r, next r⟩, hcall, hgoing, rfl,
      List.mem_of_getElem? hcall, List.mem_set hlt _, fun x hx => ?_, fun x hx => ?_, rfl,
      fun k b => hyields.seen, hyields.notes⟩
    · obtain ⟨j, hj⟩ := List.getElem?_of_mem hx
      by_cases hij : i = j
      · subst hij
        rw [hcall] at hj
        exact .inl (Option.some.inj hj).symm
      · refine .inr (List.mem_of_getElem? (i := j) ?_)
        rw [List.getElem?_set_ne hij]
        exact hj
    · exact (List.mem_or_eq_of_mem_set hx).symm

/-- Somebody arrives, with nothing seen or done, or one of the calls goes on. -/
theorem Step.passes (h : Step serve c d) :
    (d.store = c.store ∧ ∃ call : Call ι α, call.ledger = {} ∧ d.calls = c.calls ++ [call]) ∨
      ∃ before after, c.Passes d before after := by
  rcases h.advances with harrive | ⟨-, before, after, -, -, -, hpass⟩
  · exact .inl harrive
  · exact .inr ⟨before, after, hpass⟩

/-- One of the calls has done this. -/
def Did (c : Crowd ι α) (deed : Deed) : Prop := ∃ call ∈ c.calls, deed ∈ call.ledger.deeds

/-- One of the calls was shown this booking under this id. -/
def Saw (c : Crowd ι α) (k : String) (b : Booking) : Prop :=
  ∃ call ∈ c.calls, (k, b) ∈ call.ledger.seen

/-- What has been done stays done. -/
theorem Step.did_mono {deed : Deed} (h : Step serve c d) (hdid : c.Did deed) : d.Did deed := by
  obtain ⟨call, hcall, hdeed⟩ := hdid
  rcases h.passes with ⟨-, new, -, hcalls⟩ | ⟨before, after, hpass⟩
  · exact ⟨call, hcalls ▸ List.mem_append_left _ hcall, hdeed⟩
  · rcases hpass.others call hcall with rfl | hcall
    · refine ⟨after, hpass.mem_after, ?_⟩
      rcases hpass.deeds with ⟨hsame, -⟩ | ⟨new, hnew, -⟩
      · exact hsame ▸ hdeed
      · exact hnew ▸ List.mem_cons_of_mem _ hdeed
    · exact ⟨call, hcall, hdeed⟩

/-- What a call has newly seen is in the store. -/
theorem Step.saw {k : String} {b : Booking} (h : Step serve c d) (hsaw : d.Saw k b) :
    c.Saw k b ∨ c.store.booking? k = some b := by
  obtain ⟨call, hcall, hseen⟩ := hsaw
  rcases h.passes with ⟨-, new, hnew, hcalls⟩ | ⟨before, after, hpass⟩
  · rw [hcalls] at hcall
    rcases List.mem_append.1 hcall with hcall | hcall
    · exact .inl ⟨call, hcall, hseen⟩
    · obtain rfl := List.mem_singleton.1 hcall
      rw [hnew] at hseen
      cases hseen
  · rcases hpass.only call hcall with rfl | hcall
    · exact (hpass.seen k b hseen).imp_left fun hseen => ⟨before, hpass.mem_before, hseen⟩
    · exact .inl ⟨call, hcall, hseen⟩

/-- Either nothing new is done and the records stay, or one of the calls has
one deed more, which does to the records what has been done. -/
theorem Step.did (h : Step serve c d) :
    (c.store.SameRecords d.store ∧ ∀ x, d.Did x → c.Did x) ∨
      ∃ deed before after, c.Passes d before after ∧
        after.ledger.deeds = deed :: before.ledger.deeds ∧ deed.Writes c.store d.store ∧
        d.Did deed ∧ ∀ x, d.Did x → x = deed ∨ c.Did x := by
  rcases h.passes with ⟨hstore, new, hnew, hcalls⟩ | ⟨before, after, hpass⟩
  · refine .inl ⟨⟨congrArg _ hstore, congrArg _ hstore⟩, ?_⟩
    rintro x ⟨call, hcall, hx⟩
    rw [hcalls] at hcall
    rcases List.mem_append.1 hcall with hcall | hcall
    · exact ⟨call, hcall, hx⟩
    · obtain rfl := List.mem_singleton.1 hcall
      rw [hnew] at hx
      cases hx
  · rcases hpass.deeds with ⟨hsame, hrecords⟩ | ⟨deed, hnew, hwrites⟩
    · refine .inl ⟨hrecords, ?_⟩
      rintro x ⟨call, hcall, hx⟩
      rcases hpass.only call hcall with rfl | hcall
      · exact ⟨before, hpass.mem_before, hsame ▸ hx⟩
      · exact ⟨call, hcall, hx⟩
    · refine .inr ⟨deed, before, after, hpass, hnew, hwrites,
        ⟨after, hpass.mem_after, hnew ▸ List.mem_cons_self⟩, ?_⟩
      rintro x ⟨call, hcall, hx⟩
      rcases hpass.only call hcall with rfl | hcall
      · rw [hnew] at hx
        exact (List.mem_cons.1 hx).imp_right fun hx => ⟨before, hpass.mem_before, hx⟩
      · exact .inr ⟨call, hcall, hx⟩

/-! ## Deeds of one call only -/

/-- Calls that have done deeds that meet are the same. -/
def Apart (meet : Deed → Deed → Prop) (c : Crowd ι α) : Prop :=
  ∀ (i j : Nat) (x y : Call ι α) (a b : Deed), c.calls[i]? = some x → c.calls[j]? = some y →
    a ∈ x.ledger.deeds → b ∈ y.ledger.deeds → meet a b → i = j

theorem Apart.arrive {meet : Deed → Deed → Prop} {call : Call ι α} (hc : c.Apart meet)
    (hcall : call.ledger = {}) (hcalls : d.calls = c.calls ++ [call]) : d.Apart meet := by
  have hold : ∀ (j : Nat) (x : Call ι α) (a : Deed), d.calls[j]? = some x → a ∈ x.ledger.deeds →
      c.calls[j]? = some x := by
    intro j x a hx ha
    rw [hcalls, List.getElem?_append] at hx
    split at hx
    · exact hx
    · obtain rfl := List.mem_singleton.1 (List.mem_of_getElem? hx)
      rw [hcall] at ha
      cases ha
  intro i j x y a b hx hy ha hb
  exact hc i j x y a b (hold i x a hx ha) (hold j y b hy hb) ha hb

/-- Where a call goes on, what it has newly done must not meet what was done
before. -/
theorem Apart.advance {meet : Deed → Deed → Prop} {i : Nat} {before after : Call ι α}
    (hc : c.Apart meet) (hbefore : c.calls[i]? = some before)
    (hcalls : d.calls = c.calls.set i after) (hsymm : ∀ a b, meet a b → meet b a)
    (hnew : ∀ a ∈ after.ledger.deeds, a ∈ before.ledger.deeds ∨ ∀ b, c.Did b → ¬ meet a b) :
    d.Apart meet := by
  have hcases : ∀ (j : Nat) (x : Call ι α), d.calls[j]? = some x →
      (i = j ∧ x = after) ∨ c.calls[j]? = some x := by
    intro j x hx
    rw [hcalls, List.getElem?_set] at hx
    split at hx
    · split at hx
      · exact .inl ⟨‹_›, (Option.some.inj hx).symm⟩
      · cases hx
    · exact .inr hx
  have hother : ∀ (j : Nat) (y : Call ι α) (a b : Deed), c.calls[j]? = some y →
      a ∈ after.ledger.deeds → b ∈ y.ledger.deeds → meet a b → i = j := by
    intro j y a b hy ha hb hmeet
    rcases hnew a ha with ha | hfresh
    · exact hc i j before y a b hbefore hy ha hb hmeet
    · exact absurd hmeet (hfresh b ⟨y, List.mem_of_getElem? hy, hb⟩)
  intro j k x y a b hx hy ha hb hmeet
  rcases hcases j x hx with ⟨rfl, rfl⟩ | hx
  · rcases hcases k y hy with ⟨rfl, -⟩ | hy
    · rfl
    · exact hother k y a b hy ha hb hmeet
  · rcases hcases k y hy with ⟨rfl, rfl⟩ | hy
    · exact (hother j x b a hx hb ha (hsymm a b hmeet)).symm
    · exact hc j k x y a b hx hy ha hb hmeet

/-! ## Drawn ids -/

/-- No two calls have drawn the same id, and no call has drawn an empty one. -/
structure DrawsApart (c : Crowd ι α) : Prop where
  ne_empty : ∀ id, c.Did (.drew id) → id ≠ ""
  once : ∀ (i j : Nat) (x y : Call ι α) (id : String), c.calls[i]? = some x →
    c.calls[j]? = some y → .drew id ∈ x.ledger.deeds → .drew id ∈ y.ledger.deeds → i = j

theorem drawsApart_iff : c.DrawsApart ↔ (∀ id, c.Did (.drew id) → id ≠ "") ∧
    c.Apart fun a b => ∃ id, a = .drew id ∧ b = .drew id := by
  constructor
  · rintro ⟨hne, honce⟩
    refine ⟨hne, ?_⟩
    rintro i j x y _ _ hx hy ha hb ⟨id, rfl, rfl⟩
    exact honce i j x y id hx hy ha hb
  · rintro ⟨hne, hapart⟩
    exact ⟨hne, fun i j x y id hx hy hxid hyid => hapart i j x y _ _ hx hy hxid hyid ⟨id, rfl, rfl⟩⟩

theorem drawsApart_arrive {call : Call ι α} (hc : c.DrawsApart) (hcall : call.ledger = {}) :
    DrawsApart { c with calls := c.calls ++ [call] } := by
  obtain ⟨hne, hapart⟩ := drawsApart_iff.1 hc
  refine drawsApart_iff.2 ⟨?_, hapart.arrive hcall rfl⟩
  rintro id ⟨x, hx, hid⟩
  rcases List.mem_append.1 hx with hx | hx
  · exact hne id ⟨x, hx, hid⟩
  · obtain rfl := List.mem_singleton.1 hx
    rw [hcall] at hid
    cases hid

theorem drawsApart_advance {i : Nat} {call after : Call ι α} {e : Effect} {r : e.Reply}
    {store : Store} (hc : c.DrawsApart) (hcall : c.calls[i]? = some call)
    (hafter : after.ledger = call.ledger.note e r) (hadmits : c.Admits i e r) :
    DrawsApart ⟨store, c.calls.set i after⟩ := by
  obtain ⟨hne, hapart⟩ := drawsApart_iff.1 hc
  have hdrew : ∀ id, .drew id ∈ after.ledger.deeds → .drew id ∈ call.ledger.deeds ∨
      (id ≠ "" ∧ ∀ call ∈ c.calls, .drew id ∉ call.ledger.deeds) :=
    fun id hid => hadmits.drew (hafter ▸ hid)
  refine drawsApart_iff.2 ⟨?_, hapart.advance hcall rfl ?_ fun a ha => ?_⟩
  · rintro id ⟨x, hx, hid⟩
    rcases (List.mem_or_eq_of_mem_set hx).symm with rfl | hx
    · rcases hdrew id hid with hid | ⟨hne, -⟩
      · exact hne id ⟨call, List.mem_of_getElem? hcall, hid⟩
      · exact hne
    · exact hne id ⟨x, hx, hid⟩
  · rintro _ _ ⟨id, rfl, rfl⟩
    exact ⟨id, rfl, rfl⟩
  · by_cases hold : a ∈ call.ledger.deeds
    · exact .inl hold
    · right
      rintro _ ⟨y, hy, hb⟩ ⟨id, rfl, rfl⟩
      exact ((hdrew id ha).resolve_left hold).2 y hy hb

theorem drawsApart_step (hc : c.DrawsApart) (h : Step serve c d) : d.DrawsApart := by
  cases h with
  | arrive errand => exact drawsApart_arrive hc rfl
  | advance hcall hrest hadmits hyields => exact drawsApart_advance hc hcall rfl hadmits

theorem Reachable.drawsApart {opening : Store → Prop} (h : Reachable serve opening c) :
    c.DrawsApart := by
  induction h with
  | start =>
    constructor
    · rintro id ⟨x, hx, -⟩
      cases hx
    · intro i j x y id hx
      cases hx
  | step _ hstep ih => exact drawsApart_step ih hstep

/-- Two calls that have drawn the same id are the same. -/
theorem DrawsApart.eq {x y : Call ι α} {id : String} (h : c.DrawsApart) (hx : x ∈ c.calls)
    (hy : y ∈ c.calls) (hxid : .drew id ∈ x.ledger.deeds) (hyid : .drew id ∈ y.ledger.deeds) :
    x = y := by
  obtain ⟨i, hi⟩ := List.getElem?_of_mem hx
  obtain ⟨j, hj⟩ := List.getElem?_of_mem hy
  obtain rfl := h.once i j x y id hi hj hxid hyid
  exact Option.some.inj (hi.symm.trans hj)

end Crowd
end Appointments
