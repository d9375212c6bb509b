-- Blackouts that are added and removed by many callers at once. Two active
-- blackouts of a provider overlap only where the callers who added them raced:
-- each of them had looked for blackouts before the other one's was there.
import Appointments.Proofs.Chronicles
import Appointments.Proofs.WeeklyHours
namespace Appointments

/-! ## Two places of a list -/

/-- Of two different items, one stands before the other. -/
theorem append_cons_cases {α : Type} {l₁ r₁ l₂ r₂ : List α} {x y : α}
    (h : l₁ ++ x :: r₁ = l₂ ++ y :: r₂) (hne : x ≠ y) :
    (∃ m, l₁ = l₂ ++ y :: m ∧ r₂ = m ++ x :: r₁) ∨
      ∃ m, l₂ = l₁ ++ x :: m ∧ r₁ = m ++ y :: r₂ := by
  rcases List.append_eq_append_iff.1 h with ⟨m, hl, hr⟩ | ⟨m, hl, hr⟩
  · cases m with
    | nil => exact absurd (List.cons.inj hr).1 hne
    | cons z m =>
      rw [List.cons_append, List.cons.injEq] at hr
      obtain ⟨rfl, hr⟩ := hr
      exact .inr ⟨m, hl, hr⟩
  · cases m with
    | nil => exact absurd (List.cons.inj hr).1.symm hne
    | cons z m =>
      rw [List.cons_append, List.cons.injEq] at hr
      obtain ⟨rfl, hr⟩ := hr
      exact .inl ⟨m, hl, hr⟩

/-! ## Errands about blackouts -/

/-- What callers want of the blackouts of a provider. -/
inductive BlackoutErrand
  | add (provider start stop reason : Value) (isActive : Bool)
  | remove (provider blackout : Value)

/-- Whoever adds a blackout gets it. -/
def BlackoutErrand.serve (desk : Desk) : BlackoutErrand → Action (Option Blackout)
  | add provider start stop reason isActive =>
    some <$> desk.addBlackout provider start stop reason (.bool isActive)
  | remove provider blackout => (fun _ => none) <$> desk.removeBlackout provider blackout

/-! ## The conduct of one caller -/

/-- The exchanges of a caller, latest first. An active blackout is added only
right after none was found in its way. -/
inductive BlackoutCourse : List Exchange → Prop
  | idle : BlackoutCourse []
  | looked {provider : String} {start stop : Instant} {found : List Blackout} :
      BlackoutCourse [⟨.activeBlackouts provider start stop, .ok found⟩]
  | addedInactive {b : Blackout} {answer : Except Failure Unit} : b.isActive = false →
      BlackoutCourse [⟨.addBlackout b, answer⟩]
  | addedClear {b : Blackout} {answer : Except Failure Unit} :
      BlackoutCourse [⟨.addBlackout b, answer⟩,
        ⟨.activeBlackouts b.provider b.start b.stop, .ok []⟩]
  | removed {provider id : String} {answer : Except Failure Bool} :
      BlackoutCourse [⟨.deleteBlackout provider id, answer⟩]

/-- Whoever has found a blackout in the way has done nothing else. -/
theorem BlackoutCourse.eq_of_found {past : List Exchange} {provider : String}
    {start stop : Instant} {found : List Blackout} (h : BlackoutCourse past)
    (hmem : ⟨.activeBlackouts provider start stop, .ok found⟩ ∈ past) (hne : found ≠ []) :
    past = [⟨.activeBlackouts provider start stop, .ok found⟩] := by
  cases h with
  | idle => cases hmem
  | looked => rw [List.mem_singleton.1 hmem]
  | addedInactive => cases congrArg Exchange.call (List.mem_singleton.1 hmem)
  | addedClear =>
    rcases List.mem_cons.1 hmem with heq | hmem
    · cases congrArg Exchange.call heq
    · cases List.mem_singleton.1 hmem
      exact absurd rfl hne
  | removed => cases congrArg Exchange.call (List.mem_singleton.1 hmem)

/-- A caller who has only looked has found a blackout in the way, and is told
so. -/
def ToldOfConflict (past : List Exchange) (result : Except Failure α) : Prop :=
  ∀ provider start stop found, past = [⟨.activeBlackouts provider start stop, .ok found⟩] →
    result = .error (.conflict .blackoutOverlap)

namespace Desk

open Appointments.Action

theorem toldOfConflict_of_added {b : Blackout} {answer : Except Failure Unit}
    {past : List Exchange} {result : Except Failure α} :
    ToldOfConflict (⟨.addBlackout b, answer⟩ :: past) result := by
  intro provider start stop found h
  have hhead := congrArg Exchange.call (List.cons.inj h).1
  cases hhead

theorem askedBlackout_fields {id provider : String} {start stop : Instant} {reason : Value}
    {isActive : Bool} {b : Blackout}
    (h : askedBlackout id provider start stop reason (.bool isActive) = .ok b) :
    b.provider = provider ∧ b.start = start ∧ b.stop = stop ∧ b.isActive = isActive := by
  obtain ⟨reason, -, h⟩ := bind_eq_ok.1 h
  obtain ⟨active, hactive, h⟩ := Reading.check_eq_ok.1 (Reading.orFail_eq_ok.1 h)
  cases Reading.under_eq_ok.1 hactive
  unfold Blackout.make at h
  split at h
  · cases h
    exact ⟨rfl, rfl, rfl, rfl⟩
  · cases h

section
variable {good : Store → Prop} {past : List Exchange}
  {ends : List Exchange → Except Failure Blackout → Prop}

/-- The last part of a call that adds a blackout. -/
theorem minds_saveBlackout (hadds : ∀ s b, good s → good { s with blackouts := s.blackouts.put b })
    {b : Blackout} {message : String}
    (hrule : ∀ answer, BlackoutCourse (⟨.addBlackout b, answer⟩ :: past))
    (hends : ∀ answer result, ends (⟨.addBlackout b, answer⟩ :: past) result) :
    (do
      Action.call (.addBlackout b)
      Action.log .hours .info message
      return b : Action Blackout).Minds good BlackoutCourse ends past := by
  apply minds_call
  · intro s t a hs ht
    rw [StoreCall.store_of_addBlackout ht]
    exact ⟨hadds s b hs, hrule _, minds_log (hrule _) (minds_pure (hends _ _))⟩
  · intro s why _ _
    exact ⟨hrule _, hends _ _⟩

theorem minds_addBlackout (desk : Desk)
    (hadds : ∀ s b, good s → good { s with blackouts := s.blackouts.put b })
    (provider start stop reason : Value) (isActive : Bool) :
    (desk.addBlackout provider start stop reason (.bool isActive)).Minds good BlackoutCourse
      ToldOfConflict [] := by
  have hnothing : ∀ result : Except Failure Blackout, ToldOfConflict [] result := nofun
  unfold addBlackout
  apply minds_within .idle
  refine minds_lift (fun provider _ => ?_) fun _ _ => hnothing _
  refine minds_lift (fun start _ => ?_) fun _ _ => hnothing _
  refine minds_lift (fun stop _ => ?_) fun _ _ => hnothing _
  by_cases hstop : stop ≤ start
  · simp only [if_pos hstop]
    exact minds_throw (hnothing _)
  simp only [if_neg hstop]
  unfold newBlackout
  rw [bind_assoc]
  refine minds_freshId .idle fun id => ?_
  rw [bind_assoc]
  refine minds_lift (fun text htext => ?_) fun _ _ => hnothing _
  refine minds_lift (fun b hb => ?_) fun _ _ => hnothing _
  have hasked : askedBlackout id provider start stop reason (.bool isActive) = .ok b :=
    bind_eq_ok.2 ⟨text, htext, hb⟩
  obtain ⟨rfl, rfl, rfl, rfl⟩ := askedBlackout_fields hasked
  refine minds_lift (fun longest _ => ?_) fun _ _ => hnothing _
  by_cases hlong : longest.micros < b.length
  · simp only [if_pos hlong]
    exact minds_throw (hnothing _)
  simp only [if_neg hlong]
  cases hactive : b.isActive with
  | false =>
    exact minds_saveBlackout hadds (fun _ => .addedInactive hactive) fun _ _ =>
      toldOfConflict_of_added
  | true =>
    simp only [Value.isGiven, if_true]
    apply minds_call
    · intro s t found hs ht
      cases ht
      refine ⟨hs, .looked, ?_⟩
      cases hfound : s.activeBlackouts b.provider b.start b.stop with
      | nil =>
        exact minds_saveBlackout hadds (fun _ => .addedClear) fun _ _ =>
          toldOfConflict_of_added
      | cons x rest => exact minds_throw fun _ _ _ _ _ => rfl
    · intro s why _ ht
      cases ht

theorem minds_removeBlackout (desk : Desk)
    (hremoves : ∀ s id, good s → good { s with blackouts := s.blackouts.erase id })
    (provider blackout : Value) :
    (desk.removeBlackout provider blackout).Minds good BlackoutCourse ToldOfConflict [] := by
  unfold removeBlackout
  apply minds_within .idle
  refine minds_lift (fun id _ => ?_) fun _ _ => nofun
  apply minds_call
  · intro s t found hs ht
    have hgood : good t := by
      rcases StoreCall.store_of_deleteBlackout ht with rfl | rfl
      · exact hs
      · exact hremoves s id hs
    refine ⟨hgood, .removed, ?_⟩
    cases found with
    | false => exact minds_throw nofun
    | true => exact minds_log .removed (minds_pure nofun)
  · intro s why _ ht
    cases ht

end
end Desk

/-! ## Many callers -/

/-- Every errand is served by a program that minds its course. -/
theorem BlackoutErrand.minds_serve (desk : Desk) (errand : BlackoutErrand) :
    (errand.serve desk).Minds (fun _ => True) BlackoutCourse ToldOfConflict [] := by
  cases errand with
  | add provider start stop reason isActive =>
    refine Action.minds_map _ .idle (desk.minds_addBlackout (fun _ _ _ => trivial) _ _ _ _ _) ?_
    intro past result h provider start stop found hpast
    rw [h provider start stop found hpast]
    rfl
  | remove provider blackout =>
    refine Action.minds_map _ .idle (desk.minds_removeBlackout (fun _ _ _ => trivial) _ _) ?_
    intro past result h provider start stop found hpast
    rw [h provider start stop found hpast]
    rfl

namespace Crowd

variable {desk : Desk} {first : Store} {c : Crowd BlackoutErrand (Option Blackout)}
  {told : List (Nat × Exchange)} {b x : Blackout}

/-- The blackout was added at some time, and from then on everybody who looked
at its time has found it, if it is active. -/
def Standing (told : List (Nat × Exchange)) (b : Blackout) : Prop :=
  ∃ later i before, told = later ++ (i, ⟨.addBlackout b, .ok ()⟩) :: before ∧
    ∀ j start stop found, (j, ⟨.activeBlackouts b.provider start stop, .ok found⟩) ∈ later →
      b.isActive = true → b.start < stop → start < b.stop → b ∈ found

/-- One more exchange of somebody who finds the blackout if he looks for it. -/
theorem Standing.exchanged {e : Effect} {r : e.Reply} {s t : Store} (i : Nat)
    (h : Standing told b) (hyields : e.Yields s r t) (hb : b ∈ s.blackouts.items) :
    Standing ((e.exchanges r).map (i, ·) ++ told) b := by
  obtain ⟨later, j, before, rfl, hfound⟩ := h
  refine ⟨(e.exchanges r).map (i, ·) ++ later, j, before, by simp, ?_⟩
  intro k start stop found hmem hactive hstart hstop
  rcases List.mem_append.1 hmem with hmem | hmem
  · obtain ⟨y, hy, heq⟩ := List.mem_map.1 hmem
    cases heq
    cases e with
    | call c =>
      obtain heq := List.mem_singleton.1 hy
      cases heq
      obtain ⟨hanswer, -⟩ := hyields
      cases hanswer
      exact Store.mem_activeBlackouts.2 ⟨hb, rfl, hactive, hstart, hstop⟩
    | _ => cases hy
  · exact hfound k start stop found hmem hactive hstart hstop

/-- Every stored blackout was added, for there was none at first. -/
theorem Chronicle.standing (h : Chronicle (BlackoutErrand.serve desk) first told c)
    (hfirst : first.blackouts = .empty) : ∀ b ∈ c.store.blackouts.items, Standing told b := by
  induction h with
  | start =>
    intro b hb
    rw [hfirst] at hb
    cases hb
  | arrive errand _ ih => exact ih
  | @advance told c i call e next r store h hcall hrest _ hyields ih =>
    have hold : ∀ b ∈ c.store.blackouts.items,
        Standing ((e.exchanges r).map (i, ·) ++ told) b := fun b hb =>
      (ih b hb).exchanged i hyields hb
    intro b hb
    cases hyields.writesHours with
    | none _ hsame =>
      rw [hsame] at hb
      exact hold b hb
    | saved _ hstore =>
      rw [hstore] at hb
      exact hold b hb
    | @added x htold hstore =>
      rw [hstore] at hb
      rcases Shelf.mem_putInto hb with rfl | hb
      · rw [htold]
        exact ⟨[], i, told, rfl, nofun⟩
      · exact hold b hb
    | removed hstore =>
      rw [hstore] at hb
      exact hold b (List.mem_filter.1 hb).1

/-- Two callers raced: the second one had looked for blackouts before the first
one added a blackout, and added another one after that. -/
def Raced (told : List (Nat × Exchange)) (x y : Blackout) : Prop :=
  ∃ i j later middle before, i ≠ j ∧
    told = later ++ (j, ⟨.addBlackout y, .ok ()⟩) :: middle ++ (i, ⟨.addBlackout x, .ok ()⟩) ::
      before ∧
    (j, ⟨.activeBlackouts y.provider y.start y.stop, .ok []⟩) ∈ before

/-- Only a caller who has just found nothing in the way adds an active
blackout. -/
theorem Chronicle.looked (h : Chronicle (BlackoutErrand.serve desk) first told c)
    {before : List (Nat × Exchange)} {i : Nat} {answer : Except Failure Unit}
    (hadded : (i, ⟨.addBlackout b, answer⟩) :: before <:+ told) (hactive : b.isActive = true) :
    own i before = [⟨.activeBlackouts b.provider b.start b.stop, .ok []⟩] := by
  obtain ⟨call, hcall⟩ := h.exists_call (hadded.subset List.mem_cons_self)
  have hcourse := ((h.minding trivial (fun errand => errand.minds_serve desk)
    fun _ => .idle).2 i call hcall).rule_of_told hadded
  generalize own i before = past at hcourse ⊢
  cases hcourse with
  | addedInactive hinactive =>
    rw [hactive] at hinactive
    cases hinactive
  | addedClear => rfl

/-- Of two blackouts in each other's way, the later one was added by somebody
who had looked before the earlier one was there. -/
theorem Chronicle.raced_of_later (h : Chronicle (BlackoutErrand.serve desk) first told c)
    {later middle before : List (Nat × Exchange)} {i j : Nat}
    (htold : told = later ++ (j, ⟨.addBlackout x, .ok ()⟩) :: middle ++
      (i, ⟨.addBlackout b, .ok ()⟩) :: before)
    (hfound : ∀ j start stop found,
      (j, ⟨.activeBlackouts b.provider start stop, .ok found⟩) ∈ middle →
        b.isActive = true → b.start < stop → start < b.stop → b ∈ found)
    (hprovider : b.provider = x.provider) (hb : b.isActive = true) (hx : x.isActive = true)
    (hover : b.interval.overlaps x.interval = true) : Raced told b x := by
  have hown : own j (middle ++ (i, ⟨.addBlackout b, .ok ()⟩) :: before) =
      [⟨.activeBlackouts x.provider x.start x.stop, .ok []⟩] :=
    h.looked ⟨later, by rw [htold, List.append_assoc, List.cons_append]⟩ hx
  have hne : i ≠ j := by
    rintro rfl
    have hmem : (⟨.addBlackout b, .ok ()⟩ : Exchange) ∈
        own i (middle ++ (i, ⟨.addBlackout b, .ok ()⟩) :: before) :=
      mem_own.2 (List.mem_append_right _ List.mem_cons_self)
    rw [hown] at hmem
    cases congrArg Exchange.call (List.mem_singleton.1 hmem)
  refine ⟨i, j, later, middle, before, hne, htold, ?_⟩
  have hlooked : (j, (⟨.activeBlackouts x.provider x.start x.stop, .ok []⟩ : Exchange)) ∈
      middle ++ (i, ⟨.addBlackout b, .ok ()⟩) :: before := by
    rw [← mem_own, hown]
    exact List.mem_singleton_self _
  rcases List.mem_append.1 hlooked with hmiddle | hbefore
  · rw [← hprovider] at hmiddle
    obtain ⟨hstart, hstop⟩ := Interval.overlaps_iff.1 hover
    cases hfound j _ _ _ hmiddle hb hstart hstop
  · rcases List.mem_cons.1 hbefore with heq | hbefore
    · cases congrArg (·.2.call) heq
    · exact hbefore

/-- Active blackouts of one provider that overlap were added by callers who
raced. -/
theorem Chronicle.raced_of_overlap (h : Chronicle (BlackoutErrand.serve desk) first told c)
    (hfirst : first.blackouts = .empty) {y : Blackout} (hx : x ∈ c.store.blackouts.items)
    (hy : y ∈ c.store.blackouts.items) (hne : x ≠ y) (hprovider : x.provider = y.provider)
    (hxactive : x.isActive = true) (hyactive : y.isActive = true)
    (hover : x.interval.overlaps y.interval = true) : Raced told x y ∨ Raced told y x := by
  obtain ⟨later, i, before, htold, hfound⟩ := h.standing hfirst x hx
  obtain ⟨later', j, before', htold', hfound'⟩ := h.standing hfirst y hy
  have hdistinct : ((i, ⟨.addBlackout x, .ok ()⟩) : Nat × Exchange) ≠
      (j, ⟨.addBlackout y, .ok ()⟩) := by
    intro heq
    cases congrArg (·.2.call) heq
    exact hne rfl
  rcases append_cons_cases (htold.symm.trans htold') hdistinct with
    ⟨middle, rfl, rfl⟩ | ⟨middle, rfl, rfl⟩
  · left
    refine h.raced_of_later (by simpa using htold) (fun k start stop found hmem => ?_)
      hprovider hxactive hyactive hover
    exact hfound k start stop found (by simp [hmem])
  · right
    refine h.raced_of_later (by simpa using htold') (fun k start stop found hmem => ?_)
      hprovider.symm hyactive hxactive ?_
    · exact hfound' k start stop found (by simp [hmem])
    · rw [Interval.overlaps_iff] at hover ⊢
      exact hover.symm

/-- Whoever has found a blackout in the way adds none, and is told of it. -/
theorem Chronicle.told_of_conflict (h : Chronicle (BlackoutErrand.serve desk) first told c)
    {i : Nat} {call : Call BlackoutErrand (Option Blackout)} {provider : String}
    {start stop : Instant} {found : List Blackout} (hcall : c.calls[i]? = some call)
    (hne : found ≠ []) (hmem : (i, ⟨.activeBlackouts provider start stop, .ok found⟩) ∈ told) :
    (∀ b answer, (i, ⟨.addBlackout b, answer⟩) ∉ told) ∧
      ∀ result, call.result? = some result → result = .error (.conflict .blackoutOverlap) := by
  have hminding := (h.minding trivial (fun errand => errand.minds_serve desk)
    fun _ => .idle).2 i call hcall
  have hcourse : BlackoutCourse (own i told) := hminding.past _ List.suffix_rfl
  have hown := hcourse.eq_of_found (mem_own.2 hmem) hne
  constructor
  · intro b answer hadded
    have hadded := mem_own.2 hadded
    rw [hown] at hadded
    cases congrArg Exchange.call (List.mem_singleton.1 hadded)
  · intro result hresult
    exact hminding.ended hresult provider start stop found hown

/-- Whatever blackouts are added and removed, in whatever order the steps of the
callers come: two active blackouts of one provider overlap only where those who
added them raced. A caller who finds another blackout in the way adds none, and
ends with that conflict. -/
theorem Chronicle.overlap_only_after_races
    (h : Chronicle (BlackoutErrand.serve desk) first told c) (hfirst : first.blackouts = .empty) :
    (∀ x ∈ c.store.blackouts.items, ∀ y ∈ c.store.blackouts.items, x ≠ y →
      x.provider = y.provider → x.isActive = true → y.isActive = true →
      x.interval.overlaps y.interval = true → Raced told x y ∨ Raced told y x) ∧
    ∀ i call provider start stop found, c.calls[i]? = some call → found ≠ [] →
      (i, ⟨.activeBlackouts provider start stop, .ok found⟩) ∈ told →
      (∀ b answer, (i, ⟨.addBlackout b, answer⟩) ∉ told) ∧
        ∀ result, call.result? = some result → result = .error (.conflict .blackoutOverlap) := by
  constructor
  · intro x hx y hy hne hprovider hxactive hyactive hover
    exact h.raced_of_overlap hfirst hx hy hne hprovider hxactive hyactive hover
  · intro i call provider start stop found hcall hne hmem
    exact h.told_of_conflict hcall hne hmem

end Crowd

/-! ## The small practice -/

namespace Practice

/-- The doctor is away from one time of the Monday to another one. -/
def away (start stop : String) : BlackoutErrand :=
  .add (.text "doctor") (.text ("2026-03-02T" ++ start ++ ":00Z"))
    (.text ("2026-03-02T" ++ stop ++ ":00Z")) .null true

def awayFromTen : Blackout := ⟨"a", "doctor", ten, noon, none, true, by decide⟩

def awayUntilEleven : Blackout := ⟨"b", "doctor", nine, eleven, none, true, by decide⟩

/-- Two assistants enter absences of the doctor at the same time: the first one
has looked already when the second one comes. The third one comes too late. -/
def absencesAtOnce : List (Turn BlackoutErrand) :=
  .arrive (away "10:00" "12:00") :: turns 0 3 "a" ++ .arrive (away "09:00" "11:00") ::
    turns 1 10 "b" ++ turns 0 10 "" ++ .arrive (away "10:30" "11:30") :: turns 2 10 "c"

theorem absencesAtOnce_play : ∃ c,
    Crowd.play (BlackoutErrand.serve {}) ⟨{}, []⟩ absencesAtOnce = some c ∧
      c.store.blackouts.items = [awayUntilEleven, awayFromTen] ∧
      endings c = [some none, some none, some (some (.conflict .blackoutOverlap))] := by
  have hmap : (Crowd.play (BlackoutErrand.serve {}) ⟨{}, []⟩ absencesAtOnce).map
      (fun c => (c.store.blackouts.items, endings c)) =
    some ([awayUntilEleven, awayFromTen],
      [some none, some none, some (some (.conflict .blackoutOverlap))]) := by decide +kernel
  obtain ⟨c, hplay, hc⟩ := Option.map_eq_some_iff.1 hmap
  exact ⟨c, hplay, (Prod.mk.inj hc).1, (Prod.mk.inj hc).2⟩

/-- The two who have entered their absences have raced. -/
theorem absences_at_once_have_raced : ∃ (told : List (Nat × Exchange))
    (c : Crowd BlackoutErrand (Option Blackout)),
    Crowd.Chronicle (BlackoutErrand.serve {}) {} told c ∧
      endings c = [some none, some none, some (some (.conflict .blackoutOverlap))] ∧
      awayFromTen.interval.overlaps awayUntilEleven.interval = true ∧
      (Crowd.Raced told awayFromTen awayUntilEleven ∨
        Crowd.Raced told awayUntilEleven awayFromTen) := by
  obtain ⟨c, hplay, hitems, hends⟩ := absencesAtOnce_play
  have htold := Crowd.Chronicle.play .start hplay
  have hover : awayFromTen.interval.overlaps awayUntilEleven.interval = true := by decide
  refine ⟨_, c, htold, hends, hover, ?_⟩
  refine (htold.overlap_only_after_races rfl).1 awayFromTen ?_ awayUntilEleven ?_ (by decide) rfl rfl
    rfl hover
  · rw [hitems]
    exact List.mem_cons_of_mem _ (List.mem_singleton_self _)
  · rw [hitems]
    exact List.mem_cons_self

/-- Active blackouts of one provider may overlap, though nobody was told of a
conflict who has entered one of them. -/
theorem racing_absences_overlap :
    ¬ ∀ c : Crowd BlackoutErrand (Option Blackout),
      Crowd.Reachable (BlackoutErrand.serve {}) (fun s => s.blackouts = .empty) c →
      ∀ x ∈ c.store.blackouts.items, ∀ y ∈ c.store.blackouts.items, x ≠ y →
        x.provider = y.provider → x.isActive = true → y.isActive = true →
        x.interval.overlaps y.interval = false := by
  intro h
  obtain ⟨c, hplay, hitems, -⟩ := absencesAtOnce_play
  have hdisjoint := h c (.play (.start rfl) hplay) awayFromTen (by simp [hitems]) awayUntilEleven
    (by simp [hitems]) (by decide) rfl rfl rfl
  have hover : awayFromTen.interval.overlaps awayUntilEleven.interval = true := by decide
  rw [hover] at hdisjoint
  cases hdisjoint

end Practice
end Appointments
