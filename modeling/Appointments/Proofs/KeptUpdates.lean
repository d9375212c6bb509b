-- Templates that are read, created and updated by many callers at once. As long
-- as nobody saves a template while another caller works on it, no update is
-- lost: each field holds what the last update asked for that named it.
import Mathlib.Data.List.Permutation
import Appointments.Proofs.TemplateCourses
namespace Appointments

/-! ## Updates one after another -/

namespace Template

variable {zones : Registry} {updates updates' : List (String × Value)} {old new t : Template}

theorem asked_append (updates updates' : List (String × Value)) (f : FieldName) :
    asked (updates ++ updates') f = (asked updates' f).or (asked updates f) := by
  unfold asked
  rw [List.filter_append, List.getLast?_append]
  cases (updates'.filter fun update => f.names update.1 && update.2 ≠ .null).getLast? <;> rfl

theorem Renewed.append {α : Type} {f : FieldName} {read : Value → Reading α} {old mid new : α}
    (h : Renewed updates f read old mid) (h' : Renewed updates' f read mid new) :
    Renewed (updates ++ updates') f read old new := by
  unfold Renewed at h h' ⊢
  rw [asked_append]
  cases hasked : asked updates' f with
  | some v =>
    rw [hasked] at h'
    exact h'
  | none =>
    rw [hasked] at h'
    obtain rfl := h'
    exact h

theorem Updated.append {mid : Template} (h : Updated zones updates old mid)
    (h' : Updated zones updates' mid new) : Updated zones (updates ++ updates') old new where
  provider := h'.provider.trans h.provider
  timeZone := h.timeZone.append h'.timeZone
  slotMinutes := h.slotMinutes.append h'.slotMinutes
  bufferMinutes := h.bufferMinutes.append h'.bufferMinutes
  isActive := h.isActive.append h'.isActive
  weekly := h.weekly.append h'.weekly

end Template

/-! ## What was saved, and by whom -/

namespace Exchange

/-- The template of the provider that was saved. -/
def saved? (provider : String) (x : Exchange) : Option Template :=
  match x.call with
  | .saveTemplate t => if t.provider = provider then some t else none
  | _ => none

/-- A template was looked for, and there was none. -/
def foundNone : Exchange → Bool
  | ⟨.template _, .ok none⟩ => true
  | _ => false

/-- A template of the provider was saved, and not because its caller had found
none. -/
def changes (provider : String) (x : Exchange) (past : List Exchange) : Bool :=
  (x.saved? provider).isSome && !past.head?.any foundNone

theorem saved?_eq_some {provider : String} {x : Exchange} {t : Template}
    (h : x.saved? provider = some t) : x.call = .saveTemplate t ∧ t.provider = provider := by
  unfold saved? at h
  split at h
  · rename_i u hcall
    split at h
    · rename_i hprovider
      cases h
      exact ⟨hcall, hprovider⟩
    · cases h
  · cases h

end Exchange

namespace Crowd

/-- The calls that have saved changes of the provider's template, in the order
of these steps. -/
def updaters (provider : String) : List (Nat × Exchange) → List Nat
  | [] => []
  | (i, x) :: before =>
    if x.changes provider (own i before) then updaters provider before ++ [i]
    else updaters provider before

/-- The updates that these calls were asked to make, one after another. -/
def updatesOf {α : Type} (c : Crowd TemplateErrand α) (ids : List Nat) : List (String × Value) :=
  ids.flatMap fun i => (c.calls[i]?.map fun call => call.errand.updates).getD []

theorem updatesOf_eq {α : Type} (c : Crowd TemplateErrand α) (ids : List Nat) :
    c.updatesOf ids =
      ids.flatMap fun i => ((c.calls.map Call.errand)[i]?.map TemplateErrand.updates).getD [] := by
  simp [updatesOf, Function.comp_def]

/-- The template of the provider that was saved last, or that was there at
first. -/
def shelved (first : Store) (provider : String) : List (Nat × Exchange) → Option Template
  | [] => first.templates.get? provider
  | (_, x) :: before => (x.saved? provider).or (shelved first provider before)

/-- Nobody else has saved a template of the provider since the last exchange of
the call. -/
def upToDate (provider : String) (i : Nat) : List (Nat × Exchange) → Bool
  | [] => true
  | (j, x) :: before =>
    j == i || (x.saved? provider).isNone && upToDate provider i before

/-- Whoever has saved a template of the provider was up to date. -/
def orderly (provider : String) : List (Nat × Exchange) → Bool
  | [] => true
  | (i, x) :: before =>
    ((x.saved? provider).isNone || upToDate provider i before) && orderly provider before

/-! ## The store holds what was saved last -/

section
variable {ι α : Type} {serve : ι → Action α} {first : Store} {c : Crowd ι α}
  {told before : List (Nat × Exchange)} {p : String}

theorem templates_eq_of_yields {e : Effect} {s t : Store} {r : e.Reply} (h : e.Yields s r t)
    (hnot : ∀ x, e.exchanges r ≠ [⟨.saveTemplate x, .ok ()⟩]) : t.templates = s.templates := by
  cases h.writesHours with
  | none hsame _ => exact hsame
  | saved htold _ => exact absurd htold (hnot _)
  | added _ hstore => rw [hstore]
  | removed hstore => rw [hstore]

theorem shelved_cons (first : Store) (i : Nat) (x : Exchange) (before : List (Nat × Exchange)) :
    shelved first p ((i, x) :: before) = (x.saved? p).or (shelved first p before) := rfl

theorem shelved_of_yields {e : Effect} {s t : Store} {r : e.Reply} (i : Nat) (h : e.Yields s r t)
    (hs : s.templates.get? p = shelved first p told) :
    t.templates.get? p = shelved first p ((e.exchanges r).map (i, ·) ++ told) := by
  cases e with
  | call c =>
    cases c with
    | saveTemplate x =>
      obtain ⟨rfl, rfl⟩ := h
      have hput : (s.saveTemplate x).templates.get? p =
          if x.provider = p then some x else s.templates.get? p := Shelf.get?_put ..
      rw [hput, hs]
      simp only [Effect.exchanges, List.map_cons, List.map_nil, List.cons_append, List.nil_append,
        shelved, Exchange.saved?]
      split <;> rfl
    | _ =>
      have hsame := templates_eq_of_yields h fun x heq => by
        cases congrArg Exchange.call (List.cons.inj heq).1
      rw [hsame]
      exact hs
  | _ =>
    have hsame := templates_eq_of_yields h fun x heq => by cases heq
    rw [hsame]
    exact hs

theorem Chronicle.template_eq (h : Chronicle serve first told c) :
    c.store.templates.get? p = shelved first p told := by
  induction h with
  | start => rfl
  | arrive errand _ ih => exact ih
  | @advance told c i call e next r store _ _ _ _ hyields ih => exact shelved_of_yields i hyields ih

/-- Whoever looks for a template is shown what was saved last. -/
theorem Chronicle.shows_shelved (h : Chronicle serve first told c) {i : Nat}
    {answer : Except Failure (Option Template)}
    (hread : (i, ⟨.template p, answer⟩) :: before <:+ told) :
    answer = .ok (shelved first p before) := by
  induction h with
  | start => exact absurd (List.suffix_nil.1 hread) (List.cons_ne_nil _ _)
  | arrive errand _ ih => exact ih hread
  | @advance told c j call e next r store h _ _ _ hyields ih =>
    cases e with
    | call d =>
      rcases List.suffix_cons_iff.1 hread with heq | hread
      · obtain ⟨hx, rfl⟩ := List.cons.inj heq
        cases hx
        obtain ⟨hanswer, -⟩ := hyields
        rw [hanswer, ← h.template_eq]
      · exact ih hread
    | _ => exact ih hread

/-- A caller who is up to date knows what was saved last. -/
theorem shelved_of_upToDate {i : Nat} {y : Exchange} {older : List Exchange}
    (hreads : ∀ answer older, (i, (⟨.template p, answer⟩ : Exchange)) :: older <:+ before →
      answer = .ok (shelved first p older))
    (hdate : upToDate p i before = true) (hown : own i before = y :: older) :
    (∀ found, y = ⟨.template p, .ok found⟩ → shelved first p before = found) ∧
      ∀ t, y.saved? p = some t → shelved first p before = some t := by
  induction before with
  | nil => cases hown
  | cons head rest ih =>
    obtain ⟨j, z⟩ := head
    by_cases hji : j = i
    · subst hji
      rw [own_cons_self] at hown
      obtain ⟨rfl, -⟩ := List.cons.inj hown
      constructor
      · rintro found rfl
        exact (Except.ok.inj (hreads _ rest List.suffix_rfl)).symm
      · intro t ht
        rw [shelved_cons, ht, Option.some_or]
    · rw [own_cons_of_ne hji] at hown
      unfold upToDate at hdate
      rw [beq_eq_false_iff_ne.2 hji, Bool.false_or, Bool.and_eq_true] at hdate
      have hnone : z.saved? p = none := Option.isNone_iff_eq_none.1 hdate.1
      have hsame : shelved first p ((j, z) :: rest) = shelved first p rest := by
        rw [shelved_cons, hnone, Option.none_or]
      rw [hsame]
      refine ih (fun answer older hsuffix => ?_) hdate.2 hown
      exact hreads answer older (hsuffix.trans (List.suffix_cons _ _))

end

/-! ## Callers on their course -/

section
variable {desk : Desk} {p provider : String} {updates : List (String × Value)} {t : Template}
  {past older : List Exchange} {x : Exchange}

theorem not_changes_of_foundNone {q : String} :
    x.changes p (⟨.template q, .ok none⟩ :: older) = false := by
  simp [Exchange.changes, Exchange.foundNone]

/-- Nobody has changed anything before the template is known. -/
theorem not_changes_of_shown (h : desk.Shown provider t past) (hx : x :: older <:+ past) :
    x.changes p older = false := by
  have hread : ∀ {q : String} {answer : Except Failure (Option Template)},
      x :: older <:+ [⟨.template q, answer⟩] → x.changes p older = false := by
    intro q answer hx
    rcases List.suffix_cons_iff.1 hx with heq | hx
    · obtain ⟨rfl, -⟩ := List.cons.inj heq
      rfl
    · cases List.suffix_nil.1 hx
  cases h with
  | found => exact hread hx
  | created =>
    rcases List.suffix_cons_iff.1 hx with heq | hx
    · obtain ⟨-, rfl⟩ := List.cons.inj heq
      exact not_changes_of_foundNone
    · exact hread hx

/-- A change is the last exchange of its caller, who was asked for updates. -/
theorem changed_of_course (h : desk.TemplateCourse provider updates past)
    (hx : x :: older <:+ past) (hchanges : x.changes p older = true) :
    past = x :: older ∧ Template.asksAny updates = true ∧ provider = p := by
  cases h with
  | idle => cases List.suffix_nil.1 hx
  | missing =>
    rcases List.suffix_cons_iff.1 hx with heq | hx
    · obtain ⟨rfl, -⟩ := List.cons.inj heq
      cases hchanges
    · cases List.suffix_nil.1 hx
  | shown hshown =>
    rw [not_changes_of_shown hshown hx] at hchanges
    cases hchanges
  | changed hshown hasks hdecided =>
    rcases List.suffix_cons_iff.1 hx with heq | hx
    · obtain ⟨rfl, rfl⟩ := List.cons.inj heq
      obtain ⟨u, hu⟩ := Option.isSome_iff_exists.1 (Bool.and_eq_true_iff.1 hchanges).1
      obtain ⟨hcall, hprovider⟩ := Exchange.saved?_eq_some hu
      cases hcall
      refine ⟨rfl, hasks, ?_⟩
      rw [← hprovider, (Desk.updated_of_update hshown.sound hdecided).provider, hshown.provider_eq]
    · rw [not_changes_of_shown hshown hx] at hchanges
      cases hchanges

/-- A caller who knows the template and saves another one changes it. -/
theorem changes_of_shown (h : desk.Shown provider t past) (hx : (x.saved? p).isSome = true) :
    x.changes p past = true := by
  unfold Exchange.changes
  rw [hx, Bool.true_and]
  cases h <;> rfl

/-- What a caller saves is a first template where there was none, or a change
of the one that the caller knows. -/
theorem saved_of_course (h : desk.TemplateCourse provider updates (x :: older))
    (hsaved : x.saved? p = some t) :
    (older = [⟨.template p, .ok none⟩] ∧ t = Template.initial desk.defaults p) ∨
      x.changes p older = true ∧ ∃ current, desk.Shown p current older ∧
        Template.Updated desk.zones updates current t := by
  obtain ⟨hcalled, rfl⟩ := Exchange.saved?_eq_some hsaved
  cases h with
  | missing => cases hcalled
  | shown hshown =>
    cases hshown with
    | found => cases hcalled
    | created =>
      cases hcalled
      exact .inl ⟨rfl, rfl⟩
  | @changed current _ _ hshown _ hdecided =>
    cases hcalled
    have hupdated := Desk.updated_of_update hshown.sound hdecided
    refine .inr ⟨changes_of_shown hshown (Option.isSome_of_eq_some hsaved), current, ?_, hupdated⟩
    · rw [hupdated.provider, hshown.provider_eq]
      exact hshown

end

/-! ## Who has changed the template -/

section
variable {desk : Desk} {first : Store} {c : Crowd TemplateErrand Template}
  {told before : List (Nat × Exchange)} {p : String} {i : Nat}

theorem mem_updaters : i ∈ updaters p told ↔
    ∃ x older, x :: older <:+ own i told ∧ x.changes p older = true := by
  induction told with
  | nil =>
    refine iff_of_false List.not_mem_nil ?_
    rintro ⟨x, older, hx, -⟩
    cases List.suffix_nil.1 hx
  | cons head rest ih =>
    obtain ⟨j, y⟩ := head
    unfold updaters
    by_cases hji : j = i
    · subst hji
      rw [own_cons_self]
      constructor
      · intro hmem
        split at hmem
        · rename_i hchanges
          exact ⟨y, own j rest, List.suffix_rfl, hchanges⟩
        · obtain ⟨x, older, hx, hchanges⟩ := ih.1 hmem
          exact ⟨x, older, hx.trans (List.suffix_cons _ _), hchanges⟩
      · rintro ⟨x, older, hx, hchanges⟩
        rcases List.suffix_cons_iff.1 hx with heq | hx
        · obtain ⟨rfl, rfl⟩ := List.cons.inj heq
          rw [if_pos hchanges]
          exact List.mem_append_right _ (List.mem_singleton_self _)
        · have hmem := ih.2 ⟨x, older, hx, hchanges⟩
          split
          · exact List.mem_append_left _ hmem
          · exact hmem
    · rw [own_cons_of_ne hji, ← ih]
      split
      · simp [Ne.symm hji]
      · rfl

/-- Nobody changes a template twice. -/
theorem nodup_updaters (hbefore : before <:+ told)
    (hcourse : ∀ i, ∃ provider updates, desk.TemplateCourse provider updates (own i told)) :
    (updaters p before).Nodup := by
  induction before with
  | nil => exact List.nodup_nil
  | cons head rest ih =>
    obtain ⟨i, x⟩ := head
    have hrest := (List.suffix_cons (i, x) rest).trans hbefore
    unfold updaters
    split
    · rename_i hchanges
      rw [List.nodup_append]
      refine ⟨ih hrest, List.nodup_singleton i, ?_⟩
      intro j hmem k hk hjk
      obtain rfl := hjk.trans (List.mem_singleton.1 hk)
      obtain ⟨y, older, hy, hearlier⟩ := mem_updaters.1 hmem
      obtain ⟨provider, updates, hcourse⟩ := hcourse j
      have hx : x :: own j rest <:+ own j told := by
        rw [← own_cons_self]
        exact hbefore.filterMap _
      -- Both changes would be the last exchange of the caller.
      have hlast := (changed_of_course hcourse hx hchanges).1
      have hlast' := (changed_of_course hcourse (hy.trans (hrest.filterMap _)) hearlier).1
      have hlength := hy.length_le
      rw [← hlast', hlast, List.length_cons] at hlength
      omega
    · exact ih hrest

variable (hdefaults : desk.defaults.Valid desk.zones)
  (hfirst : ∀ t ∈ first.templates.items, t.Sound desk.zones)
include hdefaults hfirst

theorem Chronicle.onCourse (h : Chronicle (TemplateErrand.serve desk) first told c) {i : Nat}
    {call : Call TemplateErrand Template} (hcall : c.calls[i]? = some call) :
    Minding (fun s => ∀ t ∈ s.templates.items, t.Sound desk.zones)
      (desk.TemplateCourse call.errand.provider call.errand.updates)
      (desk.TemplateOutcome call.errand.provider call.errand.updates) (own i told) call := by
  have hgood : desk.SavesSound fun s => ∀ t ∈ s.templates.items, t.Sound desk.zones :=
    ⟨fun s t hs ht => hs t ht, fun s t hs ht x hx => Desk.sound_of_mem_saved hs ht hx⟩
  exact (h.minding hfirst (fun errand => Desk.minds_templateErrand hdefaults hgood errand)
    fun _ => .idle).2 i call hcall

theorem Chronicle.exists_course (h : Chronicle (TemplateErrand.serve desk) first told c) (i : Nat) :
    ∃ provider updates, desk.TemplateCourse provider updates (own i told) := by
  cases hcall : c.calls[i]? with
  | some call =>
    exact ⟨_, _, (h.onCourse hdefaults hfirst hcall).past _ List.suffix_rfl⟩
  | none =>
    rw [h.own_eq_nil (List.getElem?_eq_none_iff.1 hcall)]
    exact ⟨"", [], .idle⟩

/-- One more saving by a caller who is up to date. -/
theorem Chronicle.updated_of_saved (h : Chronicle (TemplateErrand.serve desk) first told c)
    {x : Exchange} {t : Template} (hx : (i, x) :: before <:+ told) (hsaved : x.saved? p = some t)
    (hdate : upToDate p i before = true)
    (hbefore : Template.Updated desk.zones (c.updatesOf (updaters p before))
      (desk.templateOf first p) ((shelved first p before).getD (Template.initial desk.defaults p))) :
    Template.Updated desk.zones (c.updatesOf (updaters p ((i, x) :: before)))
      (desk.templateOf first p) t := by
  obtain ⟨call, hcall⟩ := h.exists_call (hx.subset List.mem_cons_self)
  have hreads : ∀ answer older, (i, (⟨.template p, answer⟩ : Exchange)) :: older <:+ before →
      answer = .ok (shelved first p older) := fun answer older holder =>
    h.shows_shelved (holder.trans ((List.suffix_cons _ _).trans hx))
  rcases saved_of_course ((h.onCourse hdefaults hfirst hcall).rule_of_told hx) hsaved with
    ⟨hown, rfl⟩ | ⟨hchanges, current, hshown, hupdated⟩
  · rw [(shelved_of_upToDate hreads hdate hown).1 none rfl] at hbefore
    have hsame : updaters p ((i, x) :: before) = updaters p before := by
      rw [updaters, hown, not_changes_of_foundNone, if_neg Bool.false_ne_true]
    rw [hsame]
    exact hbefore
  · have hknown : shelved first p before = some current := by
      cases hown : own i before with
      | nil =>
        rw [hown] at hshown
        cases hshown
      | cons y older =>
        have hknows := shelved_of_upToDate hreads hdate hown
        rw [hown] at hshown
        cases hshown with
        | found => exact hknows.1 _ rfl
        | created => exact hknows.2 _ (by simp [Exchange.saved?, Template.initial])
    rw [hknown] at hbefore
    have hone : c.updatesOf (updaters p ((i, x) :: before)) =
        c.updatesOf (updaters p before) ++ call.errand.updates := by
      rw [updaters, if_pos hchanges, updatesOf, List.flatMap_append, List.flatMap_singleton, hcall]
      rfl
    rw [hone]
    exact hbefore.append hupdated

/-- As long as whoever saves a template is up to date, the template that was
saved last has all the updates. -/
theorem Chronicle.updated_of_orderly (h : Chronicle (TemplateErrand.serve desk) first told c)
    (hbefore : before <:+ told) (horderly : orderly p before = true) :
    Template.Updated desk.zones (c.updatesOf (updaters p before)) (desk.templateOf first p)
      ((shelved first p before).getD (Template.initial desk.defaults p)) := by
  induction before with
  | nil => exact Template.updated_of_no_changes rfl
  | cons head rest ih =>
    obtain ⟨i, x⟩ := head
    obtain ⟨hdate, hrest⟩ := Bool.and_eq_true_iff.1 horderly
    have hearlier := ih ((List.suffix_cons _ _).trans hbefore) hrest
    rw [shelved_cons]
    cases hsaved : x.saved? p with
    | none =>
      have hsame : updaters p ((i, x) :: rest) = updaters p rest := by
        simp [updaters, Exchange.changes, hsaved]
      rw [hsame, Option.none_or]
      exact hearlier
    | some t =>
      rw [hsaved] at hdate
      exact h.updated_of_saved hdefaults hfirst hbefore hsaved hdate hearlier

/-- Whoever was told of success has made the updates, if there were any. -/
theorem Chronicle.mem_updaters_iff (h : Chronicle (TemplateErrand.serve desk) first told c)
    {call : Call TemplateErrand Template} (hcall : c.calls[i]? = some call)
    {result : Except Failure Template} (hresult : call.result? = some result) :
    i ∈ updaters p told ↔ call.errand.provider = p ∧ result.isOk = true ∧
      Template.asksAny call.errand.updates = true := by
  have hended := (h.onCourse hdefaults hfirst hcall).ended hresult
  have hcourse := (h.onCourse hdefaults hfirst hcall).past _ List.suffix_rfl
  rw [mem_updaters]
  generalize own i told = past at hended hcourse
  constructor
  · rintro ⟨x, older, hx, hchanges⟩
    obtain ⟨hlast, hasks, hprovider⟩ := changed_of_course hcourse hx hchanges
    rw [hlast] at hended hx
    refine ⟨hprovider, ?_, hasks⟩
    cases hended with
    | failed hshown | told hshown =>
      rw [not_changes_of_shown hshown hx] at hchanges
      cases hchanges
    | changed => rfl
  · rintro ⟨rfl, hok, hasks⟩
    cases hended with
    | told _ hnone =>
      rw [hasks] at hnone
      cases hnone
    | refused | failed => cases hok
    | changed hshown _ hprovider =>
      refine ⟨_, _, List.suffix_rfl, changes_of_shown hshown ?_⟩
      simp [Exchange.saved?, hprovider]

/-- As long as whoever saves the template of a provider is up to date, no
update is lost: each field of the template holds what the last update asked
for that named it, in the order in which they were saved, and what it held at
first where none did. Each call that was told of success has made its updates,
once, and no other call that has ended. -/
theorem Chronicle.updates_are_kept (h : Chronicle (TemplateErrand.serve desk) first told c)
    (horderly : orderly p told = true) :
    Template.Updated desk.zones (c.updatesOf (updaters p told)) (desk.templateOf first p)
        (desk.templateOf c.store p) ∧
      (updaters p told).Nodup ∧
      ∀ i call result, c.calls[i]? = some call → call.result? = some result →
        (i ∈ updaters p told ↔ call.errand.provider = p ∧ result.isOk = true ∧
          Template.asksAny call.errand.updates = true) := by
  refine ⟨?_, ?_, fun i call result hcall => h.mem_updaters_iff hdefaults hfirst hcall⟩
  · unfold Desk.templateOf
    rw [h.template_eq]
    exact h.updated_of_orderly hdefaults hfirst List.suffix_rfl horderly
  · exact nodup_updaters List.suffix_rfl (h.exists_course hdefaults hfirst)

end

end Crowd

/-! ## The small practice -/

namespace Practice

def askForHours : TemplateErrand := .ask (.text "doctor")

def askForPauses : TemplateErrand := .update (.text "doctor") [("buffer_min", .int 15)]

def askForLongSlots : TemplateErrand :=
  .update (.text "doctor") [("slotDurationMin", .text "45"), ("weekly", .null)]

/-- The doctor's pauses and slots are changed, while others ask for the hours.
Each change is made to the hours as the last one has left them. -/
def changesInTurn : List (Turn TemplateErrand) :=
  .arrive askForHours :: turns 0 2 "" ++ .arrive askForPauses :: turns 0 10 "" ++ turns 1 3 "" ++
    .arrive askForHours :: turns 2 2 "" ++ turns 1 10 "" ++ .arrive askForLongSlots ::
    turns 3 3 "" ++ turns 2 10 "" ++ turns 3 10 ""

/-- The hours are asked for, and are not there. Before the first ones are saved,
they are made and changed by somebody else. -/
def changeBetween : List (Turn TemplateErrand) :=
  .arrive askForHours :: turns 0 2 "" ++ .arrive askForPauses :: turns 1 10 "" ++ turns 0 10 ""

/-- The pauses and the slots are both changed, one after the other. -/
theorem changes_in_turn_are_kept : ∃ told c,
    Crowd.Chronicle (TemplateErrand.serve {}) {} told c ∧
      Crowd.orderly "doctor" told = true ∧ Crowd.updaters "doctor" told = [1, 3] ∧
      c.store.templates.items =
        [{ Template.initial {} "doctor" with bufferMinutes := 15, slotMinutes := 45 }] ∧
      Template.Updated ({} : Desk).zones (c.updatesOf [1, 3])
        (({} : Desk).templateOf {} "doctor") (({} : Desk).templateOf c.store "doctor") := by
  let told := Crowd.telling (TemplateErrand.serve {}) ⟨{}, []⟩ changesInTurn
  have horderly : Crowd.orderly "doctor" told = true := by decide +kernel
  have hupdaters : Crowd.updaters "doctor" told = [1, 3] := by decide +kernel
  have hmap : (Crowd.play (TemplateErrand.serve {}) ⟨{}, []⟩ changesInTurn).map
      (fun c => c.store.templates.items) =
    some [{ Template.initial {} "doctor" with bufferMinutes := 15, slotMinutes := 45 }] := by
    decide +kernel
  obtain ⟨c, hplay, hitems⟩ := Option.map_eq_some_iff.1 hmap
  have htold : Crowd.Chronicle (TemplateErrand.serve {}) {} told c := by
    rw [← List.append_nil told]
    exact Crowd.Chronicle.play .start hplay
  have hkept := (htold.updates_are_kept ⟨by decide, by decide +kernel, by decide +kernel⟩
    (List.forall_mem_nil _) horderly).1
  rw [hupdaters] at hkept
  exact ⟨told, c, htold, horderly, hupdaters, hitems, hkept⟩

theorem changeBetween_play : ∃ c,
    Crowd.play (TemplateErrand.serve {}) ⟨{}, []⟩ changeBetween = some c ∧
      c.store.templates.items = [Template.initial {} "doctor"] ∧
      c.calls.map Call.errand = [askForHours, askForPauses] ∧ endings c = [some none, some none] := by
  have hmap : (Crowd.play (TemplateErrand.serve {}) ⟨{}, []⟩ changeBetween).map
      (fun c => (c.store.templates.items, c.calls.map Call.errand, endings c)) =
    some ([Template.initial {} "doctor"], [askForHours, askForPauses], [some none, some none]) := by
    rfl
  obtain ⟨c, hplay, hc⟩ := Option.map_eq_some_iff.1 hmap
  obtain ⟨hitems, hcalls⟩ := Prod.mk.inj hc
  exact ⟨c, hplay, hitems, (Prod.mk.inj hcalls).1, (Prod.mk.inj hcalls).2⟩

/-- Everybody is told of success, but in no order of the calls would their
updates give the template that is left. -/
theorem first_hours_hide_a_change :
    ¬ ∀ c : Crowd TemplateErrand Template,
      Crowd.Reachable (TemplateErrand.serve {}) (fun s => s.templates = .empty) c →
      (∀ call ∈ c.calls, call.errand.provider = "doctor" ∧
        ∃ t, call.result? = some (.ok t)) →
      ∃ order : List Nat, order.Perm (List.range c.calls.length) ∧
        Template.Updated ({} : Desk).zones (c.updatesOf order)
          (({} : Desk).templateOf {} "doctor") (({} : Desk).templateOf c.store "doctor") := by
  intro h
  obtain ⟨c, hplay, hitems, herrands, hendings⟩ := changeBetween_play
  have hsuccess : ∀ call ∈ c.calls, call.errand.provider = "doctor" ∧
      ∃ t, call.result? = some (.ok t) := by
    intro call hcall
    constructor
    · have hmem := List.mem_map_of_mem (f := Call.errand) hcall
      rw [herrands, List.mem_pair] at hmem
      rcases hmem with herrand | herrand <;> rw [herrand] <;> decide +kernel
    · apply exists_ok_of_endings _ hcall
      simp [hendings]
  obtain ⟨order, horder, hupdated⟩ := h c (.play (.start rfl) hplay) hsuccess
  have hpauses : c.updatesOf order = [("buffer_min", .int 15)] := by
    have horders : order ∈ (List.range 2).permutations' := by
      rw [List.mem_permutations']
      rw [← List.length_map Call.errand, herrands] at horder
      exact horder
    have htwo : (List.range 2).permutations' = [[0, 1], [1, 0]] := by decide +kernel
    rw [htwo, List.mem_pair] at horders
    rw [Crowd.updatesOf_eq, herrands]
    rcases horders with rfl | rfl <;> rfl
  have hleft : ({} : Desk).templateOf c.store "doctor" = Template.initial {} "doctor" := by
    unfold Desk.templateOf Shelf.get?
    rw [hitems]
    rfl
  have hbuffer := hupdated.bufferMinutes
  rw [hpauses, hleft] at hbuffer
  have hread : Value.readIntWithin (some 0) (some 120) (.int 15) = .ok 0 := hbuffer
  rw [Value.readIntWithin_int (by decide) (by decide)] at hread
  cases hread

end Practice
end Appointments
