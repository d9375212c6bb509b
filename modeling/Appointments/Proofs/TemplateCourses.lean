-- Calls about the templates of providers, each on its own course: it reads the
-- template, creates it where there is none, and saves it again with the updates
-- that it was asked to make. Others may act between these steps.
import Appointments.Proofs.Chronicles
import Appointments.Proofs.PartialUpdates
namespace Appointments

/-! ## Errands about templates -/

/-- What callers want of the template of a provider. -/
inductive TemplateErrand
  | ask (provider : Value)
  | update (provider : Value) (updates : List (String × Value))

namespace TemplateErrand

def provider : TemplateErrand → String
  | ask provider | update provider _ => Request.id provider

def updates : TemplateErrand → List (String × Value)
  | ask _ => []
  | update _ updates => updates

def serve (desk : Desk) : TemplateErrand → Action Template
  | ask provider => desk.template provider
  | update provider updates => desk.updateTemplate provider updates

end TemplateErrand

/-! ## Updates that give a value -/

namespace Template

/-- One of the updates gives a value. -/
def asksAny (updates : List (String × Value)) : Bool := updates.any fun update => update.2 ≠ .null

theorem putChange_ne_nil (changes : List (String × Value)) (name : String) (v : Value) :
    putChange changes name v ≠ [] := by simp [putChange]

theorem changesOf_eq_nil {updates changes out : List (String × Value)}
    (h : changesOf changes updates = .ok out) :
    out = [] ↔ changes = [] ∧ asksAny updates = false := by
  induction updates generalizing changes with
  | nil =>
    cases h
    simp [asksAny]
  | cons update rest ih =>
    obtain ⟨key, v⟩ := update
    unfold changesOf at h
    split at h
    · cases h
    · rename_i f _
      rw [ih h]
      by_cases hv : v = .null
      · simp [asksAny, hv]
      · simp [asksAny, hv, putChange_ne_nil]

end Template

namespace Desk

/-! ## The course of a call -/

/-- What a caller who has had these exchanges, latest first, takes for the
template of the provider: the one that was found, or created because there was
none. -/
inductive Shown (desk : Desk) (provider : String) : Template → List Exchange → Prop
  | found {t : Template} : t.Sound desk.zones → t.provider = provider →
      Shown desk provider t [⟨.template provider, .ok (some t)⟩]
  | created : (Template.initial desk.defaults provider).Sound desk.zones →
      Shown desk provider (Template.initial desk.defaults provider)
        [⟨.saveTemplate (Template.initial desk.defaults provider), .ok ()⟩,
          ⟨.template provider, .ok none⟩]

/-- The exchanges of a caller who asks for these updates, latest first. -/
inductive TemplateCourse (desk : Desk) (provider : String) (updates : List (String × Value)) :
    List Exchange → Prop
  | idle : TemplateCourse desk provider updates []
  | missing : TemplateCourse desk provider updates [⟨.template provider, .ok none⟩]
  | shown {t : Template} {past : List Exchange} : desk.Shown provider t past →
      TemplateCourse desk provider updates past
  | changed {current t : Template} {past : List Exchange} : desk.Shown provider current past →
      Template.asksAny updates = true → desk.updateDecision updates current = .ok (t, [.template t]) →
      TemplateCourse desk provider updates (⟨.saveTemplate t, .ok ()⟩ :: past)

/-- How a call has ended that asked for these updates: it has made them, or
there were none to make, or it has failed without making any. -/
inductive TemplateOutcome (desk : Desk) (provider : String) (updates : List (String × Value)) :
    List Exchange → Except Failure Template → Prop
  | refused {why : Failure} : TemplateOutcome desk provider updates [] (.error why)
  | failed {t : Template} {past : List Exchange} {why : Failure} : desk.Shown provider t past →
      TemplateOutcome desk provider updates past (.error why)
  | told {t : Template} {past : List Exchange} : desk.Shown provider t past →
      Template.asksAny updates = false → TemplateOutcome desk provider updates past (.ok t)
  | changed {current t : Template} {past : List Exchange} : desk.Shown provider current past →
      Template.asksAny updates = true → t.provider = provider →
      TemplateOutcome desk provider updates (⟨.saveTemplate t, .ok ()⟩ :: past) (.ok t)

section
variable {desk : Desk} {provider : String} {updates : List (String × Value)} {t : Template}
  {past : List Exchange}

theorem Shown.sound (h : desk.Shown provider t past) : t.Sound desk.zones := by
  cases h <;> assumption

theorem Shown.provider_eq (h : desk.Shown provider t past) : t.provider = provider := by
  cases h with
  | found _ hprovider => exact hprovider
  | created _ => rfl

end

/-! ## The conduct of the calls -/

open Appointments.Action

/-- What may be said of stores that hold sound templates, and that saving one
more of them does not change. -/
structure SavesSound (desk : Desk) (good : Store → Prop) : Prop where
  sound : ∀ s t, good s → t ∈ s.templates.items → t.Sound desk.zones
  saved : ∀ s t, good s → t.Sound desk.zones → good (s.saveTemplate t)

theorem sound_of_mem_saved {zones : Registry} {s : Store} {t x : Template}
    (hs : ∀ x ∈ s.templates.items, x.Sound zones) (ht : t.Sound zones)
    (hx : x ∈ (s.saveTemplate t).templates.items) : x.Sound zones := by
  rcases Shelf.mem_putInto hx with rfl | hx
  · exact ht
  · exact hs x hx

section
variable {desk : Desk} {good : Store → Prop}

theorem minds_template (hdefaults : desk.defaults.Valid desk.zones) (hgood : desk.SavesSound good)
    (provider : Value) (updates : List (String × Value)) :
    (desk.template provider).Minds good (desk.TemplateCourse (Request.id provider) updates)
      (fun past r =>
        match r with
        | .ok t => desk.Shown (Request.id provider) t past
        | .error _ => past = []) [] := by
  unfold template
  apply minds_within .idle
  refine minds_lift (fun id hid => ?_) fun _ _ => rfl
  obtain ⟨rfl, hne⟩ := Request.requiredId_eq_ok hid
  apply minds_call
  · intro s t found hs ht
    cases ht
    cases hfound : s.templates.get? (Request.id provider) with
    | some t =>
      have hshown : desk.Shown (Request.id provider) t
          [⟨.template (Request.id provider), .ok (some t)⟩] :=
        .found (hgood.sound s t hs (Shelf.mem_of_get? hfound)) (Shelf.key_of_get? hfound)
      exact ⟨hs, .shown hshown, minds_pure hshown⟩
    | none =>
      refine ⟨hs, .missing, minds_log .missing ?_⟩
      have hsound := Template.sound_initial hdefaults hne
      apply minds_call
      · intro s t _ hs ht
        cases ht
        exact ⟨hgood.saved s _ hs hsound, .shown (.created hsound), minds_pure (.created hsound)⟩
      · intro s why _ ht
        cases ht
  · intro s why _ ht
    cases ht

theorem minds_updateTemplate (hdefaults : desk.defaults.Valid desk.zones)
    (hgood : desk.SavesSound good) (provider : Value) (updates : List (String × Value)) :
    (desk.updateTemplate provider updates).Minds good
      (desk.TemplateCourse (Request.id provider) updates)
      (desk.TemplateOutcome (Request.id provider) updates) [] := by
  unfold updateTemplate
  apply minds_within .idle
  rw [minds_bind]
  apply Program.Minds.mono (minds_template hdefaults hgood provider updates) .idle (fun _ => id)
  intro past r _ hr
  cases r with
  | error why =>
    obtain rfl := hr
    exact .refused
  | ok current =>
    obtain hr : desk.Shown (Request.id provider) current past := hr
    dsimp only
    cases hchanges : Template.changesOf [] updates with
    | error key => exact minds_throw (.failed hr)
    | ok changes =>
      cases changes with
      | nil => exact minds_pure (.told hr ((Template.changesOf_eq_nil hchanges).1 rfl).2)
      | cons change changes =>
        have hasks : Template.asksAny updates = true := by
          by_contra hnone
          cases (Template.changesOf_eq_nil hchanges).2 ⟨rfl, by simpa using hnone⟩
        dsimp only
        cases hchange : current.change desk.zones desk.defaults (change :: changes) with
        | issues found => exact minds_throw (.failed hr)
        | outOfRange => exact minds_throw (.failed hr)
        | ok t =>
          have hdecided : desk.updateDecision updates current = .ok (t, [.template t]) := by
            unfold updateDecision
            rw [hchanges]
            dsimp only
            rw [hchange]
          have hsound := sound_of_update hdefaults hr.sound hdecided
          have hprovider : t.provider = Request.id provider :=
            (updated_of_update hr.sound hdecided).provider.trans hr.provider_eq
          apply minds_log (.shown hr)
          apply minds_call
          · intro s s' _ hs ht
            cases ht
            exact ⟨hgood.saved s t hs hsound, .changed hr hasks hdecided,
              minds_pure (.changed hr hasks hprovider)⟩
          · intro s why _ ht
            cases ht

/-- Every errand is served by a program that minds its course. -/
theorem minds_templateErrand (hdefaults : desk.defaults.Valid desk.zones)
    (hgood : desk.SavesSound good) (errand : TemplateErrand) :
    (errand.serve desk).Minds good (desk.TemplateCourse errand.provider errand.updates)
      (desk.TemplateOutcome errand.provider errand.updates) [] := by
  cases errand with
  | ask provider =>
    apply Program.Minds.mono (minds_template hdefaults hgood provider []) .idle (fun _ => id)
    intro past r _ hr
    cases r with
    | ok t => exact .told hr rfl
    | error why =>
      obtain rfl := hr
      exact .refused
  | update provider updates => exact minds_updateTemplate hdefaults hgood provider updates

end
end Desk
end Appointments
