-- What a request about the hours of a provider leaves behind where it is
-- refused, while nobody else acts. Nothing is written, but for the template of
-- a provider who had none before: a change of it creates the template first.
import Appointments.Proofs.InTurn
namespace Appointments

/-! ## Rulings that fail -/

namespace Ruling

variable {d : Except Failure (α × List Entry)}

theorem entries_of_failing (h : (of d).answer.isOk = false) : (of d).entries = [] := by
  cases d with
  | error why => rfl
  | ok out => cases h

theorem isOk_map (f : α → β) (r : Ruling α) : (r.map f).answer.isOk = r.answer.isOk := by
  unfold map
  cases r.answer <;> rfl

theorem entries_of_failing_map {f : α → β} (h : ((of d).map f).answer.isOk = false) :
    ((of d).map f).entries = [] := by
  rw [isOk_map] at h
  exact entries_of_failing h

/-- Where the second part fails, the entries of the first one stay. -/
theorem entries_of_failing_bind {r : Ruling α} {f : α → Except Failure (β × List Entry)}
    (h : (r.bind fun a => of (f a)).answer.isOk = false) :
    (r.bind fun a => of (f a)).entries = r.entries := by
  unfold bind at h ⊢
  cases hr : r.answer with
  | error why => rfl
  | ok a =>
    rw [hr] at h
    dsimp only at h ⊢
    rw [entries_of_failing h, List.append_nil]

end Ruling

/-! ## Services that fail -/

namespace Desk

/-- What a call for a template writes: the template of a provider who has
none. -/
theorem entries_of_templateDecision (desk : Desk) (v : View) (provider : Value) :
    (Ruling.of (desk.templateDecision v provider)).entries =
      if Request.id provider ≠ "" ∧ v.store.templates.get? (Request.id provider) = none then
        [.template (Template.initial desk.defaults (Request.id provider))]
      else [] := by
  unfold templateDecision
  by_cases hid : Request.id provider = ""
  · have hmissing : Request.requiredId "providerUserId" provider =
        .error (.rejected (.missing "providerUserId")) := by
      unfold Request.requiredId
      simp [hid]
    rw [hmissing, if_neg (by simp [hid])]
    rfl
  · rw [Request.requiredId_eq hid, ok_bind]
    cases v.store.templates.get? (Request.id provider) with
    | some t =>
      rw [if_neg (by simp)]
      rfl
    | none =>
      rw [if_pos ⟨hid, rfl⟩]
      rfl

/-- A call to change fields is the change itself, unless one of the updates is
named like another argument. Then it is refused, and the store stays as it
was. -/
theorem callUpdate_cases (desk : Desk) (v : View) (provider : Value)
    (updates : List (String × Value)) :
    ((∀ update ∈ updates, update.1 ∉ ownArguments) ∧
      desk.callUpdate provider updates = Except.ok <$> desk.updateTemplate provider updates) ∨
    ∃ update ∈ updates, update.1 ∈ ownArguments ∧
      (desk.callUpdate provider updates).Reports v (.ok (.error update.1)) := by
  unfold callUpdate
  cases hfound : updates.find? fun update => ownArguments.contains update.1 with
  | none =>
    refine .inl ⟨fun update hmem hown => ?_, rfl⟩
    exact List.find?_eq_none.1 hfound update hmem (List.contains_iff_mem.2 hown)
  | some update =>
    have hown := List.find?_some hfound
    exact .inr ⟨update, List.mem_of_find?_eq_some hfound, List.contains_iff_mem.1 hown,
      Action.reports_within (Action.reports_pure _)⟩

end Desk

namespace Service

/-- The service changes the template of the provider, who has none yet. -/
def FirstUpdate (s : Store) (provider : String) : Service → Prop
  | updateTemplate asked _ =>
    Request.id asked = provider ∧ provider ≠ "" ∧ s.templates.get? provider = none
  | errand _ | template _ | addBlackout .. | removeBlackout .. => False

theorem FirstUpdate.eq {s : Store} {provider other : String} {service : Service}
    (h : service.FirstUpdate s provider) (h' : service.FirstUpdate s other) :
    provider = other := by
  cases service with
  | updateTemplate => exact h.1.symm.trans h'.1
  | _ => exact h.elim

/-- What a service has written that fails. -/
theorem entries_of_failing {desk : Desk} {v : View} (service : Service)
    (h : (service.ruling desk v).answer.isOk = false) :
    (∀ provider, ¬ service.FirstUpdate v.store provider) ∧ (service.ruling desk v).entries = [] ∨
      ∃ provider, service.FirstUpdate v.store provider ∧
        (service.ruling desk v).entries = [.template (Template.initial desk.defaults provider)] := by
  cases service with
  | updateTemplate asked updates =>
    rw [ruling, Ruling.isOk_map] at h
    have hentries : (Service.ruling desk v (.updateTemplate asked updates)).entries =
        (Ruling.of (desk.templateDecision v asked)).entries := Ruling.entries_of_failing_bind h
    rw [hentries, desk.entries_of_templateDecision]
    split
    · rename_i hfirst
      exact .inr ⟨Request.id asked, ⟨rfl, hfirst⟩, rfl⟩
    · rename_i hnot
      refine .inl ⟨?_, rfl⟩
      rintro provider ⟨rfl, hfirst⟩
      exact hnot hfirst
  | _ => exact .inl ⟨fun _ hfirst => hfirst, Ruling.entries_of_failing_map h⟩

end Service

/-- A service that fails, and a question about free slots, leave the store as it
was. But the first change of the hours of a provider leaves behind the template
that it was to change, and nothing else. -/
theorem Desk.refusals_leave_no_trace (desk : Desk) (w : World) :
    (∀ service : Service, (service.serve desk).Ends w fun r after => r.isOk = false →
      (∀ provider, service.FirstUpdate w.store provider →
        after.store = w.store.saveTemplate (Template.initial desk.defaults provider)) ∧
      ((∀ provider, ¬ service.FirstUpdate w.store provider) → after.store = w.store)) ∧
    ∀ (provider : Value) (first last : Request.DayInput) (timeZone : Value),
      (desk.freeSlots provider first last timeZone).Ends w fun _ after => after.store = w.store := by
  constructor
  · intro service
    refine (service.follows_serve desk w.view w rfl).mono fun r after hends hfails => ?_
    obtain ⟨rfl, hstore⟩ := hends
    rcases service.entries_of_failing hfails with ⟨hnot, hentries⟩ | ⟨provider, hfirst, hentries⟩
    · rw [hentries] at hstore
      exact ⟨fun provider hfirst => absurd hfirst (hnot provider), fun _ => hstore⟩
    · rw [hentries] at hstore
      refine ⟨fun other hother => ?_, fun hnot => absurd hfirst (hnot provider)⟩
      rw [hother.eq hfirst]
      exact hstore
  · intro provider first last timeZone
    exact (Desk.reports_slotsListed provider first last timeZone w rfl).mono
      fun _ _ hends => congrArg View.store hends.2

namespace Practice

/-- Somebody asks for something that no template has. -/
def colouring (provider : String) : Service :=
  .updateTemplate (.text provider) [("colour", .text "red")]

/-- The doctor, whose hours are known, is refused without a trace. -/
theorem known_hours_stay_as_they_were :
    ((colouring "doctor").serve {}).Ends unbooked fun r after =>
      r.isOk = false ∧ after.store = unbooked.store := by
  have hfails : ((World.run ((colouring "doctor").serve {})).run unbooked).1.isOk = false := by
    decide +kernel
  refine ⟨hfails, ((Desk.refusals_leave_no_trace {} unbooked).1 (colouring "doctor") hfails).2 ?_⟩
  rintro provider ⟨rfl, -, hnone⟩
  cases hnone

/-- A nurse, whose hours are not known, is refused and has hours from then on. -/
theorem refused_change_creates_hours :
    ¬ ∀ (w : World) (service : Service), (service.serve {}).Ends w fun r after =>
      r.isOk = false → after.store.templates = w.store.templates ∧
        after.store.blackouts = w.store.blackouts ∧ after.store.records = w.store.records := by
  intro h
  have hfails : ((World.run ((colouring "nurse").serve {})).run unbooked).1.isOk = false := by
    decide +kernel
  have hsame := (h unbooked (colouring "nurse") hfails).1
  have hfound : ((World.run ((colouring "nurse").serve {})).run unbooked).2.store.templates.get?
      "nurse" = some (Template.initial {} "nurse") := by
    decide +kernel
  rw [hsame] at hfound
  cases hfound

end Practice
end Appointments
