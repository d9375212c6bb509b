-- What services about weekly hours and blackouts write: templates and
-- blackouts of the provider who asks, and nothing else.
import Appointments.Proofs.Readings
import Appointments.Proofs.Services
namespace Appointments

/-! ## Templates keep their provider -/

namespace Template

theorem plain_ne_of_changeable? {key : String} {f : FieldName} (h : changeable? key = some f) :
    f.plain ≠ providerField.plain := by
  have hmem : f ∈ changeable := List.mem_of_find?_eq_some h
  have hall : ∀ f ∈ changeable, f.plain ≠ providerField.plain := by decide
  exact hall f hmem

theorem provider_not_changed {updates changes out : List (String × Value)}
    (h : changesOf changes updates = .ok out)
    (hchanges : ∀ c ∈ changes, c.1 ≠ providerField.plain) :
    ∀ c ∈ out, c.1 ≠ providerField.plain := by
  induction updates generalizing changes with
  | nil =>
    cases h
    exact hchanges
  | cons update rest ih =>
    obtain ⟨key, v⟩ := update
    unfold changesOf at h
    split at h
    · cases h
    · rename_i f hf
      apply ih h
      split
      · exact hchanges
      · intro c hc
        unfold putChange at hc
        rcases List.mem_append.1 hc with hc | hc
        · exact hchanges c (List.mem_filter.1 hc).1
        · obtain rfl := List.mem_singleton.1 hc
          exact plain_ne_of_changeable? hf

theorem lookup_provider_eq_none {updates changes : List (String × Value)}
    (h : changesOf [] updates = .ok changes) : changes.lookup providerField.plain = none := by
  rw [List.lookup_eq_none_iff]
  intro c hc
  have hne := provider_not_changed h (by simp) c hc
  simpa using Ne.symm hne

/-- No updates give a template another provider. -/
theorem provider_of_change {zones : Registry} {defaults : SlotSettings} {t t' : Template}
    {updates changes : List (String × Value)} (hchanges : changesOf [] updates = .ok changes)
    (h : t.change zones defaults changes = .ok t') : t'.provider = t.provider := by
  have hnone := lookup_provider_eq_none hchanges
  obtain ⟨hread, -⟩ := readFields_eq_ok.1 h
  have hp := hread.provider
  unfold FieldName.required FieldName.find? toFields at hp
  simp only [List.map_cons, List.lookup_cons, hnone] at hp
  obtain ⟨s, hs, hp⟩ := Reading.check_eq_ok.1 (Reading.under_eq_ok.1 hp)
  cases hs
  split at hp
  · cases hp
  · exact (Reading.ok.inj hp).symm

end Template

/-! ## What is written -/

/-- What a service about the hours of a provider writes that draws the given
id. -/
inductive Entry.OfHours (s : Store) (id provider : String) : Entry → Prop
  | template {t : Template} (provider_eq : t.provider = provider) :
      OfHours s id provider (.template t)
  | blackout {b : Blackout} (fresh : s.blackouts.get? id = none) (id_eq : b.id = id)
      (provider_eq : b.provider = provider) : OfHours s id provider (.blackout b)
  | noBlackout {b : Blackout} (stored : s.blackouts.get? b.id = some b)
      (provider_eq : b.provider = provider) : OfHours s id provider (.noBlackout b.id)

namespace Desk

variable {desk : Desk} {v : View} {entries : List Entry} {e : Entry}

/-- The template of a provider, or the one that the desk would create. -/
def templateOf (desk : Desk) (s : Store) (provider : String) : Template :=
  (s.templates.get? provider).getD (Template.initial desk.defaults provider)

/-- Nothing is written where a template is found. -/
theorem templateDecision_found {provider : Value} {t : Template}
    (h : desk.templateDecision v provider = .ok (t, entries)) :
    t = desk.templateOf v.store (Request.id provider) ∧
      (v.store.templates.get? (Request.id provider) = some t ∧ entries = [] ∨
        Request.id provider ≠ "" ∧ t = Template.initial desk.defaults (Request.id provider) ∧
          entries = [.template t]) := by
  obtain ⟨p, hp, h⟩ := bind_eq_ok.1 h
  obtain ⟨rfl, hne⟩ := Request.requiredId_eq_ok hp
  unfold templateOf
  split at h
  · rename_i t' ht
    cases h
    rw [ht]
    exact ⟨rfl, .inl ⟨rfl, rfl⟩⟩
  · rename_i hnone
    cases h
    rw [hnone]
    exact ⟨rfl, .inr ⟨hne, rfl, rfl⟩⟩

theorem templateDecision_eq_ok {provider : Value} {t : Template}
    (h : desk.templateDecision v provider = .ok (t, entries)) :
    t.provider = Request.id provider ∧
      ∀ e ∈ entries, e.OfHours v.store v.nextId (Request.id provider) := by
  obtain ⟨-, ⟨hfound, rfl⟩ | ⟨-, rfl, rfl⟩⟩ := templateDecision_found h
  · exact ⟨Shelf.key_of_get? hfound, by simp⟩
  · refine ⟨rfl, fun e he => ?_⟩
    obtain rfl := List.mem_singleton.1 he
    exact .template rfl

/-- Nothing is written where no update gives a value. -/
theorem updateDecision_changed {updates : List (String × Value)} {current t : Template}
    (h : desk.updateDecision updates current = .ok (t, entries)) :
    Template.changesOf [] updates = .ok [] ∧ t = current ∧ entries = [] ∨
      ∃ changes, Template.changesOf [] updates = .ok changes ∧
        current.change desk.zones desk.defaults changes = .ok t ∧ entries = [.template t] := by
  unfold updateDecision at h
  split at h
  · cases h
  · rename_i hnone
    cases h
    exact .inl ⟨hnone, rfl, rfl⟩
  · rename_i changes _ hchanges
    split at h
    · cases h
    · cases h
    · rename_i t' ht
      cases h
      exact .inr ⟨changes, hchanges, ht, rfl⟩

theorem updateDecision_eq_ok {updates : List (String × Value)} {current t : Template}
    (h : desk.updateDecision updates current = .ok (t, entries)) (he : e ∈ entries) :
    e.OfHours v.store v.nextId current.provider := by
  obtain ⟨-, -, rfl⟩ | ⟨changes, hchanges, hchange, rfl⟩ := updateDecision_changed h
  · cases he
  · obtain rfl := List.mem_singleton.1 he
    exact .template (Template.provider_of_change hchanges hchange)

theorem updateRuling_ofHours {provider : Value} {updates : List (String × Value)}
    (he : e ∈ (desk.updateRuling v provider updates).entries) :
    e.OfHours v.store v.nextId (Request.id provider) := by
  rcases Ruling.mem_entries_bind he with he | ⟨current, hcurrent, he⟩
  · obtain ⟨t, created, hfound, he⟩ := Ruling.mem_entries_of he
    exact (templateDecision_eq_ok hfound).2 e he
  · obtain ⟨created, hfound⟩ := Ruling.of_eq_of_answer hcurrent
    obtain ⟨t, updated, hupdated, he⟩ := Ruling.mem_entries_of he
    rw [← (templateDecision_eq_ok hfound).1]
    exact updateDecision_eq_ok hupdated he

theorem askedBlackout_eq_ok {id provider : String} {start stop : Instant} {reason isActive : Value}
    {b : Blackout} (h : askedBlackout id provider start stop reason isActive = .ok b) :
    b.id = id ∧ b.provider = provider := by
  obtain ⟨reason, -, h⟩ := bind_eq_ok.1 h
  obtain ⟨active, -, h⟩ := Reading.check_eq_ok.1 (Reading.orFail_eq_ok.1 h)
  unfold Blackout.make at h
  split at h
  · cases h
    exact ⟨rfl, rfl⟩
  · cases h

theorem addBlackoutDecision_eq_ok {provider start stop reason isActive : Value} {b : Blackout}
    (h : desk.addBlackoutDecision v provider start stop reason isActive = .ok (b, entries))
    (he : e ∈ entries) : e.OfHours v.store v.nextId (Request.id provider) := by
  obtain ⟨p, hp, h⟩ := bind_eq_ok.1 h
  obtain ⟨rfl, -⟩ := Request.requiredId_eq_ok hp
  obtain ⟨start, -, h⟩ := bind_eq_ok.1 h
  obtain ⟨stop, -, h⟩ := bind_eq_ok.1 h
  split at h
  · cases h
  obtain ⟨blackout, hb, h⟩ := bind_eq_ok.1 h
  obtain ⟨longest, -, h⟩ := bind_eq_ok.1 h
  split at h
  · cases h
  obtain ⟨⟨⟩, -, h⟩ := bind_eq_ok.1 h
  obtain ⟨⟨⟩, hnew, h⟩ := bind_eq_ok.1 h
  cases h
  obtain rfl := List.mem_singleton.1 he
  obtain ⟨hid, hprovider⟩ := askedBlackout_eq_ok hb
  refine .blackout ?_ hid hprovider
  unfold checkNewBlackout at hnew
  rw [hid] at hnew
  split at hnew
  · cases hnew
  · rename_i hnone
    simpa using hnone

theorem removeBlackoutDecision_eq_ok {provider blackout : Value} {u : Unit}
    (h : removeBlackoutDecision v provider blackout = .ok (u, entries)) (he : e ∈ entries) :
    e.OfHours v.store v.nextId (Request.id provider) := by
  obtain ⟨id, -, h⟩ := bind_eq_ok.1 h
  split at h
  · rename_i hfound
    obtain ⟨b, hb, hprovider⟩ := (Option.any_eq_true _ _).1 hfound
    cases h
    obtain rfl := List.mem_singleton.1 he
    obtain rfl := Shelf.key_of_get? hb
    exact .noBlackout hb (by simpa using hprovider)
  · cases h

end Desk
end Appointments
