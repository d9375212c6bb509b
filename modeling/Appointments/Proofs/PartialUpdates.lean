-- Partial updates of weekly hours: a call changes the fields that it names and
-- no others. A template that comes from the desk is read back from its own
-- fields as it is, and so the fields that are read anew with the changes keep
-- what they had.
import Appointments.Proofs.AcceptedHours
import Appointments.Proofs.WeeklyHours
import Appointments.Proofs.WorkingOrder
namespace Appointments

/-! ## What updates ask for -/

/-- The key is one of the names of the field. -/
def FieldName.names (f : FieldName) (key : String) : Bool := f.document == key || f.plain == key

namespace Template

/-- What updates ask for a field: the value that is given last under one of its
names. Null is no value. -/
def asked (updates : List (String × Value)) (f : FieldName) : Option Value :=
  (updates.filter fun update => f.names update.1 && update.2 ≠ .null).getLast?.map Prod.snd

section
variable {updates changes out : List (String × Value)} {f g : FieldName} {key : String} {v : Value}

theorem asked_cons_of_names (hnames : f.names key = true) (hv : v ≠ .null) :
    asked ((key, v) :: updates) f = some ((asked updates f).getD v) := by
  unfold asked
  rw [List.filter_cons_of_pos (by simpa [hv] using hnames), List.getLast?_cons]
  cases (updates.filter fun update => f.names update.1 && update.2 ≠ .null).getLast? <;> rfl

theorem asked_cons_of_not (h : f.names key = false ∨ v = .null) :
    asked ((key, v) :: updates) f = asked updates f := by
  unfold asked
  rw [List.filter_cons_of_neg]
  rcases h with h | h <;> simp [h]

theorem changeable?_of_names (hf : f ∈ changeable) (h : f.names key = true) :
    changeable? key = some f := by
  have hall : ∀ f ∈ changeable, changeable? f.document = some f ∧ changeable? f.plain = some f := by
    decide
  unfold FieldName.names at h
  rw [Bool.or_eq_true, beq_iff_eq, beq_iff_eq] at h
  rcases h with rfl | rfl
  · exact (hall f hf).1
  · exact (hall f hf).2

theorem names_of_changeable? (h : changeable? key = some f) : f.names key = true := by
  unfold changeable? at h
  have hfound := List.find?_some h
  exact hfound

theorem plain_injective (hf : f ∈ changeable) (hg : g ∈ changeable) (h : f.plain = g.plain) :
    f = g := by
  have hall : ∀ f ∈ changeable, ∀ g ∈ changeable, f.plain = g.plain → f = g := by decide
  exact hall f hf g hg h

theorem lookup_cons_ite (name k : String) :
    ((name, v) :: changes).lookup k = if k = name then some v else changes.lookup k := by
  rw [List.lookup_cons]
  cases h : k == name with
  | true => rw [if_pos (by simpa using h)]
  | false => rw [if_neg (by simpa using h)]

theorem lookup_filter_ne (name k : String) :
    (changes.filter (·.1 != name)).lookup k = if k = name then none else changes.lookup k := by
  induction changes with
  | nil => simp
  | cons change rest ih =>
    obtain ⟨l, w⟩ := change
    by_cases hl : l = name
    · rw [List.filter_cons_of_neg (by simpa using hl), ih, lookup_cons_ite, hl]
      split <;> rfl
    · rw [List.filter_cons_of_pos (by simpa using hl), lookup_cons_ite, lookup_cons_ite, ih]
      split
      · rename_i hk
        rw [hk, if_neg hl]
      · rfl

theorem lookup_putChange (name k : String) :
    (putChange changes name v).lookup k = if k = name then some v else changes.lookup k := by
  unfold putChange
  rw [List.lookup_append, lookup_filter_ne, lookup_cons_ite]
  split
  · rfl
  · exact Option.or_none

/-- The changes hold what is asked for, and what was there before. -/
theorem lookup_changesOf (hf : f ∈ changeable) (h : changesOf changes updates = .ok out) :
    out.lookup f.plain = (asked updates f).or (changes.lookup f.plain) := by
  induction updates generalizing changes with
  | nil =>
    cases h
    rfl
  | cons update rest ih =>
    obtain ⟨key, v⟩ := update
    unfold changesOf at h
    split at h
    · cases h
    rename_i g hg
    rw [ih h]
    by_cases hv : v = .null
    · rw [if_pos hv, asked_cons_of_not (.inr hv)]
    · rw [if_neg hv, lookup_putChange]
      by_cases hnames : f.names key = true
      · cases hg.symm.trans (changeable?_of_names hf hnames)
        rw [if_pos rfl, asked_cons_of_names hnames hv]
        cases asked rest f <;> rfl
      · have hne : f.plain ≠ g.plain := by
          intro heq
          obtain rfl := plain_injective hf (List.mem_of_find?_eq_some hg) heq
          exact hnames (names_of_changeable? hg)
        rw [if_neg hne, asked_cons_of_not (.inl (by simpa using hnames))]

theorem lookup_eq_asked (hf : f ∈ changeable) (h : changesOf [] updates = .ok out) :
    out.lookup f.plain = asked updates f := by
  rw [lookup_changesOf hf h]
  exact Option.or_none

end

/-! ## Templates that validation grants -/

/-- What validation grants of a template as a whole: its days are days of the
week, each listed once and in order, their ranges are in order, lengths are
within the bounds, and the zone is known. -/
structure Sound (zones : Registry) (t : Template) : Prop extends t.Valid where
  provider_ne : t.provider ≠ ""
  zone_trimmed : Text.strip t.timeZone = t.timeZone
  zone_known : (zones.find? t.timeZone).isSome = true
  days_inOrder : t.weekly.Pairwise fun d e => d.weekday < e.weekday
  weekday_le : ∀ d ∈ t.weekly, d.weekday ≤ 6

theorem readTimeZone_eq_ok {zones : Registry} {v : Value} {name : String} :
    readTimeZone zones v = .ok name ↔
      ∃ s, v = .text s ∧ Text.strip s = name ∧ (zones.find? name).isSome = true := by
  unfold readTimeZone
  rw [Reading.check_eq_ok]
  constructor
  · rintro ⟨s, hs, h⟩
    dsimp only at h
    split at h
    · rename_i hknown
      cases h
      cases v with
      | text s' =>
        cases hs
        exact ⟨s, rfl, rfl, hknown⟩
      | _ => cases hs
    · cases h
  · rintro ⟨s, rfl, rfl, hknown⟩
    exact ⟨s, rfl, if_pos hknown⟩

end Template

/-- Validation keeps the name of a zone as it is: the zone is known, and there
are no blanks around its name. -/
structure Registry.Keeps (zones : Registry) (name : String) : Prop where
  trimmed : Text.strip name = name
  known : (zones.find? name).isSome = true

/-- The defaults are valid: the checks let them pass, and their zone is a zone
that validation accepts as it is. -/
structure SlotSettings.Valid (zones : Registry) (d : SlotSettings) : Prop where
  checked : d.check = .ok ()
  zone_trimmed : Text.strip d.timeZone = d.timeZone
  zone_known : (zones.find? d.timeZone).isSome = true

theorem Value.readSomeText_ne {v : Value} {s : String} (h : v.readSomeText = .ok s) : s ≠ "" := by
  obtain ⟨t, -, h⟩ := Reading.check_eq_ok.1 h
  split at h
  · cases h
  · rename_i hempty
    cases h
    simpa using hempty

theorem FieldName.exists_of_required {α : Type} {f : FieldName} {x : α} {read : Value → Reading α}
    {fields : List (String × Value)} (h : f.required read fields = .ok x) :
    ∃ v, read v = .ok x := by
  unfold required at h
  split at h
  · exact ⟨_, Reading.under_eq_ok.1 h⟩
  · cases h

theorem DayHours.weekday_le_of_read {v : Value} {d : DayHours} (h : read v = .ok d) :
    d.weekday ≤ 6 := by
  obtain ⟨ranges, ⟨fields, -, ⟨n, hn, hday⟩, -⟩, -⟩ := read_eq_ok.1 h
  obtain ⟨u, hu⟩ := FieldName.exists_of_required hn
  obtain ⟨-, hle⟩ := Value.within_of_readIntWithin hu
  dsimp only at hday
  omega

namespace Template

variable {zones : Registry} {defaults : SlotSettings} {fields : List (String × Value)}
  {t u : Template}

theorem sound_initial (h : defaults.Valid zones) {provider : String} (hne : provider ≠ "") :
    (initial defaults provider).Sound zones where
  toValid := valid_initial h.checked provider
  provider_ne := hne
  zone_trimmed := h.zone_trimmed
  zone_known := h.zone_known
  days_inOrder := List.Pairwise.nil
  weekday_le := nofun

/-- Validation keeps the zone of whatever is read, unless it is the default. -/
theorem keeps_of_readFields (h : readFields zones defaults fields = .ok t) :
    t.timeZone = defaults.timeZone ∨ zones.Keeps t.timeZone := by
  obtain ⟨hrest, -⟩ := readFields_eq_ok.1 h
  refine (FieldName.of_withDefault hrest.timeZone).imp_right ?_
  rintro ⟨v, hv⟩
  obtain ⟨s, -, hstrip, hknown⟩ := readTimeZone_eq_ok.1 hv
  exact ⟨by rw [← hstrip, Text.strip_strip], hknown⟩

/-- Whatever is read is granted by validation, if its zone is. -/
theorem sound_of_keeps (hdefaults : defaults.check = .ok ()) (hzone : zones.Keeps t.timeZone)
    (h : readFields zones defaults fields = .ok t) : t.Sound zones := by
  obtain ⟨hrest, hweekly⟩ := readFields_eq_ok.1 h
  obtain ⟨v, hprovider⟩ := FieldName.exists_of_required hrest.provider
  have hdays : (t.weekly.Pairwise fun d e => d.weekday < e.weekday) ∧
      ∀ d ∈ t.weekly, d.weekday ≤ 6 := by
    rcases FieldName.of_withDefault hweekly with heq | ⟨v, hv⟩
    · rw [heq]
      exact ⟨List.Pairwise.nil, nofun⟩
    · obtain ⟨vs, -, days, hread, hfound⟩ := readWeekly_eq_ok.1 hv
      refine ⟨pairwise_of_arrange hfound, fun d hd => ?_⟩
      obtain ⟨u, -, hu⟩ := exists_of_forall₂ hread.flip (mem_of_arrange hfound hd)
      exact DayHours.weekday_le_of_read hu
  exact ⟨valid_of_readFields hdefaults h, Value.readSomeText_ne hprovider, hzone.trimmed,
    hzone.known, hdays.1, hdays.2⟩

/-- Whatever is read under valid defaults is granted by validation. -/
theorem sound_of_readFields (hdefaults : defaults.Valid zones)
    (h : readFields zones defaults fields = .ok t) : t.Sound zones := by
  refine sound_of_keeps hdefaults.checked ?_ h
  rcases keeps_of_readFields h with heq | hkeeps
  · rw [heq]
    exact ⟨hdefaults.zone_trimmed, hdefaults.zone_known⟩
  · exact hkeeps

/-- The days of a template are read back as they are, under either name. -/
theorem Sound.readWeekly_eq {name : FieldName → String}
    (hname : name = FieldName.document ∨ name = FieldName.plain) (ht : t.Sound zones) :
    readWeekly (.list (t.weekly.map (DayHours.toValue name))) = .ok t.weekly := by
  refine readWeekly_eq_ok.2 ⟨_, rfl, t.weekly, ?_, ?_⟩
  · refine List.forall₂_map_left_iff.2 (List.forall₂_same.2 fun d hd => ?_)
    have hranges := ht.inOrder d hd
    rw [DayHours.read_of_gives (DayHours.gives_toValue hname (ht.weekday_le d hd))]
    refine ⟨rfl, DayHours.arrange_eq_ok.2 ⟨hranges.disjoint, List.sortedBy_of_pairwise ?_⟩⟩
    exact hranges.starts_lt.imp fun hlt => TimeRange.startsNotAfter_iff.2 (Nat.le_of_lt hlt)
  · refine arrange_eq_ok.2 ⟨nodup_of_pairwise ht.days_inOrder, List.sortedBy_of_pairwise ?_⟩
    exact ht.days_inOrder.imp fun hlt => daysNotAfter_iff.2 (Nat.le_of_lt hlt)

/-! ## Changed templates -/

/-- A field holds what its reader makes of the value that is asked for, and what
it held before where none is. -/
def Renewed {α : Type} (updates : List (String × Value)) (f : FieldName) (read : Value → Reading α)
    (old new : α) : Prop :=
  match asked updates f with
  | some v => read v = .ok new
  | none => new = old

/-- A template with the updates made, each field by itself. -/
structure Updated (zones : Registry) (updates : List (String × Value)) (old new : Template) :
    Prop where
  provider : new.provider = old.provider
  timeZone : Renewed updates timeZoneField (readTimeZone zones) old.timeZone new.timeZone
  slotMinutes : Renewed updates slotMinutesField (Value.readIntWithin (some 15) (some 240))
    old.slotMinutes new.slotMinutes
  bufferMinutes : Renewed updates bufferMinutesField (Value.readIntWithin (some 0) (some 120))
    old.bufferMinutes new.bufferMinutes
  isActive : Renewed updates isActiveField Value.readBool old.isActive new.isActive
  weekly : Renewed updates weeklyField readWeekly old.weekly new.weekly

section
variable {updates changes : List (String × Value)}

/-- A field whose own value is read back as it is may be read anew with the
changes. -/
theorem renewed_of_read {α : Type} {f : FieldName} {read : Value → Reading α} {own : Value}
    {old new : α} (hf : f ∈ changeable) (hchanges : changesOf [] updates = .ok changes)
    (hown : read own = .ok old) (hnew : read ((changes.lookup f.plain).getD own) = .ok new) :
    Renewed updates f read old new := by
  rw [lookup_eq_asked hf hchanges] at hnew
  unfold Renewed
  cases h : asked updates f with
  | some v =>
    rw [h] at hnew
    exact hnew
  | none =>
    rw [h] at hnew
    exact Reading.ok.inj (hnew.symm.trans hown)

theorem updated_of_change (ht : t.Sound zones) (hchanges : changesOf [] updates = .ok changes)
    (h : t.change zones defaults changes = .ok u) : Updated zones updates t u := by
  obtain ⟨hrest, hweekly⟩ := readFields_eq_ok.1 h
  have hactive : Value.readBool (.bool t.isActive) = .ok t.isActive := rfl
  exact {
    provider := provider_of_change hchanges h
    timeZone := renewed_of_read (by decide) hchanges
      (readTimeZone_eq_ok.2 ⟨_, rfl, ht.zone_trimmed, ht.zone_known⟩)
      (Reading.under_eq_ok.1 hrest.timeZone)
    slotMinutes := renewed_of_read (by decide) hchanges
      (Value.readIntWithin_int ht.slot_least ht.slot_greatest)
      (Reading.under_eq_ok.1 hrest.slotMinutes)
    bufferMinutes := renewed_of_read (by decide) hchanges
      (Value.readIntWithin_int ht.buffer_least ht.buffer_greatest)
      (Reading.under_eq_ok.1 hrest.bufferMinutes)
    isActive := renewed_of_read (by decide) hchanges hactive
      (Reading.under_eq_ok.1 hrest.isActive)
    weekly := renewed_of_read (by decide) hchanges (ht.readWeekly_eq (.inr rfl))
      (Reading.under_eq_ok.1 hweekly) }

theorem renewed_of_not_asked {α : Type} {f : FieldName} {read : Value → Reading α} (old : α)
    (h : asked updates f = none) : Renewed updates f read old old := by
  unfold Renewed
  rw [h]

theorem updated_of_no_changes (h : changesOf [] updates = .ok []) : Updated zones updates t t := by
  have hnone : ∀ f ∈ changeable, asked updates f = none := fun f hf =>
    (lookup_eq_asked hf h).symm
  exact {
    provider := rfl
    timeZone := renewed_of_not_asked _ (hnone _ (by decide))
    slotMinutes := renewed_of_not_asked _ (hnone _ (by decide))
    bufferMinutes := renewed_of_not_asked _ (hnone _ (by decide))
    isActive := renewed_of_not_asked _ (hnone _ (by decide))
    weekly := renewed_of_not_asked _ (hnone _ (by decide)) }

end

/-! ## Templates that come from the desk -/

/-- The template is the answer to a call for a template, or to an update, at a
desk with these zones and with valid defaults. What the call has found for the
provider came from such a desk before. -/
inductive FromDesk (zones : Registry) : Template → Prop
  | asked {desk : Desk} {w : World} {provider : Value} {t : Template}
      (zones_eq : desk.zones = zones) (defaults : desk.defaults.Valid zones)
      (before : ∀ old, w.store.templates.get? (Request.id provider) = some old →
        FromDesk zones old)
      (answer : (desk.template provider).Ends w fun answer _ => answer = .ok t) : FromDesk zones t
  | updated {desk : Desk} {w : World} {provider : Value} {updates : List (String × Value)}
      {t : Template} (zones_eq : desk.zones = zones) (defaults : desk.defaults.Valid zones)
      (before : ∀ old, w.store.templates.get? (Request.id provider) = some old →
        FromDesk zones old)
      (answer : (desk.updateTemplate provider updates).Ends w fun answer _ => answer = .ok t) :
      FromDesk zones t

end Template

theorem Store.templates_saved (s : Store) (t : Template) (q : String) :
    (s.enterAll [.template t]).templates.get? q =
      if q = t.provider then some t else s.templates.get? q :=
  (Shelf.get?_put s.templates t q).trans (if_congr eq_comm rfl rfl)

namespace Desk

variable {desk : Desk} {v : View} {w : World} {provider : Value}
  {updates : List (String × Value)} {entries : List Entry} {current t : Template}

/-- An update is answered where both of its parts are. -/
theorem updateRuling_eq_ok (h : (desk.updateRuling v provider updates).answer = .ok t) :
    ∃ current created written, desk.templateDecision v provider = .ok (current, created) ∧
      desk.updateDecision updates current = .ok (t, written) ∧
      (desk.updateRuling v provider updates).entries = created ++ written := by
  unfold updateRuling Ruling.bind at h ⊢
  cases hfound : desk.templateDecision v provider with
  | error why =>
    rw [hfound] at h
    cases h
  | ok found =>
    obtain ⟨current, created⟩ := found
    rw [hfound] at h
    obtain ⟨written, hwritten⟩ := Ruling.of_eq_of_answer h
    refine ⟨current, created, written, rfl, hwritten, ?_⟩
    dsimp only [Ruling.of]
    rw [hwritten]

/-! ## What calls make of templates -/

theorem sound_of_template (hdefaults : desk.defaults.Valid desk.zones)
    (hbefore : ∀ old, v.store.templates.get? (Request.id provider) = some old →
      old.Sound desk.zones)
    (h : desk.templateDecision v provider = .ok (t, entries)) : t.Sound desk.zones := by
  obtain ⟨-, ⟨hfound, -⟩ | ⟨hne, rfl, -⟩⟩ := templateDecision_found h
  · exact hbefore t hfound
  · exact Template.sound_initial hdefaults hne

theorem sound_of_update (hdefaults : desk.defaults.Valid desk.zones)
    (hcurrent : current.Sound desk.zones)
    (h : desk.updateDecision updates current = .ok (t, entries)) : t.Sound desk.zones := by
  obtain ⟨-, rfl, -⟩ | ⟨changes, -, hchange, -⟩ := updateDecision_changed h
  · exact hcurrent
  · exact Template.sound_of_readFields hdefaults hchange

theorem updated_of_update (hcurrent : current.Sound desk.zones)
    (h : desk.updateDecision updates current = .ok (t, entries)) :
    Template.Updated desk.zones updates current t := by
  obtain ⟨hnone, rfl, -⟩ | ⟨changes, hchanges, hchange, -⟩ := updateDecision_changed h
  · exact Template.updated_of_no_changes hnone
  · exact Template.updated_of_change hcurrent hchanges hchange

/-- The template of the provider is there afterwards, and those of other
providers are as they were. -/
theorem templates_after_template (h : desk.templateDecision v provider = .ok (t, entries))
    (q : String) : (v.store.enterAll entries).templates.get? q =
      if q = Request.id provider then some t else v.store.templates.get? q := by
  obtain ⟨-, ⟨hfound, rfl⟩ | ⟨-, rfl, rfl⟩⟩ := templateDecision_found h
  · split
    · rename_i hq
      rw [hq]
      exact hfound
    · rfl
  · exact Store.templates_saved v.store _ q

theorem templates_after_update {s : Store}
    (hcurrent : s.templates.get? current.provider = some current)
    (h : desk.updateDecision updates current = .ok (t, entries)) (q : String) :
    (s.enterAll entries).templates.get? q =
      if q = current.provider then some t else s.templates.get? q := by
  obtain ⟨-, rfl, rfl⟩ | ⟨changes, hchanges, hchange, rfl⟩ := updateDecision_changed h
  · split
    · rename_i hq
      rw [hq]
      exact hcurrent
    · rfl
  · rw [← Template.provider_of_change hchanges hchange]
    exact Store.templates_saved s t q

end Desk

/-- Templates that come from the desk are granted by validation. -/
theorem Template.FromDesk.sound {zones : Registry} {t : Template} (h : FromDesk zones t) :
    t.Sound zones := by
  induction h with
  | @asked desk w provider t zones_eq defaults _ answer ih =>
    subst zones_eq
    have hfollows := (desk.follows_template w.view provider w rfl).1
    obtain ⟨entries, hfound⟩ := Ruling.of_eq_of_answer (hfollows.symm.trans answer)
    exact Desk.sound_of_template defaults ih hfound
  | @updated desk w provider updates t zones_eq defaults _ answer ih =>
    subst zones_eq
    have hfollows := (desk.follows_updateTemplate w.view provider updates w rfl).1
    obtain ⟨current, created, written, hfound, hupdate, -⟩ :=
      Desk.updateRuling_eq_ok (hfollows.symm.trans answer)
    exact Desk.sound_of_update defaults (Desk.sound_of_template defaults ih hfound) hupdate

/-! ## Runs of updates -/

theorem Store.mem_templates_enterAll {s : Store} {entries : List Entry} {t : Template}
    (h : t ∈ (s.enterAll entries).templates.items) :
    t ∈ s.templates.items ∨ Entry.template t ∈ entries := by
  induction entries generalizing s with
  | nil => exact .inl h
  | cons e rest ih =>
    rcases ih h with h | h
    · cases e with
      | template t' =>
        rcases Shelf.mem_putInto h with rfl | h
        · exact .inr List.mem_cons_self
        · exact .inl h
      | blackout b => exact .inl h
      | noBlackout id => exact .inl h
      | booking key b => exact .inl h
    · exact .inr (List.mem_cons_of_mem _ h)

namespace Desk

variable {desk : Desk} {w : World}

/-- An update leaves only templates that come from the desk, also where it is
refused. -/
theorem fromDesk_after_update (hdefaults : desk.defaults.Valid desk.zones)
    (hstore : ∀ t ∈ w.store.templates.items, Template.FromDesk desk.zones t)
    (provider : Value) (updates : List (String × Value)) :
    (desk.updateTemplate provider updates).Ends w fun _ after =>
      ∀ t ∈ after.store.templates.items, Template.FromDesk desk.zones t := by
  obtain ⟨hanswer, hafter⟩ := desk.follows_updateTemplate w.view provider updates w rfl
  have hbefore : ∀ old, w.store.templates.get? (Request.id provider) = some old →
      Template.FromDesk desk.zones old := fun old hold => hstore old (Shelf.mem_of_get? hold)
  intro t ht
  rw [hafter] at ht
  rcases Store.mem_templates_enterAll ht with ht | ht
  · exact hstore t ht
  rcases Ruling.mem_entries_bind ht with ht | ⟨current, hcurrent, ht⟩
  · obtain ⟨created, entries, hfound, ht⟩ := Ruling.mem_entries_of ht
    obtain ⟨-, ⟨-, rfl⟩ | ⟨-, -, rfl⟩⟩ := templateDecision_found hfound
    · cases ht
    · cases List.mem_singleton.1 ht
      refine .asked rfl hdefaults hbefore ?_
      refine (desk.follows_template w.view provider w rfl).1.trans ?_
      rw [hfound]
      rfl
  · obtain ⟨created, hfound⟩ := Ruling.of_eq_of_answer hcurrent
    obtain ⟨changed, entries, hupdate, ht⟩ := Ruling.mem_entries_of ht
    obtain ⟨-, -, rfl⟩ | ⟨changes, -, -, rfl⟩ := updateDecision_changed hupdate
    · cases ht
    · cases List.mem_singleton.1 ht
      refine .updated rfl hdefaults hbefore (hanswer.trans ?_)
      unfold updateRuling Ruling.bind
      rw [hfound]
      dsimp only [Ruling.of]
      rw [hupdate]

/-- Updates that are asked for one after another. -/
def updatesInTurn (desk : Desk) (w : World)
    (requests : List (Value × List (String × Value))) : World :=
  requests.foldl (fun w request =>
    ((World.run (desk.updateTemplate request.1 request.2)).run w).2) w

theorem fromDesk_after_updates (hdefaults : desk.defaults.Valid desk.zones)
    (hstore : ∀ t ∈ w.store.templates.items, Template.FromDesk desk.zones t)
    (requests : List (Value × List (String × Value))) :
    ∀ t ∈ (desk.updatesInTurn w requests).store.templates.items,
      Template.FromDesk desk.zones t := by
  induction requests generalizing w with
  | nil => exact hstore
  | cons request rest ih =>
    exact ih (fromDesk_after_update hdefaults hstore request.1 request.2)

/-- An update that succeeds gives each field that it names what its own reader
makes of the value, and leaves the others as they were. What it answers is
stored, and granted by validation again. Templates of other providers stay. -/
theorem update_changes_only_what_it_names (desk : Desk) (w : World) (provider : Value)
    (updates : List (String × Value)) (hdefaults : desk.defaults.Valid desk.zones)
    (hstore : ∀ t ∈ w.store.templates.items, Template.FromDesk desk.zones t) :
    (desk.updateTemplate provider updates).Ends w fun answer after => ∀ t, answer = .ok t →
      Template.Updated desk.zones updates (desk.templateOf w.store (Request.id provider)) t ∧
        t.Sound desk.zones ∧ after.store.templates.get? (Request.id provider) = some t ∧
        ∀ other, other ≠ Request.id provider →
          after.store.templates.get? other = w.store.templates.get? other := by
  obtain ⟨hanswer, hafter⟩ := desk.follows_updateTemplate w.view provider updates w rfl
  intro t ht
  obtain ⟨current, created, written, hfound, hupdate, hentries⟩ :=
    updateRuling_eq_ok (hanswer.symm.trans ht)
  have hcurrent : current.Sound desk.zones := sound_of_template hdefaults
    (fun old hold => (hstore old (Shelf.mem_of_get? hold)).sound) hfound
  have hprevious : current = desk.templateOf w.store (Request.id provider) :=
    (templateDecision_found hfound).1
  have hprovider := (templateDecision_eq_ok hfound).1
  have hcreated : ∀ q, (w.store.enterAll created).templates.get? q =
      if q = Request.id provider then some current else w.store.templates.get? q :=
    templates_after_template hfound
  have hthere : (w.store.enterAll created).templates.get? current.provider = some current := by
    rw [hcreated, if_pos hprovider]
  have hwritten : ∀ q, ((w.store.enterAll created).enterAll written).templates.get? q =
      if q = Request.id provider then some t else w.store.templates.get? q := by
    intro q
    rw [templates_after_update hthere hupdate, hprovider, hcreated]
    split <;> rfl
  rw [hentries, Store.enterAll_append] at hafter
  rw [hafter, ← hprevious]
  refine ⟨updated_of_update hcurrent hupdate, sound_of_update hdefaults hcurrent hupdate, ?_,
    fun other hother => ?_⟩
  · exact (hwritten _).trans (if_pos rfl)
  · exact (hwritten other).trans (if_neg hother)

end Desk

/-! ## The small practice -/

namespace Practice

/-- The doctor, who works on Monday mornings, asks for the zone and the days
under the names of documents. -/
def firstUpdate : List (String × Value) :=
  [("timeZone", .text " UTC "),
    ("weekly", .list [DayHours.toValue FieldName.document ⟨1, [morning]⟩])]

/-- The nurse has a template too, and the doctor's hours are set. -/
def hoursSet : World :=
  ({} : Desk).updatesInTurn { clock := today } [(.text "nurse", []), (.text "doctor", firstUpdate)]

/-- Pauses of a quarter of an hour. The days are named, but not given. -/
def secondUpdate : List (String × Value) := [("buffer_min", .text "15"), ("weekly", .null)]

/-- The doctor's hours with the pauses, and with nothing else changed. -/
def hoursWithPauses : Template := { hours with weekly := [⟨1, [morning]⟩], bufferMinutes := 15 }

/-- The doctor's zone and days survive an update of the pauses. -/
theorem pauses_alone_are_updated :
    ({} : Desk).defaults.Valid ({} : Desk).zones ∧
      (∀ t ∈ hoursSet.store.templates.items, Template.FromDesk ({} : Desk).zones t) ∧
      (({} : Desk).updateTemplate (.text "doctor") secondUpdate).Ends hoursSet
        fun answer after => answer = .ok hoursWithPauses ∧
          after.store.templates.get? "doctor" = some hoursWithPauses ∧
          after.store.templates.get? "nurse" = hoursSet.store.templates.get? "nurse" := by
  have hdefaults : ({} : Desk).defaults.Valid ({} : Desk).zones :=
    ⟨by decide, by decide +kernel, by decide +kernel⟩
  have hstore : ∀ t ∈ hoursSet.store.templates.items, Template.FromDesk ({} : Desk).zones t := by
    unfold hoursSet
    exact Desk.fromDesk_after_updates hdefaults (List.forall_mem_nil _) _
  have hupdate := Desk.update_changes_only_what_it_names {} hoursSet (.text "doctor") secondUpdate
    hdefaults hstore
  have hanswer : ((World.run (({} : Desk).updateTemplate (.text "doctor") secondUpdate)).run
      hoursSet).1 = .ok hoursWithPauses := by
    apply toOption_eq_some.1
    decide +kernel
  have hid : Request.id (.text "doctor") = "doctor" := by decide +kernel
  obtain ⟨-, -, hstored, hothers⟩ := hupdate _ hanswer
  rw [hid] at hstored hothers
  exact ⟨hdefaults, hstore, hanswer, hstored, hothers "nurse" (by decide)⟩

end Practice
end Appointments
