-- The template that a provider starts with, from settings that were accepted.
-- The settings are checked for its lengths but not for its zone. Where the zone
-- is known, the template serves as any other; where nobody knows it, the first
-- change and the first question about slots are refused.
import Appointments.Proofs.CalendarEdges
import Appointments.Proofs.StoredRecords
namespace Appointments

/-! ## Settings that were accepted -/

theorem Settings.checked_of_ofEnvironment {env : Environment} {s : Settings}
    (h : Settings.ofEnvironment env = .ok s) : s.slots.check = .ok () := by
  obtain ⟨slots, -, h⟩ := bind_eq_ok.1 h
  obtain ⟨bookings, -, h⟩ := bind_eq_ok.1 h
  obtain ⟨_, hcheck, h⟩ := bind_eq_ok.1 h
  obtain rfl := pure_eq_ok.1 h
  obtain ⟨_, hslots, -⟩ := bind_eq_ok.1 hcheck
  exact hslots

/-! ## Issues of a reading -/

namespace Reading

/-- The issues that were found. -/
def found : Reading α → List Issue
  | .issues found => found
  | .ok _ | .outOfRange => []

theorem mem_found_seq_left {f : Reading (α → β)} {x : Reading α} (hx : x.InRange) {i : Issue}
    (h : i ∈ f.found) : i ∈ (f <*> x).found := by
  cases f with
  | issues found =>
    cases x with
    | outOfRange => exact absurd rfl hx
    | ok a => exact h
    | issues more => exact List.mem_append_left more h
  | _ => cases h

theorem mem_found_seq_right {f : Reading (α → β)} {x : Reading α} (hf : f.InRange) {i : Issue}
    (h : i ∈ x.found) : i ∈ (f <*> x).found := by
  cases x with
  | issues more =>
    cases f with
    | outOfRange => exact absurd rfl hf
    | ok f => exact h
    | issues found => exact List.mem_append_right found h
  | _ => cases h

end Reading

namespace Template

open Reading

/-! ## Fields that are read anew -/

section
variable {α : Type} {changes updates : List (String × Value)} {f : FieldName}
  {read : Value → Reading α} {own : Value} {i : Issue}

/-- A field with the change of it in place of its own value. -/
def readAnew (changes : List (String × Value)) (f : FieldName) (read : Value → Reading α)
    (own : Value) : Reading α :=
  (read ((changes.lookup f.plain).getD own)).under (.field f.plain)

theorem inRange_readAnew (changes : List (String × Value)) (f : FieldName) (own : Value)
    (hread : ∀ v, (read v).InRange) : (readAnew changes f read own).InRange :=
  (hread _).under

theorem change_eq (zones : Registry) (defaults : SlotSettings) (t : Template)
    (changes : List (String × Value)) :
    t.change zones defaults changes =
      Template.mk <$> readAnew changes providerField Value.readSomeText (.text t.provider)
        <*> readAnew changes timeZoneField (readTimeZone zones) (.text t.timeZone)
        <*> readAnew changes slotMinutesField (Value.readIntWithin (some 15) (some 240))
          (.int t.slotMinutes)
        <*> readAnew changes bufferMinutesField (Value.readIntWithin (some 0) (some 120))
          (.int t.bufferMinutes)
        <*> readAnew changes isActiveField Value.readBool (.bool t.isActive)
        <*> readAnew changes weeklyField readWeekly
          (.list (t.weekly.map (DayHours.toValue FieldName.plain))) := rfl

/-- Issues of the zone are issues of the change. -/
theorem mem_found_change {zones : Registry} {defaults : SlotSettings} {t : Template}
    (h : i ∈ (readAnew changes timeZoneField (readTimeZone zones) (.text t.timeZone)).found) :
    i ∈ (t.change zones defaults changes).found := by
  rw [change_eq]
  refine mem_found_seq_left (inRange_readAnew _ _ _ inRange_readWeekly) ?_
  refine mem_found_seq_left (inRange_readAnew _ _ _ Value.inRange_readBool) ?_
  refine mem_found_seq_left (inRange_readAnew _ _ _ (Value.inRange_readIntWithin _ _)) ?_
  refine mem_found_seq_left (inRange_readAnew _ _ _ (Value.inRange_readIntWithin _ _)) ?_
  exact mem_found_seq_right ((inRange_readAnew _ _ _ Value.inRange_readSomeText).map _) h

/-- What the updates give for a field, if anything, is read. -/
def GivesReadable (updates : List (String × Value)) (f : FieldName) (read : Value → Reading α) :
    Prop := ∀ v, asked updates f = some v → ∃ x, read v = .ok x

/-- Where its own value is in order, a field is read anew if what is given for it
is read. -/
theorem readAnew_isOk_iff (hf : f ∈ changeable) (hchanges : changesOf [] updates = .ok changes)
    (hown : ∃ x, read own = .ok x) :
    (∃ x, readAnew changes f read own = .ok x) ↔ GivesReadable updates f read := by
  unfold readAnew GivesReadable
  simp only [Reading.under_eq_ok, lookup_eq_asked hf hchanges]
  cases asked updates f with
  | none => simpa using hown
  | some v => simp

end

/-! ## The first template -/

section
variable {zones : Registry} {defaults d : SlotSettings} {provider : String}
  {changes updates : List (String × Value)}

/-- What validation says of a zone that nobody knows. -/
def zoneIssue (name : FieldName → String) (zone : String) : Issue :=
  ⟨[.field (name timeZoneField)], .rule ("Invalid time zone " ++ Text.quoted (Text.strip zone))⟩

theorem readTimeZone_text (zones : Registry) (zone : String) :
    readTimeZone zones (.text zone) =
      if (zones.find? (Text.strip zone)).isSome then .ok (Text.strip zone)
      else .fail (.rule ("Invalid time zone " ++ Text.quoted (Text.strip zone))) := rfl

theorem readSomeText_text (h : provider ≠ "") : (Value.text provider).readSomeText = .ok provider :=
  Reading.check_eq_ok.2 ⟨_, rfl, if_neg (by simpa using h)⟩

/-- The lengths of checked settings are read as they are. -/
theorem read_lengths (hd : d.check = .ok ()) :
    (Value.int d.slotMinutes).readIntWithin (some 15) (some 240) = .ok d.slotMinutes ∧
      (Value.int d.bufferMinutes).readIntWithin (some 0) (some 120) = .ok d.bufferMinutes := by
  obtain ⟨hslot, hslot', hbuffer, hbuffer'⟩ := measured_initial hd ""
  exact ⟨Value.readIntWithin_int hslot hslot', Value.readIntWithin_int hbuffer hbuffer'⟩

/-- Validation accepts all fields of the first template but the zone, which has
to be known. -/
theorem read_document_initial (hd : d.check = .ok ()) (hprovider : provider ≠ "") :
    Template.read zones defaults (initial d provider).document =
      if (zones.find? (Text.strip d.timeZone)).isSome then
        .ok { initial d provider with timeZone := Text.strip d.timeZone }
      else .issues [zoneIssue FieldName.document d.timeZone] := by
  obtain ⟨hslot, hbuffer⟩ := read_lengths hd
  have hread : Template.read zones defaults (initial d provider).document =
      Template.mk <$> ((Value.text provider).readSomeText).under (.field providerField.document)
        <*> (readTimeZone zones (.text d.timeZone)).under (.field timeZoneField.document)
        <*> ((Value.int d.slotMinutes).readIntWithin (some 15) (some 240)).under
          (.field slotMinutesField.document)
        <*> ((Value.int d.bufferMinutes).readIntWithin (some 0) (some 120)).under
          (.field bufferMinutesField.document)
        <*> .ok true <*> .ok [] := rfl
  rw [hread, readSomeText_text hprovider, hslot, hbuffer, readTimeZone_text]
  split <;> rfl

/-- The first template passes validation unchanged just where its zone is a
known one as it stands. -/
theorem read_document_initial_eq_ok (hd : d.check = .ok ()) (hprovider : provider ≠ "") :
    Template.read zones defaults (initial d provider).document = .ok (initial d provider) ↔
      d.Valid zones := by
  rw [read_document_initial hd hprovider]
  constructor
  · intro h
    split at h
    · rename_i hknown
      have hzone : Text.strip d.timeZone = d.timeZone :=
        congrArg Template.timeZone (Reading.ok.inj h)
      rw [hzone] at hknown
      exact ⟨hd, hzone, hknown⟩
    · cases h
  · rintro ⟨-, htrimmed, hknown⟩
    rw [htrimmed, if_pos hknown]
    rfl

/-- Each value that the updates give is one that validation accepts. -/
structure GivesValid (zones : Registry) (updates : List (String × Value)) : Prop where
  timeZone : GivesReadable updates timeZoneField (readTimeZone zones)
  slotMinutes : GivesReadable updates slotMinutesField (Value.readIntWithin (some 15) (some 240))
  bufferMinutes : GivesReadable updates bufferMinutesField (Value.readIntWithin (some 0) (some 120))
  isActive : GivesReadable updates isActiveField Value.readBool
  weekly : GivesReadable updates weeklyField readWeekly

theorem givesValid_of_no_changes (h : changesOf [] updates = .ok []) :
    GivesValid zones updates := by
  have hnone {α : Type} {f : FieldName} {read : Value → Reading α} (hf : f ∈ changeable) :
      GivesReadable updates f read := by
    intro v hv
    rw [← lookup_eq_asked hf h] at hv
    cases hv
  exact ⟨hnone (by decide), hnone (by decide), hnone (by decide), hnone (by decide),
    hnone (by decide)⟩

/-- Where the zone is known, a change fails for what it gives only. -/
theorem change_isOk_iff (hd : d.check = .ok ()) (hprovider : provider ≠ "")
    (hknown : (zones.find? (Text.strip d.timeZone)).isSome = true)
    (hchanges : changesOf [] updates = .ok changes) :
    (∃ u, (initial d provider).change zones defaults changes = .ok u) ↔
      GivesValid zones updates := by
  obtain ⟨hslot, hbuffer⟩ := read_lengths hd
  have hname : readAnew changes providerField Value.readSomeText (.text provider) =
      .ok provider := by
    unfold readAnew
    rw [lookup_provider_eq_none hchanges, Option.getD_none, readSomeText_text hprovider]
    rfl
  have hzone : readTimeZone zones (.text d.timeZone) = .ok (Text.strip d.timeZone) := by
    rw [readTimeZone_text, if_pos hknown]
  have htimeZone := readAnew_isOk_iff (f := timeZoneField) (by decide) hchanges ⟨_, hzone⟩
  have hslotMinutes := readAnew_isOk_iff (f := slotMinutesField) (by decide) hchanges ⟨_, hslot⟩
  have hbufferMinutes :=
    readAnew_isOk_iff (f := bufferMinutesField) (by decide) hchanges ⟨_, hbuffer⟩
  have hisActive := readAnew_isOk_iff (f := isActiveField) (by decide) hchanges
    ⟨true, show Value.readBool (.bool true) = .ok true from rfl⟩
  have hweekly := readAnew_isOk_iff (f := weeklyField) (by decide) hchanges
    ⟨[], show readWeekly (.list []) = .ok [] from rfl⟩
  constructor
  · rintro ⟨u, hu⟩
    obtain ⟨hrest, hdays⟩ := readFields_eq_ok.1 hu
    exact ⟨htimeZone.1 ⟨_, hrest.timeZone⟩, hslotMinutes.1 ⟨_, hrest.slotMinutes⟩,
      hbufferMinutes.1 ⟨_, hrest.bufferMinutes⟩, hisActive.1 ⟨_, hrest.isActive⟩,
      hweekly.1 ⟨_, hdays⟩⟩
  · rintro ⟨hgivesZone, hgivesSlot, hgivesBuffer, hgivesActive, hgivesWeekly⟩
    obtain ⟨zone, hzone⟩ := htimeZone.2 hgivesZone
    obtain ⟨slot, hslot⟩ := hslotMinutes.2 hgivesSlot
    obtain ⟨buffer, hbuffer⟩ := hbufferMinutes.2 hgivesBuffer
    obtain ⟨active, hactive⟩ := hisActive.2 hgivesActive
    obtain ⟨days, hdays⟩ := hweekly.2 hgivesWeekly
    exact ⟨⟨provider, zone, slot, buffer, active, days⟩,
      readFields_eq_ok.2 ⟨⟨hname, hzone, hslot, hbuffer, hactive⟩, hdays⟩⟩

/-- Where nobody knows the zone, a change that gives no other is refused. -/
theorem zoneIssue_of_change (hunknown : (zones.find? (Text.strip d.timeZone)).isSome = false)
    (hchanges : changesOf [] updates = .ok changes) (hasked : asked updates timeZoneField = none) :
    ∃ found, (initial d provider).change zones defaults changes = .issues found ∧
      zoneIssue FieldName.plain d.timeZone ∈ found := by
  have hkept : changes.lookup timeZoneField.plain = none := by
    rw [lookup_eq_asked (by decide) hchanges, hasked]
  have hzone := readTimeZone_text zones d.timeZone
  rw [if_neg (by simpa using hunknown)] at hzone
  have hmem : zoneIssue FieldName.plain d.timeZone ∈
      ((initial d provider).change zones defaults changes).found := by
    refine mem_found_change ?_
    unfold readAnew
    rw [hkept, Option.getD_none]
    dsimp only [initial]
    rw [hzone]
    exact List.mem_singleton.2 rfl
  cases hchange : (initial d provider).change zones defaults changes with
  | issues found =>
    rw [hchange] at hmem
    exact ⟨found, rfl, hmem⟩
  | _ =>
    rw [hchange] at hmem
    cases hmem

end
end Template

/-! ## Questions about slots -/

theorem Request.zoneName_of_not_given {given : Value} (h : given.isGiven = false)
    (default : String) : zoneName given default = .ok (Text.strip default) := by
  unfold zoneName
  rw [h]
  rfl

/-- Hours on no day leave no slots. -/
theorem Openings.slots_of_no_days {t : Template} (ht : t.weekly = []) {zone : Zone}
    {blackouts : List Blackout} {bookings : List Booking} {first last : Day} {found : Openings}
    (h : between t zone blackouts bookings first last = .ok found) : found.slots = [] := by
  have hranges : ∀ weekday, t.rangesFor weekday = [] := by
    intro weekday
    unfold Template.rangesFor
    rw [ht]
    rfl
  obtain ⟨length, -, h⟩ := bind_eq_ok.1 h
  obtain ⟨pause, -, h⟩ := bind_eq_ok.1 h
  obtain ⟨working, hworking, h⟩ := bind_eq_ok.1 h
  obtain ⟨busy, -, h⟩ := bind_eq_ok.1 h
  have hnone : working = [] := by
    rw [List.eq_nil_iff_forall_not_mem]
    intro a ha
    obtain ⟨day, -, -, r, hr, -⟩ := (mem_workingTime hworking).1 ha
    rw [hranges] at hr
    cases hr
  subst hnone
  cases h
  rfl

namespace Desk

variable {desk : Desk} {v : View} {t : Template} {provider : String}
  {first last : Request.DayInput} {given : Value}

theorem slotsListed_of_no_zone {why : Failure} (ht : v.store.templates.get? provider = some t)
    (hactive : t.isActive = true) (hgiven : given.isGiven = false)
    (hzone : Request.zone desk.zones t.timeZone = .error why) :
    desk.slotsListed v provider first last given = .error why := by
  unfold slotsListed
  rw [ht, Option.filter_some, if_pos hactive]
  dsimp only
  rw [Request.zoneName_of_not_given hgiven, ok_bind, Request.zone_strip, hzone]
  rfl

theorem atMost_nil (desk : Desk) : desk.atMost [] = [] := by
  unfold atMost Store.page
  split <;> simp

theorem slotsListed_of_no_days (ht : v.store.templates.get? provider = some t)
    (hactive : t.isActive = true) (hmeasured : t.Measured) (hdays : t.weekly = [])
    (hbookings : ∀ b ∈ v.store.bookings, b.provider = t.provider → b.status ≠ .cancelled →
      ∃ x, b.interval = .ok x)
    (hgiven : given.isGiven = false) {zone : Zone}
    (hzone : Request.zone desk.zones t.timeZone = .ok zone) (hnear : zone.rules.NearUtc) {d e : Day}
    (hfirst : firstDay zone v.now first = .ok d) (hlast : desk.lastDay d last = .ok e)
    (hcheck : desk.checkDays d e = .ok ()) (hlow : 2 ≤ d.number) (hhigh : e.number + 4 ≤ dayCount) :
    desk.slotsListed v provider first last given = .ok [] := by
  obtain ⟨found, hfound⟩ : ∃ found, v.store.openings t zone d e [] = .ok found :=
    Store.openings_isOk hmeasured hnear hlow hhigh fun b hb =>
      hbookings b hb.stored hb.provider_eq hb.takes
  rw [← Request.zone_strip] at hzone
  rw [slotsListed_eq ht hactive (Request.zoneName_of_not_given hgiven _) hzone hfirst hlast hcheck,
    hfound]
  obtain ⟨w, -, hopenings⟩ := bind_eq_ok.1 hfound
  obtain ⟨bookings, -, hbetween⟩ := bind_eq_ok.1 hopenings
  have hnone := Openings.slots_of_no_days hdays hbetween
  rw [orFail_eq_ok, map_eq_ok]
  exact ⟨found, rfl, by rw [hnone]; exact desk.atMost_nil⟩

/-! ## The desk and the first template -/

theorem templateDecision_of_stored {asked : Value} (hne : Request.id asked ≠ "")
    (ht : v.store.templates.get? (Request.id asked) = some t) :
    desk.templateDecision v asked = .ok (t, []) := by
  unfold templateDecision
  rw [Request.requiredId_eq hne, ok_bind, ht]
  rfl

theorem updateRuling_of_stored {asked : Value} (hne : Request.id asked ≠ "")
    (ht : v.store.templates.get? (Request.id asked) = some t) (updates : List (String × Value)) :
    desk.updateRuling v asked updates = .of (desk.updateDecision updates t) := by
  unfold updateRuling
  rw [templateDecision_of_stored hne ht]
  rfl

/-- A call for a template that is not there creates the first one. -/
theorem ends_first_template (desk : Desk) {w : World} {asked : Value} (hne : Request.id asked ≠ "")
    (hnone : w.store.templates.get? (Request.id asked) = none) :
    (desk.template asked).Ends w fun answer after =>
      answer = .ok (Template.initial desk.defaults (Request.id asked)) ∧
        after.store = w.store.saveTemplate (Template.initial desk.defaults (Request.id asked)) := by
  refine (desk.follows_template w.view asked w rfl).mono fun answer after hends => ?_
  unfold templateDecision at hends
  have hview : w.view.store.templates.get? (Request.id asked) = none := hnone
  rw [Request.requiredId_eq hne, ok_bind, hview] at hends
  exact hends

/-- An update of a template succeeds if each value that it gives is valid by
itself, as long as the template is the stored one. -/
def UpdatesByGiven (desk : Desk) (asked : Value) (t : Template) : Prop :=
  ∀ (w : World) (updates changes : List (String × Value)),
    w.store.templates.get? (Request.id asked) = some t →
    Template.changesOf [] updates = .ok changes →
    (desk.updateTemplate asked updates).Ends w fun answer _ =>
      (∃ u, answer = .ok u) ↔ Template.GivesValid desk.zones updates

/-- Every update that gives anything but another zone is refused for the zone. -/
def RefusesUpdates (desk : Desk) (asked : Value) (t : Template) : Prop :=
  ∀ (w : World) (updates changes : List (String × Value)),
    w.store.templates.get? (Request.id asked) = some t →
    Template.changesOf [] updates = .ok changes → changes ≠ [] →
    Template.asked updates Template.timeZoneField = none →
    (desk.updateTemplate asked updates).Ends w fun answer after =>
      after.store = w.store ∧ ∃ found, answer = .error (.rejected (.badTemplate found)) ∧
        Template.zoneIssue FieldName.plain t.timeZone ∈ found

/-- A question about slots that names no zone is answered, if it is about days
that may be asked for and that are away from the edges of the calendar. There
are no slots yet. -/
def AnswersQueries (desk : Desk) (asked : Value) (t : Template) : Prop :=
  ∃ zone, Request.zone desk.zones t.timeZone = .ok zone ∧
    ∀ (w : World) (first last : Request.DayInput) (given : Value) (d e : Day),
      w.store.templates.get? (Request.id asked) = some t →
      (∀ b ∈ w.store.bookings, b.provider = t.provider → b.status ≠ .cancelled →
        ∃ x, b.interval = .ok x) →
      given.isGiven = false → firstDay zone w.clock first = .ok d → desk.lastDay d last = .ok e →
      desk.checkDays d e = .ok () → 2 ≤ d.number → e.number + 4 ≤ dayCount →
      (desk.freeSlots asked first last given).Ends w fun answer _ => answer = .ok []

/-- Every question about slots that names no zone fails alike. -/
def RefusesQueries (desk : Desk) (asked : Value) (t : Template) (why : Failure) : Prop :=
  ∀ (w : World) (first last : Request.DayInput) (given : Value),
    w.store.templates.get? (Request.id asked) = some t → given.isGiven = false →
    (desk.freeSlots asked first last given).Ends w fun answer _ => answer = .error why

section
variable {d : SlotSettings} {asked : Value}

theorem updatesByGiven_initial (hd : d.check = .ok ()) (hne : Request.id asked ≠ "")
    (hknown : (desk.zones.find? (Text.strip d.timeZone)).isSome = true) :
    desk.UpdatesByGiven asked (Template.initial d (Request.id asked)) := by
  intro w updates changes ht hchanges
  refine (desk.follows_updateTemplate w.view asked updates w rfl).mono fun answer _ hends => ?_
  obtain ⟨rfl, -⟩ := hends
  rw [updateRuling_of_stored (v := w.view) hne ht]
  have hiff : (∃ u, (Template.initial d (Request.id asked)).change desk.zones desk.defaults
      changes = .ok u) ↔ Template.GivesValid desk.zones updates :=
    Template.change_isOk_iff hd hne hknown hchanges
  unfold updateDecision
  rw [hchanges]
  cases changes with
  | nil => exact iff_of_true ⟨_, rfl⟩ (Template.givesValid_of_no_changes hchanges)
  | cons change rest =>
    rw [← hiff]
    dsimp only
    cases (Template.initial d (Request.id asked)).change desk.zones desk.defaults
        (change :: rest) with
    | ok u => simp [Ruling.of]
    | issues found => simp [Ruling.of]
    | outOfRange => simp [Ruling.of]

theorem refusesUpdates_initial (hne : Request.id asked ≠ "")
    (hunknown : (desk.zones.find? (Text.strip d.timeZone)).isSome = false) :
    desk.RefusesUpdates asked (Template.initial d (Request.id asked)) := by
  intro w updates changes ht hchanges hsome hasked
  refine (desk.follows_updateTemplate w.view asked updates w rfl).mono fun answer _ hends => ?_
  obtain ⟨rfl, hafter⟩ := hends
  rw [updateRuling_of_stored (v := w.view) hne ht] at hafter ⊢
  obtain ⟨found, hchange, hissue⟩ : ∃ found, (Template.initial d (Request.id asked)).change
      desk.zones desk.defaults changes = .issues found ∧
        Template.zoneIssue FieldName.plain d.timeZone ∈ found :=
    Template.zoneIssue_of_change hunknown hchanges hasked
  have hdecision : desk.updateDecision updates (Template.initial d (Request.id asked)) =
      .error (.rejected (.badTemplate found)) := by
    unfold updateDecision
    rw [hchanges]
    cases changes with
    | nil => exact absurd rfl hsome
    | cons change rest =>
      dsimp only
      rw [hchange]
  rw [hdecision] at hafter ⊢
  exact ⟨hafter, found, rfl, hissue⟩

theorem answersQueries_initial (hd : d.check = .ok ()) {zone : Zone}
    (hzone : Request.zone desk.zones d.timeZone = .ok zone) (hnear : zone.rules.NearUtc) :
    desk.AnswersQueries asked (Template.initial d (Request.id asked)) := by
  refine ⟨zone, hzone, ?_⟩
  intro w first last given e f ht hbookings hgiven hfirst hlast hcheck hlow hhigh
  refine (reports_slotsListed asked first last given w rfl).mono fun answer _ hends => ?_
  obtain ⟨rfl, -⟩ := hends
  exact slotsListed_of_no_days ht rfl (Template.measured_initial hd _) rfl hbookings hgiven hzone
    hnear hfirst hlast hcheck hlow hhigh

theorem refusesQueries_initial {why : Failure}
    (hzone : Request.zone desk.zones d.timeZone = .error why) :
    desk.RefusesQueries asked (Template.initial d (Request.id asked)) why := by
  intro w first last given ht hgiven
  refine (reports_slotsListed asked first last given w rfl).mono fun answer _ hends => ?_
  obtain ⟨rfl, -⟩ := hends
  exact slotsListed_of_no_zone ht rfl hgiven hzone

end
end Desk

/-! ## Zones that are listed -/

/-- The zones that the registry lists go by their names, and their clocks stay
near UTC. -/
def Registry.Listed (zones : Registry) : Prop :=
  ∀ z ∈ zones.zones, z.rules.NearUtc ∧ ∃ found, Request.zone zones z.name = .ok found

/-- The name stands for itself: it is ASCII without blanks around it, and spells
no sign out. -/
def Registry.StandsAsIs (name : String) : Prop :=
  Text.stripOrNone name = some name ∧ name.toList.all (·.toNat < 0x80) = true ∧
    withSigns name = name

instance (name : String) : Decidable (Registry.StandsAsIs name) :=
  inferInstanceAs (Decidable (_ ∧ _))

/-- A zone that is listed under such a name is found by it, or another one that
differs from it in case only. -/
theorem Registry.zone_of_standsAsIs {zones : Registry} (hutc : (zones.find? "UTC").isSome = true)
    {z : Zone} (hz : z ∈ zones.zones) (hname : StandsAsIs z.name) :
    ∃ found, Request.zone zones z.name = .ok found := by
  obtain ⟨hstrip, hascii, hsigns⟩ := hname
  have hnamed : (zones.named? z.name).isSome = true := by
    unfold named?
    by_cases hupper : z.name.toUpper = "UTC"
    · rw [if_pos hupper]
      exact hutc
    · rw [if_neg hupper, if_pos hascii, hsigns]
      dsimp only
      rw [List.find?_isSome]
      exact ⟨z, hz, by simp⟩
  obtain ⟨found, hfound⟩ := Option.isSome_iff_exists.1 hnamed
  refine ⟨found, ?_⟩
  unfold Request.zone
  rw [hstrip]
  dsimp only
  rw [hfound]

theorem Registry.listed_standard : standard.Listed := by
  have hall : ∀ z ∈ standard.zones, StandsAsIs z.name := by decide +kernel
  intro z hz
  exact ⟨(spaced_of_mem z hz).2, zone_of_standsAsIs (by decide +kernel) hz (hall z hz)⟩

theorem Registry.Listed.zone_of_known {zones : Registry} (h : zones.Listed) {name : String}
    (hknown : (zones.find? (Text.strip name)).isSome = true) :
    ∃ zone, Request.zone zones name = .ok zone ∧ zone.rules.NearUtc := by
  obtain ⟨z, hz⟩ := Option.isSome_iff_exists.1 hknown
  obtain ⟨-, zone, hzone⟩ := h z (List.mem_of_find?_eq_some hz)
  have hname : z.name = Text.strip name := by simpa using List.find?_some hz
  rw [hname, Request.zone_strip] at hzone
  exact ⟨zone, hzone, (h zone (Request.mem_zones_of_zone hzone)).1⟩

/-! ## Defaults of accepted settings -/

/-- From settings that are accepted, the desk gives every new provider a first
template. It passes validation unchanged just where the default zone is a known
one as it stands. Where the zone is known but for blanks, updates fail for what
they give only and questions about slots are answered. Where nobody knows the
zone, updates that give no other one are refused, and so are the questions. -/
theorem Desk.defaults_serve_where_zone_known {env : Environment} {s : Settings}
    (hs : Settings.ofEnvironment env = .ok s) {desk : Desk} (hdesk : desk.defaults = s.slots)
    (hzones : desk.zones.Listed) {asked : Value} (hasked : Request.id asked ≠ "") :
    ∃ t, t = Template.initial s.slots (Request.id asked) ∧
      (∀ w : World, w.store.templates.get? (Request.id asked) = none →
        (desk.template asked).Ends w fun answer after =>
          answer = .ok t ∧ after.store = w.store.saveTemplate t) ∧
      (Template.read desk.zones desk.defaults t.document = .ok t ↔ s.slots.Valid desk.zones) ∧
      ((desk.zones.find? (Text.strip t.timeZone)).isSome = true →
        desk.UpdatesByGiven asked t ∧ desk.AnswersQueries asked t) ∧
      ((desk.zones.find? (Text.strip t.timeZone)).isSome = false →
        desk.RefusesUpdates asked t ∧ ∀ why, Request.zone desk.zones t.timeZone = .error why →
          desk.RefusesQueries asked t why) := by
  have hchecked := Settings.checked_of_ofEnvironment hs
  refine ⟨_, rfl, fun w hnone => ?_, Template.read_document_initial_eq_ok hchecked hasked,
    fun hknown => ?_, fun hunknown => ?_⟩
  · rw [← hdesk]
    exact ends_first_template desk hasked hnone
  · obtain ⟨zone, hzone, hnear⟩ := hzones.zone_of_known hknown
    exact ⟨updatesByGiven_initial hchecked hasked hknown,
      answersQueries_initial hchecked hzone hnear⟩
  · exact ⟨refusesUpdates_initial hasked hunknown, fun why => refusesQueries_initial⟩

/-! ## The small practice -/

namespace Practice

/-- Slots of three quarters of an hour, by the clocks of London. -/
def londonEnvironment : Environment :=
  [("DEFAULT_TIME_ZONE", "Europe/London"), ("DEFAULT_SLOT_DURATION_MIN", "45")]

def londonSettings : Settings := { slots := { timeZone := "Europe/London", slotMinutes := 45 } }

/-- The doctor's first template from these settings. -/
def londonHours : Template := Template.initial londonSettings.slots "doctor"

def londonDesk : Desk := Desk.ofSettings londonSettings

/-- By the clocks of London the first template serves as it is. -/
theorem london_defaults_serve :
    Settings.ofEnvironment londonEnvironment = .ok londonSettings ∧
      (londonDesk.template (.text " doctor ")).Ends { clock := today } (fun answer after =>
        answer = .ok londonHours ∧ after.store = ({} : Store).saveTemplate londonHours) ∧
      Template.read .standard londonSettings.slots londonHours.document = .ok londonHours ∧
      londonDesk.UpdatesByGiven (.text " doctor ") londonHours ∧
      londonDesk.AnswersQueries (.text " doctor ") londonHours := by
  have hsettings : Settings.ofEnvironment londonEnvironment = .ok londonSettings := by
    decide +kernel
  have hdoctor : Request.id (.text " doctor ") = "doctor" := by decide +kernel
  have hvalid : londonSettings.slots.Valid .standard :=
    ⟨by decide, by decide +kernel, by decide +kernel⟩
  have hknown : (Registry.standard.find? (Text.strip londonHours.timeZone)).isSome = true := by
    decide +kernel
  obtain ⟨t, ht, hfirst, hread, hserves, -⟩ :=
    @Desk.defaults_serve_where_zone_known londonEnvironment londonSettings hsettings londonDesk rfl
      Registry.listed_standard (.text " doctor ") (by rw [hdoctor]; decide)
  rw [hdoctor] at ht
  subst ht
  obtain ⟨hupdates, hqueries⟩ := hserves hknown
  exact ⟨hsettings, hfirst _ rfl, hread.2 hvalid, hupdates, hqueries⟩

/-- No zone of the earth. -/
def marsEnvironment : Environment := [("DEFAULT_TIME_ZONE", "Mars/Olympus")]

def marsSettings : Settings := { slots := { timeZone := "Mars/Olympus" } }

def marsHours : Template := Template.initial marsSettings.slots "doctor"

def marsDesk : Desk := Desk.ofSettings marsSettings

/-- A zone that nobody knows is accepted as the default. The template that is
made of it does not pass validation, and an update of the pauses and a question
about slots are refused for it. -/
theorem mars_defaults_do_not_serve :
    Settings.ofEnvironment marsEnvironment = .ok marsSettings ∧
      (¬ ∀ env s, Settings.ofEnvironment env = .ok s → ∀ provider ≠ "",
        Template.read .standard s.slots (Template.initial s.slots provider).document =
          .ok (Template.initial s.slots provider)) ∧
      marsDesk.RefusesUpdates (.text "doctor") marsHours ∧
      marsDesk.RefusesQueries (.text "doctor") marsHours
        (.rejected (.unknownTimeZone "Mars/Olympus")) := by
  have hsettings : Settings.ofEnvironment marsEnvironment = .ok marsSettings := by decide +kernel
  have hdoctor : Request.id (.text "doctor") = "doctor" := by decide +kernel
  have hunknown : (Registry.standard.find? (Text.strip "Mars/Olympus")).isSome = false := by
    decide +kernel
  have hzone : Request.zone .standard "Mars/Olympus" =
      .error (.rejected (.unknownTimeZone "Mars/Olympus")) := by
    decide +kernel
  refine ⟨hsettings, fun hclaim => ?_, ?_, ?_⟩
  · have hread := hclaim _ _ hsettings "doctor" (by decide)
    revert hread
    decide +kernel
  · have hrefuses : marsDesk.RefusesUpdates (.text "doctor")
        (Template.initial marsSettings.slots (Request.id (.text "doctor"))) :=
      Desk.refusesUpdates_initial (by rw [hdoctor]; decide) hunknown
    rwa [hdoctor] at hrefuses
  · have hrefuses : marsDesk.RefusesQueries (.text "doctor")
        (Template.initial marsSettings.slots (Request.id (.text "doctor")))
        (.rejected (.unknownTimeZone "Mars/Olympus")) := Desk.refusesQueries_initial hzone
    rwa [hdoctor] at hrefuses

end Practice
end Appointments
