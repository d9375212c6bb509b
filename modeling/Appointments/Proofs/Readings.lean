-- What records have been read from, field by field, where reading them has
-- gone well.
import Appointments.Proofs.Outcomes
import Appointments.Week
namespace Appointments

/-! ## Lists -/

namespace Value

variable {α : Type} {read : Value → Reading α} {vs : List Value} {xs : List α}

theorem readItems_eq_ok {i : Nat} :
    readItems read i vs = .ok xs ↔ List.Forall₂ (fun v x => read v = .ok x) vs xs := by
  induction vs generalizing i xs with
  | nil =>
    rw [List.forall₂_nil_left_iff]
    unfold readItems
    rw [Reading.ok.injEq, eq_comm]
  | cons v vs ih =>
    unfold readItems
    rw [List.forall₂_cons_left_iff, Reading.seq_eq_ok]
    constructor
    · rintro ⟨_, hcons, rest, hrest, rfl⟩
      obtain ⟨x, hx, rfl⟩ := Reading.map_eq_ok.1 hcons
      exact ⟨x, rest, Reading.under_eq_ok.1 hx, ih.1 hrest, rfl⟩
    · rintro ⟨x, rest, hx, hrest, rfl⟩
      exact ⟨_, Reading.map_eq_ok.2 ⟨x, Reading.under_eq_ok.2 hx, rfl⟩, rest, ih.2 hrest, rfl⟩

theorem readList_eq_ok {v : Value} :
    v.readList read = .ok xs ↔
      ∃ vs, v = .list vs ∧ List.Forall₂ (fun v x => read v = .ok x) vs xs := by
  cases v with
  | list vs => simp [readList, readItems_eq_ok]
  | _ => simp [readList, Reading.fail]

theorem readIntWithin_int {least greatest n : Int} (hleast : least ≤ n)
    (hgreatest : n ≤ greatest) :
    (Value.int n).readIntWithin (some least) (some greatest) = .ok n := by
  unfold readIntWithin
  rw [Reading.check_eq_ok]
  refine ⟨n, rfl, ?_⟩
  rw [if_neg (by simpa using hleast), if_neg (by simpa using hgreatest)]

end Value

/-! ## Ranges -/

theorem ClockTime.read_text (t : ClockTime) : ClockTime.read (.text t.text) = .ok t := by
  have htext : ClockTime.ofText t.text = .ok t := by
    unfold ofText
    split
    · rename_i n hn
      have hminutes : n = t.minutes := Except.ok.inj (hn.symm.trans t.spells)
      subst hminutes
      rfl
    · rename_i e he
      cases he.symm.trans t.spells
  unfold read
  rw [Reading.check_eq_ok]
  exact ⟨t.text, rfl, by rw [htext]⟩

theorem TimeRange.read_document (r : TimeRange) : TimeRange.read r.document = .ok r := by
  have hbetween : between r.start r.stop = .ok r := dif_pos r.start_lt
  have hfields : (Prod.mk <$> startField.required ClockTime.read
        [(startField.document, .text r.start.text), (stopField.document, .text r.stop.text)]
      <*> stopField.required ClockTime.read
        [(startField.document, .text r.start.text), (stopField.document, .text r.stop.text)]) =
      .ok (r.start, r.stop) := by
    rw [Reading.seq_eq_ok]
    refine ⟨_, Reading.map_eq_ok.2 ⟨_, Reading.under_eq_ok.2 r.start.read_text, rfl⟩, _,
      Reading.under_eq_ok.2 r.stop.read_text, rfl⟩
  unfold read
  exact Reading.check_eq_ok.2 ⟨_, hfields, hbetween⟩

/-! ## Templates -/

namespace Template

/-- The days of a week, each listed once. -/
def readWeekly (v : Value) : Reading (List DayHours) := (v.readList DayHours.read).check arrange

theorem readWeekly_eq_ok {v : Value} {found : List DayHours} :
    readWeekly v = .ok found ↔ ∃ vs, v = .list vs ∧
      ∃ days, List.Forall₂ (fun v d => DayHours.read v = .ok d) vs days ∧
        arrange days = .ok found := by
  unfold readWeekly
  simp only [Reading.check_eq_ok, Value.readList_eq_ok]
  constructor
  · rintro ⟨days, ⟨vs, rfl, hdays⟩, hfound⟩
    exact ⟨vs, rfl, days, hdays, hfound⟩
  · rintro ⟨vs, rfl, days, hdays, hfound⟩
    exact ⟨days, ⟨vs, rfl, hdays⟩, hfound⟩

/-- All fields but the days have been read. -/
structure ReadsRest (zones : Registry) (defaults : SlotSettings) (fields : List (String × Value))
    (t : Template) : Prop where
  provider : providerField.required Value.readSomeText fields = .ok t.provider
  timeZone :
    timeZoneField.withDefault defaults.timeZone (readTimeZone zones) fields = .ok t.timeZone
  slotMinutes : slotMinutesField.withDefault defaults.slotMinutes
    (Value.readIntWithin (some 15) (some 240)) fields = .ok t.slotMinutes
  bufferMinutes : bufferMinutesField.withDefault defaults.bufferMinutes
    (Value.readIntWithin (some 0) (some 120)) fields = .ok t.bufferMinutes
  isActive : isActiveField.withDefault true Value.readBool fields = .ok t.isActive

/-- Each field of a template has been read, or has its default. -/
theorem readFields_eq_ok {zones : Registry} {defaults : SlotSettings}
    {fields : List (String × Value)} {t : Template} :
    readFields zones defaults fields = .ok t ↔ ReadsRest zones defaults fields t ∧
      weeklyField.withDefault [] readWeekly fields = .ok t.weekly := by
  unfold readFields
  simp only [Reading.seq_eq_ok, Reading.map_eq_ok]
  constructor
  · rintro ⟨_, ⟨_, ⟨_, ⟨_, ⟨_, ⟨_, hprovider, rfl⟩, _, hzone, rfl⟩, _, hslot, rfl⟩, _, hbuffer,
      rfl⟩, _, hactive, rfl⟩, _, hweekly, rfl⟩
    exact ⟨⟨hprovider, hzone, hslot, hbuffer, hactive⟩, hweekly⟩
  · rintro ⟨⟨hprovider, hzone, hslot, hbuffer, hactive⟩, hweekly⟩
    exact ⟨_, ⟨_, ⟨_, ⟨_, ⟨_, ⟨_, hprovider, rfl⟩, _, hzone, rfl⟩, _, hslot, rfl⟩, _, hbuffer,
      rfl⟩, _, hactive, rfl⟩, _, hweekly, rfl⟩

end Template
end Appointments
