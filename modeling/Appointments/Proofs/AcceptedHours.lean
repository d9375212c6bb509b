-- Which weekly hours are accepted: those whose ranges are disjoint and whose
-- days are listed once, in whatever order they are given. What is kept of
-- them does not show the order.
import Appointments.Proofs.Merging
import Appointments.Proofs.Readings
import Appointments.Proofs.Schedules
import Mathlib.Data.List.Chain
import Mathlib.Data.List.Nodup
import Mathlib.Data.List.Perm.Basic
namespace Appointments

/-! ## Disjoint ranges -/

namespace TimeRange

variable {r s : TimeRange} {ranges others : List TimeRange}

/-- A minute of the day lies in the range, to which its end does not belong. -/
def Contains (r : TimeRange) (minute : Nat) : Prop :=
  r.start.minutes ≤ minute ∧ minute < r.stop.minutes

/-- No minute lies in both ranges. -/
def Disjoint (r s : TimeRange) : Prop := ∀ minute, r.Contains minute → ¬ s.Contains minute

theorem contains_start (r : TimeRange) : r.Contains r.start.minutes :=
  ⟨Nat.le_refl _, r.start_lt⟩

theorem disjoint_iff : r.Disjoint s ↔
    r.stop.minutes ≤ s.start.minutes ∨ s.stop.minutes ≤ r.start.minutes := by
  constructor
  · intro h
    have hr := h r.start.minutes r.contains_start
    have hs : ¬ r.Contains s.start.minutes := fun hin => h _ hin s.contains_start
    unfold Contains at hr hs
    omega
  · rintro hapart minute hr hs
    unfold Contains at hr hs
    omega

instance : DecidableRel Disjoint := fun _ _ => decidable_of_iff _ disjoint_iff.symm

theorem Disjoint.symm (h : r.Disjoint s) : s.Disjoint r := fun minute hs hr => h minute hr hs

/-- A range that starts when another one does is not disjoint from it. -/
theorem not_disjoint_of_start_eq (h : r.start.minutes = s.start.minutes) : ¬ r.Disjoint s := by
  intro hdisjoint
  refine hdisjoint _ r.contains_start ?_
  rw [h]
  exact s.contains_start

theorem startsNotAfter_iff : r.startsNotAfter s = true ↔ r.start.minutes ≤ s.start.minutes := by
  simp [startsNotAfter]

theorem startsNotAfter_total (r s : TimeRange) :
    r.startsNotAfter s = true ∨ s.startsNotAfter r = true := by
  rw [startsNotAfter_iff, startsNotAfter_iff]
  omega

theorem startsNotAfter_trans (r s u : TimeRange) (hrs : r.startsNotAfter s = true)
    (hsu : s.startsNotAfter u = true) : r.startsNotAfter u = true := by
  rw [startsNotAfter_iff] at *
  omega

/-- None of the ranges starts before those ahead of it have ended. -/
def InOrder (ranges : List TimeRange) : Prop :=
  ranges.Pairwise fun r s => r.stop.minutes ≤ s.start.minutes

instance (ranges : List TimeRange) : Decidable (InOrder ranges) :=
  inferInstanceAs (Decidable (ranges.Pairwise fun r s => r.stop.minutes ≤ s.start.minutes))

theorem InOrder.disjoint (h : InOrder ranges) : ranges.Pairwise Disjoint :=
  h.imp fun hle => disjoint_iff.2 (.inl hle)

theorem InOrder.starts_lt (h : InOrder ranges) :
    ranges.Pairwise fun r s => r.start.minutes < s.start.minutes :=
  h.imp fun {r _} hle => Nat.lt_of_lt_of_le r.start_lt hle

/-- Of two disjoint ranges, the one that starts first has ended before the
other one starts. -/
theorem inOrder_of_disjoint
    (hsorted : ranges.Pairwise fun r s => r.startsNotAfter s = true)
    (h : ranges.Pairwise Disjoint) : InOrder ranges := by
  refine hsorted.imp₂ (fun r s hstart hdisjoint => ?_) h
  have hr := r.start_lt
  have hs := s.start_lt
  rw [startsNotAfter_iff] at hstart
  rcases disjoint_iff.1 hdisjoint with hle | hle <;> omega

/-- Disjoint ranges come in the same order out of every sorting. -/
theorem sorted_eq_of_perm (hperm : ranges.Perm others) (h : ranges.Pairwise Disjoint) :
    ranges.sortedBy startsNotAfter = others.sortedBy startsNotAfter := by
  have hsymm : Std.Symm Disjoint := ⟨fun _ _ => Disjoint.symm⟩
  refine List.sortedBy_eq_of_perm startsNotAfter_total startsNotAfter_trans hperm
    fun r hr s hs hrs hsr => ?_
  rw [startsNotAfter_iff] at hrs hsr
  by_contra hne
  exact not_disjoint_of_start_eq (Nat.le_antisymm hrs hsr) (h.forall hr hs hne)

end TimeRange

namespace DayHours

variable {ranges others found : List TimeRange}

theorem inOrder_of_overlap? (h : overlap? ranges = none) : TimeRange.InOrder ranges := by
  have htrans : IsTrans TimeRange fun r s => r.stop.minutes ≤ s.start.minutes :=
    ⟨fun r s u hrs hsu => by have := s.start_lt; omega⟩
  unfold TimeRange.InOrder
  rw [← List.isChain_iff_pairwise]
  fun_induction overlap? ranges with
  | case1 a b rest hlt => cases h
  | case2 a b rest hnot ih => exact List.isChain_cons_cons.2 ⟨Nat.le_of_not_lt hnot, ih h⟩
  | case3 ranges hshort =>
    match ranges with
    | [] => exact .nil
    | [a] => exact .singleton a
    | a :: b :: rest => exact (hshort a b rest rfl).elim

theorem overlap?_eq_none (h : TimeRange.InOrder ranges) : overlap? ranges = none := by
  fun_induction overlap? ranges with
  | case1 a b rest hlt =>
    have hle := (List.pairwise_cons.1 h).1 b List.mem_cons_self
    omega
  | case2 a b rest hnot ih => exact ih (List.pairwise_cons.1 h).2
  | case3 => rfl

/-- Neighbours are compared only, but of ranges in ascending order that is
enough. -/
theorem arrange_eq_ok : arrange ranges = .ok found ↔
    ranges.Pairwise TimeRange.Disjoint ∧ ranges.sortedBy TimeRange.startsNotAfter = found := by
  have hperm := List.sortedBy_perm TimeRange.startsNotAfter ranges
  have hsorted :=
    List.pairwise_sortedBy TimeRange.startsNotAfter_total TimeRange.startsNotAfter_trans ranges
  have hnone : overlap? (ranges.sortedBy TimeRange.startsNotAfter) = none ↔
      ranges.Pairwise TimeRange.Disjoint := by
    rw [← hperm.pairwise_iff TimeRange.Disjoint.symm]
    exact ⟨fun h => (inOrder_of_overlap? h).disjoint,
      fun h => overlap?_eq_none (TimeRange.inOrder_of_disjoint hsorted h)⟩
  rw [← hnone]
  unfold arrange
  dsimp only
  split
  · rename_i h
    simp [h]
  · rename_i h
    simp [h, Reading.fail]

theorem inOrder_of_arrange (h : arrange ranges = .ok found) : TimeRange.InOrder found := by
  obtain ⟨hdisjoint, rfl⟩ := arrange_eq_ok.1 h
  refine TimeRange.inOrder_of_disjoint (List.pairwise_sortedBy TimeRange.startsNotAfter_total
    TimeRange.startsNotAfter_trans ranges) ?_
  exact ((List.sortedBy_perm _ ranges).pairwise_iff TimeRange.Disjoint.symm).2 hdisjoint

theorem arrange_eq_ok_of_perm (hperm : ranges.Perm others) :
    arrange ranges = .ok found ↔ arrange others = .ok found := by
  rw [arrange_eq_ok, arrange_eq_ok, hperm.pairwise_iff TimeRange.Disjoint.symm, and_congr_right_iff]
  intro h
  rw [TimeRange.sorted_eq_of_perm hperm ((hperm.pairwise_iff TimeRange.Disjoint.symm).2 h)]

/-! ## Days as they are given -/

/-- The value describes a day by its weekday and by its ranges, in the order in
which they are given. Each of the ranges is valid by itself. -/
def Gives (v : Value) (d : DayHours) : Prop :=
  ∃ fields, v = .object fields ∧
    (∃ n : Int, weekdayField.required (Value.readIntWithin (some 0) (some 6)) fields = .ok n ∧
      n.toNat = d.weekday) ∧
    rangesField.withDefault [] (Value.readList TimeRange.read) fields = .ok d.ranges

theorem withDefault_arrange_eq_ok {fields : List (String × Value)} :
    rangesField.withDefault [] (fun v => (v.readList TimeRange.read).check arrange) fields =
        .ok found ↔
      ∃ ranges, rangesField.withDefault [] (Value.readList TimeRange.read) fields = .ok ranges ∧
        arrange ranges = .ok found := by
  unfold FieldName.withDefault
  split
  · simp [Reading.under_eq_ok, Reading.check_eq_ok]
  · simp [arrange, List.sortedBy, overlap?]

theorem read_eq_ok {v : Value} {d : DayHours} :
    read v = .ok d ↔ ∃ ranges, Gives v ⟨d.weekday, ranges⟩ ∧ arrange ranges = .ok d.ranges := by
  unfold read Value.readRecord Gives
  cases v with
  | object fields =>
    simp only [Reading.seq_eq_ok, Reading.map_eq_ok, withDefault_arrange_eq_ok]
    constructor
    · rintro ⟨_, ⟨n, hn, rfl⟩, found, ⟨ranges, hranges, hfound⟩, rfl⟩
      exact ⟨ranges, ⟨fields, rfl, ⟨n, hn, rfl⟩, hranges⟩, hfound⟩
    · rintro ⟨ranges, ⟨_, hfields, ⟨n, hn, hday⟩, hranges⟩, hfound⟩
      cases hfields
      refine ⟨_, ⟨n, hn, rfl⟩, _, ⟨ranges, hranges, hfound⟩, ?_⟩
      rw [hday]
  | _ => simp [Reading.fail]

theorem inOrder_of_read {v : Value} {d : DayHours} (h : read v = .ok d) :
    TimeRange.InOrder d.ranges := by
  obtain ⟨ranges, -, hfound⟩ := read_eq_ok.1 h
  exact inOrder_of_arrange hfound

theorem Gives.unique {v : Value} {d e : DayHours} (hd : Gives v d) (he : Gives v e) : d = e := by
  obtain ⟨day, ranges⟩ := d
  obtain ⟨day', ranges'⟩ := e
  obtain ⟨fields, rfl, ⟨n, hn, rfl⟩, hranges⟩ := hd
  obtain ⟨_, hfields, ⟨m, hm, rfl⟩, hranges'⟩ := he
  cases hfields
  cases hn.symm.trans hm
  cases hranges.symm.trans hranges'
  rfl

/-- Any day of the week may be given, with its ranges in any order. -/
theorem gives_toValue {name : FieldName → String}
    (hname : name = FieldName.document ∨ name = FieldName.plain) {d : DayHours}
    (hd : d.weekday ≤ 6) : Gives (d.toValue name) d := by
  have hday : (Value.int d.weekday).readIntWithin (some 0) (some 6) = .ok (d.weekday : Int) :=
    Value.readIntWithin_int (by omega) (by omega)
  have hranges : (Value.list (d.ranges.map TimeRange.document)).readList TimeRange.read =
      .ok d.ranges :=
    Value.readList_eq_ok.2 ⟨_, rfl, List.forall₂_map_left_iff.2
      (List.forall₂_same.2 fun r _ => r.read_document)⟩
  refine ⟨_, rfl, ⟨d.weekday, ?_, rfl⟩, ?_⟩
  · rcases hname with rfl | rfl <;> exact Reading.under_eq_ok.2 hday
  · rcases hname with rfl | rfl <;> exact Reading.under_eq_ok.2 hranges

/-- Of a day that is given, the ranges are arranged. -/
theorem read_of_gives {v : Value} {d e : DayHours} (h : Gives v d) :
    read v = .ok e ↔ e.weekday = d.weekday ∧ arrange d.ranges = .ok e.ranges := by
  rw [read_eq_ok]
  constructor
  · rintro ⟨ranges, hgives, hfound⟩
    cases h.unique hgives
    exact ⟨rfl, hfound⟩
  · rintro ⟨hday, hfound⟩
    refine ⟨d.ranges, ?_, hfound⟩
    rw [hday]
    exact h

/-- The values describe the same day, with the same ranges in any order. -/
def SameDay (v w : Value) : Prop :=
  ∃ d e, Gives v d ∧ Gives w e ∧ d.weekday = e.weekday ∧ d.ranges.Perm e.ranges

theorem SameDay.symm {v w : Value} (h : SameDay v w) : SameDay w v := by
  obtain ⟨d, e, hd, he, hday, hperm⟩ := h
  exact ⟨e, d, he, hd, hday.symm, hperm.symm⟩

theorem SameDay.read_eq {v w : Value} (h : SameDay v w) {d : DayHours} (hv : read v = .ok d) :
    read w = .ok d := by
  obtain ⟨a, b, ha, hb, hday, hperm⟩ := h
  rw [read_of_gives ha] at hv
  rw [read_of_gives hb, ← hday, ← arrange_eq_ok_of_perm hperm]
  exact hv

/-- A day with the same ranges by their start, of which each is later than the
one before it. -/
structure Arranges (d found : DayHours) : Prop where
  weekday_eq : found.weekday = d.weekday
  same_ranges : found.ranges.Perm d.ranges
  by_start : found.ranges.Pairwise fun r s => r.start.minutes < s.start.minutes

theorem accepted_iff {v : Value} {d : DayHours} (h : Gives v d) :
    (∃ e, read v = .ok e) ↔ d.ranges.Pairwise TimeRange.Disjoint := by
  simp only [read_of_gives h, arrange_eq_ok]
  constructor
  · rintro ⟨e, -, hdisjoint, -⟩
    exact hdisjoint
  · intro hdisjoint
    exact ⟨⟨d.weekday, d.ranges.sortedBy TimeRange.startsNotAfter⟩, rfl, hdisjoint, rfl⟩

theorem arranges_of_read {v : Value} {d e : DayHours} (h : Gives v d) (hread : read v = .ok e) :
    Arranges d e := by
  obtain ⟨hday, hranges⟩ := (read_of_gives h).1 hread
  obtain ⟨-, hsorted⟩ := arrange_eq_ok.1 hranges
  refine ⟨hday, ?_, (inOrder_of_arrange hranges).starts_lt⟩
  rw [← hsorted]
  exact List.sortedBy_perm _ _

theorem forall₂_arranges {vs : List Value} {days read : List DayHours}
    (hgives : List.Forall₂ Gives vs days)
    (hread : List.Forall₂ (fun v d => DayHours.read v = .ok d) vs read) :
    List.Forall₂ Arranges days read := by
  induction hgives generalizing read with
  | nil =>
    cases hread
    exact .nil
  | cons hd _ ih =>
    cases hread with
    | cons he hrest => exact .cons (arranges_of_read hd he) (ih hrest)

end DayHours

/-! ## Weeks -/

namespace Template

variable {days others found : List DayHours}

theorem repeatedDay?_eq_none {seen : List Nat} : repeatedDay? seen days = none ↔
    (days.map DayHours.weekday).Nodup ∧ ∀ d ∈ days, d.weekday ∉ seen := by
  induction days generalizing seen with
  | nil => simp [repeatedDay?]
  | cons d rest ih =>
    unfold repeatedDay?
    split
    · rename_i hseen
      simp [hseen]
    · rename_i hnot
      rw [ih, List.map_cons, List.nodup_cons]
      simp only [List.mem_cons, not_or, List.mem_map, not_exists, not_and, forall_eq_or_imp]
      constructor
      · rintro ⟨hnodup, hrest⟩
        exact ⟨⟨fun e he => (hrest e he).1, hnodup⟩, hnot, fun e he => (hrest e he).2⟩
      · rintro ⟨⟨hfirst, hnodup⟩, -, hrest⟩
        exact ⟨hnodup, fun e he => ⟨hfirst e he, hrest e he⟩⟩

/-- Sunday comes first. -/
def daysNotAfter (a b : DayHours) : Bool := a.weekday ≤ b.weekday

theorem daysNotAfter_iff {a b : DayHours} :
    daysNotAfter a b = true ↔ a.weekday ≤ b.weekday := by
  simp [daysNotAfter]

theorem daysNotAfter_total (a b : DayHours) :
    daysNotAfter a b = true ∨ daysNotAfter b a = true := by
  rw [daysNotAfter_iff, daysNotAfter_iff]
  omega

theorem daysNotAfter_trans (a b c : DayHours) (hab : daysNotAfter a b = true)
    (hbc : daysNotAfter b c = true) : daysNotAfter a c = true := by
  rw [daysNotAfter_iff] at *
  omega

theorem arrange_eq_ok : arrange days = .ok found ↔
    (days.map DayHours.weekday).Nodup ∧ days.sortedBy daysNotAfter = found := by
  have hnone : repeatedDay? [] days = none ↔ (days.map DayHours.weekday).Nodup := by
    simp [repeatedDay?_eq_none]
  rw [← hnone]
  unfold arrange
  split
  · rename_i h
    rw [h, Reading.ok.injEq, eq_self_iff_true, true_and]
    rfl
  · rename_i h
    simp [h, Reading.fail]

theorem mem_of_arrange (h : arrange days = .ok found) {d : DayHours} (hd : d ∈ found) :
    d ∈ days := by
  obtain ⟨-, rfl⟩ := arrange_eq_ok.1 h
  exact (List.sortedBy_perm _ _).mem_iff.1 hd

theorem pairwise_of_arrange (h : arrange days = .ok found) :
    found.Pairwise fun d e => d.weekday < e.weekday := by
  obtain ⟨hnodup, rfl⟩ := arrange_eq_ok.1 h
  have hsorted := List.pairwise_sortedBy daysNotAfter_total daysNotAfter_trans days
  rw [← ((List.sortedBy_perm daysNotAfter days).map DayHours.weekday).nodup_iff] at hnodup
  refine hsorted.imp₂ (fun a b hle hne => ?_) (List.pairwise_map.1 hnodup)
  exact Nat.lt_of_le_of_ne (daysNotAfter_iff.1 hle) hne

theorem arrange_eq_ok_of_perm (hperm : days.Perm others) :
    arrange days = .ok found ↔ arrange others = .ok found := by
  rw [arrange_eq_ok, arrange_eq_ok, (hperm.map DayHours.weekday).nodup_iff, and_congr_right_iff]
  intro hnodup
  rw [List.sortedBy_eq_of_perm daysNotAfter_total daysNotAfter_trans hperm]
  intro a ha b hb hab hba
  rw [← (hperm.map DayHours.weekday).nodup_iff] at hnodup
  rw [daysNotAfter_iff] at hab hba
  exact List.inj_on_of_nodup_map hnodup ha hb (Nat.le_antisymm hab hba)

/-! ## Templates as they are given -/

/-- A template with these days and with other fields. -/
def withDays (fields : List (String × Value)) (vs : List Value) : Value :=
  .object ((weeklyField.document, .list vs) :: fields)

section
variable {zones : Registry} {defaults : SlotSettings} {fields : List (String × Value)}
  {t u : Template} {vs ws : List Value}

theorem ReadsRest.unique (ht : ReadsRest zones defaults fields t)
    (hu : ReadsRest zones defaults fields u) : u = { t with weekly := u.weekly } := by
  obtain ⟨provider, timeZone, slot, buffer, active, weekly⟩ := t
  obtain ⟨provider', timeZone', slot', buffer', active', weekly'⟩ := u
  cases hu.provider.symm.trans ht.provider
  cases hu.timeZone.symm.trans ht.timeZone
  cases hu.slotMinutes.symm.trans ht.slotMinutes
  cases hu.bufferMinutes.symm.trans ht.bufferMinutes
  cases hu.isActive.symm.trans ht.isActive
  rfl

/-- The days are read beside the other fields. -/
theorem read_withDays_eq_ok : read zones defaults (withDays fields vs) = .ok t ↔
    ReadsRest zones defaults fields t ∧
      ∃ days, List.Forall₂ (fun v d => DayHours.read v = .ok d) vs days ∧
        arrange days = .ok t.weekly := by
  have hrest : ReadsRest zones defaults ((weeklyField.document, .list vs) :: fields) t ↔
      ReadsRest zones defaults fields t := by
    constructor
    · rintro ⟨hprovider, hzone, hslot, hbuffer, hactive⟩
      exact ⟨hprovider, hzone, hslot, hbuffer, hactive⟩
    · rintro ⟨hprovider, hzone, hslot, hbuffer, hactive⟩
      exact ⟨hprovider, hzone, hslot, hbuffer, hactive⟩
  have hweekly :
      weeklyField.withDefault [] readWeekly ((weeklyField.document, .list vs) :: fields) =
        .ok t.weekly ↔ readWeekly (.list vs) = .ok t.weekly := Reading.under_eq_ok
  have hread : read zones defaults (withDays fields vs) =
      readFields zones defaults ((weeklyField.document, .list vs) :: fields) := rfl
  rw [hread, readFields_eq_ok, hrest, hweekly, readWeekly_eq_ok]
  simp

/-- Days that differ in the order of their ranges only are read to the same
hours. -/
theorem forall₂_read_of_sameDay (hsame : List.Forall₂ DayHours.SameDay vs ws)
    (h : List.Forall₂ (fun v d => DayHours.read v = .ok d) vs days) :
    List.Forall₂ (fun v d => DayHours.read v = .ok d) ws days := by
  induction hsame generalizing days with
  | nil => exact h
  | cons hday _ ih =>
    cases h with
    | cons hd hrest => exact .cons (hday.read_eq hd) (ih hrest)

/-- Neither the order of the days nor that of the ranges of a day shows. -/
theorem read_withDays_of_perm {given : List Value} (hperm : vs.Perm ws)
    (hsame : List.Forall₂ DayHours.SameDay ws given)
    (h : read zones defaults (withDays fields vs) = .ok t) :
    read zones defaults (withDays fields given) = .ok t := by
  obtain ⟨hrest, days, hdays, hfound⟩ := read_withDays_eq_ok.1 h
  obtain ⟨others, hothers, hdaysPerm⟩ := List.perm_comp_forall₂ hperm.symm hdays
  refine read_withDays_eq_ok.2 ⟨hrest, others, forall₂_read_of_sameDay hsame hothers, ?_⟩
  exact (arrange_eq_ok_of_perm hdaysPerm).2 hfound

theorem rangesFor_of_mem (hnodup : (t.weekly.map DayHours.weekday).Nodup) {d : DayHours}
    (hd : d ∈ t.weekly) : t.rangesFor d.weekday = d.ranges := by
  unfold rangesFor
  split
  · rename_i e he
    have hday : e.weekday = d.weekday := by simpa using List.find?_some he
    rw [List.inj_on_of_nodup_map hnodup (List.mem_of_find?_eq_some he) hd hday]
  · rename_i hnone
    simpa using List.find?_eq_none.1 hnone d hd

theorem rangesFor_of_not_mem {weekday : Nat} (h : ∀ d ∈ t.weekly, d.weekday ≠ weekday) :
    t.rangesFor weekday = [] := by
  unfold rangesFor
  split
  · rename_i d hd
    exact absurd (by simpa using List.find?_some hd) (h d (List.mem_of_find?_eq_some hd))
  · rfl

theorem nodup_of_pairwise (h : days.Pairwise fun d e => d.weekday < e.weekday) :
    (days.map DayHours.weekday).Nodup :=
  List.pairwise_map.2 (h.imp Nat.ne_of_lt)

/-- Of days that are valid by themselves, a template accepts those of which no
two are of the same weekday, and holds them in the order of the week. -/
theorem accepts_days (hrest : ReadsRest zones defaults fields u)
    (hdays : List.Forall₂ (fun v d => DayHours.read v = .ok d) vs days) :
    ((∃ t, read zones defaults (withDays fields vs) = .ok t) ↔
        (days.map DayHours.weekday).Nodup) ∧
      ∀ t, read zones defaults (withDays fields vs) = .ok t →
        t = { u with weekly := t.weekly } ∧ t.weekly.Perm days ∧
          t.weekly.Pairwise fun d e => d.weekday < e.weekday := by
  have hunique : Relator.RightUnique fun v d => DayHours.read v = .ok d :=
    fun v d e hd he => Reading.ok.inj (hd.symm.trans he)
  constructor
  · constructor
    · rintro ⟨t, ht⟩
      obtain ⟨-, others, hothers, hfound⟩ := read_withDays_eq_ok.1 ht
      rw [List.right_unique_forall₂' hunique hdays hothers]
      exact (arrange_eq_ok.1 hfound).1
    · intro hnodup
      refine ⟨{ u with weekly := days.sortedBy daysNotAfter }, ?_⟩
      refine read_withDays_eq_ok.2 ⟨?_, days, hdays, arrange_eq_ok.2 ⟨hnodup, rfl⟩⟩
      obtain ⟨hprovider, hzone, hslot, hbuffer, hactive⟩ := hrest
      exact ⟨hprovider, hzone, hslot, hbuffer, hactive⟩
  · intro t ht
    obtain ⟨hthis, others, hothers, hfound⟩ := read_withDays_eq_ok.1 ht
    obtain rfl := List.right_unique_forall₂' hunique hdays hothers
    refine ⟨hrest.unique hthis, ?_, pairwise_of_arrange hfound⟩
    rw [← (arrange_eq_ok.1 hfound).2]
    exact List.sortedBy_perm _ _

/-- The ranges of a weekday are those that are given for it. -/
theorem rangesFor_of_given (hgives : List.Forall₂ DayHours.Gives vs days)
    (h : read zones defaults (withDays fields vs) = .ok t) :
    (∀ d ∈ days, DayHours.Arranges d ⟨d.weekday, t.rangesFor d.weekday⟩) ∧
      ∀ weekday, (∀ d ∈ days, d.weekday ≠ weekday) → t.rangesFor weekday = [] := by
  obtain ⟨hrest, found, hread, hfound⟩ := read_withDays_eq_ok.1 h
  obtain ⟨-, hperm, hsorted⟩ := (accepts_days hrest hread).2 t h
  have harranges := DayHours.forall₂_arranges hgives hread
  constructor
  · intro d hd
    obtain ⟨e, he, hday, hranges, hstarts⟩ := exists_of_forall₂ harranges hd
    rw [← hday, rangesFor_of_mem (nodup_of_pairwise hsorted) (hperm.mem_iff.2 he)]
    exact ⟨hday, hranges, hstarts⟩
  · intro weekday hnone
    refine rangesFor_of_not_mem fun e he => ?_
    obtain ⟨d, hd, hday, -⟩ := exists_of_forall₂ harranges.flip (hperm.mem_iff.1 he)
    rw [hday]
    exact hnone d hd

/-- Weekly hours are accepted just where the ranges of each day are disjoint and
each day is listed once, in whatever order days and ranges are given. They are
kept in ascending order, and those of a weekday are the ranges given for it. -/
theorem accepts_exactly_disjoint_hours (zones : Registry) (defaults : SlotSettings)
    (fields : List (String × Value)) :
    (∀ v d, DayHours.Gives v d →
        ((∃ e, DayHours.read v = .ok e) ↔ d.ranges.Pairwise TimeRange.Disjoint) ∧
          ∀ e, DayHours.read v = .ok e → DayHours.Arranges d e) ∧
      (∀ u vs days, ReadsRest zones defaults fields u →
        List.Forall₂ (fun v d => DayHours.read v = .ok d) vs days →
        ((∃ t, read zones defaults (withDays fields vs) = .ok t) ↔
            (days.map DayHours.weekday).Nodup) ∧
          ∀ t, read zones defaults (withDays fields vs) = .ok t →
            t = { u with weekly := t.weekly } ∧ t.weekly.Perm days ∧
              t.weekly.Pairwise fun d e => d.weekday < e.weekday) ∧
      (∀ vs ws others, vs.Perm ws → List.Forall₂ DayHours.SameDay ws others →
        ∀ t, read zones defaults (withDays fields vs) = .ok t ↔
          read zones defaults (withDays fields others) = .ok t) ∧
      ∀ vs days t, List.Forall₂ DayHours.Gives vs days →
        read zones defaults (withDays fields vs) = .ok t →
        (∀ d ∈ days, DayHours.Arranges d ⟨d.weekday, t.rangesFor d.weekday⟩) ∧
          ∀ weekday, (∀ d ∈ days, d.weekday ≠ weekday) → t.rangesFor weekday = [] := by
  refine ⟨fun v d h => ⟨DayHours.accepted_iff h, fun e => DayHours.arranges_of_read h⟩,
    fun u vs days => accepts_days, fun vs ws others hperm hsame t => ?_,
    fun vs days t => rangesFor_of_given⟩
  constructor
  · exact read_withDays_of_perm hperm hsame
  · -- On the way back the days have to be put in order first.
    obtain ⟨given, hgiven, hordered⟩ := List.perm_comp_forall₂ hperm hsame
    have hback : List.Forall₂ DayHours.SameDay given vs :=
      (hgiven.imp fun _ _ => DayHours.SameDay.symm).flip
    exact read_withDays_of_perm hordered.symm hback

end
end Template

/-! ## The small practice -/

namespace Practice

def morning : TimeRange := ⟨⟨"08:15", 495, rfl⟩, ⟨"11:45", 705, rfl⟩, by decide⟩

/-- The afternoon starts as soon as the morning has ended. -/
def afternoon : TimeRange := ⟨⟨"11:45", 705, rfl⟩, ⟨"16:30", 990, rfl⟩, by decide⟩

/-- A template of the doctor but for the days. -/
def doctorsFields : List (String × Value) :=
  [("providerUserId", .text "doctor"), ("timeZone", .text "UTC")]

/-- Tuesday and Monday, and the afternoon of Monday before its morning. -/
def disordered : List DayHours := [⟨2, [morning]⟩, ⟨1, [afternoon, morning]⟩]

/-- The same days as they follow one another. -/
def ordered : List DayHours := [⟨1, [morning, afternoon]⟩, ⟨2, [morning]⟩]

/-- Days in disorder are accepted as days in order are. -/
theorem disordered_days_are_put_in_order :
    (∀ d ∈ disordered, d.ranges.Pairwise TimeRange.Disjoint) ∧
      (disordered.map DayHours.weekday).Nodup ∧
      ∃ t, Template.read .standard {} (Template.withDays doctorsFields
          (disordered.map (DayHours.toValue FieldName.document))) = .ok t ∧
        Template.read .standard {} (Template.withDays doctorsFields
          (ordered.map (DayHours.toValue FieldName.document))) = .ok t ∧
        t.weekly = ordered ∧ DayHours.Arranges ⟨1, [afternoon, morning]⟩ ⟨1, t.rangesFor 1⟩ ∧
        t.rangesFor 3 = [] := by
  obtain ⟨hdays, hweek, hsame, hgiven⟩ :=
    Template.accepts_exactly_disjoint_hours .standard {} doctorsFields
  have hdisjoint : ∀ d ∈ disordered, d.ranges.Pairwise TimeRange.Disjoint := by decide
  have hnodup : (disordered.map DayHours.weekday).Nodup := by decide
  have htuesday : DayHours.Gives (DayHours.toValue FieldName.document ⟨2, [morning]⟩)
      ⟨2, [morning]⟩ := DayHours.gives_toValue (.inl rfl) (by decide)
  have hmonday : DayHours.Gives (DayHours.toValue FieldName.document ⟨1, [afternoon, morning]⟩)
      ⟨1, [afternoon, morning]⟩ := DayHours.gives_toValue (.inl rfl) (by decide)
  have hinOrder : DayHours.Gives (DayHours.toValue FieldName.document ⟨1, [morning, afternoon]⟩)
      ⟨1, [morning, afternoon]⟩ := DayHours.gives_toValue (.inl rfl) (by decide)
  obtain ⟨tuesday, hreadTuesday⟩ := (hdays _ _ htuesday).1.2 (by decide)
  obtain ⟨monday, hreadMonday⟩ := (hdays _ _ hmonday).1.2 (by decide)
  have hrest : Template.ReadsRest .standard {} doctorsFields hours :=
    ⟨rfl, by decide +kernel, by decide +kernel, by decide +kernel, by decide +kernel⟩
  have hdistinct : ([tuesday, monday].map DayHours.weekday).Nodup := by
    simp [((hdays _ _ htuesday).2 _ hreadTuesday).weekday_eq,
      ((hdays _ _ hmonday).2 _ hreadMonday).weekday_eq]
  obtain ⟨t, ht⟩ := (hweek hours _ _ hrest
    (.cons hreadTuesday (.cons hreadMonday .nil))).1.2 hdistinct
  have hswapped := hsame _ _
    (ordered.map (DayHours.toValue FieldName.document)) (List.Perm.swap _ _ [])
    (.cons ⟨_, _, hmonday, hinOrder, rfl, by decide⟩
      (.cons ⟨_, _, htuesday, htuesday, rfl, .refl _⟩ .nil)) t
  have hvalue : Template.read .standard {} (Template.withDays doctorsFields
      (ordered.map (DayHours.toValue FieldName.document))) =
      .ok { hours with weekly := ordered } := by decide +kernel
  have hranges := hgiven _ _ t (.cons htuesday (.cons hmonday .nil)) ht
  refine ⟨hdisjoint, hnodup, t, ht, hswapped.1 ht, ?_, hranges.1 _ (by decide),
    hranges.2 3 (by decide)⟩
  have heq := hvalue.symm.trans (hswapped.1 ht)
  cases heq
  rfl

end Practice
end Appointments
