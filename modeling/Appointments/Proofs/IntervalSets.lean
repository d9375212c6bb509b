-- Lists of intervals as sets of instants. A set has one list in normal form,
-- and what is left after intervals are taken away is the difference of sets.
import Appointments.Proofs.Merging
namespace Appointments.Interval

/-- An instant lies in one of the intervals. -/
def Covers (items : List Interval) (t : Instant) : Prop := ∃ a ∈ items, a.Contains t

@[simp]
theorem covers_nil (t : Instant) : ¬ Covers [] t := by simp [Covers]

@[simp]
theorem covers_singleton {a : Interval} {t : Instant} : Covers [a] t ↔ a.Contains t := by
  simp [Covers]

@[simp]
theorem covers_cons {a : Interval} {rest : List Interval} {t : Instant} :
    Covers (a :: rest) t ↔ a.Contains t ∨ Covers rest t := by
  simp [Covers]

@[simp]
theorem covers_append {items others : List Interval} {t : Instant} :
    Covers (items ++ others) t ↔ Covers items t ∨ Covers others t := by
  simp [Covers, or_and_right, exists_or]

theorem covers_flatMap {items : List Interval} {f : Interval → List Interval} {t : Instant} :
    Covers (items.flatMap f) t ↔ ∃ a ∈ items, Covers (f a) t := by
  simp only [Covers, List.mem_flatMap]
  constructor
  · rintro ⟨b, ⟨a, ha, hb⟩, ht⟩
    exact ⟨a, ha, b, hb, ht⟩
  · rintro ⟨a, ha, b, hb, ht⟩
    exact ⟨b, ⟨a, ha, hb⟩, ht⟩

theorem covers_normalize {items : List Interval} {t : Instant} :
    Covers (normalize items) t ↔ Covers items t := contains_normalize

/-! ## One normal form for each set -/

section
variable {a b : Interval} {as bs : List Interval} {t : Instant}

theorem Normal.tail (h : Normal (a :: as)) : Normal as :=
  ⟨fun x hx => h.nonempty x (List.mem_cons_of_mem _ hx), (List.pairwise_cons.1 h.apart).2⟩

theorem Normal.stop_lt (h : Normal (a :: as)) (ht : Covers as t) : a.stop < t := by
  obtain ⟨x, hx, hstart, -⟩ := ht
  exact Nat.lt_of_lt_of_le ((List.pairwise_cons.1 h.apart).1 x hx) hstart

theorem Normal.not_contains (h : Normal (a :: as)) (ht : Covers as t) : ¬ a.Contains t :=
  fun hcontains => Nat.lt_asymm (h.stop_lt ht) hcontains.2

theorem Normal.covers_start (h : Normal (a :: as)) : Covers (a :: as) a.start :=
  covers_cons.2 (.inl ⟨Nat.le_refl _, h.nonempty a List.mem_cons_self⟩)

theorem Normal.start_le (h : Normal (a :: as)) (ht : Covers (a :: as) t) : a.start ≤ t := by
  rcases covers_cons.1 ht with hcontains | hrest
  · exact hcontains.1
  · exact Nat.le_of_lt (Nat.lt_trans (h.nonempty a List.mem_cons_self) (h.stop_lt hrest))

/-- The instant at which the first interval stops lies in no other one. -/
theorem Normal.not_covers_stop (h : Normal (a :: as)) : ¬ Covers (a :: as) a.stop := by
  intro hcovers
  rcases covers_cons.1 hcovers with hcontains | hrest
  · exact Nat.lt_irrefl _ hcontains.2
  · exact Nat.lt_irrefl _ (h.stop_lt hrest)

theorem Normal.stop_le (h : Normal (a :: as)) (hstart : b.start ≤ a.stop)
    (hsub : ∀ t, Covers (b :: bs) t → Covers (a :: as) t) : b.stop ≤ a.stop := by
  apply Nat.le_of_not_lt
  intro hlt
  exact h.not_covers_stop (hsub _ (covers_cons.2 (.inl ⟨hstart, hlt⟩)))

/-- Lists in normal form that cover the same instants start with the same
interval. -/
theorem Normal.head_eq (ha : Normal (a :: as)) (hb : Normal (b :: bs))
    (h : ∀ t, Covers (a :: as) t ↔ Covers (b :: bs) t) : a = b := by
  have hab : a.start ≤ b.start := ha.start_le ((h _).2 hb.covers_start)
  have hba : b.start ≤ a.start := hb.start_le ((h _).1 ha.covers_start)
  have haNonempty := ha.nonempty a List.mem_cons_self
  have hbNonempty := hb.nonempty b List.mem_cons_self
  rw [Instant.le_iff] at hab hba
  rw [Instant.lt_iff] at haNonempty hbNonempty
  have hstop : b.stop ≤ a.stop :=
    ha.stop_le (Instant.le_iff.2 (by omega)) fun t => (h t).2
  have hstop' : a.stop ≤ b.stop :=
    hb.stop_le (Instant.le_iff.2 (by omega)) fun t => (h t).1
  exact ext_micros (Nat.le_antisymm hab hba) (Nat.le_antisymm hstop' hstop)

theorem Normal.covers_tail (ha : Normal (a :: as)) (h : Covers (a :: as) t ↔ Covers (a :: bs) t) :
    Covers as t → Covers bs t := by
  intro ht
  exact (covers_cons.1 (h.1 (covers_cons.2 (.inr ht)))).resolve_left (ha.not_contains ht)

end

/-- Lists in normal form are equal if they cover the same instants. -/
theorem Normal.ext {as bs : List Interval} (ha : Normal as) (hb : Normal bs)
    (h : ∀ t, Covers as t ↔ Covers bs t) : as = bs := by
  induction as generalizing bs with
  | nil =>
    cases bs with
    | nil => rfl
    | cons b bs => exact absurd ((h _).2 hb.covers_start) (covers_nil _)
  | cons a as ih =>
    cases bs with
    | nil => exact absurd ((h _).1 ha.covers_start) (covers_nil _)
    | cons b bs =>
      obtain rfl := ha.head_eq hb h
      rw [ih ha.tail hb.tail fun t => ⟨ha.covers_tail (h t), hb.covers_tail (h t).symm⟩]

/-- Normalizing gives the normal form of the set of instants that the intervals
cover: the same one for all lists that cover the same instants. -/
theorem normal_form_is_canonical (items : List Interval) :
    Normal (normalize items) ∧ (∀ t, Covers (normalize items) t ↔ Covers items t) ∧
      (∀ others, (∀ t, Covers items t ↔ Covers others t) → normalize items = normalize others) ∧
      normalize (normalize items) = normalize items := by
  refine ⟨normal_normalize items, fun t => covers_normalize, fun others h => ?_, ?_⟩
  · apply (normal_normalize items).ext (normal_normalize others)
    intro t
    rw [covers_normalize, covers_normalize, h]
  · exact (normal_normalize _).ext (normal_normalize items) fun t => covers_normalize

/-! ## Differences -/

theorem covers_piece {start stop t : Instant} :
    Covers (if start < stop then [⟨start, stop⟩] else []) t ↔ start ≤ t ∧ t < stop := by
  split
  · exact covers_singleton
  · rename_i hempty
    rw [iff_false_left (covers_nil t)]
    simp only [Instant.le_iff, Instant.lt_iff] at *
    omega

/-- Around a cut that meets it, what is left of an interval lies before the cut,
or after it and outside all later ones. -/
theorem uncovered_split {cut : Interval} {rest : List Interval} (h : Normal (cut :: rest))
    {cursor stop t : Instant} (hcursor : cursor < cut.stop) (hstop : cut.start < stop) :
    (cursor ≤ t ∧ t < stop) ∧ ¬ Covers (cut :: rest) t ↔
      (cursor ≤ t ∧ t < cut.start) ∨
        (cursor.later cut.stop ≤ t ∧ t < stop) ∧ ¬ Covers rest t := by
  have hrest : Covers rest t → cut.stop < t := h.stop_lt
  have hcut := h.nonempty cut List.mem_cons_self
  rw [covers_cons, not_or]
  simp only [Contains, Instant.le_iff, Instant.lt_iff, Instant.later_micros] at *
  constructor
  · rintro ⟨hin, hout, hcovered⟩
    by_cases hbefore : t.micros < cut.start.micros
    · exact .inl ⟨hin.1, hbefore⟩
    · exact .inr ⟨by omega, hcovered⟩
  · rintro (hbefore | ⟨hafter, hcovered⟩)
    · refine ⟨by omega, by omega, fun hcovers => ?_⟩
      have hlate := hrest hcovers
      omega
    · exact ⟨by omega, by omega, hcovered⟩

/-- What is left of an interval covers what none of the cuts covers. -/
theorem covers_cutFrom {cuts : List Interval} (h : Normal cuts) {cursor stop t : Instant} :
    Covers (cutFrom cursor stop cuts) t ↔ (cursor ≤ t ∧ t < stop) ∧ ¬ Covers cuts t := by
  induction cuts generalizing cursor with
  | nil => simpa [cutFrom] using covers_piece
  | cons cut rest ih =>
    unfold cutFrom
    split
    · rename_i hbehind
      rw [ih h.tail, covers_cons]
      refine and_congr_right fun hin => not_congr (iff_or_self.2 fun hcut => ?_)
      exact absurd (Nat.lt_of_lt_of_le hcut.2 hbehind) (Nat.not_lt.2 hin.1)
    · rename_i hmeets
      split
      · rename_i hahead
        rw [covers_piece]
        refine (and_iff_left_of_imp fun hin hcovers => ?_).symm
        exact absurd (Nat.lt_of_lt_of_le hin.2 hahead) (Nat.not_lt.2 (h.start_le hcovers))
      · rename_i hwithin
        rw [uncovered_split h (Nat.lt_of_not_le hmeets) (Nat.lt_of_not_le hwithin)]
        dsimp only
        split
        · rename_i hspent
          rw [covers_piece]
          refine (or_iff_left fun hafter => ?_).symm
          exact absurd (Nat.lt_of_le_of_lt hafter.1.1 hafter.1.2) (Nat.not_lt.2 hspent)
        · rw [covers_append, covers_piece, ih h.tail]

theorem covers_subtract {base removals : List Interval} {t : Instant} :
    Covers (subtract base removals) t ↔ Covers base t ∧ ¬ Covers removals t := by
  rw [← @covers_normalize base, ← @covers_normalize removals]
  unfold subtract
  dsimp only
  split
  · rename_i hnone
    rw [List.isEmpty_iff.1 hnone]
    simp
  · rw [covers_normalize, covers_flatMap]
    simp only [covers_cutFrom (normal_normalize removals)]
    constructor
    · rintro ⟨a, ha, hin, hout⟩
      exact ⟨⟨a, ha, hin⟩, hout⟩
    · rintro ⟨⟨a, ha, hin⟩, hout⟩
      exact ⟨a, ha, hin, hout⟩

theorem normal_subtract (base removals : List Interval) : Normal (subtract base removals) := by
  unfold subtract
  dsimp only
  split
  · exact normal_normalize base
  · exact normal_normalize _

/-- Subtracting gives the normal form of the difference of sets. -/
theorem subtract_is_difference (base removals : List Interval) :
    Normal (subtract base removals) ∧
      (∀ t, Covers (subtract base removals) t ↔ Covers base t ∧ ¬ Covers removals t) ∧
      subtract base base = [] ∧ subtract base [] = normalize base := by
  refine ⟨normal_subtract base removals, fun t => covers_subtract, ?_, ?_⟩
  · apply (normal_subtract base base).ext ⟨by simp, List.Pairwise.nil⟩
    intro t
    rw [covers_subtract, and_not_self_iff, false_iff]
    exact covers_nil t
  · apply (normal_subtract base []).ext (normal_normalize base)
    intro t
    rw [covers_subtract, covers_normalize, and_iff_left (covers_nil t)]

end Appointments.Interval
