-- Merged intervals: what sorting and merging do to intervals, and what the
-- search among merged intervals finds.
import Appointments.Proofs.Instants
import Mathlib.Data.List.TakeWhile

/-! ## Sorting -/

namespace List

variable {α : Type} {le : α → α → Bool}

theorem mem_insertInto {a b : α} {items : List α} :
    b ∈ insertInto le a items ↔ b = a ∨ b ∈ items := by
  rw [(insertInto_perm le a items).mem_iff, mem_cons]

theorem pairwise_insertInto (htotal : ∀ a b, le a b = true ∨ le b a = true)
    (htrans : ∀ a b c, le a b = true → le b c = true → le a c = true) (a : α) {items : List α}
    (h : items.Pairwise fun a b => le a b = true) :
    (insertInto le a items).Pairwise fun a b => le a b = true := by
  induction items with
  | nil => simp [insertInto]
  | cons b bs ih =>
    obtain ⟨hb, hbs⟩ := pairwise_cons.1 h
    unfold insertInto
    split
    · rename_i hab
      refine pairwise_cons.2 ⟨fun c hc => ?_, h⟩
      rcases mem_cons.1 hc with rfl | hc
      · exact hab
      · exact htrans a b c hab (hb c hc)
    · rename_i hab
      refine pairwise_cons.2 ⟨fun c hc => ?_, ih hbs⟩
      rcases mem_insertInto.1 hc with rfl | hc
      · exact (htotal c b).resolve_left hab
      · exact hb c hc

/-- A list that is sorted by a total order is in order. -/
theorem pairwise_sortedBy (htotal : ∀ a b, le a b = true ∨ le b a = true)
    (htrans : ∀ a b c, le a b = true → le b c = true → le a c = true) (items : List α) :
    (sortedBy le items).Pairwise fun a b => le a b = true := by
  induction items with
  | nil => exact Pairwise.nil
  | cons a as ih => exact pairwise_insertInto htotal htrans a ih

theorem sortedBy_of_pairwise {items : List α} (h : items.Pairwise fun a b => le a b = true) :
    sortedBy le items = items := by
  induction items with
  | nil => rfl
  | cons a as ih =>
    obtain ⟨ha, has⟩ := pairwise_cons.1 h
    have htail : sortedBy le (a :: as) = insertInto le a (sortedBy le as) := rfl
    rw [htail, ih has]
    cases as with
    | nil => rfl
    | cons b bs => exact if_pos (ha b mem_cons_self)

/-- Sorting does not depend on the order in which items come, unless different
ones are equal in the sorting order. -/
theorem sortedBy_eq_of_perm {l m : List α}
    (htotal : ∀ a b, le a b = true ∨ le b a = true)
    (htrans : ∀ a b c, le a b = true → le b c = true → le a c = true) (hperm : l.Perm m)
    (hanti : ∀ a ∈ l, ∀ b ∈ l, le a b = true → le b a = true → a = b) :
    l.sortedBy le = m.sortedBy le := by
  have hl := sortedBy_perm le l
  have hm := sortedBy_perm le m
  refine Perm.eq_of_pairwise (fun a b ha hb hab hba => ?_)
    (pairwise_sortedBy htotal htrans l) (pairwise_sortedBy htotal htrans m)
    (hl.trans (hperm.trans hm.symm))
  exact hanti a (hl.mem_iff.1 ha) b (hperm.mem_iff.2 (hm.mem_iff.1 hb)) hab hba

end List

namespace Appointments.Interval

/-! ## The order of intervals -/

theorem notAfter_iff {a b : Interval} : a.notAfter b = true ↔
    a.start.micros < b.start.micros ∨
      (a.start.micros = b.start.micros ∧ a.stop.micros ≤ b.stop.micros) := by
  simp [notAfter, Instant.lt_iff, Instant.le_iff, Instant.ext_iff]

theorem notAfter_total (a b : Interval) : a.notAfter b = true ∨ b.notAfter a = true := by
  rw [notAfter_iff, notAfter_iff]
  omega

theorem notAfter_trans (a b c : Interval) (hab : a.notAfter b = true) (hbc : b.notAfter c = true) :
    a.notAfter c = true := by
  rw [notAfter_iff] at hab hbc ⊢
  omega

theorem notAfter_antisymm {a b : Interval} (hab : a.notAfter b = true) (hba : b.notAfter a = true) :
    a = b := by
  rw [notAfter_iff] at hab hba
  apply ext_micros
  · omega
  · omega

/-- The first interval starts earlier, or at the same time and stops
earlier. -/
def Precedes (a b : Interval) : Prop :=
  a.start < b.start ∨ (a.start = b.start ∧ a.stop < b.stop)

theorem precedes_of_notAfter {a b : Interval} (h : a.notAfter b = true) (hne : a ≠ b) :
    a.Precedes b := by
  rw [notAfter_iff] at h
  have hne : ¬ (a.start.micros = b.start.micros ∧ a.stop.micros = b.stop.micros) :=
    fun ⟨hstart, hstop⟩ => hne (ext_micros hstart hstop)
  simp only [Precedes, Instant.lt_iff, Instant.ext_iff]
  omega

/-! ## Normal form -/

/-- Intervals that are not empty, each of which ends before the next one
starts. -/
structure Normal (items : List Interval) : Prop where
  nonempty : ∀ a ∈ items, a.start < a.stop
  apart : items.Pairwise fun a b => a.stop < b.start

theorem contains_merged {a b : Interval} {t : Instant} (hstart : a.start ≤ b.start)
    (hmeet : b.start ≤ a.stop) :
    (⟨a.start, a.stop.later b.stop⟩ : Interval).Contains t ↔ a.Contains t ∨ b.Contains t := by
  simp only [Contains, Instant.le_iff, Instant.lt_iff, Instant.later_micros] at *
  omega

/-- The intervals are not empty, and their starts are in order. -/
structure Queue (items : List Interval) : Prop where
  nonempty : ∀ a ∈ items, a.start < a.stop
  ordered : items.Pairwise fun a b => a.start ≤ b.start

theorem Queue.merge {a b : Interval} {rest : List Interval} (h : Queue (a :: b :: rest)) :
    Queue (⟨a.start, a.stop.later b.stop⟩ :: rest) := by
  obtain ⟨hnonempty, hordered⟩ := h
  obtain ⟨ha, hordered⟩ := List.pairwise_cons.1 hordered
  obtain ⟨-, hrest⟩ := List.pairwise_cons.1 hordered
  refine ⟨fun c hc => ?_, List.pairwise_cons.2 ⟨fun c hc => ?_, hrest⟩⟩
  · rcases List.mem_cons.1 hc with rfl | hc
    · have := hnonempty a (by simp)
      simp only [Instant.lt_iff, Instant.later_micros] at *
      omega
    · exact hnonempty c (by simp [hc])
  · exact ha c (by simp [hc])

theorem Queue.tail {a : Interval} {rest : List Interval} (h : Queue (a :: rest)) : Queue rest :=
  ⟨fun c hc => h.nonempty c (by simp [hc]), (List.pairwise_cons.1 h.ordered).2⟩

theorem mergeFrom_start {a b : Interval} {rest : List Interval} (h : Queue (a :: rest))
    (hb : b ∈ mergeFrom a rest) : a.start ≤ b.start := by
  induction rest generalizing a with
  | nil =>
    obtain rfl := List.mem_singleton.1 hb
    exact Nat.le_refl _
  | cons next rest ih =>
    unfold mergeFrom at hb
    split at hb
    · have hmerged := ih h.merge hb
      exact hmerged
    · rcases List.mem_cons.1 hb with rfl | hb
      · exact Nat.le_refl _
      · exact Nat.le_trans ((List.pairwise_cons.1 h.ordered).1 next (by simp)) (ih h.tail hb)

theorem normal_mergeFrom {a : Interval} {rest : List Interval} (h : Queue (a :: rest)) :
    Normal (mergeFrom a rest) := by
  induction rest generalizing a with
  | nil => exact ⟨h.nonempty, List.pairwise_singleton _ _⟩
  | cons next rest ih =>
    unfold mergeFrom
    split
    · exact ih h.merge
    · rename_i hgap
      obtain ⟨hnonempty, hapart⟩ := ih h.tail
      refine ⟨fun b hb => ?_, List.pairwise_cons.2 ⟨fun b hb => ?_, hapart⟩⟩
      · rcases List.mem_cons.1 hb with rfl | hb
        · exact h.nonempty b (by simp)
        · exact hnonempty b hb
      · have hstart := mergeFrom_start h.tail hb
        simp only [Instant.lt_iff, Instant.le_iff] at *
        omega

theorem contains_mergeFrom {a : Interval} {rest : List Interval} {t : Instant}
    (h : Queue (a :: rest)) :
    (∃ b ∈ mergeFrom a rest, b.Contains t) ↔ ∃ b ∈ a :: rest, b.Contains t := by
  induction rest generalizing a with
  | nil => rfl
  | cons next rest ih =>
    unfold mergeFrom
    split
    · rename_i hmeet
      rw [ih h.merge]
      have hstart := (List.pairwise_cons.1 h.ordered).1 next (by simp)
      simp [contains_merged hstart hmeet, or_assoc]
    · simp [ih h.tail]

/-! ## Normalizing -/

theorem queue_sorted (items : List Interval) :
    Queue ((items.filter fun a => !a.isEmpty).sortedBy notAfter) := by
  refine ⟨fun a ha => ?_, ?_⟩
  · rw [(List.sortedBy_perm _ _).mem_iff, List.mem_filter] at ha
    simpa [isEmpty, Instant.le_iff, Instant.lt_iff] using ha.2
  · refine (List.pairwise_sortedBy notAfter_total notAfter_trans _).imp fun h => ?_
    rw [notAfter_iff] at h
    rw [Instant.le_iff]
    omega

theorem normal_normalize (items : List Interval) : Normal (normalize items) := by
  have hqueue := queue_sorted items
  unfold normalize
  split
  · exact ⟨by simp, List.Pairwise.nil⟩
  · rename_i first rest hsorted
    rw [hsorted] at hqueue
    exact normal_mergeFrom hqueue

theorem Contains.nonempty {a : Interval} {t : Instant} (h : a.Contains t) : a.start < a.stop :=
  Nat.lt_of_le_of_lt h.1 h.2

/-- Normalizing keeps the instants that lie in one of the intervals. -/
theorem contains_normalize {items : List Interval} {t : Instant} :
    (∃ a ∈ normalize items, a.Contains t) ↔ ∃ a ∈ items, a.Contains t := by
  have hsorted : (∃ a ∈ (items.filter fun a => !a.isEmpty).sortedBy notAfter, a.Contains t) ↔
      ∃ a ∈ items, a.Contains t := by
    constructor
    · rintro ⟨a, ha, ht⟩
      rw [(List.sortedBy_perm _ _).mem_iff, List.mem_filter] at ha
      exact ⟨a, ha.1, ht⟩
    · rintro ⟨a, ha, ht⟩
      refine ⟨a, ?_, ht⟩
      rw [(List.sortedBy_perm _ _).mem_iff, List.mem_filter]
      have hlt := ht.nonempty
      refine ⟨ha, ?_⟩
      simpa [isEmpty, Instant.le_iff, Instant.lt_iff] using hlt
  rw [← hsorted]
  have hqueue := queue_sorted items
  unfold normalize
  split
  · rename_i hnil
    rw [hnil]
  · rename_i first rest hcons
    rw [hcons] at hqueue ⊢
    exact contains_mergeFrom hqueue

/-! ## Overlap -/

theorem overlaps_iff {a b : Interval} :
    a.overlaps b = true ↔ a.start < b.stop ∧ b.start < a.stop := by
  simp [overlaps]

/-- Two intervals that are not empty overlap where an instant lies in both. -/
theorem overlaps_iff_contains {a b : Interval} (ha : a.start < a.stop) (hb : b.start < b.stop) :
    a.overlaps b = true ↔ ∃ t, a.Contains t ∧ b.Contains t := by
  rw [overlaps_iff]
  simp only [Contains, Instant.le_iff, Instant.lt_iff] at *
  constructor
  · rintro ⟨hab, hba⟩
    refine ⟨a.start.later b.start, ?_⟩
    rw [Instant.later_micros]
    omega
  · rintro ⟨t, hat, hbt⟩
    omega

/-- What overlaps one of some intervals overlaps one of the merged ones. -/
theorem overlaps_normalize {items : List Interval} {c : Interval} (hc : c.start < c.stop) :
    (∃ b ∈ normalize items, c.overlaps b = true) ↔
      ∃ a ∈ items, a.start < a.stop ∧ c.overlaps a = true := by
  constructor
  · rintro ⟨b, hb, hover⟩
    obtain ⟨t, hct, hbt⟩ :=
      (overlaps_iff_contains hc ((normal_normalize items).nonempty b hb)).1 hover
    obtain ⟨a, ha, hat⟩ := contains_normalize.1 ⟨b, hb, hbt⟩
    exact ⟨a, ha, hat.nonempty, (overlaps_iff_contains hc hat.nonempty).2 ⟨t, hct, hat⟩⟩
  · rintro ⟨a, ha, hne, hover⟩
    obtain ⟨t, hct, hat⟩ := (overlaps_iff_contains hc hne).1 hover
    obtain ⟨b, hb, hbt⟩ := contains_normalize.2 ⟨a, ha, hat⟩
    exact ⟨b, hb, (overlaps_iff_contains hc hbt.nonempty).2 ⟨t, hct, hbt⟩⟩

/-! ## The search -/

/-- All ends below this position are before `t`. -/
def EndsBefore (ends : Array Instant) (t : Instant) (i : Nat) : Prop :=
  ∀ (j : Nat) (e : Instant), j < i → ends[j]? = some e → e < t

/-- The ends are in order. -/
def Ascending (ends : Array Instant) : Prop :=
  ∀ (i j : Nat) (a b : Instant), i ≤ j → ends[i]? = some a → ends[j]? = some b → a ≤ b

/-- The search never passes an end that is not before `t`. -/
theorem endsBefore_searchEnds {ends : Array Instant} {t : Instant} (hasc : Ascending ends)
    (fuel : Nat) {low high : Nat} (h : EndsBefore ends t low) :
    EndsBefore ends t (searchEnds ends t fuel low high) := by
  induction fuel generalizing low high with
  | zero => exact h
  | succ fuel ih =>
    unfold searchEnds
    split
    · dsimp only
      split
      · rename_i e he
        split
        · rename_i hlt
          apply ih
          intro j a hj ha
          have hle := hasc j _ a e (by omega) ha he
          exact Nat.lt_of_le_of_lt hle hlt
        · exact ih h
      · exact h
    · exact h

theorem ascending_ends {busy : List Interval} (h : Normal busy) : Ascending (ends busy) := by
  intro i j a b hij ha hb
  simp only [ends, List.getElem?_toArray, List.getElem?_map, Option.map_eq_some_iff] at ha hb
  obtain ⟨x, hx, rfl⟩ := ha
  obtain ⟨y, hy, rfl⟩ := hb
  rcases Nat.lt_or_eq_of_le hij with hlt | rfl
  · have hapart := List.pairwise_iff_getElem.1 h.apart
    obtain ⟨hi, rfl⟩ := List.getElem?_eq_some_iff.1 hx
    obtain ⟨hj, rfl⟩ := List.getElem?_eq_some_iff.1 hy
    have hxy := hapart i j hi hj hlt
    have hne := h.nonempty _ (List.getElem_mem hj)
    simp only [Instant.lt_iff, Instant.le_iff] at *
    omega
  · rw [hx] at hy
    cases hy
    exact Nat.le_refl _

/-- The intervals that are left after those up to a position, and after those
that stop before the candidate starts. -/
def leftFrom (busy : List Interval) (c : Interval) (i : Nat) : List Interval :=
  (busy.drop i).dropWhile fun b => b.stop ≤ c.start

theorem leftFrom_sublist (busy : List Interval) (c : Interval) (i : Nat) :
    List.Sublist (leftFrom busy c i) busy :=
  (List.dropWhile_sublist _).trans (List.drop_sublist i busy)

/-- An interval that stops after the candidate starts is left. -/
theorem mem_leftFrom {busy : List Interval} {b c : Interval} {i : Nat}
    (h : EndsBefore (ends busy) c.start i) (hb : b ∈ busy) (hlt : c.start < b.stop) :
    b ∈ leftFrom busy c i := by
  have hdrop : b ∈ busy.drop i := by
    rw [← List.take_append_drop i busy] at hb
    apply (List.mem_append.1 hb).resolve_left
    intro htake
    obtain ⟨j, hj⟩ := List.getElem?_of_mem htake
    rw [List.getElem?_take] at hj
    split at hj
    · rename_i hji
      have hend := h j b.stop hji (by simp [ends, hj])
      simp only [Instant.lt_iff] at hlt hend
      omega
    · cases hj
  rw [← List.takeWhile_append_dropWhile (p := fun b : Interval => b.stop ≤ c.start)
    (l := busy.drop i)] at hdrop
  apply (List.mem_append.1 hdrop).resolve_left
  intro htake
  have hstop := List.mem_takeWhile_imp htake
  simp only [decide_eq_true_eq, Instant.le_iff, Instant.lt_iff] at hstop hlt
  omega

/-- The search among merged intervals finds an overlap if there is one. -/
theorem overlapsAnyWith_iff {busy : List Interval} (h : Normal busy) (c : Interval) :
    overlapsAnyWith (ends busy) busy c = true ↔ ∃ b ∈ busy, c.overlaps b = true := by
  have hbefore : EndsBefore (ends busy) c.start
      (searchEnds (ends busy) c.start (ends busy).size 0 (ends busy).size) :=
    endsBefore_searchEnds (ascending_ends h) _ fun j e hj => absurd hj (Nat.not_lt_zero j)
  unfold overlapsAnyWith
  dsimp only
  generalize searchEnds (ends busy) c.start (ends busy).size 0 (ends busy).size = i at hbefore ⊢
  have hsub := leftFrom_sublist busy c i
  have hhead := List.head?_dropWhile_not (fun b : Interval => b.stop ≤ c.start) (busy.drop i)
  have hleft : ∀ b ∈ busy, c.start < b.stop → b ∈ leftFrom busy c i :=
    fun b hb => mem_leftFrom hbefore hb
  unfold leftFrom at hsub hleft
  cases hrest : (busy.drop i).dropWhile fun b => b.stop ≤ c.start with
  | nil =>
    rw [hrest] at hleft
    simp only [Bool.false_eq_true, false_iff]
    rintro ⟨b, hb, hover⟩
    cases hleft b hb (overlaps_iff.1 hover).1
  | cons x xs =>
    rw [hrest] at hleft hsub hhead
    simp only [List.head?_cons, decide_eq_false_iff_not, Instant.le_iff] at hhead
    constructor
    · exact fun hover => ⟨x, hsub.subset (by simp), hover⟩
    · rintro ⟨b, hb, hover⟩
      obtain ⟨hstart, hstop⟩ := overlaps_iff.1 hover
      -- The first one that is left starts no later than any other.
      have hxb : x.start ≤ b.start := by
        rcases List.mem_cons.1 (hleft b hb hstart) with rfl | hmem
        · exact Nat.le_refl _
        · have hapart := (List.pairwise_cons.1 (h.apart.sublist hsub)).1 b hmem
          have hne := h.nonempty x (hsub.subset (by simp))
          simp only [Instant.lt_iff, Instant.le_iff] at *
          omega
      rw [overlaps_iff]
      simp only [Instant.lt_iff, Instant.le_iff] at *
      omega

theorem overlapsAnyWith_normalize {items : List Interval} {c : Interval} (hc : c.start < c.stop) :
    overlapsAnyWith (ends (normalize items)) (normalize items) c = true ↔
      ∃ a ∈ items, a.start < a.stop ∧ c.overlaps a = true := by
  rw [overlapsAnyWith_iff (normal_normalize items), overlaps_normalize hc]

end Appointments.Interval
