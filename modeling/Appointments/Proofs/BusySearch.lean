-- The search among busy intervals passes over those that end before the
-- candidate starts, and no other one but the next can be overlapped. So it
-- answers as a look at all of them would.
import Appointments.Proofs.Merging
import Appointments.Proofs.Schedules
namespace Appointments.Interval

/-! ## Where the search stops -/

section
variable {ends : Array Instant} {t : Instant}

theorem searchEnds_le (fuel : Nat) {low high : Nat} (h : low ≤ high) :
    searchEnds ends t fuel low high ≤ high := by
  induction fuel generalizing low high with
  | zero => exact h
  | succ fuel ih =>
    unfold searchEnds
    split
    · dsimp only
      split
      · split
        · exact ih (by omega)
        · exact Nat.le_trans (ih (by omega)) (by omega)
      · exact h
    · exact h

/-- Each step makes the range shorter, so as many steps as it is long make it
empty. -/
theorem not_before_searchEnds (fuel : Nat) {low high : Nat} (hrange : low ≤ high)
    (hfuel : high ≤ low + fuel) (hsize : high ≤ ends.size)
    (h : ∀ e, ends[high]? = some e → t ≤ e) :
    ∀ e, ends[searchEnds ends t fuel low high]? = some e → t ≤ e := by
  induction fuel generalizing low high with
  | zero =>
    obtain rfl : low = high := by omega
    exact h
  | succ fuel ih =>
    unfold searchEnds
    split
    · dsimp only
      split
      · rename_i e he
        split
        · exact ih (by omega) (by omega) hsize h
        · rename_i hnot
          refine ih (by omega) (by omega) (by omega) fun a ha => ?_
          rw [he] at ha
          cases ha
          exact Nat.le_of_not_lt hnot
      · rename_i hnone
        rw [Array.getElem?_eq_none_iff] at hnone
        omega
    · obtain rfl : low = high := by omega
      exact h

end

/-- The search passes over the intervals that end before `t`, and stops
there. -/
theorem searchEnds_eq {busy : List Interval} (h : Normal busy) (t : Instant) :
    searchEnds (ends busy) t (ends busy).size 0 (ends busy).size =
      (busy.takeWhile fun b => b.stop < t).length := by
  have hsize : (ends busy).size = busy.length := by simp [ends]
  have hbefore : EndsBefore (ends busy) t
      (searchEnds (ends busy) t (ends busy).size 0 (ends busy).size) :=
    endsBefore_searchEnds (ascending_ends h) _ fun j e hj => absurd hj (Nat.not_lt_zero j)
  have hstop : ∀ e,
      (ends busy)[searchEnds (ends busy) t (ends busy).size 0 (ends busy).size]? = some e → t ≤ e :=
    not_before_searchEnds _ (Nat.zero_le _) (by omega) (Nat.le_refl _) fun e he => by simp at he
  have hle : searchEnds (ends busy) t (ends busy).size 0 (ends busy).size ≤ (ends busy).size :=
    searchEnds_le _ (Nat.zero_le _)
  generalize searchEnds (ends busy) t (ends busy).size 0 (ends busy).size = i at *
  have hpassed : ∀ b ∈ busy.take i, decide (b.stop < t) = true := by
    intro b hb
    obtain ⟨j, hj⟩ := List.getElem?_of_mem hb
    rw [List.getElem?_take] at hj
    split at hj
    · rename_i hji
      exact decide_eq_true (hbefore j b.stop hji (by simp [ends, hj]))
    · cases hj
  have hrest : (busy.drop i).takeWhile (fun b => decide (b.stop < t)) = [] := by
    cases hdrop : busy.drop i with
    | nil => rfl
    | cons b rest =>
      have hb : busy[i]? = some b := by
        rw [← Nat.add_zero i, ← List.getElem?_drop, hdrop]
        rfl
      have hnot : ¬ b.stop < t := Nat.not_lt.2 (hstop b.stop (by simp [ends, hb]))
      exact List.takeWhile_cons_of_neg (by rwa [decide_eq_true_eq])
  rw [← List.take_append_drop i busy, List.takeWhile_append_of_pos hpassed, hrest,
    List.append_nil, List.length_take]
  omega

/-! ## The search and the scan -/

/-- The search among merged intervals answers as a scan of them does, also for
candidates that are empty or stop before they start. Where the candidate is
not empty, a scan of the intervals as they were before merging, but for the
empty ones, answers the same. The search itself passes over exactly those that
end before the candidate starts. -/
theorem search_answers_as_scan (items : List Interval) (c : Interval) :
    overlapsAny (normalize items) c = (normalize items).any c.overlaps ∧
      overlapsAnyWith (ends (normalize items)) (normalize items) c =
        (normalize items).any c.overlaps ∧
      (c.start < c.stop →
        overlapsAny (normalize items) c = items.any fun a => !a.isEmpty && c.overlaps a) ∧
      searchEnds (ends (normalize items)) c.start (ends (normalize items)).size 0
          (ends (normalize items)).size =
        ((normalize items).takeWhile fun b => b.stop < c.start).length := by
  have hscan : overlapsAnyWith (ends (normalize items)) (normalize items) c =
      (normalize items).any c.overlaps := by
    rw [Bool.eq_iff_iff, overlapsAnyWith_iff (normal_normalize items), List.any_eq_true]
  refine ⟨hscan, hscan, fun hc => ?_, searchEnds_eq (normal_normalize items) c.start⟩
  unfold overlapsAny
  rw [Bool.eq_iff_iff, overlapsAnyWith_normalize hc, List.any_eq_true]
  simp [isEmpty, Instant.le_iff, Instant.lt_iff]

/-- An hour between two busy ones, which were given out of order and one of
them twice, touches both and overlaps neither. -/
theorem hour_between_busy_hours_is_free :
    Practice.ten < Practice.eleven ∧
      overlapsAny (normalize [⟨Practice.eleven, Practice.noon⟩, ⟨Practice.nine, Practice.ten⟩,
        ⟨Practice.nine, Practice.ten⟩]) ⟨Practice.ten, Practice.eleven⟩ = false := by
  have hscan := (search_answers_as_scan [⟨Practice.eleven, Practice.noon⟩,
    ⟨Practice.nine, Practice.ten⟩, ⟨Practice.nine, Practice.ten⟩]
    ⟨Practice.ten, Practice.eleven⟩).2.2.1
  have hstart : Practice.ten < Practice.eleven := by decide
  exact ⟨hstart, (hscan hstart).trans (by decide)⟩

end Appointments.Interval
