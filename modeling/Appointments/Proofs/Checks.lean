-- The values that callers hand in, once the checks have let them pass: ids
-- and free text without blanks around them, times that are early enough, and
-- lengths within the settings.
import Appointments.Desk.Bookings
import Appointments.Proofs.Instants
import Appointments.Proofs.Outcomes
import Mathlib.Data.List.DropRight
namespace Appointments

/-! ## Text without blanks around it -/

namespace Text

theorem trimChars_eq (drop : Char → Bool) (cs : List Char) :
    trimChars drop cs = (cs.dropWhile drop).rdropWhile drop := rfl

/-- Nothing is left to trim. -/
theorem trimChars_trimChars (drop : Char → Bool) (cs : List Char) :
    trimChars drop (trimChars drop cs) = trimChars drop cs := by
  have hfront : (trimChars drop cs).dropWhile drop = trimChars drop cs := by
    rw [List.dropWhile_eq_self_iff]
    intro hlen
    -- What is left after trimming the end starts as it did before.
    have hstarts : trimChars drop cs <+: cs.dropWhile drop := List.rdropWhile_prefix ..
    have hpos : 0 < (cs.dropWhile drop).length := Nat.lt_of_lt_of_le hlen hstarts.length_le
    rw [hstarts.getElem hlen]
    exact List.dropWhile_eq_self_iff.1 (List.dropWhile_idempotent drop cs) hpos
  rw [trimChars_eq drop (trimChars drop cs), hfront]
  exact List.rdropWhile_idempotent ..

theorem strip_strip (s : String) : strip (strip s) = strip s := by
  unfold strip
  rw [String.toList_ofList, trimChars_trimChars]

theorem stripOrNone_strip (s : String) : stripOrNone (strip s) = stripOrNone s := by
  unfold stripOrNone
  rw [strip_strip]

/-- The text starts and ends with no blank, and there is something in it. -/
def IsTrimmed (s : String) : Prop := strip s = s ∧ ∃ c ∈ s.toList, isBlank c = false

/-- Nothing is left of blanks alone. -/
theorem strip_eq_empty {s : String} (h : ∀ c ∈ s.toList, isBlank c = true) : strip s = "" := by
  have hfront : s.toList.dropWhile isBlank = [] := List.dropWhile_eq_nil_iff.2 h
  unfold strip
  rw [trimChars_eq, hfront]
  rfl

theorem isTrimmed_of_ne_empty {s : String} (h : strip s = s) (hne : s ≠ "") : IsTrimmed s := by
  refine ⟨h, ?_⟩
  by_contra hblank
  apply hne
  rw [← h, strip_eq_empty]
  intro c hc
  by_contra hnot
  exact hblank ⟨c, hc, by simpa using hnot⟩

theorem IsTrimmed.ne_empty {s : String} (h : IsTrimmed s) : s ≠ "" := by
  rintro rfl
  obtain ⟨c, hc, -⟩ := h.2
  cases hc

/-- What is left of free text is trimmed. -/
theorem isTrimmed_of_stripOrNone {s t : String} (h : stripOrNone s = some t) : IsTrimmed t := by
  unfold stripOrNone at h
  dsimp only at h
  split at h
  · cases h
  · rename_i hempty
    cases h
    exact isTrimmed_of_ne_empty (strip_strip s) fun heq => hempty (by rw [heq]; rfl)

end Text

/-! ## Requests -/

namespace Request

theorem id_text_id (v : Value) : id (.text (id v)) = id v := by
  cases v with
  | null => rfl
  | _ => exact Text.strip_strip _

theorem zone_strip (zones : Registry) (name : String) :
    zone zones (Text.strip name) = zone zones name := by
  unfold zone
  rw [Text.stripOrNone_strip]

theorem requiredId_eq_ok {field : String} {v : Value} {id : String}
    (h : requiredId field v = .ok id) : id = Request.id v ∧ id ≠ "" := by
  unfold requiredId at h
  dsimp only at h
  split at h
  · cases h
  · rename_i hempty
    cases h
    exact ⟨rfl, by simpa using hempty⟩

theorem requiredId_eq {field : String} {v : Value} (h : id v ≠ "") :
    requiredId field v = .ok (id v) := by
  unfold requiredId
  dsimp only
  rw [if_neg (by simpa using h)]

/-- Free text is trimmed, and not longer than the limit. -/
theorem text_eq_ok {limit : Int} {v : Value} {s : String}
    (h : text (some limit) v = .ok (some s)) : Text.IsTrimmed s ∧ s.length ≤ limit := by
  unfold text at h
  split at h
  · cases h
  · split at h
    · cases h
    · rename_i t hstrip
      dsimp only at h
      split at h
      · cases h
      · cases h
        exact ⟨Text.isTrimmed_of_stripOrNone hstrip, by omega⟩
  · cases h

end Request

/-! ## What the desk checks -/

namespace Desk

theorem nextStatus_eq_ok {event : Event} {b : Booking} {status : Status}
    (h : nextStatus event b = .ok status) : b.status = .confirmed ∧ status = event.outcome := by
  unfold nextStatus at h
  cases hb : b.status <;> rw [hb] at h <;> cases h
  exact ⟨rfl, rfl⟩

theorem futureStart_eq_ok {now t : Instant} {v : Value} (h : futureStart now v = .ok t) :
    now < t := by
  obtain ⟨start, -, h⟩ := bind_eq_ok.1 h
  split at h
  · cases h
  · cases h
    rw [Instant.lt_iff]
    rename_i hnot
    rw [Instant.le_iff] at hnot
    omega

theorem duration_eq_ok {desk : Desk} {default n : Int} {v : Value}
    (h : desk.duration default v = .ok n) :
    desk.bookings.minMinutes ≤ n ∧ n ≤ desk.bookings.maxMinutes := by
  unfold duration at h
  dsimp only at h
  split at h
  · split at h
    · rename_i hwithin
      cases h
      exact hwithin
    · cases h
  · split at h
    · rename_i hwithin
      cases h
      exact hwithin
    · cases h
  · cases h

/-- A booking that may still be cancelled or rescheduled starts later than
now, and by the hours of notice at least. -/
theorem checkNotice_eq_ok {event : Event} {hours : Int} {now : Instant} {b : Booking}
    (h : checkNotice event hours now b = .ok ()) :
    now < b.start ∧ now.micros + hours * Micros.hour ≤ b.start.micros := by
  unfold checkNotice at h
  dsimp only at h
  split at h
  · cases h
  · rename_i hpositive
    obtain ⟨notice, hnotice, h⟩ := bind_eq_ok.1 h
    rw [orFail_eq_ok] at hnotice
    have hmicros := Span.micros_of_ofMicros hnotice
    unfold Instant.microsTo at hpositive h
    split at h
    · cases h
    · rename_i henough
      rw [Instant.lt_iff]
      simp only [Int.ofNat_eq_natCast] at hpositive henough
      omega

end Desk
end Appointments
