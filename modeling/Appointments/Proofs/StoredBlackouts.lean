-- Blackouts that are read back from their documents. Documents keep instants up
-- to the millisecond, so what starts and ends in the same one is refused.
import Appointments.Proofs.DocumentInstants
namespace Appointments

/-! ## Values that are read back -/

namespace Value

variable {α β : Type} {read : Value → Reading β} {limit : Nat}

theorem readTextUpTo_eq_ok {v : Value} {s : String} :
    v.readTextUpTo limit = .ok s ↔ v = .text s ∧ s.length ≤ limit := by
  unfold readTextUpTo
  rw [Reading.check_eq_ok]
  constructor
  · rintro ⟨t, ht, h⟩
    split at h
    · cases h
    · rename_i hlength
      cases h
      cases v with
      | text t' =>
        cases ht
        exact ⟨rfl, Nat.le_of_not_lt hlength⟩
      | _ => cases ht
  · rintro ⟨rfl, hlength⟩
    exact ⟨s, rfl, if_neg (Nat.not_lt.2 hlength)⟩

theorem of_readOption {v : Value} {b : β} (h : readOption read v = .ok (some b)) :
    read v = .ok b := by
  cases v with
  | null => cases h
  | _ =>
    obtain ⟨c, hc, hsome⟩ := Reading.map_eq_ok.1 h
    rw [hc, Option.some.inj hsome]

/-- Null for nothing is read back as nothing. -/
theorem readOption_ofOption {f : α → Value} {g : α → β} {x : Option α} (hnull : ∀ a, f a ≠ .null)
    (h : ∀ a, x = some a → read (f a) = .ok (g a)) :
    readOption read (ofOption f x) = .ok (x.map g) := by
  cases x with
  | none => rfl
  | some a =>
    have hread : readOption read (f a) = (read (f a)).map some := by
      cases hf : f a with
      | null => exact absurd hf (hnull a)
      | _ => rfl
    rw [ofOption, hread, h a rfl]
    rfl

theorem readOption_ofOption_self {f : β → Value} {x : Option β} (hnull : ∀ b, f b ≠ .null)
    (h : ∀ b, x = some b → read (f b) = .ok b) : readOption read (ofOption f x) = .ok x := by
  rw [readOption_ofOption (g := id) hnull h, Option.map_id_apply]

/-- A nullable text of so many characters at most. -/
theorem readOption_text {x : Option String} (h : ∀ s, x = some s → s.length ≤ limit) :
    readOption (readTextUpTo limit) (ofOption .text x) = .ok x :=
  readOption_ofOption_self nofun fun s hs => readTextUpTo_eq_ok.2 ⟨rfl, h s hs⟩

end Value

namespace FieldName

variable {α : Type} {f : FieldName} {read : Value → Reading α} {fields : List (String × Value)}
  {v : Value} {x : α}

theorem find?_of_lookup (h : fields.lookup f.document = some v) :
    f.find? fields = some (f.document, v) := by
  unfold find?
  rw [h]

/-- A field that stands under its name in documents. -/
theorem required_of_lookup (h : fields.lookup f.document = some v) (hread : read v = .ok x) :
    f.required read fields = .ok x := by
  unfold required
  rw [find?_of_lookup h]
  exact Reading.under_eq_ok.2 hread

theorem withDefault_of_lookup {a : α} (h : fields.lookup f.document = some v)
    (hread : read v = .ok x) : f.withDefault a read fields = .ok x := by
  unfold withDefault
  rw [find?_of_lookup h]
  exact Reading.under_eq_ok.2 hread

theorem read_of_withDefault {a : α} (h : fields.lookup f.document = some v)
    (hread : f.withDefault a read fields = .ok x) : read v = .ok x := by
  unfold withDefault at hread
  rw [find?_of_lookup h] at hread
  exact Reading.under_eq_ok.1 hread

/-- A nullable text that is read is not too long. -/
theorem length_of_withDefault {limit : Nat} {text : Option String}
    (h : f.withDefault none (Value.readOption (Value.readTextUpTo limit)) fields = .ok text) :
    ∀ s, text = some s → s.length ≤ limit := by
  rintro s rfl
  rcases of_withDefault h with hnone | ⟨u, hu⟩
  · cases hnone
  · exact (Value.readTextUpTo_eq_ok.1 (Value.of_readOption hu)).2

end FieldName

/-! ## Blackouts that validation accepts -/

namespace Blackout

/-- A reason is not too long. -/
def ReasonFits (b : Blackout) : Prop := ∀ s, b.reason = some s → s.length ≤ maxReasonLength

/-- The blackout is read from a value, or is the answer to a call that adds
one. -/
inductive Accepted : Blackout → Prop
  | read {v : Value} {b : Blackout} (read : Blackout.read v = .ok b) : Accepted b
  | added {desk : Desk} {w : World} {provider start stop reason isActive : Value} {b : Blackout}
      (answer : (desk.addBlackout provider start stop reason isActive).Ends w
        fun answer _ => answer = .ok b) : Accepted b

variable {b : Blackout}

theorem reason_of_make {id provider : String} {start stop : Instant} {reason : Option String}
    {isActive : Bool} (h : make id provider start stop reason isActive = .ok b) :
    b.reason = reason := by
  unfold make at h
  split at h
  · cases h
    rfl
  · cases h

theorem reasonFits_of_read {v : Value} (h : Blackout.read v = .ok b) : b.ReasonFits := by
  obtain ⟨⟨id, provider, start, stop, reason, isActive⟩, hparts, hmake⟩ := Reading.check_eq_ok.1 h
  have hreason : ∃ fields, reasonField.withDefault none
      (Value.readOption (Value.readTextUpTo maxReasonLength)) fields = .ok reason := by
    unfold Value.readRecord at hparts
    split at hparts
    · simp only [Reading.seq_eq_ok, Reading.map_eq_ok] at hparts
      obtain ⟨_, ⟨_, ⟨_, ⟨_, ⟨_, ⟨_, -, rfl⟩, _, -, rfl⟩, _, -, rfl⟩, _, -, rfl⟩, _, hreason, rfl⟩,
        _, -, hsame⟩ := hparts
      cases hsame
      exact ⟨_, hreason⟩
    · cases hparts
  obtain ⟨fields, hreason⟩ := hreason
  unfold ReasonFits
  rw [reason_of_make hmake]
  exact FieldName.length_of_withDefault hreason

end Blackout

/-! ## Blackouts of the desk -/

namespace Desk

theorem reasonFits_of_askedBlackout {id provider : String} {start stop : Instant}
    {reason isActive : Value} {b : Blackout}
    (h : askedBlackout id provider start stop reason isActive = .ok b) : b.ReasonFits := by
  obtain ⟨given, hgiven, h⟩ := bind_eq_ok.1 h
  obtain ⟨active, -, h⟩ := Reading.check_eq_ok.1 (Reading.orFail_eq_ok.1 h)
  intro s hs
  rw [Blackout.reason_of_make h] at hs
  rw [hs] at hgiven
  exact Int.ofNat_le.1 (Request.text_eq_ok hgiven).2

theorem reasonFits_of_addBlackout {desk : Desk} {w : World}
    {provider start stop reason isActive : Value} {b : Blackout}
    (h : (desk.addBlackout provider start stop reason isActive).Ends w
      fun answer _ => answer = .ok b) : b.ReasonFits := by
  obtain ⟨hanswer, -⟩ := desk.follows_addBlackout w.view provider start stop reason isActive w rfl
  obtain ⟨entries, h⟩ := Ruling.of_eq_of_answer (hanswer.symm.trans h)
  obtain ⟨p, -, h⟩ := bind_eq_ok.1 h
  obtain ⟨start, -, h⟩ := bind_eq_ok.1 h
  obtain ⟨stop, -, h⟩ := bind_eq_ok.1 h
  split at h
  · cases h
  obtain ⟨asked, hasked, h⟩ := bind_eq_ok.1 h
  obtain ⟨longest, -, h⟩ := bind_eq_ok.1 h
  split at h
  · cases h
  obtain ⟨⟨⟩, -, h⟩ := bind_eq_ok.1 h
  obtain ⟨⟨⟩, -, h⟩ := bind_eq_ok.1 h
  cases h
  exact reasonFits_of_askedBlackout hasked

end Desk

namespace Blackout

variable {b : Blackout}

theorem Accepted.reasonFits (h : b.Accepted) : b.ReasonFits := by
  cases h with
  | read h => exact reasonFits_of_read h
  | added h => exact Desk.reasonFits_of_addBlackout h

/-! ## Documents that are read -/

/-- Every field is read back by itself, and then the order of the instants is
checked anew. -/
theorem read_document (hb : b.ReasonFits) (hstart : 1000 ≤ b.start.year)
    (hstop : 1000 ≤ b.stop.year) : Blackout.read b.document =
      make b.id b.provider b.start.wholeMillis b.stop.wholeMillis b.reason b.isActive := by
  obtain ⟨fields, hfields⟩ : ∃ fields, b.document = .object fields := ⟨_, rfl⟩
  have hid : idField.required Value.readText fields = .ok b.id := by
    cases hfields
    rfl
  have hprovider : providerField.required Value.readText fields = .ok b.provider := by
    cases hfields
    rfl
  have hstarts : startField.required Instant.read fields = .ok b.start.wholeMillis := by
    cases hfields
    exact FieldName.required_of_lookup rfl (Instant.read_document hstart)
  have hstops : stopField.required Instant.read fields = .ok b.stop.wholeMillis := by
    cases hfields
    exact FieldName.required_of_lookup rfl (Instant.read_document hstop)
  have hreason : reasonField.withDefault none
      (Value.readOption (Value.readTextUpTo maxReasonLength)) fields = .ok b.reason := by
    cases hfields
    exact FieldName.withDefault_of_lookup rfl (Value.readOption_text hb)
  have hactive : isActiveField.withDefault true Value.readBool fields = .ok b.isActive := by
    cases hfields
    rfl
  rw [hfields]
  unfold Blackout.read Value.readRecord
  dsimp only
  rw [hid, hprovider, hstarts, hstops, hreason, hactive]
  rfl

/-- What is stored of an accepted blackout is read back up to the millisecond,
but refused where nothing of its length is left. -/
theorem reads_back_what_lasts {b : Blackout} (hb : b.Accepted) (hstart : 1000 ≤ b.start.year)
    (hstop : 1000 ≤ b.stop.year) : Blackout.read b.document =
      if h : b.start.wholeMillis < b.stop.wholeMillis then
        .ok { b with start := b.start.wholeMillis, stop := b.stop.wholeMillis, start_lt := h }
      else .issues [⟨[], .rule "endAt must be after startAt"⟩] :=
  read_document hb.reasonFits hstart hstop

end Blackout

/-! ## The small practice -/

namespace Practice

/-- So many microseconds after eight o'clock on a Monday in March. -/
def afterEight (micros : Fin 1000000) : Instant :=
  ⟨739683 * Micros.day + 8 * Micros.hour + micros, by
    have hlt := micros.isLt
    unfold dayCount Micros.day Micros.hour Micros.minute Micros.second at *
    omega⟩

/-- The doctor is away for a little more than a millisecond. -/
def briefAbsence : Blackout :=
  ⟨"g1", "doctor", afterEight 999, afterEight 2001, some "Phone", true, by decide⟩

theorem brief_absence_is_read_back :
    briefAbsence.Accepted ∧ 1000 ≤ briefAbsence.start.year ∧ 1000 ≤ briefAbsence.stop.year ∧
      Blackout.read briefAbsence.document = .ok
        { briefAbsence with
          start := afterEight 0, stop := afterEight 2000, start_lt := by decide } := by
  have hends : (({} : Desk).addBlackout (.text " doctor ") (.text "2026-03-09T08:00:00.000999Z")
      (.text "2026-03-09T08:00:00.002001Z") (.text "Phone") (.bool true)).Ends { clock := today }
        fun answer _ => answer = .ok briefAbsence := by
    apply toOption_eq_some.1
    decide +kernel
  have haccepted : briefAbsence.Accepted := .added hends
  have hstart : 1000 ≤ briefAbsence.start.year := by decide +kernel
  have hstop : 1000 ≤ briefAbsence.stop.year := by decide +kernel
  refine ⟨haccepted, hstart, hstop, ?_⟩
  rw [Blackout.reads_back_what_lasts haccepted hstart hstop, dif_pos (by decide)]
  rfl

/-- The doctor is away for a part of a millisecond. -/
def shortestAbsence : Blackout :=
  ⟨"g1", "doctor", afterEight 100, afterEight 200, none, true, by decide⟩

/-- The desk adds the blackout, but its document is no blackout. -/
theorem shortest_absence_is_not_read_back :
    ((({} : Desk).addBlackout (.text "doctor") (.text "2026-03-09T08:00:00.000100Z")
        (.text "2026-03-09T08:00:00.000200Z") .null (.bool true)).Ends { clock := today }
      fun answer _ => answer = .ok shortestAbsence) ∧
      1000 ≤ shortestAbsence.start.year ∧ 1000 ≤ shortestAbsence.stop.year ∧
      ∀ b, Blackout.read shortestAbsence.document ≠ .ok b := by
  refine ⟨?_, by decide +kernel, by decide +kernel, ?_⟩
  · apply toOption_eq_some.1
    decide +kernel
  · have hread : (Blackout.read shortestAbsence.document).toOption = none := by decide +kernel
    intro b hb
    rw [hb] at hread
    cases hread

end Practice
end Appointments
