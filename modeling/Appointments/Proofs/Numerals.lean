-- Numbers as they are written: in digits of a fixed width, which are read back
-- whatever follows them, or in as few digits as they need.
import Appointments.Text.Blank
import Appointments.Text.DecimalDigit
import Appointments.Text.Digits
import Mathlib.Algebra.Ring.Nat
import Mathlib.Data.List.Basic
import Mathlib.Data.List.Induction
namespace Appointments.Text

variable {width n : Nat} {c : Char} {rest : List Char}

/-! ## Single digits -/

theorem isAsciiDigit_iff : isAsciiDigit c = true ↔ 48 ≤ c.toNat ∧ c.toNat ≤ 57 := by
  unfold isAsciiDigit
  simp only [Bool.and_eq_true, decide_eq_true_eq]
  exact Iff.rfl

theorem isAsciiDigit_digitChar (h : n < 10) : isAsciiDigit (Nat.digitChar n) = true := by
  have hall : ∀ n < 10, isAsciiDigit (Nat.digitChar n) = true := by decide
  exact hall n h

theorem digitChar_value (h : n < 10) : (Nat.digitChar n).toNat - '0'.toNat = n := by
  have hall : ∀ n < 10, (Nat.digitChar n).toNat - '0'.toNat = n := by decide
  exact hall n h

theorem value_lt_of_isAsciiDigit (h : isAsciiDigit c = true) : c.toNat - '0'.toNat < 10 := by
  have hzero : '0'.toNat = 48 := rfl
  rw [isAsciiDigit_iff] at h
  omega

theorem digitChar_of_isAsciiDigit (h : isAsciiDigit c = true) :
    Nat.digitChar (c.toNat - '0'.toNat) = c := by
  apply Char.toNat_inj.1
  rw [Nat.toNat_digitChar_of_lt_ten (value_lt_of_isAsciiDigit h)]
  exact Nat.add_sub_cancel' (isAsciiDigit_iff.1 h).1

theorem digitValue?_of_isAsciiDigit (h : isAsciiDigit c = true) :
    digitValue? c = some (c.toNat - '0'.toNat) := by
  rw [isAsciiDigit_iff] at h
  unfold digitValue? zeros
  rw [List.find?_cons_of_pos]
  · rfl
  · simp only [Bool.and_eq_true, decide_eq_true_eq]
    omega

theorem isBlank_of_isAsciiDigit (h : isAsciiDigit c = true) : isBlank c = false := by
  rw [isAsciiDigit_iff] at h
  simp [isBlank, isWhiteSpace, isSeparator]
  omega

theorem ne_of_isAsciiDigit {mark : Char} (h : isAsciiDigit c = true)
    (hmark : isAsciiDigit mark = false) : c ≠ mark := by
  rintro rfl
  rw [h] at hmark
  cases hmark

/-! ## Digits of a fixed width -/

theorem isAsciiDigit_of_mem_digits (h : c ∈ digits 10 width n) : isAsciiDigit c = true := by
  induction width generalizing n with
  | zero => cases h
  | succ width ih =>
    rcases List.mem_append.1 h with h | h
    · exact ih h
    · rw [List.mem_singleton.1 h]
      exact isAsciiDigit_digitChar (Nat.mod_lt _ (by decide))

theorem ofDigits_concat (cs : List Char) (c : Char) :
    ofDigits (cs ++ [c]) = 10 * ofDigits cs + (c.toNat - '0'.toNat) :=
  List.foldl_concat ..

theorem ofDigits_digits (h : n < 10 ^ width) : ofDigits (digits 10 width n) = n := by
  induction width generalizing n with
  | zero =>
    have hzero : n = 0 := by simpa using h
    rw [hzero]
    rfl
  | succ width ih =>
    have hlt : n / 10 < 10 ^ width := Nat.div_lt_of_lt_mul (by rw [← Nat.pow_succ']; exact h)
    unfold digits
    rw [ofDigits_concat, ih hlt, digitChar_value (Nat.mod_lt _ (by decide))]
    exact Nat.div_add_mod n 10

theorem digits_injective {m : Nat} (hm : m < 10 ^ width) (hn : n < 10 ^ width)
    (h : digits 10 width m = digits 10 width n) : m = n := by
  rw [← ofDigits_digits hm, h, ofDigits_digits hn]

/-- Digits with zeros after them spell a number with as many zeros. -/
theorem ofDigits_append_zeros (cs : List Char) (zeros : Nat) :
    ofDigits (cs ++ List.replicate zeros '0') = ofDigits cs * 10 ^ zeros := by
  induction zeros with
  | zero => simp
  | succ zeros ih =>
    have hzero : '0'.toNat - '0'.toNat = 0 := rfl
    rw [List.replicate_succ', ← List.append_assoc, ofDigits_concat, ih, hzero, Nat.pow_succ',
      Nat.add_zero]
    exact Nat.mul_left_comm ..

theorem takeDigits?_digits (h : n < 10 ^ width) :
    takeDigits? width (digits 10 width n ++ rest) = some (n, rest) := by
  have hlen := length_digits 10 width n
  unfold takeDigits?
  dsimp only
  rw [List.take_left' hlen, List.drop_left' hlen, ofDigits_digits h]
  exact if_pos ⟨hlen, List.all_eq_true.2 fun c hc => isAsciiDigit_of_mem_digits hc⟩

/-- Digits with nothing behind them. -/
theorem takeDigits?_digits_end (h : n < 10 ^ width) :
    takeDigits? width (digits 10 width n) = some (n, []) := by
  rw [← List.append_nil (digits 10 width n), takeDigits?_digits h]

/-- Digits are the numeral of what they spell, in as many places. -/
theorem digits_ofDigits {cs : List Char} (h : ∀ c ∈ cs, isAsciiDigit c = true) :
    ofDigits cs < 10 ^ cs.length ∧ digits 10 cs.length (ofDigits cs) = cs := by
  induction cs using List.reverseRecOn with
  | nil => exact ⟨by decide, rfl⟩
  | append_singleton cs c ih =>
    obtain ⟨hlt, hdigits⟩ := ih fun x hx => h x (List.mem_append_left _ hx)
    have hc : isAsciiDigit c = true := h c (by simp)
    have hvalue := value_lt_of_isAsciiDigit hc
    rw [ofDigits_concat, List.length_append, List.length_singleton, digits]
    have hquotient : (10 * ofDigits cs + (c.toNat - '0'.toNat)) / 10 = ofDigits cs := by omega
    have hlast : (10 * ofDigits cs + (c.toNat - '0'.toNat)) % 10 = c.toNat - '0'.toNat := by omega
    rw [hquotient, hlast, hdigits, digitChar_of_isAsciiDigit hc, Nat.pow_succ]
    exact ⟨by omega, rfl⟩

/-- What is taken is a numeral of so many places. -/
theorem takeDigits?_eq_some {cs : List Char} :
    takeDigits? width cs = some (n, rest) ↔ n < 10 ^ width ∧ cs = digits 10 width n ++ rest := by
  constructor
  · intro h
    unfold takeDigits? at h
    dsimp only at h
    split at h
    · rename_i hdigits
      obtain ⟨rfl, rfl⟩ := Prod.mk.inj (Option.some.inj h)
      obtain ⟨hlt, hback⟩ := digits_ofDigits (List.all_eq_true.1 hdigits.2)
      rw [hdigits.1] at hlt hback
      rw [hback, List.take_append_drop]
      exact ⟨hlt, rfl⟩
    · cases h
  · rintro ⟨hlt, rfl⟩
    exact takeDigits?_digits hlt

theorem digits_eq_cons (base width n : Nat) :
    digits base (width + 1) n = Nat.digitChar (n / base ^ width % base) :: digits base width n := by
  induction width generalizing n with
  | zero => simp [digits]
  | succ width ih =>
    rw [digits, ih, Nat.div_div_eq_div_mul, ← Nat.pow_succ']
    rfl

theorem takeWhile_digits (hrest : rest.head?.all (!isAsciiDigit ·) = true) :
    (digits 10 width n ++ rest).takeWhile isAsciiDigit = digits 10 width n := by
  rw [List.takeWhile_append_of_pos fun c hc => isAsciiDigit_of_mem_digits hc]
  cases rest with
  | nil => simp
  | cons c rest => rw [List.takeWhile_cons_of_neg (by simpa using hrest), List.append_nil]

/-! ## As few digits as needed -/

theorem isAsciiDigit_of_mem_toDigits (h : c ∈ Nat.toDigits 10 n) : isAsciiDigit c = true := by
  have hdigit := Nat.isDigit_of_mem_toDigits (by decide) (by decide) h
  unfold Char.isDigit at hdigit
  unfold isAsciiDigit
  simpa [UInt32.le_iff_toNat_le] using hdigit

/-- A number that needs all of the places has no zero in front. -/
theorem toDigits_eq_digits (hleast : 10 ^ width ≤ n) (hlt : n < 10 ^ (width + 1)) :
    Nat.toDigits 10 n = digits 10 (width + 1) n := by
  induction width generalizing n with
  | zero =>
    have hone : n < 10 := by simpa using hlt
    rw [Nat.toDigits_of_lt_base hone]
    simp [digits, Nat.mod_eq_of_lt hone]
  | succ width ih =>
    have hten : 10 ≤ n := by
      have := Nat.pow_pos (n := width) (show 0 < 10 by decide)
      rw [Nat.pow_succ] at hleast
      omega
    have hquotient : Nat.toDigits 10 (n / 10) = digits 10 (width + 1) (n / 10) := by
      rw [Nat.pow_succ] at hleast hlt
      exact ih (by omega) (by omega)
    rw [Nat.toDigits_of_base_le (by decide) hten, hquotient]
    rfl

theorem ofDigits_toDigits (n : Nat) : ofDigits (Nat.toDigits 10 n) = n := by
  induction n using Nat.strongRecOn with
  | ind n ih =>
    rcases Nat.lt_or_ge n 10 with hlt | hge
    · rw [Nat.toDigits_of_lt_base hlt]
      exact (ofDigits_concat [] _).trans (by rw [digitChar_value hlt]; simp [ofDigits])
    · rw [Nat.toDigits_of_base_le (by decide) hge, ofDigits_concat, ih _ (by omega),
        digitChar_value (Nat.mod_lt _ (by decide))]
      exact Nat.div_add_mod n 10

end Appointments.Text
