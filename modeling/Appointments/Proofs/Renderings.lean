-- Instants as callers write them: date and time of day on the clocks of any
-- offset from UTC, with that offset behind them. Every rendering of an instant
-- is read as that instant.
import Appointments.Proofs.CalendarEdges
import Appointments.Proofs.CivilDays
import Appointments.Proofs.Numerals
namespace Appointments

/-! ## Blanks around a text -/

theorem Text.trimChars_surrounded {drop : Char → Bool} {before kept after : List Char}
    (hbefore : ∀ c ∈ before, drop c = true) (hkept : ∀ c ∈ kept, drop c = false)
    (hafter : ∀ c ∈ after, drop c = true) : trimChars drop (before ++ kept ++ after) = kept := by
  have hfront : ∀ {cs : List Char}, (∀ c ∈ cs, drop c = false) → cs.dropWhile drop = cs := by
    intro cs hcs
    cases cs with
    | nil => rfl
    | cons c cs => rw [List.dropWhile_cons_of_neg (by simp [hcs])]
  unfold trimChars
  rw [List.append_assoc, List.dropWhile_append_of_pos hbefore]
  cases kept with
  | nil =>
    rw [List.nil_append, List.dropWhile_eq_nil_iff.2 hafter]
    rfl
  | cons c kept =>
    have hback : ∀ x ∈ (c :: kept).reverse, drop x = false :=
      fun x hx => hkept x (List.mem_reverse.1 hx)
    rw [List.cons_append, List.dropWhile_cons_of_neg (by simp [hkept]), ← List.cons_append,
      List.reverse_append, List.dropWhile_append_of_pos (by simpa using hafter),
      hfront hback, List.reverse_reverse]

/-! ## Date and time of day -/

theorem Day.text_toList (d : Day) : d.text.toList = Text.digits 10 4 d.year ++
    '-' :: Text.digits 10 2 d.month ++ '-' :: Text.digits 10 2 d.dayOfMonth := by
  unfold Day.text
  exact String.toList_ofList ..

namespace Instant

/-- Hour, minute and second. -/
def clockParts (t : Instant) : List Nat :=
  let s := t.sinceMidnight / Micros.second
  [s / 3600, s / 60 % 60, s % 60]

/-- Date and time of day with so many decimals of the second. What lies below
them is dropped. -/
def written (places : Nat) (t : Instant) : List Char :=
  t.day.text.toList ++ 'T' :: t.clockChars ++
    '.' :: Text.digits 10 places (t.fraction / 10 ^ (6 - places))

/-- The instant without what lies below so many decimals of the second. -/
def cut (places : Nat) (t : Instant) : Instant :=
  ⟨t.micros - t.micros % 10 ^ (6 - places), Nat.lt_of_le_of_lt (Nat.sub_le ..) t.micros_lt⟩

theorem cut_six (t : Instant) : t.cut 6 = t := by
  apply Instant.ext
  unfold cut
  dsimp only
  omega

theorem cut_three (t : Instant) : t.cut 3 = t.wholeMillis := rfl

end Instant

/-! ## Dates that are read -/

namespace Stamp

open Text

variable {t : Instant} {places n : Nat} {offset rest : List Char} {parts : List Nat}

theorem date?_text (d : Day) : date? d.text.toList = some d := by
  obtain ⟨⟨-, hyear⟩, ⟨-, hmonth⟩, ⟨-, hday⟩, hcivil⟩ := d.civil_spec
  have hyear_lt : d.year < 10 ^ 4 := by omega
  have hmonth_lt : d.month < 10 ^ 2 := by omega
  have hday_lt : d.dayOfMonth < 10 ^ 2 := by omega
  rw [Day.text_toList, List.append_assoc]
  unfold date?
  simp only [takeDigits?_digits hyear_lt, Option.bind_eq_bind, Option.bind_some, List.cons_append,
    List.head?_cons, if_true, List.drop_succ_cons, List.drop_zero]
  split
  · -- A month is no W.
    rename_i rest hweek
    rw [digits_eq_cons] at hweek
    have hhead := (List.cons.inj hweek).1
    refine absurd hhead (ne_of_isAsciiDigit ?_ rfl)
    exact isAsciiDigit_digitChar (Nat.mod_lt _ (by decide))
  · simpa [takeDigits?_digits hmonth_lt, afterHyphen?, takeDigits?_digits_end hday_lt] using hcivil

theorem dateLength_text (d : Day) (rest : List Char) :
    dateLength (d.text.toList ++ rest) = 10 := by
  have hlen : d.text.toList.length = 10 := by simp [Day.text_toList, length_digits]
  unfold dateLength
  rw [if_neg (by rw [List.length_append, hlen]; omega), Day.text_toList]
  simp [digits]

/-! ## Clock readings that are read -/

/-- Two digits with a colon behind them, and something more. -/
theorem clock?_colon {more : Nat} {colons : Option Bool} (hcolons : colons ≠ some false)
    (hn : n < 100) (hrest : rest ≠ []) :
    clock? (more + 1) colons parts (digits 10 2 n ++ ':' :: rest) =
      clock? more (some true) (parts ++ [n]) rest := by
  have hsome : colons.getD true = true := by
    cases colons with
    | none => rfl
    | some b => cases b <;> simp_all
  rw [clock?, takeDigits?_digits hn]
  simp [hsome, hrest]

/-- Two digits with a point behind them, and a fraction. -/
theorem clock?_point {more : Nat} (hn : n < 100) (hrest : rest ≠ []) :
    clock? (more + 1) (some true) parts (digits 10 2 n ++ '.' :: rest) =
      fraction? (parts ++ [n]) rest := by
  rw [clock?, takeDigits?_digits hn]
  simp [hrest]

theorem clock?_end {more : Nat} {colons : Option Bool} (hn : n < 100) :
    clock? (more + 1) colons parts (digits 10 2 n) = some ⟨parts ++ [n], 0, false⟩ := by
  rw [clock?, takeDigits?_digits_end hn]

/-- Missing decimals are zeros. -/
theorem ofDigits_decimals (hplaces : places ≤ 6) (hn : n < 10 ^ places) :
    ofDigits ((digits 10 places n).take 6 ++
      List.replicate (6 - (digits 10 places n).length) '0') = n * 10 ^ (6 - places) := by
  rw [length_digits, List.take_of_length_le (by rw [length_digits]; exact hplaces),
    ofDigits_append_zeros, ofDigits_digits hn]

theorem fraction?_digits (hplaces : places ≤ 6) (hn : n < 10 ^ places) :
    fraction? parts (digits 10 places n) = some ⟨parts, n * 10 ^ (6 - places), false⟩ := by
  have hdigits : (digits 10 places n).takeWhile isAsciiDigit = digits 10 places n :=
    List.takeWhile_eq_self_iff.2 fun c hc => isAsciiDigit_of_mem_digits hc
  unfold fraction?
  dsimp only
  rw [hdigits, ofDigits_decimals hplaces hn, List.drop_length]
  exact if_pos (.inr rfl)

/-! ## Times of day -/

theorem fraction_lt (t : Instant) : t.fraction < 10 ^ 6 := Nat.mod_lt _ (by decide)

theorem decimals_lt (t : Instant) (hplaces : places ≤ 6) :
    t.fraction / 10 ^ (6 - places) < 10 ^ places := by
  apply Nat.div_lt_of_lt_mul
  rw [← Nat.pow_add, Nat.sub_add_cancel hplaces]
  exact fraction_lt t

theorem seconds_lt (t : Instant) : t.sinceMidnight / Micros.second < 86400 :=
  Nat.div_lt_of_lt_mul (Nat.mod_lt _ (by decide))

theorem clock?_written (t : Instant) (hpos : 0 < places) (hplaces : places ≤ 6) :
    clock? 3 none [] (t.clockChars ++ '.' :: digits 10 places (t.fraction / 10 ^ (6 - places))) =
      some ⟨t.clockParts, t.fraction / 10 ^ (6 - places) * 10 ^ (6 - places), false⟩ := by
  have hseconds := seconds_lt t
  have hdecimals : digits 10 places (t.fraction / 10 ^ (6 - places)) ≠ [] := by
    rw [← List.length_pos_iff, length_digits]
    exact hpos
  unfold Instant.clockChars Instant.clockParts
  dsimp only
  rw [List.append_assoc, List.append_assoc, List.cons_append,
    clock?_colon (by simp) (by omega) (by simp), List.cons_append,
    clock?_colon (by simp) (by omega) (by simp), clock?_point (by omega) hdecimals,
    fraction?_digits hplaces (decimals_lt t hplaces)]
  rfl

theorem length_clockParts (t : Instant) (micros : Nat) :
    t.day.number * Micros.day + Clock.length ⟨t.clockParts, micros, false⟩ + t.fraction =
      t.micros + micros := by
  unfold Clock.length Instant.clockParts Instant.day Instant.sinceMidnight Instant.fraction
  simp only [List.getD_cons_zero, List.getD_cons_succ]
  unfold Micros.day Micros.hour Micros.minute Micros.second
  omega

/-- The decimals that are kept are the microseconds of the second but for what
is cut off. -/
theorem decimals_add (t : Instant) (places : Nat) :
    t.fraction / 10 ^ (6 - places) * 10 ^ (6 - places) + t.micros % 10 ^ (6 - places) =
      t.fraction := by
  have hdvd : 10 ^ (6 - places) ∣ Micros.second := Nat.pow_dvd_pow 10 (Nat.sub_le 6 places)
  rw [Nat.mul_comm, ← Nat.mod_mod_of_dvd t.micros hdvd]
  exact Nat.div_add_mod t.fraction _

theorem wallClock?_written (t : Instant) (places : Nat) :
    wallClock? t.day
        ⟨t.clockParts, t.fraction / 10 ^ (6 - places) * 10 ^ (6 - places), false⟩ =
      some (t.cut places) := by
  have hseconds := seconds_lt t
  have htime : Clock.isTimeOfDay
      ⟨t.clockParts, t.fraction / 10 ^ (6 - places) * 10 ^ (6 - places), false⟩ = true := by
    simp [Clock.isTimeOfDay, Instant.clockParts]
    omega
  have hlength := length_clockParts t (t.fraction / 10 ^ (6 - places) * 10 ^ (6 - places))
  have hbelow := decimals_add t places
  unfold wallClock?
  rw [if_pos htime, toOption_eq_some, Instant.shift_eq_ok, Instant.ofDay_micros]
  unfold Instant.cut
  dsimp only
  omega

/-! ## Whole texts that are read -/

theorem mem_timeOfDay {c : Char} (h : c ∈ t.clockChars ++ '.' :: digits 10 places n) :
    isAsciiDigit c = true ∨ c = ':' ∨ c = '.' := by
  unfold Instant.clockChars at h
  simp only [List.append_assoc, List.cons_append, List.mem_append, List.mem_cons] at h
  rcases h with h | h | h | h | h | h | h
  all_goals first
    | exact .inl (isAsciiDigit_of_mem_digits h)
    | exact .inr (.inl h)
    | exact .inr (.inr h)

theorem mem_date {c : Char} {d : Day} (h : c ∈ d.text.toList) :
    isAsciiDigit c = true ∨ c = '-' := by
  rw [Day.text_toList] at h
  simp only [List.append_assoc, List.cons_append, List.mem_append, List.mem_cons] at h
  rcases h with h | h | h | h | h
  all_goals first
    | exact .inl (isAsciiDigit_of_mem_digits h)
    | exact .inr h

theorem isBlank_of_mem_written {c : Char} (h : c ∈ t.written places) : isBlank c = false := by
  unfold Instant.written at h
  rw [List.append_assoc, List.cons_append, List.mem_append, List.mem_cons] at h
  rcases h with h | rfl | h
  · rcases mem_date h with h | rfl
    · exact isBlank_of_isAsciiDigit h
    · decide
  · decide
  · rcases mem_timeOfDay h with h | rfl | rfl
    · exact isBlank_of_isAsciiDigit h
    · decide
    · decide

/-- A clock reading ends where an offset starts. -/
theorem takeWhile_timeOfDay (hoffset : ∀ c cs, offset = c :: cs → c = '+' ∨ c = '-') :
    ((t.clockChars ++ '.' :: digits 10 places n) ++ offset).takeWhile
        (fun c => c ≠ '+' ∧ c ≠ '-' ∧ c ≠ 'Z') =
      t.clockChars ++ '.' :: digits 10 places n := by
  rw [List.takeWhile_append_of_pos]
  · cases offset with
    | nil => simp
    | cons c cs =>
      rw [List.takeWhile_cons_of_neg, List.append_nil]
      rcases hoffset c cs rfl with rfl | rfl <;> decide
  · intro c hc
    rcases mem_timeOfDay hc with h | rfl | rfl
    · have hplus : c ≠ '+' := ne_of_isAsciiDigit h rfl
      have hminus : c ≠ '-' := ne_of_isAsciiDigit h rfl
      have hzulu : c ≠ 'Z' := ne_of_isAsciiDigit h rfl
      exact decide_eq_true ⟨hplus, hminus, hzulu⟩
    · decide
    · decide

theorem parse?_written (t : Instant) (hpos : 0 < places) (hplaces : places ≤ 6)
    (hoffset : ∀ c cs, offset = c :: cs → c = '+' ∨ c = '-') {o : Option Int}
    (hread : offset? offset = some o) :
    parse? (t.written places ++ offset) = some ⟨t.cut places, o⟩ := by
  have hlen : t.day.text.toList.length = 10 := by simp [Day.text_toList, length_digits]
  have hsplit : t.written places ++ offset = t.day.text.toList ++ 'T' ::
      ((t.clockChars ++ '.' :: digits 10 places (t.fraction / 10 ^ (6 - places))) ++ offset) := by
    simp [Instant.written]
  unfold parse?
  dsimp only
  rw [hsplit, dateLength_text, List.take_left' hlen, List.drop_left' hlen, date?_text]
  dsimp only [Option.bind_eq_bind, Option.bind_some]
  rw [takeWhile_timeOfDay hoffset, List.drop_left, clock?_written t hpos hplaces, hread]
  simp [wallClock?_written]

/-! ## Texts with blanks around them -/

theorem ofRequest?_concat {before cs after : List Char} {c : Char}
    (hbefore : ∀ x ∈ before, isBlank x = true) (hcs : ∀ x ∈ cs, isBlank x = false)
    (hc : isBlank c = false) (hafter : ∀ x ∈ after, isBlank x = true) :
    ofRequest? (String.ofList (before ++ (cs ++ [c]) ++ after)) =
      if c = 'Z' ∨ c = 'z' then parse? (cs ++ ['+', '0', '0', ':', '0', '0'])
      else parse? (cs ++ [c]) := by
  have hkept : ∀ x ∈ cs ++ [c], isBlank x = false := by
    intro x hx
    rcases List.mem_append.1 hx with hx | hx
    · exact hcs x hx
    · rw [List.mem_singleton.1 hx]
      exact hc
  unfold ofRequest?
  dsimp only
  rw [String.toList_ofList, trimChars_surrounded hbefore hkept hafter, List.getLast?_concat,
    List.dropLast_concat]

/-- A text that ends in a digit is read as it stands. -/
theorem ofRequest?_digits {before cs after : List Char} {width : Nat}
    (hbefore : ∀ x ∈ before, isBlank x = true) (hcs : ∀ x ∈ cs, isBlank x = false)
    (hafter : ∀ x ∈ after, isBlank x = true) :
    ofRequest? (String.ofList (before ++ (cs ++ digits 10 (width + 1) n) ++ after)) =
      parse? (cs ++ digits 10 (width + 1) n) := by
  have hlast : isAsciiDigit (Nat.digitChar (n % 10)) = true :=
    isAsciiDigit_digitChar (Nat.mod_lt _ (by decide))
  have hkept : ∀ x ∈ cs ++ digits 10 width (n / 10), isBlank x = false := by
    intro x hx
    rcases List.mem_append.1 hx with hx | hx
    · exact hcs x hx
    · exact isBlank_of_isAsciiDigit (isAsciiDigit_of_mem_digits hx)
  unfold digits
  rw [← List.append_assoc cs,
    ofRequest?_concat hbefore hkept (isBlank_of_isAsciiDigit hlast) hafter, if_neg]
  rintro (h | h)
  · exact ne_of_isAsciiDigit hlast rfl h
  · exact ne_of_isAsciiDigit hlast rfl h

/-! ## Offsets -/

/-- The ways to write an offset of so many minutes: by its sign, hours and
minutes, and for none also by a Z of either case or not at all. -/
inductive Writes : (minutes : Int) → List Char → Prop
  | ahead {n : Nat} (h : n < 1440) :
      Writes n ('+' :: digits 10 2 (n / 60) ++ ':' :: digits 10 2 (n % 60))
  | behind {n : Nat} (h : n < 1440) :
      Writes (-n) ('-' :: digits 10 2 (n / 60) ++ ':' :: digits 10 2 (n % 60))
  | upper : Writes 0 ['Z']
  | lower : Writes 0 ['z']
  | unsaid : Writes 0 []

/-- The offset that hours and minutes spell, which a sign may turn around. -/
theorem offset?_signed {sign : Char} (hsign : sign ≠ 'Z') (h : n < 1440) :
    offset? (sign :: digits 10 2 (n / 60) ++ ':' :: digits 10 2 (n % 60)) =
      some (some (if sign = '-' then -((n * Micros.minute : Nat) : Int)
        else ((n * Micros.minute : Nat) : Int))) := by
  have hclock : clock? 3 none [] (digits 10 2 (n / 60) ++ ':' :: digits 10 2 (n % 60)) =
      some ⟨[n / 60, n % 60], 0, false⟩ := by
    rw [clock?_colon (by simp) (by omega) (by simp [digits]), clock?_end (by omega)]
    rfl
  have hlength : Clock.length ⟨[n / 60, n % 60], 0, false⟩ = n * Micros.minute := by
    unfold Clock.length Micros.hour
    simp only [List.getD_cons_zero, List.getD_cons_succ, List.getD_nil, Micros.minute_eq]
    omega
  have hoffset : Clock.offset ⟨[n / 60, n % 60], 0, false⟩ = ((n * Micros.minute : Nat) : Int) := by
    unfold Clock.offset
    rw [hlength]
    split
    · rename_i hshort
      rw [Micros.minute_eq] at hshort ⊢
      unfold Micros.second at hshort
      omega
    · rfl
  have hday : ¬ Micros.day ≤ n * Micros.minute := by
    rw [Micros.minute_eq, Micros.day_eq]
    omega
  unfold offset?
  rw [List.cons_append]
  dsimp only
  rw [if_neg hsign, hclock]
  dsimp only
  rw [hlength, hoffset, if_neg (by simp [hday])]

/-! ## Renderings that are read -/

section Renderings

variable {before after : List Char} (t : Instant) (hbefore : ∀ x ∈ before, isBlank x = true)
  (hafter : ∀ x ∈ after, isBlank x = true)

include hbefore hafter

theorem ofRequest?_zulu {mark : Char} (hmark : mark = 'Z' ∨ mark = 'z') (hpos : 0 < places)
    (hplaces : places ≤ 6) :
    ofRequest? (String.ofList (before ++ (t.written places ++ [mark]) ++ after)) =
      some ⟨t.cut places, some 0⟩ := by
  have hmark_shown : isBlank mark = false := by
    rcases hmark with rfl | rfl <;> decide
  have hutc : offset? ['+', '0', '0', ':', '0', '0'] = some (some 0) :=
    @offset?_signed 0 '+' (by decide) (by decide)
  rw [ofRequest?_concat hbefore (fun x hx => isBlank_of_mem_written hx) hmark_shown hafter,
    if_pos hmark]
  refine parse?_written t hpos hplaces ?_ hutc
  intro c cs h
  exact .inl (List.cons.inj h).1.symm

theorem ofRequest?_signed {sign : Char} (hsign : sign = '+' ∨ sign = '-') (hn : n < 1440) :
    ofRequest? (String.ofList (before ++
        (t.written 6 ++ (sign :: digits 10 2 (n / 60) ++ ':' :: digits 10 2 (n % 60))) ++ after)) =
      some ⟨t, some (if sign = '-' then -((n * Micros.minute : Nat) : Int)
        else ((n * Micros.minute : Nat) : Int))⟩ := by
  have hsign_ne : sign ≠ 'Z' := by
    rcases hsign with rfl | rfl <;> decide
  have hshown : ∀ x ∈ t.written 6 ++ sign :: digits 10 2 (n / 60) ++ [':'], isBlank x = false := by
    intro x hx
    simp only [List.append_assoc, List.cons_append, List.mem_append, List.mem_cons,
      List.not_mem_nil, or_false] at hx
    rcases hx with hx | rfl | hx | rfl
    · exact isBlank_of_mem_written hx
    · rcases hsign with rfl | rfl <;> decide
    · exact isBlank_of_isAsciiDigit (isAsciiDigit_of_mem_digits hx)
    · decide
  have hsplit : t.written 6 ++ (sign :: digits 10 2 (n / 60) ++ ':' :: digits 10 2 (n % 60)) =
      t.written 6 ++ sign :: digits 10 2 (n / 60) ++ [':'] ++ digits 10 2 (n % 60) := by simp
  rw [hsplit, ofRequest?_digits hbefore hshown hafter, ← hsplit,
    parse?_written t (by decide) (by decide) ?_ (offset?_signed hsign_ne hn), Instant.cut_six]
  intro c cs h
  rw [← (List.cons.inj h).1]
  exact hsign

theorem ofRequest?_unsaid :
    ofRequest? (String.ofList (before ++ t.written 6 ++ after)) = some ⟨t, none⟩ := by
  have hsplit : t.written 6 = t.day.text.toList ++ 'T' :: t.clockChars ++ ['.'] ++
      digits 10 6 (t.fraction / 10 ^ (6 - 6)) := by simp [Instant.written]
  have hshown : ∀ x ∈ t.day.text.toList ++ 'T' :: t.clockChars ++ ['.'], isBlank x = false := by
    intro x hx
    refine isBlank_of_mem_written (show x ∈ t.written 6 from ?_)
    rw [hsplit]
    exact List.mem_append_left _ hx
  have hread : parse? (t.written 6 ++ []) = some ⟨t.cut 6, none⟩ :=
    parse?_written t (by decide) (by decide) (by simp) rfl
  rw [Instant.cut_six, List.append_nil] at hread
  rw [hsplit, ofRequest?_digits hbefore hshown hafter, ← hsplit, hread]

/-- Whatever the offset, the clock reading and the offset are both found. -/
theorem ofRequest?_written {minutes : Int} (hoffset : Writes minutes offset) :
    ∃ o, ofRequest? (String.ofList (before ++ (t.written 6 ++ offset) ++ after)) = some ⟨t, o⟩ ∧
      o.getD 0 = minutes * Micros.minute := by
  cases hoffset with
  | ahead hn => exact ⟨_, ofRequest?_signed t hbefore hafter (.inl rfl) hn, by simp⟩
  | behind hn =>
    refine ⟨_, ofRequest?_signed t hbefore hafter (.inr rfl) hn, ?_⟩
    rw [if_pos rfl, Option.getD_some, Int.natCast_mul, Int.neg_mul]
  | upper =>
    have hread := ofRequest?_zulu t hbefore hafter (.inl rfl) (show 0 < 6 by decide) (Nat.le_refl 6)
    rw [Instant.cut_six] at hread
    exact ⟨_, hread, by simp⟩
  | lower =>
    have hread := ofRequest?_zulu t hbefore hafter (.inr rfl) (show 0 < 6 by decide) (Nat.le_refl 6)
    rw [Instant.cut_six] at hread
    exact ⟨_, hread, by simp⟩
  | unsaid =>
    rw [List.append_nil]
    exact ⟨_, ofRequest?_unsaid t hbefore hafter, by simp⟩

end Renderings

end Stamp

/-! ## What a rendering means -/

namespace Request

/-- An instant is read from what clocks of any offset show of it, with that
offset behind it and blanks around it. -/
theorem reads_every_rendering (field : String) {t wall : Instant} {minutes : Int}
    {before offset after : List Char} (hwall : t.shift (minutes * Micros.minute) = .ok wall)
    (hoffset : Stamp.Writes minutes offset) (hbefore : ∀ c ∈ before, Text.isBlank c = true)
    (hafter : ∀ c ∈ after, Text.isBlank c = true) :
    instant field (.text (String.ofList (before ++ (wall.written 6 ++ offset) ++ after))) =
      .ok t := by
  obtain ⟨o, hstamp, ho⟩ := Stamp.ofRequest?_written wall hbefore hafter hoffset
  have hmicros : (wall.micros : Int) = t.micros + minutes * Micros.minute :=
    Instant.shift_eq_ok.1 hwall
  rw [instant_of_stamp hstamp, orFail_eq_ok]
  unfold Stamp.toInstant
  cases o with
  | none =>
    have hzero : 0 = minutes * Micros.minute := ho
    exact congrArg _ (Instant.ext_micros (by dsimp only; omega))
  | some o =>
    have hsome : o = minutes * Micros.minute := ho
    rw [Instant.shift_eq_ok]
    dsimp only
    omega

end Request

/-! ## The small practice -/

namespace Practice

/-- A quarter of an hour before midnight, where the clocks of UTC show the
first of March already. -/
def lateOnLeapDay : WallClock := ⟨730178 * Micros.day + 86399999999, by decide⟩

def earlyInMarch : Instant := ⟨730179 * Micros.day + 899999999, by decide⟩

/-- The clocks of a zone behind UTC show the leap day still. -/
theorem leap_day_is_read_as_march :
    earlyInMarch.shift (-(15 : Nat) * Micros.minute) = .ok lateOnLeapDay ∧
      Stamp.Writes (-(15 : Nat)) "-00:15".toList ∧
      Request.instant "startAt" (.text "\u3000 2000-02-29T23:59:59.999999-00:15\n") =
        .ok earlyInMarch := by
  have hwall : earlyInMarch.shift (-(15 : Nat) * Micros.minute) = .ok lateOnLeapDay :=
    Instant.shift_eq_ok.2 (by decide)
  have hoffset : Stamp.Writes (-(15 : Nat)) "-00:15".toList := .behind (n := 15) (by decide)
  have htext : "\u3000 2000-02-29T23:59:59.999999-00:15\n" = String.ofList
      (['\u3000', ' '] ++ (lateOnLeapDay.written 6 ++ "-00:15".toList) ++ ['\n']) := by
    decide +kernel
  refine ⟨hwall, hoffset, ?_⟩
  rw [htext]
  exact Request.reads_every_rendering "startAt" hwall hoffset (List.all_eq_true.1 (by decide))
    (List.all_eq_true.1 (by decide))

end Practice
end Appointments
