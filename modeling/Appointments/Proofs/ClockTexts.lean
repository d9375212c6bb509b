-- Times of day as weekly hours spell them. Digits of any script spell a time,
-- and a line feed may follow it, so one time of day has many texts. Texts of
-- ASCII without a line feed spell it in one way only.
import Appointments.Proofs.AcceptedHours
import Appointments.Proofs.Numerals
namespace Appointments

/-! ## Digits of any script -/

namespace Text

variable {c : Char} {k : Nat}

/-- The digit of ASCII that counts as much, where the character is a digit. -/
def inAscii (c : Char) : Char :=
  match digitValue? c with
  | some n => Nat.digitChar n
  | none => c

/-- A digit lies less than ten behind the zero of its script. -/
theorem zero_of_digitValue? (h : digitValue? c = some k) :
    ∃ z ∈ zeros, c.toNat = z + k ∧ k < 10 := by
  unfold digitValue? at h
  obtain ⟨z, hz, rfl⟩ := Option.map_eq_some_iff.1 h
  have hspan := List.find?_some hz
  simp only [Bool.and_eq_true, decide_eq_true_eq] at hspan
  exact ⟨z, List.mem_of_find?_eq_some hz, by omega, by omega⟩

theorem digitValue?_lt (h : digitValue? c = some k) : k < 10 := by
  obtain ⟨_, -, -, hlt⟩ := zero_of_digitValue? h
  exact hlt

theorem digitValue?_digitChar (h : k < 10) : digitValue? (Nat.digitChar k) = some k := by
  rw [digitValue?_of_isAsciiDigit (isAsciiDigit_digitChar h), digitChar_value h]

theorem inAscii_eq_digitChar (h : k < 10) :
    inAscii c = Nat.digitChar k ↔ digitValue? c = some k := by
  unfold inAscii
  constructor
  · intro hc
    split at hc
    · rename_i n hn
      rw [hn, ← digitValue?_digitChar (digitValue?_lt hn), hc, digitValue?_digitChar h]
    · rw [hc, digitValue?_digitChar h]
  · intro hc
    rw [hc]

/-- What is no digit stays, and nothing else becomes it. -/
theorem inAscii_eq_mark {mark : Char} (hmark : digitValue? mark = none) :
    inAscii c = mark ↔ c = mark := by
  unfold inAscii
  split
  · rename_i n hn
    refine iff_of_false ?_ ?_
    · rintro rfl
      rw [digitValue?_digitChar (digitValue?_lt hn)] at hmark
      cases hmark
    · rintro rfl
      rw [hn] at hmark
      cases hmark
  · exact Iff.rfl

/-- Of the zeros of all scripts, one only is of ASCII. -/
theorem inAscii_of_ascii (h : c.toNat < 128) : inAscii c = c := by
  have hzeros : ∀ z ∈ zeros, z < 128 → z = 48 := by decide
  unfold inAscii
  split
  · rename_i n hn
    obtain ⟨z, hmem, hc, hlt⟩ := zero_of_digitValue? hn
    obtain rfl := hzeros z hmem (by omega)
    have hvalue : n = c.toNat - '0'.toNat := (Nat.sub_eq_of_eq_add' hc).symm
    rw [hvalue]
    exact digitChar_of_isAsciiDigit (isAsciiDigit_iff.2 (by omega))
  · rfl

end Text

/-! ## Texts of times -/

namespace ClockTime

variable {s : String} {n : Nat} {cs : List Char}

/-- Hour and minute in two digits of ASCII each, with a colon between them. -/
def written (minutes : Nat) : List Char :=
  Text.digits 10 2 (minutes / 60) ++ ':' :: Text.digits 10 2 (minutes % 60)

/-- The text of a time but for the scripts of its digits and for a line feed
at its end. -/
def plain (s : String) : List Char := (s.toList.map Text.inAscii).take 5

/-- The characters are those of the text of a time, with digits of any script
and perhaps with a line feed behind them. -/
def Spells (cs : List Char) (minutes : Nat) : Prop :=
  minutes < 1440 ∧
    (cs.map Text.inAscii = written minutes ∨ cs.map Text.inAscii = written minutes ++ ['\n'])

theorem map_inAscii_eq_ending {rest : List Char} (hrest : rest = [] ∨ rest = ['\n']) :
    cs.map Text.inAscii = rest ↔ cs = rest := by
  have hfeed : Text.digitValue? '\n' = none := by decide
  rcases hrest with rfl | rfl
  · exact List.map_eq_nil_iff
  · constructor
    · intro h
      obtain ⟨c, after, rfl, hc, hafter⟩ := List.map_eq_cons_iff.1 h
      rw [(Text.inAscii_eq_mark hfeed).1 hc, List.map_eq_nil_iff.1 hafter]
    · rintro rfl
      exact congrArg (· :: []) ((Text.inAscii_eq_mark hfeed).2 rfl)

/-- The four digits that a text has, whatever script they are of. -/
theorem digits?_eq_some {a b c d : Nat} :
    digits? cs = some (a, b, c, d) ↔
      (a < 10 ∧ b < 10 ∧ c < 10 ∧ d < 10) ∧
        ∃ rest, (rest = [] ∨ rest = ['\n']) ∧ cs.map Text.inAscii = Nat.digitChar a ::
          Nat.digitChar b :: ':' :: Nat.digitChar c :: Nat.digitChar d :: rest := by
  have hcolon : Text.digitValue? ':' = none := by decide
  constructor
  · intro h
    unfold digits? at h
    split at h
    · rename_i p q r s rest
      obtain ⟨a, ha, h⟩ := Option.bind_eq_some_iff.1 h
      obtain ⟨b, hb, h⟩ := Option.bind_eq_some_iff.1 h
      obtain ⟨c, hc, h⟩ := Option.bind_eq_some_iff.1 h
      obtain ⟨d, hd, h⟩ := Option.bind_eq_some_iff.1 h
      have ha_lt := Text.digitValue?_lt ha
      have hb_lt := Text.digitValue?_lt hb
      have hc_lt := Text.digitValue?_lt hc
      have hd_lt := Text.digitValue?_lt hd
      split at h
      · rename_i hrest
        cases h
        refine ⟨⟨ha_lt, hb_lt, hc_lt, hd_lt⟩, rest, hrest, ?_⟩
        simp only [List.map_cons]
        rw [(Text.inAscii_eq_digitChar ha_lt).2 ha, (Text.inAscii_eq_digitChar hb_lt).2 hb,
          (Text.inAscii_eq_mark hcolon).2 rfl, (Text.inAscii_eq_digitChar hc_lt).2 hc,
          (Text.inAscii_eq_digitChar hd_lt).2 hd, (map_inAscii_eq_ending hrest).2 rfl]
      · cases h
    · cases h
  · rintro ⟨⟨ha_lt, hb_lt, hc_lt, hd_lt⟩, rest, hrest, hmap⟩
    simp only [List.map_eq_cons_iff] at hmap
    obtain ⟨p, _, rfl, ha, q, _, rfl, hb, _, _, rfl, hmark, r, _, rfl, hc, s, after, rfl, hd,
      hafter⟩ := hmap
    rw [Text.inAscii_eq_digitChar ha_lt] at ha
    rw [Text.inAscii_eq_digitChar hb_lt] at hb
    rw [Text.inAscii_eq_digitChar hc_lt] at hc
    rw [Text.inAscii_eq_digitChar hd_lt] at hd
    obtain rfl := (Text.inAscii_eq_mark hcolon).1 hmark
    obtain rfl := (map_inAscii_eq_ending hrest).1 hafter
    simp [digits?, ha, hb, hc, hd, hrest]

theorem written_eq (h : n < 1440) : written n =
    [Nat.digitChar (n / 60 / 10), Nat.digitChar (n / 60 % 10), ':',
      Nat.digitChar (n % 60 / 10), Nat.digitChar (n % 60 % 10)] := by
  have hhours : n / 60 / 10 % 10 = n / 60 / 10 := Nat.mod_eq_of_lt (by omega)
  have hminutes : n % 60 / 10 % 10 = n % 60 / 10 := Nat.mod_eq_of_lt (by omega)
  simp [written, Text.digits, hhours, hminutes]

/-- A text is read as a time of day just where it spells it. -/
theorem minutesOfText_eq_ok : minutesOfText s = .ok n ↔ Spells s.toList n := by
  constructor
  · intro h
    unfold minutesOfText at h
    split at h
    · cases h
    · rename_i a b c d hdigits
      obtain ⟨⟨ha, hb, hc, hd⟩, rest, hrest, hmap⟩ := digits?_eq_some.1 hdigits
      dsimp only at h
      split at h
      · cases h
      · cases h
        have hlt : 60 * (10 * a + b) + (10 * c + d) < 1440 := by omega
        have htexts : written (60 * (10 * a + b) + (10 * c + d)) = [Nat.digitChar a,
            Nat.digitChar b, ':', Nat.digitChar c, Nat.digitChar d] := by
          rw [written_eq hlt]
          congr <;> omega
        refine ⟨hlt, ?_⟩
        rw [htexts, hmap]
        rcases hrest with rfl | rfl
        · exact .inl rfl
        · exact .inr rfl
  · rintro ⟨hlt, hmap⟩
    have hdigits : digits? s.toList =
        some (n / 60 / 10, n / 60 % 10, n % 60 / 10, n % 60 % 10) := by
      refine digits?_eq_some.2 ⟨by omega, ?_⟩
      rw [written_eq hlt] at hmap
      rcases hmap with hmap | hmap
      · exact ⟨[], .inl rfl, hmap⟩
      · exact ⟨['\n'], .inr rfl, hmap⟩
    unfold minutesOfText
    rw [hdigits]
    dsimp only
    rw [if_neg (by omega)]
    congr
    omega

theorem length_written (n : Nat) : (written n).length = 5 := by
  simp [written, Text.length_digits]

/-- Times of day are told apart by their texts. -/
theorem written_injective {m : Nat} (hm : m < 1440) (hn : n < 1440)
    (h : written m = written n) : m = n := by
  obtain ⟨hhours, hrest⟩ := List.append_inj h (by simp [Text.length_digits])
  have hhour := Text.digits_injective (by omega) (by omega) hhours
  have hminute := Text.digits_injective (by omega) (by omega) (List.cons.inj hrest).2
  omega

theorem plain_of_spells (h : Spells s.toList n) : plain s = written n := by
  have hlength := length_written n
  unfold plain
  rcases h.2 with hmap | hmap
  · rw [hmap, List.take_of_length_le (Nat.le_of_eq hlength)]
  · rw [hmap, List.take_left' hlength]

/-- Texts that spell the same time differ in the script of their digits and in
the line feed only. -/
theorem minutes_eq_iff (t u : ClockTime) : t.minutes = u.minutes ↔ plain t.text = plain u.text := by
  have ht := minutesOfText_eq_ok.1 t.spells
  have hu := minutesOfText_eq_ok.1 u.spells
  rw [plain_of_spells ht, plain_of_spells hu]
  exact ⟨congrArg written, written_injective ht.1 hu.1⟩

/-- Text in ASCII of a single line. -/
def IsPlain (s : String) : Prop := ∀ c ∈ s.toList, c.toNat < 128 ∧ c ≠ '\n'

theorem spells_of_isPlain (h : IsPlain s) :
    Spells s.toList n ↔ n < 1440 ∧ s.toList = written n := by
  have hmap : s.toList.map Text.inAscii = s.toList := by
    rw [List.map_congr_left fun c hc => Text.inAscii_of_ascii (h c hc).1]
    exact List.map_id _
  unfold Spells
  rw [hmap]
  refine and_congr_right fun _ => or_iff_left ?_
  intro hfeed
  exact (h '\n' (by rw [hfeed]; simp)).2 rfl

theorem isPlain_of_written (h : s.toList = written n) : IsPlain s := by
  have hdigit : ∀ {c : Char} {m : Nat}, c ∈ Text.digits 10 2 m → c.toNat < 128 ∧ c ≠ '\n' := by
    intro c m hc
    have hascii := Text.isAsciiDigit_of_mem_digits hc
    have hspan := Text.isAsciiDigit_iff.1 hascii
    exact ⟨by omega, Text.ne_of_isAsciiDigit hascii (by decide)⟩
  intro c hc
  rw [h, written, List.mem_append, List.mem_cons] at hc
  obtain hc | rfl | hc := hc
  · exact hdigit hc
  · decide
  · exact hdigit hc

/-- In plain texts, times are told apart by their minutes. -/
theorem text_eq_of_isPlain {t u : ClockTime} (ht : IsPlain t.text) (hu : IsPlain u.text)
    (h : t.minutes = u.minutes) : t.text = u.text := by
  have hleft := ((spells_of_isPlain ht).1 (minutesOfText_eq_ok.1 t.spells)).2
  have hright := ((spells_of_isPlain hu).1 (minutesOfText_eq_ok.1 u.spells)).2
  rw [← String.toList_inj, hleft, hright, h]

theorem ext_text {t u : ClockTime} (h : t.text = u.text) : t = u := by
  obtain ⟨text, m, hm⟩ := t
  obtain ⟨_, n, hn⟩ := u
  cases h
  cases hm.symm.trans hn
  rfl

theorem read_eq_ok {v : Value} {t : ClockTime} : ClockTime.read v = .ok t ↔ v = .text t.text := by
  constructor
  · intro h
    obtain ⟨s, hs, htime⟩ := Reading.check_eq_ok.1 h
    cases v with
    | text given =>
      cases hs
      unfold ofText at htime
      split at htime
      · rename_i u hu
        split at hu
        · cases hu
          cases htime
          rfl
        · cases hu
      · cases htime
    | _ => cases hs
  · rintro rfl
    exact t.read_text

end ClockTime

/-! ## Ranges that are read -/

theorem FieldName.required_eq_ok {α : Type} {f : FieldName} {read : Value → Reading α}
    {fields : List (String × Value)} {x : α} :
    f.required read fields = .ok x ↔
      ∃ name v, f.find? fields = some (name, v) ∧ read v = .ok x := by
  unfold required
  rcases f.find? fields with _ | ⟨name, v⟩
  · simp [Reading.fail, Reading.under]
  · simp [Reading.under_eq_ok]

namespace TimeRange

/-- The fields of a range, with the texts that it keeps. -/
def Given (v : Value) (r : TimeRange) : Prop :=
  ∃ fields, v = .object fields ∧
    (∃ name, startField.find? fields = some (name, .text r.start.text)) ∧
      ∃ name, stopField.find? fields = some (name, .text r.stop.text)

/-- Both texts are in ASCII of a single line. -/
def IsPlain (r : TimeRange) : Prop :=
  ClockTime.IsPlain r.start.text ∧ ClockTime.IsPlain r.stop.text

theorem between_eq_ok {start stop : ClockTime} {r : TimeRange} :
    between start stop = .ok r ↔ start = r.start ∧ stop = r.stop := by
  unfold between
  constructor
  · intro h
    split at h
    · cases h
      exact ⟨rfl, rfl⟩
    · cases h
  · rintro ⟨rfl, rfl⟩
    exact dif_pos r.start_lt

theorem read_eq_ok {v : Value} {r : TimeRange} : read v = .ok r ↔ Given v r := by
  have hfields : ∀ fields, read (.object fields) = .ok r ↔
      startField.required ClockTime.read fields = .ok r.start ∧
        stopField.required ClockTime.read fields = .ok r.stop := by
    intro fields
    simp only [read, Reading.check_eq_ok, Value.readRecord, Reading.seq_eq_ok, Reading.map_eq_ok]
    constructor
    · rintro ⟨_, ⟨_, ⟨start, hstart, rfl⟩, stop, hstop, rfl⟩, hbetween⟩
      obtain ⟨rfl, rfl⟩ := between_eq_ok.1 hbetween
      exact ⟨hstart, hstop⟩
    · rintro ⟨hstart, hstop⟩
      exact ⟨_, ⟨_, ⟨_, hstart, rfl⟩, _, hstop, rfl⟩, between_eq_ok.2 ⟨rfl, rfl⟩⟩
  unfold Given
  cases v with
  | object fields => simp [hfields, FieldName.required_eq_ok, ClockTime.read_eq_ok]
  | _ => simp [read, Value.readRecord, Reading.check, Reading.fail]

theorem ext_texts {r q : TimeRange} (hstart : r.start.text = q.start.text)
    (hstop : r.stop.text = q.stop.text) : r = q := by
  obtain ⟨start, stop, hlt⟩ := r
  obtain ⟨_, _, _⟩ := q
  cases ClockTime.ext_text hstart
  cases ClockTime.ext_text hstop
  rfl

end TimeRange

namespace ClockTime

/-- A text is a time of day just where it spells one, in digits of any script
and perhaps with a line feed behind them; the five characters of a time are all
that is read just where a text that spells one is in ASCII of a single line. A
range keeps the texts that it is given, so ranges of the same minutes have the
same texts but for scripts and line feeds, and are the same where both are in
ASCII of a single line. -/
theorem accepts_digits_of_any_script (s : String) (v : Value) (r q : TimeRange) :
    (∀ n, minutesOfText s = .ok n ↔ Spells s.toList n) ∧
    ((∀ n, minutesOfText s = .ok n ↔ n < 1440 ∧ s.toList = written n) ↔
      ∀ n, Spells s.toList n → IsPlain s) ∧
    (TimeRange.read v = .ok r ↔ TimeRange.Given v r) ∧
    (Spells r.start.text.toList r.start.minutes ∧ Spells r.stop.text.toList r.stop.minutes) ∧
    (r.start.minutes = q.start.minutes ∧ r.stop.minutes = q.stop.minutes ↔
      plain r.start.text = plain q.start.text ∧ plain r.stop.text = plain q.stop.text) ∧
    (r.IsPlain → q.IsPlain → r.start.minutes = q.start.minutes →
      r.stop.minutes = q.stop.minutes → r = q) := by
  refine ⟨fun n => minutesOfText_eq_ok, ?_, TimeRange.read_eq_ok,
    ⟨minutesOfText_eq_ok.1 r.start.spells, minutesOfText_eq_ok.1 r.stop.spells⟩,
    and_congr (minutes_eq_iff ..) (minutes_eq_iff ..), ?_⟩
  · simp only [minutesOfText_eq_ok]
    constructor
    · intro hclaim n hn
      exact isPlain_of_written ((hclaim n).1 hn).2
    · intro hplain n
      constructor
      · intro hn
        exact (spells_of_isPlain (hplain n hn)).1 hn
      · intro hn
        exact (spells_of_isPlain (isPlain_of_written hn.2)).2 hn
  · intro hr hq hstart hstop
    exact TimeRange.ext_texts (text_eq_of_isPlain hr.1 hq.1 hstart)
      (text_eq_of_isPlain hr.2 hq.2 hstop)

end ClockTime

/-! ## The small practice -/

namespace Practice

/-- Half past nine with a line feed behind it. -/
def lineOfNine : ClockTime := ⟨"09:30\n", 570, by decide +kernel⟩

/-- Half past nine in the digits of Arabic. -/
def arabicNine : ClockTime := ⟨"٠٩:٣٠", 570, by decide +kernel⟩

def twelve : ClockTime := ⟨"12:00", 720, by decide +kernel⟩

def fromLine : TimeRange := ⟨lineOfNine, twelve, by decide⟩

def fromArabic : TimeRange := ⟨arabicNine, twelve, by decide⟩

/-- Texts that are not the five characters of a time are accepted as times, are
kept in ranges that are accepted, and tell ranges of the same minutes apart. -/
theorem half_past_nine_has_many_texts :
    ¬ (∀ s n, ClockTime.minutesOfText s = .ok n ↔ n < 1440 ∧ s.toList = ClockTime.written n) ∧
    (∀ r ∈ [fromLine, fromArabic], TimeRange.read r.document = .ok r ∧
      r.start.text.toList ≠ ClockTime.written r.start.minutes) ∧
    ¬ ∀ r q : TimeRange, r.start.minutes = q.start.minutes → r.stop.minutes = q.stop.minutes →
      r.start.text = q.start.text ∧ r.stop.text = q.stop.text := by
  refine ⟨fun hclaim => ?_, fun r hr => ⟨r.read_document, ?_⟩, fun hclaim => ?_⟩
  · have hwritten := ((hclaim "09:30\n" 570).1 (by decide +kernel)).2
    revert hwritten
    decide +kernel
  · revert r
    decide +kernel
  · have htexts := (hclaim fromLine fromArabic rfl rfl).1
    revert htexts
    decide +kernel

end Practice
end Appointments
