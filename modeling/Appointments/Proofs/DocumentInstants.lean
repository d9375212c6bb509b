-- Instants in documents. They are written with the year in as few digits as it
-- needs, so those from the year 1000 on are read back, up to the millisecond,
-- and those before are no dates at all.
import Appointments.Proofs.Renderings
namespace Appointments

open Text

/-! ## How documents write instants -/

namespace Instant

/-- The year that clocks of UTC show. -/
def year (t : Instant) : Nat := t.day.year

/-- What stands after the year, up to so many decimals of the second. -/
def afterYear (places : Nat) (t : Instant) : List Char :=
  digits 10 2 t.day.month ++ '-' :: digits 10 2 t.day.dayOfMonth ++ 'T' :: t.clockChars ++
    '.' :: digits 10 places (t.fraction / 10 ^ (6 - places))

theorem written_eq (places : Nat) (t : Instant) :
    t.written places = digits 10 4 t.year ++ '-' :: t.afterYear places := by
  simp [written, afterYear, Day.text_toList, year]

theorem document_eq (t : Instant) : t.document =
    String.ofList (Nat.toDigits 10 t.year ++ '-' :: t.afterYear 3 ++ ['Z']) := by
  simp [document, afterYear, year, Day.year, Day.month, Day.dayOfMonth]

theorem year_lt (t : Instant) : t.year < 10 ^ 4 := Nat.lt_succ_of_le t.day.civil_spec.1.2

/-- From the year 1000 on a year needs all of its four digits. -/
theorem document_of_year_ge {t : Instant} (h : 1000 ≤ t.year) :
    t.document = String.ofList (t.written 3 ++ ['Z']) := by
  have hdigits : Nat.toDigits 10 t.year = digits 10 4 t.year := toDigits_eq_digits h t.year_lt
  rw [document_eq, written_eq, hdigits]

/-! ## Milliseconds -/

theorem day_wholeMillis (t : Instant) : t.wholeMillis.day = t.day := by
  apply Day.ext
  unfold wholeMillis day
  dsimp only
  rw [Micros.day_eq]
  omega

theorem year_wholeMillis (t : Instant) : t.wholeMillis.year = t.year := by
  unfold year
  rw [day_wholeMillis]

theorem afterYear_wholeMillis (t : Instant) : t.wholeMillis.afterYear 3 = t.afterYear 3 := by
  have hclock : t.wholeMillis.sinceMidnight / Micros.second =
      t.sinceMidnight / Micros.second := by
    unfold wholeMillis sinceMidnight Micros.second
    dsimp only
    rw [Micros.day_eq]
    omega
  have hfraction : t.wholeMillis.fraction / 10 ^ (6 - 3) = t.fraction / 10 ^ (6 - 3) := by
    unfold wholeMillis fraction Micros.second
    dsimp only
    omega
  unfold afterYear clockChars
  rw [hclock, hfraction, day_wholeMillis]

/-- Nothing below a millisecond is written. -/
theorem document_wholeMillis (t : Instant) : t.wholeMillis.document = t.document := by
  rw [document_eq, document_eq, year_wholeMillis, afterYear_wholeMillis]

end Instant

/-! ## Documents that callers hand in -/

namespace Stamp

variable {t : Instant} {places : Nat}

theorem isBlank_of_mem_afterYear {c : Char} (h : c ∈ t.afterYear places) : isBlank c = false := by
  refine isBlank_of_mem_written (show c ∈ t.written places from ?_)
  rw [Instant.written_eq]
  exact List.mem_append_right _ (List.mem_cons_of_mem _ h)

theorem four_le_dateLength (cs : List Char) : 4 ≤ dateLength cs := by
  unfold dateLength
  dsimp only
  split_ifs <;> decide

/-- A date starts with four digits. -/
theorem date?_eq_none {cs : List Char} {c : Char} (hmem : c ∈ cs.take 4)
    (hc : isAsciiDigit c = false) : date? cs = none := by
  have hyear : takeDigits? 4 cs = none := by
    unfold takeDigits?
    dsimp only
    rw [if_neg]
    rintro ⟨-, hall⟩
    rw [List.all_eq_true.1 hall c hmem] at hc
    cases hc
  unfold date?
  rw [hyear]
  rfl

theorem parse?_eq_none {cs : List Char} {c : Char} (hmem : c ∈ cs.take 4)
    (hc : isAsciiDigit c = false) : parse? cs = none := by
  have hdate : date? (cs.take (dateLength cs)) = none := by
    refine date?_eq_none ?_ hc
    rw [List.take_take, Nat.min_eq_left (four_le_dateLength cs)]
    exact hmem
  unfold parse?
  dsimp only
  rw [hdate]
  rfl

/-- A year before 1000 is followed by its hyphen too early. -/
theorem ofRequest?_document_of_year_lt (h : t.year < 1000) : ofRequest? t.document = none := by
  have hlen : (Nat.toDigits 10 t.year).length ≤ 3 := by
    rw [Nat.length_toDigits_le_iff (by decide) (by decide)]
    exact h
  have hshown : ∀ x ∈ Nat.toDigits 10 t.year ++ '-' :: t.afterYear 3, isBlank x = false := by
    intro x hx
    rw [List.mem_append, List.mem_cons] at hx
    rcases hx with hx | rfl | hx
    · exact isBlank_of_isAsciiDigit (isAsciiDigit_of_mem_toDigits hx)
    · decide
    · exact isBlank_of_mem_afterYear hx
  have hread := ofRequest?_concat (List.forall_mem_nil _) hshown
    (show isBlank 'Z' = false by decide) (List.forall_mem_nil _)
  rw [List.nil_append, List.append_nil, if_pos (.inl rfl)] at hread
  rw [Instant.document_eq, hread]
  refine parse?_eq_none (c := '-') ?_ rfl
  rw [List.append_assoc, List.take_append, List.cons_append]
  refine List.mem_append_right _ ?_
  obtain ⟨n, hn⟩ : ∃ n, 4 - (Nat.toDigits 10 t.year).length = n + 1 :=
    ⟨3 - (Nat.toDigits 10 t.year).length, by omega⟩
  rw [hn, List.take_succ_cons]
  exact List.mem_cons_self ..

theorem ofRequest?_document (h : 1000 ≤ t.year) :
    ofRequest? t.document = some ⟨t.wholeMillis, some 0⟩ := by
  have hread := ofRequest?_zulu t (List.forall_mem_nil _) (List.forall_mem_nil _) (.inl rfl)
    (show 0 < 3 by decide) (by decide)
  rw [List.nil_append, List.append_nil, Instant.cut_three] at hread
  rw [Instant.document_of_year_ge h, hread]

/-! ## Documents that are stored -/

theorem twoAfter?_digits {mark : Char} {rest : List Char} {n : Nat} (hn : n < 10 ^ 2) :
    twoAfter? mark (mark :: (digits 10 2 n ++ rest)) = some (n, rest) :=
  (if_pos rfl).trans (takeDigits?_digits hn)

theorem documentFraction?_digits {rest : List Char} {n : Nat} (hpos : 0 < places)
    (hplaces : places ≤ 6) (hn : n < 10 ^ places)
    (hrest : rest.head?.all (!isAsciiDigit ·) = true) :
    documentFraction? ('.' :: (digits 10 places n ++ rest)) =
      some (n * 10 ^ (6 - places), rest) := by
  have hsome : (digits 10 places n).isEmpty = false := by
    rw [List.isEmpty_eq_false_iff_exists_mem]
    exact List.exists_mem_of_length_pos (by rw [length_digits]; exact hpos)
  unfold documentFraction?
  dsimp only
  rw [if_pos (.inl rfl), takeWhile_digits hrest, hsome, if_neg (by simp),
    ofDigits_decimals hplaces hn, List.drop_left]

theorem documentSeconds?_digits {rest : List Char} {seconds n : Nat} (hpos : 0 < places)
    (hplaces : places ≤ 6) (hseconds : seconds < 10 ^ 2) (hn : n < 10 ^ places)
    (hrest : rest.head?.all (!isAsciiDigit ·) = true) :
    documentSeconds? (':' :: (digits 10 2 seconds ++ '.' :: (digits 10 places n ++ rest))) =
      some (seconds, n * 10 ^ (6 - places), rest) := by
  rw [documentSeconds?, takeDigits?_digits hseconds, Option.bind_eq_bind, Option.bind_some]
  dsimp only
  rw [documentFraction?_digits hpos hplaces hn hrest]
  rfl

/-- Date, time of day and decimals are read one after the other. -/
theorem ofDocument?_written (t : Instant) (hpos : 0 < places) (hplaces : places ≤ 6) :
    ofDocument? (String.ofList (t.written places ++ ['Z'])) = some ⟨t.cut places, some 0⟩ := by
  obtain ⟨-, ⟨-, hmonth⟩, ⟨-, hday⟩, hcivil⟩ := t.day.civil_spec
  have hseconds := seconds_lt t
  have hmonth_lt : t.day.month < 10 ^ 2 := by omega
  have hday_lt : t.day.dayOfMonth < 10 ^ 2 := by omega
  have hhours_lt : t.sinceMidnight / Micros.second / 3600 < 10 ^ 2 := by omega
  have hminutes_lt : t.sinceMidnight / Micros.second / 60 % 60 < 10 ^ 2 := by omega
  have hseconds_lt : t.sinceMidnight / Micros.second % 60 < 10 ^ 2 := by omega
  have hread := documentSeconds?_digits hpos hplaces hseconds_lt (decimals_lt t hplaces)
    (show (['Z'].head?.all (!isAsciiDigit ·)) = true from rfl)
  have hoffset : documentOffset? ['Z'] = some (some 0) := by decide
  have hwall := wallClock?_written t places
  unfold Instant.clockParts at hwall
  dsimp only at hwall
  rw [Instant.written_eq]
  unfold Instant.afterYear Instant.clockChars ofDocument?
  rw [String.toList_ofList]
  simp only [List.append_assoc, List.cons_append, takeDigits?_digits t.year_lt,
    twoAfter?_digits hmonth_lt, twoAfter?_digits hday_lt, takeDigits?_digits hhours_lt,
    twoAfter?_digits hminutes_lt, hread, Option.bind_eq_bind, Option.bind_some]
  rw [Instant.year, hcivil, Option.bind_some, if_pos (by decide), hoffset, Option.bind_some, hwall]
  rfl

end Stamp

namespace Instant

theorem shift_zero (t : Instant) : t.shift 0 = .ok t := shift_eq_ok.2 (Int.add_zero _).symm

/-- A stored instant of the year 1000 or later is read back up to the
millisecond. -/
theorem read_document {t : Instant} (h : 1000 ≤ t.year) :
    Instant.read (.text t.document) = .ok t.wholeMillis := by
  have hstamp : Stamp.ofDocument? t.document = some ⟨t.wholeMillis, some 0⟩ := by
    rw [document_of_year_ge h, Stamp.ofDocument?_written t (by decide) (by decide), cut_three]
  have hinstant : (⟨t.wholeMillis, some 0⟩ : Stamp).toInstant = .ok t.wholeMillis :=
    shift_zero _
  unfold Instant.read
  dsimp only
  rw [hstamp]
  dsimp only
  rw [hinstant]

/-! ## Different instants -/

/-- The year ends before the first hyphen. -/
theorem written_of_document {t u : Instant} (h : t.document = u.document) :
    t.written 3 = u.written 3 := by
  have hyear (n : Nat) (cs : List Char) :
      (Nat.toDigits 10 n ++ '-' :: cs).takeWhile isAsciiDigit = Nat.toDigits 10 n := by
    rw [List.takeWhile_append_of_pos fun c hc => isAsciiDigit_of_mem_toDigits hc,
      List.takeWhile_cons_of_neg (by decide), List.append_nil]
  rw [document_eq, document_eq, String.ofList_inj] at h
  have h := List.append_cancel_right h
  have hdigits := congrArg (List.takeWhile isAsciiDigit) h
  rw [hyear, hyear] at hdigits
  have hsame : t.year = u.year := by
    rw [← ofDigits_toDigits t.year, hdigits, ofDigits_toDigits]
  rw [hsame] at h
  rw [written_eq, written_eq, hsame, List.append_cancel_left h]

/-- Instants have the same document just where they agree up to the
millisecond. -/
theorem document_eq_iff {t u : Instant} :
    t.document = u.document ↔ t.wholeMillis = u.wholeMillis := by
  constructor
  · intro h
    have hread := Stamp.ofDocument?_written t (show 0 < 3 by decide) (by decide)
    rw [written_of_document h, Stamp.ofDocument?_written u (by decide) (by decide)] at hread
    exact (congrArg Stamp.wall (Option.some.inj hread)).symm
  · intro h
    rw [← document_wholeMillis t, h, document_wholeMillis]

end Instant

/-! ## Documents as requests -/

namespace Request

/-- A document's instant is read as the instant up to the millisecond, from the
year 1000 on. Before, its year is too short to be read at all. No two
instants of whole milliseconds share a document. -/
theorem reads_documents_of_long_years (field : String) :
    (∀ t : Instant, instant field (.text t.document) =
      if 1000 ≤ t.year then .ok t.wholeMillis else .error (.rejected (.badInstant field))) ∧
      ∀ t u : Instant, t.document = u.document ↔ t.wholeMillis = u.wholeMillis := by
  refine ⟨fun t => ?_, fun t u => Instant.document_eq_iff⟩
  split
  · rename_i hyear
    rw [instant_of_stamp (Stamp.ofRequest?_document hyear), orFail_eq_ok]
    exact Instant.shift_zero _
  · rename_i hyear
    unfold instant
    dsimp only
    rw [Stamp.ofRequest?_document_of_year_lt (Nat.lt_of_not_le hyear)]

end Request

/-! ## The small practice -/

namespace Practice

/-- Midnight of the first of January of the year 999. -/
def longAgo : Instant := ⟨364512 * Micros.day, by decide⟩

/-- The document of an instant of the year 999 is refused. -/
theorem long_ago_is_no_date :
    longAgo.document = "999-01-01T00:00:00.000Z" ∧
      Request.instant "startAt" (.text longAgo.document) ≠ .ok longAgo.wholeMillis := by
  decide +kernel

end Practice
end Appointments
