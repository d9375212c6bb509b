-- Blank characters and trimming. Ids, reasons, days and zone names come
-- from people, so blanks at both ends of them are dropped before use.
namespace Appointments.Text

/-! ## The blank characters -/

/-- A character of Unicode's `White_Space` property: the controls 9 to 13,
the space, the next line, and the spaces of the typesetters. -/
def isWhiteSpace (c : Char) : Bool :=
  let n := c.toNat
  (9 ≤ n && n ≤ 13) || n == 0x20 || n == 0x85 || n == 0xA0 || n == 0x1680 ||
    (0x2000 ≤ n && n ≤ 0x200A) || n == 0x2028 || n == 0x2029 || n == 0x202F ||
    n == 0x205F || n == 0x3000

/-- A separator of the ASCII block: file, group, record or unit. -/
def isSeparator (c : Char) : Bool := 0x1C ≤ c.toNat && c.toNat ≤ 0x1F

/-- A blank: white space, or one of the four ASCII separators. The
zero-width space and the byte order mark are no blanks. -/
def isBlank (c : Char) : Bool := isWhiteSpace c || isSeparator c

/-! ## Trimming -/

/-- The characters without those of `drop` at both ends. -/
def trimChars (drop : Char → Bool) (cs : List Char) : List Char :=
  ((cs.dropWhile drop).reverse.dropWhile drop).reverse

/-- The text without blanks at both ends. -/
def strip (s : String) : String := String.ofList (trimChars isBlank s.toList)

/-- Trimmed text, or nothing where only blanks stand. -/
def stripOrNone (s : String) : Option String :=
  let t := strip s
  if t.isEmpty then none else some t

end Appointments.Text
