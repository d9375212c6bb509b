-- Quoted text, as messages show what a caller sent.
import Appointments.Text.Digits
import Appointments.Text.Printable
namespace Appointments.Text

/-- The mark around the text: the single quote, unless the text holds one
and no double quote. -/
def quoteMark (cs : List Char) : Char :=
  if cs.contains '\'' && !cs.contains '"' then '"' else '\''

/-- One character inside quotes. The mark and the backslash get a
backslash; tab, line feed and return have a letter; another character that
is not shown is written by its code in two, four or eight digits. -/
def escape (mark c : Char) : List Char :=
  if c = mark ∨ c = '\\' then ['\\', c]
  else if c = '\t' then ['\\', 't']
  else if c = '\n' then ['\\', 'n']
  else if c = '\r' then ['\\', 'r']
  else if isPrintable c then [c]
  else if c.toNat < 0x100 then '\\' :: 'x' :: digits 16 2 c.toNat
  else if c.toNat < 0x10000 then '\\' :: 'u' :: digits 16 4 c.toNat
  else '\\' :: 'U' :: digits 16 8 c.toNat

/-- The text between quotes. -/
def quoteChars (cs : List Char) : List Char :=
  let mark := quoteMark cs
  mark :: cs.flatMap (escape mark) ++ [mark]

/-- The text between quotes. -/
def quoted (s : String) : String := String.ofList (quoteChars s.toList)

end Appointments.Text
