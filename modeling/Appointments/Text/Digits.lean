-- Runs of digits of a given width, as dates, times and codes are
-- written, and the number that such a run spells.
namespace Appointments.Text

/-- The last `width` digits of a number in the given base, most
significant first, with zeros in front where the number is short. -/
def digits (base : Nat) : Nat → Nat → List Char
  | 0, _ => []
  | width + 1, n => digits base width (n / base) ++ [Nat.digitChar (n % base)]

/-- A digit of ASCII. -/
def isAsciiDigit (c : Char) : Bool := '0'.toNat ≤ c.toNat && c.toNat ≤ '9'.toNat

/-- The number that ASCII digits spell, most significant first. -/
def ofDigits (cs : List Char) : Nat :=
  cs.foldl (fun n c => 10 * n + (c.toNat - '0'.toNat)) 0

/-- The first `n` characters as a number, if they are all ASCII digits, and
what follows them. -/
def takeDigits? (n : Nat) (cs : List Char) : Option (Nat × List Char) :=
  let ds := cs.take n
  if ds.length = n ∧ ds.all isAsciiDigit then some (ofDigits ds, cs.drop n) else none

theorem length_digits (base width n : Nat) : (digits base width n).length = width := by
  induction width generalizing n with
  | zero => rfl
  | succ w ih => simp [digits, ih]

end Appointments.Text
