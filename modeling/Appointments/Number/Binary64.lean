-- Numbers with a fractional part, as documents carry them: the values of
-- 64-bit binary floating point, read from a decimal to the nearest value
-- and written with the fewest digits that read back.
import Appointments.Text.Digits
namespace Appointments

/-! ## The values -/

/-- A value of the format. A finite one is the mantissa times two to the
exponent. The mantissa has 53 bits, or fewer at the least exponent. -/
inductive Binary64
  | finite (negative : Bool) (mantissa : Nat) (exponent : Int)
  | infinite (negative : Bool)
  /-- No number at all. -/
  | undefined
deriving DecidableEq, Repr, Inhabited

namespace Binary64

/-- The least exponent of the format. -/
def minExponent : Int := -1074

/-- The greatest exponent of the format. -/
def maxExponent : Int := 971

/-- A power of two as a pair of numerator and denominator factors. -/
def scale (base : Nat) (e : Int) : Nat × Nat :=
  (base.pow e.toNat, base.pow (-e).toNat)

/-! ## Reading a decimal -/

/-- The quotient to the nearest number, a half to the even neighbour. -/
def roundHalfEven (num den : Nat) : Nat :=
  let q := num / den
  let r := num % den
  if 2 * r < den ∨ (2 * r = den ∧ q % 2 = 0) then q else q + 1

/-- The value nearest to the quotient of two positive numbers. -/
def ofQuotient (negative : Bool) (num den : Nat) : Binary64 :=
  let start : Int := max (Int.ofNat num.log2 - Int.ofNat den.log2 - 53) minExponent
  let mantissaAt (q : Int) : Nat × Nat := (num * Nat.pow 2 (-q).toNat, den * Nat.pow 2 q.toNat)
  let (a, b) := mantissaAt start
  let q := if Nat.pow 2 53 ≤ a / b then start + 1 else start
  let (a, b) := mantissaAt q
  let m := roundHalfEven a b
  let (m, q) := if m = Nat.pow 2 53 then (Nat.pow 2 52, q + 1) else (m, q)
  if maxExponent < q then .infinite negative else .finite negative m q

/-- The value nearest to `digits` times ten to the `exponent`. -/
def ofDecimal (negative : Bool) (digits : Nat) (exponent : Int) : Binary64 :=
  let size := Int.ofNat (Nat.toDigits 10 digits).length + exponent
  if digits = 0 ∨ size < -330 then .finite negative 0 minExponent
  else if 330 < size then .infinite negative
  else
    let (up, down) := scale 10 exponent
    ofQuotient negative (digits * up) down

/-! ## Whole values -/

def isFinite : Binary64 → Bool
  | .finite .. => true
  | .infinite _ | .undefined => false

/-- The integer that the value is, if it has no fraction. -/
def toInt? : Binary64 → Option Int
  | .infinite _ | .undefined => none
  | .finite negative m q =>
    let (up, down) := scale 2 q
    if (m * up) % down = 0 then
      let n := Int.ofNat (m * up / down)
      some (if negative then -n else n)
    else none

/-- The value divided by a positive number, rounded down. -/
def floorDiv (x : Binary64) (d : Nat) : Int :=
  match x with
  | .infinite _ | .undefined => 0
  | .finite negative m q =>
    let (up, down) := scale 2 q
    let n := Int.ofNat (m * up)
    (if negative then -n else n).fdiv (Int.ofNat (down * d))

/-- What stands after the point, in millionths to the nearest one. The sign
does not count, and a half counts as one more. -/
def millionths : Binary64 → Nat
  | .infinite _ | .undefined => 0
  | .finite _ m q =>
    let (up, down) := scale 2 q
    (2 * (m * up % down * 1000000) + down) / (2 * down)

/-! ## The shortest decimal -/

/-- The least power of ten, from `p` on, that lifts the quotient to one or
more. -/
def liftingPower (num den : Nat) : Nat → Nat → Nat
  | 0, p => p
  | fuel + 1, p => if den ≤ num * Nat.pow 10 p then p else liftingPower num den fuel (p + 1)

/-- The place of the first digit of a positive quotient: `p` with the
quotient at least ten to the `p` and below ten to the `p + 1`. No value of
the format is below ten to the -324. -/
def decimalPlace (num den : Nat) : Int :=
  if den ≤ num then Int.ofNat (Nat.toDigits 10 (num / den)).length - 1
  else -Int.ofNat (liftingPower num den 324 1)

/-- The interval of reals that read as this value, over one denominator:
lower end, the value, upper end, denominator. The gap below a power of two
is half as wide, save at the least exponent. -/
def readInterval (m : Nat) (q : Int) : Nat × Nat × Nat × Nat :=
  let (up, down) := scale 2 q
  let below := if m = Nat.pow 2 52 ∧ minExponent < q then 1 else 2
  ((4 * m - below) * up, 4 * m * up, (4 * m + 2) * up, 4 * down)

/-- The multiple of ten to the `k` next to the value that reads back, if one
of its two neighbours on that grid does. The nearer one is preferred, and of
two at the same distance the even one. -/
def onGrid? (m : Nat) (q k : Int) : Option Nat :=
  let (low, value, high, den) := readInterval m q
  let (up, down) := scale 10 k
  let unit := den * up
  let inside (d : Nat) : Bool :=
    let x := d * unit
    if m % 2 = 0 then low * down ≤ x && x ≤ high * down else low * down < x && x < high * down
  let floor := value * down / unit
  let nearer := roundHalfEven (value * down) unit
  let other := if nearer = floor then floor + 1 else floor
  if inside nearer then some nearer else if inside other then some other else none

/-- The first grid, from place `k` down, that holds a multiple that reads
back: the multiple and its place. -/
def widen (m : Nat) (q : Int) : Nat → Int → Nat × Int
  | 0, k => (0, k)
  | fuel + 1, k =>
    match onGrid? m q k with
    | some d => (d, k)
    | none => widen m q fuel (k - 1)

/-- The shortest decimal that reads back: its digits as a number and the
place of the last one. Seventeen digits are enough for every value. -/
def shortest (m : Nat) (q : Int) : Nat × Int :=
  let (up, down) := scale 2 q
  widen m q 17 (decimalPlace (m * up) down)

/-- Digits without zeros at the end, and the place of the last one left. -/
def dropZeros (ds : List Char) (k : Int) : List Char × Int :=
  let kept := (ds.reverse.dropWhile (· == '0')).reverse
  (kept, k + Int.ofNat (ds.length - kept.length))

/-! ## The written form -/

/-- Digits and the place of the last one. Numbers from a ten-thousandth up
to ten to the sixteenth are written positionally with at least one decimal,
the others with an exponent of at least two digits. -/
def written (ds : List Char) (k : Int) : List Char :=
  let point : Int := Int.ofNat ds.length + k
  if -3 ≤ point ∧ point ≤ 16 then
    if point ≤ 0 then '0' :: '.' :: List.replicate (-point).toNat '0' ++ ds
    else
      let whole := ds.take point.toNat
      let rest := ds.drop point.toNat
      whole ++ List.replicate (point.toNat - whole.length) '0' ++
        '.' :: (if rest.isEmpty then ['0'] else rest)
  else
    let e := point - 1
    let body := match ds with
      | [] => []
      | [d] => [d]
      | d :: rest => d :: '.' :: rest
    let power := Nat.toDigits 10 e.natAbs
    body ++ 'e' :: (if e < 0 then '-' else '+') ::
      (if power.length < 2 then '0' :: power else power)

/-- The text of a value: the fewest digits that read back. -/
def text (x : Binary64) : String :=
  let sign (negative : Bool) : List Char := if negative then ['-'] else []
  String.ofList <| match x with
  | .undefined => ['n', 'a', 'n']
  | .infinite negative => sign negative ++ ['i', 'n', 'f']
  | .finite negative 0 _ => sign negative ++ ['0', '.', '0']
  | .finite negative m q =>
    let (d, k) := shortest m q
    let (ds, k) := dropZeros (Nat.toDigits 10 d) k
    sign negative ++ written ds k

end Binary64
end Appointments
