-- Integers as settings and documents spell them: a sign, digits, and
-- underscores between digits.
import Appointments.Text.Blank
import Appointments.Text.DecimalDigit
import Appointments.Text.Digits
namespace Appointments.Integer

/-! ## Digits and signs -/

/-- The number that digits spell after `n`. An underscore may stand only
between two digits, so `afterDigit` says whether one came last. -/
def groupedDigits? (value? : Char → Option Nat) (n : Nat) (afterDigit : Bool) :
    List Char → Option Nat
  | [] => if afterDigit then some n else none
  | c :: cs =>
    if c = '_' ∧ afterDigit then groupedDigits? value? n false cs
    else
      match value? c with
      | some d => groupedDigits? value? (10 * n + d) true cs
      | none => none

/-- An integer: a sign or none, then digits. -/
def signed? (value? : Char → Option Nat) : List Char → Option Int
  | '+' :: cs => (groupedDigits? value? 0 false cs).map Int.ofNat
  | '-' :: cs => (groupedDigits? value? 0 false cs).map fun n => -Int.ofNat n
  | cs => (groupedDigits? value? 0 false cs).map Int.ofNat

/-! ## Settings -/

/-- Longer integers are refused. -/
def maxDigits : Nat := 4300

/-- An integer of the settings: white space around it is dropped, and the
digits may be of any script. -/
def ofSetting? (s : String) : Option Int :=
  let cs := Text.trimChars Text.isWhiteSpace s.toList
  if maxDigits < cs.countP Text.isDecimal then none
  else signed? Text.digitValue? cs

/-! ## The plain spelling -/

/-- Why text is no integer. -/
inductive Fault
  | malformed
  | tooLong
deriving DecidableEq, Repr

/-- A minus or nothing, then ASCII digits without a zero in front. The minus
counts as a digit of one that is too long, and what follows the digits of
such a one does not matter. -/
def ofPlain (cs : List Char) : Except Fault Int :=
  let negative := cs.head? = some '-'
  let digits := if negative then cs.drop 1 else cs
  let run := digits.takeWhile Text.isAsciiDigit
  let n := Int.ofNat (Text.ofDigits run)
  if run = ['0'] ∧ digits = run then .ok 0
  else if run.isEmpty ∨ run.head? = some '0' then .error .malformed
  else if maxDigits < run.length + (if negative then 1 else 0) then .error .tooLong
  else if run.length < digits.length then .error .malformed
  else .ok (if negative then -n else n)

/-! ## Fields of documents -/

/-- The characters without zeros in front and without underscores among these
zeros. One zero stays before a point and where nothing else is left. The
zeros may stand before a minus, but no other character than a digit may come
first. -/
def dropZeros? (cs : List Char) : Option (List Char) :=
  let zeros := cs.takeWhile fun c => c = '0' || c = '_'
  match zeros, cs.drop zeros.length with
  | '_' :: _, _ => none
  | [], rest => if rest.head?.any Text.isAsciiDigit then some rest else none
  | _, [] => if zeros.getLast? = some '0' then some ['0'] else none
  | _, '.' :: rest => if zeros.getLast? = some '0' then some ('0' :: '.' :: rest) else none
  | _, c :: rest => if c = '-' ∨ Text.isAsciiDigit c then some (c :: rest) else none

/-- The characters before a fraction of zeros. A fraction needs a point and
at least one zero. -/
def dropZeroFraction (cs : List Char) : List Char :=
  let whole := cs.takeWhile (· ≠ '.')
  match cs.drop whole.length with
  | '.' :: zeros => if !zeros.isEmpty && zeros.all (· == '0') then whole else cs
  | _ => cs

/-- Two underscores stand next to each other. -/
def hasDoubleUnderscore : List Char → Bool
  | a :: b :: rest => (a == '_' && b == '_') || hasDoubleUnderscore (b :: rest)
  | _ => false

/-- The characters without underscores, if these stand singly between other
characters. -/
def dropUnderscores (cs : List Char) : List Char :=
  if cs.head? = some '_' ∨ cs.getLast? = some '_' ∨ hasDoubleUnderscore cs then cs
  else cs.filter (· ≠ '_')

/-- The plain spelling of a number without a sign in front. -/
def unsignedPlain? (cs : List Char) : Option (List Char) :=
  (dropZeros? cs).map fun rest => dropUnderscores (dropZeroFraction rest)

/-- The plain spelling of a number: white space around it, a plus, zeros in
front, underscores and a fraction of zeros are dropped. -/
def plain? (cs : List Char) : Option (List Char) :=
  match Text.trimChars Text.isWhiteSpace cs with
  | '+' :: rest => unsignedPlain? rest
  | '-' :: rest => (unsignedPlain? rest).map ('-' :: ·)
  | rest => unsignedPlain? rest

/-- An integer in a text field of a document: in its plain spelling, or in
another one that has a plain spelling. Only text in the plain spelling itself
is called too long. -/
def ofField (s : String) : Except Fault Int :=
  match ofPlain s.toList with
  | .error .malformed =>
    match (plain? s.toList).map ofPlain with
    | some (.ok n) => .ok n
    | _ => .error .malformed
  | result => result

/-! ## Machine words -/

/-- The integers of a signed word of 64 bits reach up to this one. -/
def wordBound : Int := Int.pow 2 63

/-- The integer is one of a signed word of 64 bits. -/
def fitsWord (n : Int) : Bool := -wordBound ≤ n && n < wordBound

end Appointments.Integer
