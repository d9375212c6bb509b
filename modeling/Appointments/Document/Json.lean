-- The JSON text of documents: a reader that keeps the order of fields and
-- tells whole numbers from fractional ones, and a writer.
import Appointments.Document.Value
namespace Appointments.Json

/-! ## Writing -/

/-- One character of a JSON string. -/
def escape (c : Char) : List Char :=
  if c = '"' ∨ c = '\\' then ['\\', c]
  else if c = '\n' then ['\\', 'n']
  else if c.toNat < 0x20 then '\\' :: 'u' :: Text.digits 16 4 c.toNat
  else [c]

/-- A JSON string. -/
def writeText (s : String) : String :=
  String.ofList ('"' :: s.toList.flatMap escape ++ ['"'])

mutual

/-- The JSON text of a value, on one line. -/
def write : Value → String
  | .null => "null"
  | .bool true => "true"
  | .bool false => "false"
  | .int n => toString n
  | .float x => x.text
  | .text s => writeText s
  | .list items => "[" ++ String.intercalate "," (writeItems items) ++ "]"
  | .object fields => "\x7b" ++ String.intercalate "," (writeFields fields) ++ "\x7d"

/-- The JSON text of the items of a list. -/
def writeItems : List Value → List String
  | [] => []
  | v :: vs => write v :: writeItems vs

/-- The JSON text of the fields of an object. -/
def writeFields : List (String × Value) → List String
  | [] => []
  | (k, v) :: rest => (writeText k ++ ":" ++ write v) :: writeFields rest

end

/-! ## Reading -/

/-- The input without blanks in front. -/
def skipBlanks (cs : List Char) : List Char :=
  cs.dropWhile fun c => c = ' ' || c = '\n' || c = '\t' || c = '\r'

/-- The value of a hexadecimal digit. -/
def hexValue? (c : Char) : Option Nat :=
  if Text.isAsciiDigit c then some (c.toNat - '0'.toNat)
  else if 'a'.toNat ≤ c.toNat ∧ c.toNat ≤ 'f'.toNat then some (c.toNat - 'a'.toNat + 10)
  else if 'A'.toNat ≤ c.toNat ∧ c.toNat ≤ 'F'.toNat then some (c.toNat - 'A'.toNat + 10)
  else none

/-- Four hexadecimal digits and what follows them. -/
def hex4? : List Char → Option (Nat × List Char)
  | a :: b :: c :: d :: rest => do
    let a ← hexValue? a
    let b ← hexValue? b
    let c ← hexValue? c
    let d ← hexValue? d
    return (((a * 16 + b) * 16 + c) * 16 + d, rest)
  | _ => none

/-- The character of a code unit and, for the first half of a pair, of the
half that follows. A half that stands alone is replaced. -/
def unitChar (n : Nat) (rest : List Char) : Char × List Char :=
  if 0xD800 ≤ n ∧ n < 0xDC00 then
    match rest with
    | '\\' :: 'u' :: more =>
      match hex4? more with
      | some (m, after) =>
        if 0xDC00 ≤ m ∧ m < 0xE000 then
          (Char.ofNat (0x10000 + (n - 0xD800) * 0x400 + (m - 0xDC00)), after)
        else (Char.ofNat 0xFFFD, rest)
      | none => (Char.ofNat 0xFFFD, rest)
    | _ => (Char.ofNat 0xFFFD, rest)
  else if 0xDC00 ≤ n ∧ n < 0xE000 then (Char.ofNat 0xFFFD, rest)
  else (Char.ofNat n, rest)

/-- The rest of a string, after its opening quote. The characters read so
far are in `seen`, last first. -/
def textRest? : Nat → List Char → List Char → Option (String × List Char)
  | 0, _, _ => none
  | fuel + 1, seen, cs =>
    match cs with
    | '"' :: rest => some (String.ofList seen.reverse, rest)
    | '\\' :: 'u' :: rest => do
      let (n, rest) ← hex4? rest
      let (c, rest) := unitChar n rest
      textRest? fuel (c :: seen) rest
    | '\\' :: c :: rest =>
      let plain? : Option Char :=
        match c with
        | 'n' => some '\n'
        | 't' => some '\t'
        | 'r' => some '\r'
        | 'b' => some (Char.ofNat 8)
        | 'f' => some (Char.ofNat 12)
        | '"' => some '"'
        | '\\' => some '\\'
        | '/' => some '/'
        | _ => none
      plain?.bind fun d => textRest? fuel (d :: seen) rest
    | c :: rest => textRest? fuel (c :: seen) rest
    | [] => none

/-- A number: whole without a point and an exponent, fractional with one. -/
def number? (cs : List Char) : Option (Value × List Char) :=
  let negative := cs.head? = some '-'
  let cs := if negative then cs.drop 1 else cs
  let whole := cs.takeWhile Text.isAsciiDigit
  let cs := cs.drop whole.length
  if whole.isEmpty then none
  else
    let (fraction, cs) :=
      match cs with
      | '.' :: more =>
        let ds := more.takeWhile Text.isAsciiDigit
        (some ds, more.drop ds.length)
      | _ => (none, cs)
    let (power, cs) : Option Int × List Char :=
      match cs with
      | e :: more =>
        if e = 'e' ∨ e = 'E' then
          let sign := more.head?
          let more := if sign = some '+' ∨ sign = some '-' then more.drop 1 else more
          let ds := more.takeWhile Text.isAsciiDigit
          let n := Int.ofNat (Text.ofDigits ds)
          (some (if sign = some '-' then -n else n), more.drop ds.length)
        else (none, cs)
      | [] => (none, cs)
    match fraction, power with
    | none, none =>
      let n := Int.ofNat (Text.ofDigits whole)
      some (.int (if negative then -n else n), cs)
    | _, _ =>
      let ds := fraction.getD []
      let place := power.getD 0 - Int.ofNat ds.length
      some (.float (Binary64.ofDecimal negative (Text.ofDigits (whole ++ ds)) place), cs)

/-- The fields with one more: a name that is there already keeps its place
and gets the new value. -/
def putField (fields : List (String × Value)) (name : String) (v : Value) :
    List (String × Value) :=
  if fields.any (·.1 == name) then fields.map fun f => if f.1 == name then (name, v) else f
  else fields ++ [(name, v)]

/-- What follows a fixed word. -/
def afterWord? (word : List Char) (cs : List Char) : Option (List Char) :=
  if cs.take word.length = word then some (cs.drop word.length) else none

/-- A number without end, after its first letter. -/
def infinity? (negative : Bool) (cs : List Char) : Option (Value × List Char) :=
  (afterWord? ['n', 'f', 'i', 'n', 'i', 't', 'y'] cs).map fun r => (.float (.infinite negative), r)

mutual

/-- A value and what follows it. -/
def value? : Nat → List Char → Option (Value × List Char)
  | 0, _ => none
  | fuel + 1, cs =>
    match skipBlanks cs with
    | '"' :: rest => (textRest? (rest.length + 1) [] rest).map fun (s, r) => (.text s, r)
    | '[' :: rest =>
      match skipBlanks rest with
      | ']' :: after => some (.list [], after)
      | rest => (items? fuel [] rest).map fun (vs, r) => (.list vs, r)
    | '\x7b' :: rest =>
      match skipBlanks rest with
      | '\x7d' :: after => some (.object [], after)
      | rest => (fields? fuel [] rest).map fun (fs, r) => (.object fs, r)
    | 'n' :: rest => (afterWord? ['u', 'l', 'l'] rest).map fun r => (.null, r)
    | 't' :: rest => (afterWord? ['r', 'u', 'e'] rest).map fun r => (.bool true, r)
    | 'f' :: rest => (afterWord? ['a', 'l', 's', 'e'] rest).map fun r => (.bool false, r)
    | 'N' :: rest => (afterWord? ['a', 'N'] rest).map fun r => (.float .undefined, r)
    | 'I' :: rest => infinity? false rest
    | '-' :: 'I' :: rest => infinity? true rest
    | cs => number? cs

/-- The items of a list up to its end. Those read so far are last first. -/
def items? : Nat → List Value → List Char → Option (List Value × List Char)
  | 0, _, _ => none
  | fuel + 1, seen, cs => do
    let (v, rest) ← value? fuel cs
    match skipBlanks rest with
    | ',' :: rest => items? fuel (v :: seen) rest
    | ']' :: rest => some ((v :: seen).reverse, rest)
    | _ => none

/-- The fields of an object up to its end. -/
def fields? : Nat → List (String × Value) → List Char → Option (List (String × Value) × List Char)
  | 0, _, _ => none
  | fuel + 1, seen, cs => do
    match skipBlanks cs with
    | '"' :: rest =>
      let (k, rest) ← textRest? (rest.length + 1) [] rest
      match skipBlanks rest with
      | ':' :: rest =>
        let (v, rest) ← value? fuel rest
        match skipBlanks rest with
        | ',' :: rest => fields? fuel (putField seen k v) rest
        | '\x7d' :: rest => some (putField seen k v, rest)
        | _ => none
      | _ => none
    | _ => none

end

/-- The value that a whole JSON text holds. -/
def read? (s : String) : Option Value :=
  let cs := s.toList
  match value? (2 * cs.length + 2) cs with
  | some (v, rest) => if (skipBlanks rest).isEmpty then some v else none
  | none => none

end Appointments.Json
