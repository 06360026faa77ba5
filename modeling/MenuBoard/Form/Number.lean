import MenuBoard.Form.Check
import MenuBoard.Numeral
import MenuBoard.Json.Reader

/-!
Numbers and flags in forms. They may be given as numbers, flags or texts. A whole number may be a number with a fraction of
zero, also as a text (`"1.0"`), with leading zeros and single underscores between digits.
-/

namespace MenuBoard.Form

open MenuBoard.Text MenuBoard.Json

/-- white space around a number in a form; the four separators U+001C to U+001F are none -/
def isFormSpace (c : Char) : Bool := isSpace c && !(0x1c ≤ c.toNat && c.toNat ≤ 0x1f)

/-- the text without a point and zeros at its end -/
def dropZeroFraction (text : List Char) : List Char :=
  let whole := text.takeWhile (· != '.')
  if (text.drop (whole.length + 1)).all (· == '0') then whole else text

/-- the text without its underscores, if they stand singly between other characters -/
def dropUnderscores (text : List Char) : List Char :=
  if text.head? == some '_' || text.getLast? == some '_' || (pieces (· == '_') text).any (·.isEmpty) then text
  else text.filter (· != '_')

/-- The text without its leading zeros and the underscores among them; the last character before a point is kept. -/
def dropLeadingZeros (text : List Char) : List Char :=
  match text with
  | '0' :: _ =>
    let isFiller (c : Char) := c == '0' || c == '_'
    let filler := (text.takeWhile isFiller).getLast?.toList
    match text.dropWhile isFiller with
    | [] => filler
    | '.' :: rest => filler ++ '.' :: rest
    | rest => rest
  | text => text

/-- the digits of a whole number, which are all ASCII and begin with a zero only if that is all -/
def plainDigits? (text : List Char) : Option Nat :=
  if text.isEmpty || !text.all isAsciiDigit || (text.head? == some '0' && text.length != 1) then none
  else some (digitsValue text)

/-- a whole number given as a text -/
def intText (text : String) : Checked Int :=
  let (negative, unsigned) := splitSign (trimBy isFormSpace text.toList)
  let kept := if negative then unsigned else dropLeadingZeros unsigned
  let digits := dropUnderscores (dropZeroFraction kept)
  match plainDigits? digits with
  | none => Checked.fail .badIntText
  | some n =>
    if maxNumeralDigits < digits.length then Checked.fail .intTooLong
    else .ok (if negative then -(n : Int) else n)

/-- the whole number that a number without a fraction is -/
def intOfReal (x : Float) : Checked Int :=
  if x.isNaN || x.isInf then Checked.fail .notFinite
  else if x.floor != x then Checked.fail .fractional
  else if x.abs < 9223372036854775808.0 then
    let n : Int := x.abs.toUInt64.toNat
    .ok (if x < 0 then -n else n)
  else Checked.fail .intTooLong

def int : Json → Checked Int
  | .int n => .ok n
  | .bool b => .ok (if b then 1 else 0)
  | .real x => intOfReal x
  | .str s => intText s
  | _ => Checked.fail .notInt

/-- the words for infinity and for no number, whatever their case -/
def specialReal? (text : List Char) : Option Float :=
  match String.ofList (text.map Char.toLower) with
  | "inf" | "infinity" => some Decimal.infinity
  | "nan" => some (0.0 / 0.0)
  | _ => none

/-- a number with digits before or after an optional point, and perhaps a power of ten -/
def realDigits? (text : List Char) : Option (Nat × Int) :=
  let whole := text.takeWhile isAsciiDigit
  let rest := text.dropWhile isAsciiDigit
  let (tenths, rest) := match rest with
    | '.' :: rest => (rest.takeWhile isAsciiDigit, rest.dropWhile isAsciiDigit)
    | rest => ([], rest)
  if whole.isEmpty && tenths.isEmpty then none
  else
    let n := digitsValue (whole ++ tenths)
    match rest with
    | [] => some (n, -tenths.length)
    | rest => match power? rest with
      | some (p, []) => some (n, p - tenths.length)
      | _ => none

/-- a number given as a text without white space around it -/
def bareRealText? (text : List Char) : Option Float :=
  let (negative, unsigned) := splitSign text
  match specialReal? unsigned with
  | some x => some (if negative then -x else x)
  | none => (realDigits? unsigned).map fun (n, p) => Decimal.ofDecimal negative n p

/-- a number given as a text -/
def realText (text : String) : Checked Float :=
  match (bareRealText? (trimBy isFormSpace text.toList)).or (bareRealText? (dropUnderscores text.toList)) with
  | some x => .ok x
  | none => Checked.fail .badRealText

/-- the double nearest to a whole number -/
def realOfInt (n : Int) : Checked Float :=
  let x := Decimal.ofDecimal (n < 0) n.natAbs 0
  if x.isInf then Checked.fail .notReal else .ok x

def real : Json → Checked Float
  | .real x => .ok x
  | .int n => realOfInt n
  | .bool b => .ok (if b then 1.0 else 0.0)
  | .str s => realText s
  | _ => Checked.fail .notReal

/-- a flag given as a text, whatever its case -/
def flagText (text : String) : Checked Bool :=
  let word := String.ofList (text.toList.map Char.toLower)
  if ["0", "off", "f", "false", "n", "no"].contains word then .ok false
  else if ["1", "on", "t", "true", "y", "yes"].contains word then .ok true
  else Checked.fail .badFlagText

/-- a flag given as a whole number of up to 64 bits -/
def flagOfInt (n : Int) : Checked Bool :=
  if n = 0 then .ok false else if n = 1 then .ok true
  else if -9223372036854775808 ≤ n ∧ n < 9223372036854775808 then Checked.fail .badFlagText
  else Checked.fail .notFlag

def flag : Json → Checked Bool
  | .bool b => .ok b
  | .str s => flagText s
  | .int n => flagOfInt n
  | .real x => match intOfReal x with
    | .ok n => flagOfInt n
    | .error _ => Checked.fail .notFlag
  | _ => Checked.fail .notFlag

end MenuBoard.Form
