import MenuBoard.Text.Blank
import MenuBoard.Text.Digit
import MenuBoard.Text.Quoted

/-!
Whole numbers as people write them: blanks around, a sign, decimal digits of any script, and single underscores between
digits (`1_000`). A numeral of more than 4300 digits is refused, whatever stands after it.
-/

namespace MenuBoard

open MenuBoard.Text

/-- why a text is no whole number -/
inductive NumeralError where
  | malformed (text : String)
  | tooLong (digits : Nat)
  deriving Repr, DecidableEq

/-- the most digits a numeral may have -/
def maxNumeralDigits : Nat := 4300

/-- the wording of a refusal; a long text is cut off -/
def NumeralError.message : NumeralError → String
  | .malformed text => "invalid literal for int() with base 10: " ++ String.ofList ((quotedChars text.toList).take 200)
  | .tooLong digits =>
    s!"Exceeds the limit ({maxNumeralDigits} digits) for integer string conversion: value has {digits} digits; use sys.set_int_max_str_digits() to increase the limit"

/-- may stand around a numeral: white space, but of the ASCII controls only tab, line ends and form feed -/
def isNumeralBlank (c : Char) : Bool :=
  if c.toNat < 0x80 then c == ' ' || (0x09 ≤ c.toNat && c.toNat ≤ 0x0d) else isSpace c

/-- the sign before a numeral, and the text after it -/
def splitSign : List Char → Bool × List Char
  | '-' :: rest => (true, rest)
  | '+' :: rest => (false, rest)
  | rest => (false, rest)

/-- may stand inside a numeral -/
def isNumeralChar (c : Char) : Bool := isDecimalDigit c || c == '_'

/-- The digit values of a numeral, or nothing if an underscore stands first, last or beside another. -/
def numeralDigits? : List Char → Option (List Nat)
  | [] => none
  | [c] => (digitValue? c).map ([·])
  | c :: '_' :: rest => do
    let d ← digitValue? c
    return d :: (← numeralDigits? rest)
  | c :: rest => do
    let d ← digitValue? c
    return d :: (← numeralDigits? rest)

/-- the number that digits stand for -/
def ofDigits (digits : List Nat) : Nat := digits.foldl (fun n d => 10 * n + d) 0

/-- Reads a whole number. -/
def readInt (text : List Char) : Except NumeralError Int :=
  let (negative, unsigned) := splitSign (text.dropWhile isNumeralBlank)
  let body := unsigned.takeWhile isNumeralChar
  let rest := unsigned.dropWhile isNumeralChar
  match numeralDigits? body with
  | none => .error (.malformed (String.ofList text))
  | some digits =>
    if maxNumeralDigits < digits.length then .error (.tooLong digits.length)
    else if !rest.all isNumeralBlank then .error (.malformed (String.ofList text))
    else .ok (if negative then -(ofDigits digits : Int) else ofDigits digits)

/-- A whole number as a setting gives it: a number, or `true` and `false`, which count as 1 and 0 but keep their spelling. -/
inductive Whole where
  | int (n : Int)
  | flag (b : Bool)
  deriving Repr, DecidableEq

namespace Whole

/-- the number it counts as -/
def toInt : Whole → Int
  | .int n => n
  | .flag b => if b then 1 else 0

/-- its spelling in messages and addresses -/
def text : Whole → String
  | .int n => toString n
  | .flag b => if b then "True" else "False"

end Whole

end MenuBoard
