import MenuBoard.Json.Basic
import MenuBoard.Numeral
import MenuBoard.Text.Lines

/-!
Reading JSON text. A refusal names the first fault and its offset in characters. Beyond the standard, `NaN`, `Infinity`
and `-Infinity` are numbers; a byte-order mark is refused. The last of equal keys wins and the first keeps its place.

The readers take the rest of the text and hand back what they leave of it, so an offset is the length of the whole text
less the length of the rest.
-/

namespace MenuBoard.Json

open MenuBoard.Text

/-- what is wrong with a text -/
inductive FaultKind where
  | byteOrderMark
  | expectingValue
  | expectingName
  | expectingColon
  | expectingComma
  | extraData
  | unterminatedText
  | controlCharacter
  | badEscape
  | badUnicodeEscape
  deriving Repr, DecidableEq

def FaultKind.message : FaultKind → String
  | .byteOrderMark => "Unexpected UTF-8 BOM (decode using utf-8-sig)"
  | .expectingValue => "Expecting value"
  | .expectingName => "Expecting property name enclosed in double quotes"
  | .expectingColon => "Expecting ':' delimiter"
  | .expectingComma => "Expecting ',' delimiter"
  | .extraData => "Extra data"
  | .unterminatedText => "Unterminated string starting at"
  | .controlCharacter => "Invalid control character at"
  | .badEscape => "Invalid \\escape"
  | .badUnicodeEscape => "Invalid \\uXXXX escape"

/-- why a text is no JSON: a fault of the syntax, `left` characters before the end, or a numeral too long to read -/
inductive Refusal where
  | syntaxFault (kind : FaultKind) (left : Nat)
  | numeral (digits : Nat)
  deriving Repr, DecidableEq

/-- a reader of the rest of a text -/
abbrev Reader (α : Type) := List Char → Except Refusal (α × List Char)

def fault {α : Type} (kind : FaultKind) (rest : List Char) : Except Refusal α :=
  .error (.syntaxFault kind rest.length)

/-- blank between JSON tokens -/
def isGap (c : Char) : Bool := c == ' ' || c == '\t' || c == '\n' || c == '\r'

def dropGap (text : List Char) : List Char := text.dropWhile isGap

def isAsciiDigit (c : Char) : Bool := '0' ≤ c && c ≤ '9'

/-- what follows `word`, if the text begins with it -/
def after? : (word text : List Char) → Option (List Char)
  | [], text => some text
  | _ :: _, [] => none
  | w :: word, c :: text => if w == c then after? word text else none

def hexValue? (c : Char) : Option Nat :=
  let n := c.toNat
  if 0x30 ≤ n ∧ n ≤ 0x39 then some (n - 0x30)
  else if 0x41 ≤ n ∧ n ≤ 0x46 then some (n - 0x37)
  else if 0x61 ≤ n ∧ n ≤ 0x66 then some (n - 0x57)
  else none

/-- four hexadecimal digits -/
def hex4? : List Char → Option (Nat × List Char)
  | a :: b :: c :: d :: rest => do
    let a ← hexValue? a
    let b ← hexValue? b
    let c ← hexValue? c
    let d ← hexValue? d
    return (((a * 16 + b) * 16 + c) * 16 + d, rest)
  | _ => none

/-- The character after `\u`, read from the rest; two halves of a pair make one character, and a half alone, which no text can
hold, is replaced.
A text that ends right after its digits is refused too, for it is not closed. -/
def unicodeEscape (atEscape rest : List Char) : Except Refusal (Char × List Char) :=
  if rest.length ≤ 4 then fault .badUnicodeEscape atEscape
  else match hex4? rest with
    | none => fault .badUnicodeEscape atEscape
    | some (high, rest) =>
      if 0xd800 ≤ high ∧ high < 0xdc00 then
        match rest with
        | '\\' :: 'u' :: more =>
          if more.length ≤ 4 then .ok ('\ufffd', rest)
          else match hex4? more with
            | none => .error (.syntaxFault .badUnicodeEscape (more.length + 1))
            | some (low, more) =>
              if 0xdc00 ≤ low ∧ low < 0xe000 then
                .ok (Char.ofNat (0x10000 + (high - 0xd800) * 0x400 + (low - 0xdc00)), more)
              else .ok ('\ufffd', rest)
        | _ => .ok ('\ufffd', rest)
      else if 0xdc00 ≤ high ∧ high < 0xe000 then .ok ('\ufffd', rest)
      else .ok (Char.ofNat high, rest)

/-- the character that a short escape stands for -/
def shortEscape? (c : Char) : Option Char :=
  if c = '"' ∨ c = '\\' ∨ c = '/' then some c
  else if c = 'b' then some '\x08'
  else if c = 'f' then some '\x0c'
  else if c = 'n' then some '\n'
  else if c = 'r' then some '\r'
  else if c = 't' then some '\t'
  else none

/-- The rest of a text whose opening quote was `opening` characters before the end. Every round takes a character. -/
def textBody (opening : Nat) : (rounds : Nat) → (done : List Char) → Reader String
  | 0, _, _ => .error (.syntaxFault .unterminatedText opening)
  | rounds + 1, done, text =>
    match text with
    | [] => .error (.syntaxFault .unterminatedText opening)
    | '"' :: rest => .ok (String.ofList done.reverse, rest)
    | '\\' :: [] => .error (.syntaxFault .unterminatedText opening)
    | '\\' :: 'u' :: rest => do
      let (c, rest) ← unicodeEscape ('u' :: rest) rest
      textBody opening rounds (c :: done) rest
    | '\\' :: c :: rest =>
      match shortEscape? c with
      | some c => textBody opening rounds (c :: done) rest
      | none => fault .badEscape ('\\' :: c :: rest)
    | c :: rest =>
      if c.toNat < 0x20 then fault .controlCharacter (c :: rest) else textBody opening rounds (c :: done) rest

/-- a text whose opening quote is read -/
def textAfterQuote : Reader String := fun rest => textBody (rest.length + 1) (rest.length + 1) [] rest

/-- digits after a decimal point, if at least one follows it -/
def fraction? : List Char → Option (List Char × List Char)
  | '.' :: d :: rest =>
    if isAsciiDigit d then some (d :: rest.takeWhile isAsciiDigit, rest.dropWhile isAsciiDigit) else none
  | _ => none

/-- a power of ten, if it has at least one digit -/
def power? : List Char → Option (Int × List Char)
  | e :: rest =>
    if e = 'e' ∨ e = 'E' then
      let (negative, rest) := splitSign rest
      let digits := rest.takeWhile isAsciiDigit
      if digits.isEmpty then none
      else
        let n : Int := ofDigits (digits.map fun c => c.toNat - 0x30)
        some (if negative then -n else n, rest.dropWhile isAsciiDigit)
    else none
  | [] => none

/-- the number of a row of digits -/
def digitsValue (digits : List Char) : Nat := ofDigits (digits.map fun c => c.toNat - 0x30)

/-- the digits before the point: a zero alone, or digits that begin with none -/
def wholeDigits? : List Char → Option (List Char × List Char)
  | '0' :: rest => some (['0'], rest)
  | text =>
    let digits := text.takeWhile isAsciiDigit
    if digits.isEmpty then none else some (digits, text.dropWhile isAsciiDigit)

/-- A number. With a fraction or a power of ten it is no whole number, whatever its value. -/
def number : Reader Json := fun text =>
  let (negative, unsigned) := match text with
    | '-' :: rest => (true, rest)
    | _ => (false, text)
  match wholeDigits? unsigned with
  | none => fault .expectingValue text
  | some (whole, rest) =>
    let (tenths, rest') := (fraction? rest).getD ([], rest)
    let (power, rest'') := ((power? rest').map fun (p, r) => (some p, r)).getD (none, rest')
    if tenths.isEmpty ∧ power.isNone then
      if maxNumeralDigits < whole.length then .error (.numeral whole.length)
      else
        let n : Int := digitsValue whole
        .ok (.int (if negative then -n else n), rest)
    else
      .ok (.real (Decimal.ofDecimal negative (digitsValue (whole ++ tenths)) (power.getD 0 - tenths.length)), rest'')

/-- a word that stands for a value -/
def literal? (text : List Char) : Option (Json × List Char) :=
  [("null", Json.null), ("true", .bool true), ("false", .bool false), ("NaN", .real (0.0 / 0.0)),
    ("Infinity", .real Decimal.infinity), ("-Infinity", .real (-Decimal.infinity))].findSome? fun (word, value) =>
      (after? word.toList text).map (value, ·)

mutual

/-- A value. The fuel bounds the nesting and the number of items together; twice the length of the text is enough. -/
def value : (fuel : Nat) → Reader Json
  | 0, text => fault .expectingValue text
  | fuel + 1, text =>
    match text with
    | '"' :: rest => do
      let (s, rest) ← textAfterQuote rest
      return (.str s, rest)
    | '[' :: rest =>
      match dropGap rest with
      | ']' :: rest => .ok (.list [], rest)
      | rest => do
        let (items, rest) ← items fuel rest
        return (.list items, rest)
    | '{' :: rest =>
      match dropGap rest with
      | '}' :: rest => .ok (.object [], rest)
      | rest => do
        let (fields, rest) ← fields fuel rest
        return (.object (mergeFields fields), rest)
    | text =>
      match literal? text with
      | some found => .ok found
      | none => number text

/-- the items of a list up to its closing bracket -/
def items : (fuel : Nat) → Reader (List Json)
  | 0, text => fault .expectingValue text
  | fuel + 1, text => do
    let (v, rest) ← value fuel text
    match dropGap rest with
    | ']' :: rest => return ([v], rest)
    | ',' :: rest =>
      let (vs, rest) ← items fuel (dropGap rest)
      return (v :: vs, rest)
    | rest => fault .expectingComma rest

/-- the fields of an object up to its closing brace -/
def fields : (fuel : Nat) → Reader (List (String × Json))
  | 0, text => fault .expectingValue text
  | fuel + 1, text =>
    match text with
    | '"' :: rest => do
      let (key, rest) ← textAfterQuote rest
      match dropGap rest with
      | ':' :: rest =>
        let (v, rest) ← value fuel (dropGap rest)
        match dropGap rest with
        | '}' :: rest => return ([(key, v)], rest)
        | ',' :: rest =>
          let (more, rest) ← fields fuel (dropGap rest)
          return ((key, v) :: more, rest)
        | rest => fault .expectingComma rest
      | rest => fault .expectingColon rest
    | text => fault .expectingName text

end

/-- where and why a text is no JSON -/
inductive ReadError where
  | syntaxFault (kind : FaultKind) (offset : Nat)
  | numeral (digits : Nat)
  deriving Repr, DecidableEq

/-- one value with white space around it -/
def whole (text : List Char) : Except Refusal Json :=
  match text with
  | '\ufeff' :: _ => fault .byteOrderMark text
  | _ => do
    let (v, rest) ← value (2 * text.length + 2) (dropGap text)
    match dropGap rest with
    | [] => return v
    | rest => fault .extraData rest

/-- Reads a JSON text. -/
def read (text : List Char) : Except ReadError Json :=
  match whole text with
  | .ok v => .ok v
  | .error (.numeral digits) => .error (.numeral digits)
  | .error (.syntaxFault kind left) => .error (.syntaxFault kind (text.length - left))

/-- the wording of a refusal -/
def ReadError.message (text : List Char) : ReadError → String
  | .syntaxFault kind offset =>
    let (line, column) := lineAndColumn text offset
    s!"{kind.message}: line {line} column {column} (char {offset})"
  | .numeral digits => (NumeralError.tooLong digits).message

end MenuBoard.Json
