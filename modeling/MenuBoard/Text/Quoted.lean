import MenuBoard.Text.Printable

/-!
Quoted text, as messages show it: between single quotes, or between double quotes if the text holds single ones only.
A backslash, the quote and three controls have short escapes; any other character that is not printable is written by its
code point in two, four or eight hexadecimal digits.
-/

namespace MenuBoard.Text

/-- one hexadecimal digit -/
def hexDigit (n : Nat) : Char := if n < 10 then Char.ofNat (0x30 + n) else Char.ofNat (0x57 + n)

/-- the last `width` hexadecimal digits of a number -/
def hexDigits : (width n : Nat) → List Char
  | 0, _ => []
  | width + 1, n => hexDigits width (n / 16) ++ [hexDigit (n % 16)]

/-- one character inside quotes -/
def escapeChar (quote c : Char) : List Char :=
  let n := c.toNat
  if c = '\\' ∨ c = quote then ['\\', c]
  else if c = '\n' then ['\\', 'n']
  else if c = '\r' then ['\\', 'r']
  else if c = '\t' then ['\\', 't']
  else if isPrintable c then [c]
  else if n < 0x100 then '\\' :: 'x' :: hexDigits 2 n
  else if n < 0x10000 then '\\' :: 'u' :: hexDigits 4 n
  else '\\' :: 'U' :: hexDigits 8 n

/-- the quote a text is put between -/
def quoteFor (text : List Char) : Char :=
  if text.contains '\'' && !text.contains '"' then '"' else '\''

/-- a text between quotes -/
def quotedChars (text : List Char) : List Char :=
  let quote := quoteFor text
  quote :: text.flatMap (escapeChar quote) ++ [quote]

/-- a text between quotes -/
def quoted (text : String) : String := String.ofList (quotedChars text.toList)

end MenuBoard.Text
