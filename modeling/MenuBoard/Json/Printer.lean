import MenuBoard.Json.Basic

/-!
Writing JSON text: no blanks, every character beyond ASCII as it is.
-/

namespace MenuBoard.Json

/-- one character inside quotes -/
def escapeForJson (c : Char) : List Char :=
  let n := c.toNat
  if c = '"' ∨ c = '\\' then ['\\', c]
  else if c = '\n' then ['\\', 'n']
  else if c = '\r' then ['\\', 'r']
  else if c = '\t' then ['\\', 't']
  else if n < 0x20 then '\\' :: 'u' :: Text.hexDigits 4 n
  else [c]

/-- a text between double quotes -/
def printText (s : String) : String := String.ofList ('"' :: s.toList.flatMap escapeForJson ++ ['"'])

/-- how numbers with a fraction are written -/
def realLayout : Decimal.Layout := { Decimal.layout with infinity := "Infinity", nan := "NaN" }

mutual

/-- a value as JSON text -/
def print : Json → String
  | .null => "null"
  | .bool b => if b then "true" else "false"
  | .int n => toString n
  | .real x => realLayout.show x
  | .str s => printText s
  | .list items => "[" ++ ",".intercalate (printItems items) ++ "]"
  | .object fields => "\x7b" ++ ",".intercalate (printFields fields) ++ "\x7d"

def printItems : List Json → List String
  | [] => []
  | v :: rest => print v :: printItems rest

def printFields : List (String × Json) → List String
  | [] => []
  | (k, v) :: rest => (printText k ++ ":" ++ print v) :: printFields rest

end

end MenuBoard.Json
