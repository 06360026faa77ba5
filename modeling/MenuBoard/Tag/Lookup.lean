import MenuBoard.Json.Basic
import MenuBoard.Numeral
import MenuBoard.Tag.Basic
import MenuBoard.Text.Case

/-!
Tags by name or number. Case and white space around do not matter. A text of digits is a number, and must be a numeral that
can be read; everything else is a name.
-/

namespace MenuBoard

open MenuBoard.Text

/-- why there is no such tag; the value is given as messages show it -/
inductive TagError where
  | unknownNumber (shown : String)
  | unknownName (shown : String)
  | numeral (error : NumeralError)
  deriving DecidableEq, Repr

def TagError.message : TagError → String
  | .unknownNumber shown => "Unknown tag id: " ++ shown
  | .unknownName shown => "Unknown tag: " ++ shown
  | .numeral error => error.message

namespace Tag

/-- a text of digits and nothing else -/
def isNumberText (text : List Char) : Bool := !text.isEmpty && text.all isDigitLike

/-- the tag with a number -/
def findNumber (n : Int) (shown : String) : Except TagError Tag :=
  match ofNumber? n with
  | some t => .ok t
  | none => .error (.unknownNumber shown)

/-- the tag with a name, up to case and white space around -/
def findName (text : List Char) (shown : String) : Except TagError Tag :=
  match all.find? fun t => lower t.name.toList == lower (trim text) with
  | some t => .ok t
  | none => .error (.unknownName shown)

/-- the tag that a text names -/
def find (text : String) : Except TagError Tag :=
  if isNumberText (trim text.toList) then
    match readInt text.toList with
    | .ok n => findNumber n text
    | .error error => .error (.numeral error)
  else findName text.toList (quoted text)

/-- The tag that a value names: a number or a text. `true` and `false` are the numbers 1 and 0. -/
def ofValue : Json → Except TagError Tag
  | .int n => findNumber n (toString n)
  | .bool b => findNumber (if b then 1 else 0) (if b then "True" else "False")
  | .str s => find s
  | value => findName value.shown.toList value.quoted

end Tag

end MenuBoard
