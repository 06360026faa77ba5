import MenuBoard.Json.Basic
import MenuBoard.Numeral
import MenuBoard.Rule.Lists
import MenuBoard.Text.Utf8

/-!
Settings, and why they cannot be read. Numbers keep the spelling they are given in: `true` counts as 1 but stays `true`.
-/

namespace MenuBoard

open MenuBoard.Rule MenuBoard.Text

/-- the canteen that a phrase without one means -/
inductive DefaultCanteen where
  | all
  | number (n : Whole)
  deriving DecidableEq, Repr

structure Settings where
  defaultCanteen : Option DefaultCanteen := none
  filter : RuleLists := {}
  favorites : RuleLists := {}
  /-- how many seconds the feed may take -/
  timeout : Whole := .int 10
  /-- how many seconds an answer of the feed is kept -/
  lifetime : Whole := .int 3600
  /-- the feed's numbers of canteens, in the order given, beyond those that are known -/
  feedIds : List (Int × Whole) := []
  deriving DecidableEq, Repr

/-- Why a file holds no settings: its bytes are no text, a numeral is too long to read, or a value has the wrong shape. -/
inductive SettingsError where
  | undecodable (error : Utf8.Error)
  | numeral (digits : Nat)
  | noFields (kind : Json.Kind)
  | noPairs (kind : Json.Kind)
  | noItems (kind : Json.Kind)
  deriving DecidableEq, Repr

def SettingsError.message : SettingsError → String
  | .undecodable error => error.message
  | .numeral digits => (NumeralError.tooLong digits).message
  | .noFields kind => s!"'{kind.word}' object has no attribute 'get'"
  | .noPairs kind => s!"'{kind.word}' object has no attribute 'items'"
  | .noItems kind => s!"'{kind.word}' object is not iterable"

end MenuBoard
