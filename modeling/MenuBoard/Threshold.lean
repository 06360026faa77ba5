import MenuBoard.Text.Blank
import MenuBoard.Text.Case

/-!
The weight from which on notices are shown. It is set by name, in any case and with white space around; a name that is not
known, or none, means the weight of plain information.
-/

namespace MenuBoard.Threshold

/-- the names of weights -/
def names : List (String × Nat) :=
  [("CRITICAL", 50), ("FATAL", 50), ("ERROR", 40), ("WARNING", 30), ("WARN", 30), ("INFO", 20), ("DEBUG", 10),
    ("NOTSET", 0)]

/-- the weight of plain information -/
def information : Nat := 20

/-- the weight with a name -/
def ofName? (name : String) : Option Nat := (names.find? (·.1 == name)).map (·.2)

/-- the weight that a setting asks for -/
def ofSetting (setting : Option String) : Nat :=
  match setting with
  | none => information
  | some text => (ofName? (String.ofList (Text.upper (Text.trim text.toList)))).getD information

end MenuBoard.Threshold
