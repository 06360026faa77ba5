import MenuBoard.Json.Basic

/-!
Checking values against what a form asks for. A check gives the value it reads, or every issue there is, in the order of
the form's fields; an issue says where it is and what is wrong. `both` collects the issues of two checks.
-/

namespace MenuBoard.Form

/-- a step on the way into a value -/
inductive Step where
  | key (name : String)
  | index (n : Nat)
  deriving DecidableEq, Repr

/-- what is wrong with a value -/
inductive Fault where
  | missing
  | notRecord
  | notInt | badIntText | intTooLong | notFinite | fractional | tooSmall | tooLarge
  | notReal | badRealText
  | notFlag | badFlagText
  | notText
  | notList
  | notSet
  | notMember
  | notDate | badDateText | notMidnight
  | badJson
  deriving DecidableEq, Repr

/-- Where a form is filled in decides what a value that is no record is called. -/
inductive Place where
  | direct
  | body
  deriving DecidableEq, Repr

def Fault.name (place : Place) : Fault → String
  | .missing => "missing"
  | .notRecord => match place with
    | .direct => "model_type"
    | .body => "model_attributes_type"
  | .notInt => "int_type"
  | .badIntText => "int_parsing"
  | .intTooLong => "int_parsing_size"
  | .notFinite => "finite_number"
  | .fractional => "int_from_float"
  | .tooSmall => "greater_than_equal"
  | .tooLarge => "less_than_equal"
  | .notReal => "float_type"
  | .badRealText => "float_parsing"
  | .notFlag => "bool_type"
  | .badFlagText => "bool_parsing"
  | .notText => "string_type"
  | .notList => "list_type"
  | .notSet => "set_type"
  | .notMember => "enum"
  | .notDate => "date_type"
  | .badDateText => "date_from_datetime_parsing"
  | .notMidnight => "date_from_datetime_inexact"
  | .badJson => "json_invalid"

structure Issue where
  path : List Step
  fault : Fault
  deriving DecidableEq, Repr

/-- a checked value, or all its issues -/
abbrev Checked (α : Type) := Except (List Issue) α

/-- the issues of a form that could not be read, and what the form is for -/
structure Invalid where
  form : String
  issues : List Issue
  deriving DecidableEq, Repr

/-- the first line of the wording -/
def Invalid.message (e : Invalid) : String :=
  let n := e.issues.length
  let plural := if n = 1 then "" else "s"
  s!"{n} validation error{plural} for {e.form}"

namespace Checked

/-- a single issue of the value itself -/
def fail {α : Type} (fault : Fault) : Checked α := .error [⟨[], fault⟩]

/-- the issues lie one step further in -/
def under {α : Type} (step : Step) : Checked α → Checked α
  | .ok a => .ok a
  | .error issues => .error (issues.map fun i => { i with path := step :: i.path })

/-- a function and its argument, with the issues of both -/
def both {α β : Type} : Checked (α → β) → Checked α → Checked β
  | .ok f, .ok a => .ok (f a)
  | .ok _, .error issues => .error issues
  | .error issues, .ok _ => .error issues
  | .error first, .error second => .error (first ++ second)

end Checked

/-- the fields of an object, for a check that asks for a record -/
def record {α : Type} (check : List (String × Json) → Checked α) : Json → Checked α
  | .object fields => check fields
  | _ => Checked.fail .notRecord

/-- a field that must be there -/
def required {α : Type} (key : String) (check : Json → Checked α) (fields : List (String × Json)) : Checked α :=
  Checked.under (.key key) <| match Json.field? key fields with
    | some v => check v
    | none => Checked.fail .missing

/-- a field that has a value of its own if it is not there -/
def defaulted {α : Type} (key : String) (value : α) (check : Json → Checked α) (fields : List (String × Json)) :
    Checked α :=
  Checked.under (.key key) <| match Json.field? key fields with
    | some v => check v
    | none => .ok value

/-- a value that may be null -/
def nullable {α : Type} (check : Json → Checked α) : Json → Checked (Option α)
  | .null => .ok none
  | v => (check v).map some

/-- a field that may be missing or null -/
def optional {α : Type} (key : String) (check : Json → Checked α) (fields : List (String × Json)) : Checked (Option α) :=
  defaulted key none (nullable check) fields

def text : Json → Checked String
  | .str s => .ok s
  | _ => Checked.fail .notText

/-- the items of a list from index `n` on, with the issues of all of them -/
def itemsFrom {α : Type} (check : Json → Checked α) : (n : Nat) → List Json → Checked (List α)
  | _, [] => .ok []
  | n, v :: rest =>
    Checked.both ((Checked.under (.index n) (check v)).map fun a as => a :: as) (itemsFrom check (n + 1) rest)

def list {α : Type} (check : Json → Checked α) : Json → Checked (List α)
  | .list items => itemsFrom check 0 items
  | _ => Checked.fail .notList

/-- one of a set of named values -/
def member {α : Type} (find? : String → Option α) : Json → Checked α
  | .str s => match find? s with
    | some a => .ok a
    | none => Checked.fail .notMember
  | _ => Checked.fail .notMember

/-- A whole number is not below `low` and not above `high`. -/
def within (low high : Int) : Int → Checked Int := fun n =>
  if high < n then Checked.fail .tooLarge else if n < low then Checked.fail .tooSmall else .ok n

end MenuBoard.Form
