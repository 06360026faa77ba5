import MenuBoard.Form.Number
import MenuBoard.Meal
import MenuBoard.Rule.Lists

/-!
The forms that a guest fills in: meals, rules of a request, and the three requests themselves.
-/

namespace MenuBoard

open MenuBoard.Rule

/-- a phrase to be read -/
structure PhraseRequest where
  phrase : String
  deriving DecidableEq, Repr

/-- meals to be classified, perhaps by a phrase and by rules of its own -/
structure ClassifyRequest where
  meals : List Meal
  phrase : Option String := none
  filter : Option Overrides := none
  favorites : Option Overrides := none
  deriving Repr

/-- a menu that is asked for by a phrase, with or without its hidden meals -/
structure MenuRequest where
  phrase : String := ""
  includeHidden : Bool := false
  filter : Option Overrides := none
  favorites : Option Overrides := none
  deriving DecidableEq, Repr

namespace Form

/-- prices out of the four given values -/
def pricesOf (students employees pupils others : Checked (Option Float)) : Checked Prices :=
  Checked.both (Checked.both (Checked.both (students.map Prices.mk) employees) pupils) others

def prices : Json → Checked Prices := record fun fields =>
  pricesOf (optional "students" real fields) (optional "employees" real fields) (optional "pupils" real fields)
    (optional "others" real fields)

def tag : Json → Checked Tag := member Tag.ofName?

/-- a set of tags, written as a list -/
def tagSet : Json → Checked (List Tag)
  | .list items => (itemsFrom tag 0 items).map Tag.sorted
  | _ => Checked.fail .notSet

def meal : Json → Checked Meal := record fun fields =>
  let head := Checked.both ((required "id" int fields).map Meal.mk) (required "name" text fields)
  let head := Checked.both head (defaulted "category" "" text fields)
  let head := Checked.both head (defaulted "tags" [] tagSet fields)
  let head := Checked.both head (defaulted "notes" [] (list text) fields)
  Checked.both head (defaulted "prices" {} prices fields)

/-- the six lists of rules -/
def ruleLists (fields : List (String × Json)) : Checked RuleLists :=
  let texts (key : String) := defaulted key [] (list text) fields
  let head := Checked.both ((texts "allow_tags").map RuleLists.mk) (texts "deny_tags")
  let head := Checked.both (Checked.both head (texts "allow_categories")) (texts "deny_categories")
  Checked.both (Checked.both head (texts "allow_names")) (texts "deny_names")

def overrides : Json → Checked Overrides := record fun fields =>
  Checked.both ((ruleLists fields).map Overrides.mk) (defaulted "overwrite" false flag fields)

def phraseRequest : Json → Checked PhraseRequest := record fun fields =>
  (required "phrase" text fields).map PhraseRequest.mk

def classifyRequest : Json → Checked ClassifyRequest := record fun fields =>
  let head := Checked.both ((required "meals" (list meal) fields).map ClassifyRequest.mk) (optional "phrase" text fields)
  Checked.both (Checked.both head (optional "filter" overrides fields)) (optional "favorites" overrides fields)

def menuRequest : Json → Checked MenuRequest := record fun fields =>
  let head := Checked.both ((defaulted "phrase" "" text fields).map MenuRequest.mk)
    (defaulted "include_hidden" false flag fields)
  Checked.both (Checked.both head (optional "filter" overrides fields)) (optional "favorites" overrides fields)

end Form

end MenuBoard
