import MenuBoard.Settings.Value

/-!
Settings from the environment, which come before those of the file. Each variable sets one field and no other. Tag lists are
cut at commas; a regular expression may hold commas, so lists of those have one to a line.
-/

namespace MenuBoard.Settings

open MenuBoard.Rule

/-- the values of the variables that are set -/
abbrev Environment := String → Option String

/-- the text of a variable that is set and not empty -/
def nonempty? (environment : Environment) (name : String) : Option String :=
  (environment name).filter (!·.isEmpty)

/-- the list that a variable holds, or the list there was -/
def listFrom (environment : Environment) (name : String) (separator : Char) (unset : List String) : List String :=
  match environment name with
  | some text => cut separator text
  | none => unset

/-- rule lists with those that the variables of a section hold -/
def listsFrom (environment : Environment) (area : String) (lists : RuleLists) : RuleLists where
  allowTags := listFrom environment (area ++ "_TAG_ALLOW") ',' lists.allowTags
  denyTags := listFrom environment (area ++ "_TAG_DENY") ',' lists.denyTags
  allowCategories := listFrom environment (area ++ "_CATEGORY_ALLOW") '\n' lists.allowCategories
  denyCategories := listFrom environment (area ++ "_CATEGORY_DENY") '\n' lists.denyCategories
  allowNames := listFrom environment (area ++ "_NAME_ALLOW") '\n' lists.allowNames
  denyNames := listFrom environment (area ++ "_NAME_DENY") '\n' lists.denyNames

/-- the number that a variable holds, or the number there was -/
def wholeFrom (environment : Environment) (name : String) (unset : Whole) : Whole :=
  (((environment name).map Json.str).bind whole?).getD unset

/-- The canteen that a variable names. A variable that names none still takes away the canteen there was. -/
def canteenFrom (environment : Environment) (unset : Option DefaultCanteen) : Option DefaultCanteen × List Notice :=
  match nonempty? environment "MENSA_ID" with
  | some text => readCanteen (.str text)
  | none => (unset, [])

/-- the settings with what the environment sets -/
def withEnvironment (environment : Environment) (s : Settings) : Settings × List Notice :=
  let (canteen, notices) := canteenFrom environment s.defaultCanteen
  ({ s with
      defaultCanteen := canteen
      filter := listsFrom environment "MENSA_FILTER" s.filter
      favorites := listsFrom environment "MENSA_FAVS" s.favorites
      timeout := wholeFrom environment "MENSA_REQUEST_TIMEOUT" s.timeout
      lifetime := wholeFrom environment "MENSA_CACHE_TTL" s.lifetime }, notices)

end MenuBoard.Settings
