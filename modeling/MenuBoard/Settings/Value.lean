import MenuBoard.Notice
import MenuBoard.Settings.Basic
import MenuBoard.Text.Blank
import MenuBoard.Text.Case

/-!
Values of settings. A value that is no number leaves a number as it was; a list may be given as one text, which is cut at a
separator. A section that is missing, null or otherwise void is empty.
-/

namespace MenuBoard.Settings

open MenuBoard.Rule MenuBoard.Text

/-- a whole number, a flag that counts as one, or a text that spells one -/
def whole? : Json → Option Whole
  | .int n => some (.int n)
  | .bool b => some (.flag b)
  | .str s => match readInt (trim s.toList) with
    | .ok n => some (.int n)
    | .error _ => none
  | _ => none

/-- a whole number that is not negative -/
def natural? (v : Json) : Option Whole := (whole? v).filter (0 ≤ ·.toInt)

/-- a text that means all canteens -/
def meansAll (text : String) : Bool := lower (trim text.toList) == ['a', 'l', 'l']

/-- The canteen that a value names, with a notice if it names none and is not null. -/
def readCanteen (v : Json) : Option DefaultCanteen × List Notice :=
  let numbered := match natural? v with
    | some n => (some (.number n), [])
    | none => (none, [.invalidDefaultCanteen v])
  match v with
  | .null => (none, [])
  | .str s => if meansAll s then (some .all, []) else numbered
  | _ => numbered

/-- the trimmed pieces of a text between separators, without empty ones -/
def cut (separator : Char) (text : String) : List String :=
  (((pieces (· == separator) text.toList).map trim).filter fun w => !w.isEmpty).map String.ofList

/-- A list of texts; an object counts as the list of its keys. -/
def readTexts : Json → Except SettingsError (List String)
  | .null => .ok []
  | .str s => .ok (cut ',' s)
  | .list items => .ok (items.map Json.shown)
  | .object fields => .ok (fields.map (·.1))
  | v => .error (.noItems v.kind)

/-- the value of a field, null if it is missing -/
def get (key : String) (fields : List (String × Json)) : Json := (Json.field? key fields).getD .null

/-- the fields of an object -/
def fieldsOf : Json → Except SettingsError (List (String × Json))
  | .object fields => .ok fields
  | v => .error (.noFields v.kind)

/-- the fields of a section -/
def sectionFields (v : Json) : Except SettingsError (List (String × Json)) := if v.isVoid then .ok [] else fieldsOf v

/-- the allow list and the deny list of one kind of pattern -/
def bothLists (v : Json) : Except SettingsError (List String × List String) := do
  let fields ← sectionFields v
  return (← readTexts (get "allow" fields), ← readTexts (get "deny" fields))

/-- the six lists of a section -/
def readRules (v : Json) : Except SettingsError RuleLists := do
  let fields ← sectionFields v
  let (allowTags, denyTags) ← bothLists (get "tag" fields)
  let (allowCategories, denyCategories) ← bothLists (get "category" fields)
  let (allowNames, denyNames) ← bothLists (get "name" fields)
  return { allowTags, denyTags, allowCategories, denyCategories, allowNames, denyNames }

/-- A repeated canteen keeps its first place and takes the new number. -/
def setFeedId (canteen : Int) (target : Whole) : List (Int × Whole) → List (Int × Whole)
  | [] => [(canteen, target)]
  | (c, t) :: rest => if c = canteen then (c, target) :: rest else (c, t) :: setFeedId canteen target rest

/-- the mapping with one more pair, or a notice that the pair is none -/
def addFeedId (acc : List (Int × Whole) × List Notice) (pair : String × Json) : List (Int × Whole) × List Notice :=
  match natural? (.str pair.1), natural? pair.2 with
  | some canteen, some target => (setFeedId canteen.toInt target acc.1, acc.2)
  | _, _ => (acc.1, acc.2 ++ [.invalidFeedId pair.1 pair.2])

/-- the feed's numbers of canteens -/
def readFeedIds (v : Json) : Except SettingsError (List (Int × Whole) × List Notice) :=
  if v.isVoid then .ok ([], [])
  else match v with
    | .object pairs => .ok (pairs.foldl addFeedId ([], []))
    | v => .error (.noPairs v.kind)

/-- the settings that an object holds -/
def ofJson (v : Json) : Except SettingsError (Settings × List Notice) := do
  let fields ← fieldsOf v
  let (canteen, canteenNotices) := readCanteen (get "default_canteen_id" fields)
  let filter ← readRules (get "filter" fields)
  let favorites ← readRules (get "favs" fields)
  let (ids, idNotices) ← readFeedIds (get "openmensa_ids" fields)
  let unset : Settings := {}
  return ({ defaultCanteen := canteen
            filter
            favorites
            timeout := (whole? (get "request_timeout_seconds" fields)).getD unset.timeout
            lifetime := (whole? (get "cache_ttl_seconds" fields)).getD unset.lifetime
            feedIds := ids }, canteenNotices ++ idNotices)

end MenuBoard.Settings
