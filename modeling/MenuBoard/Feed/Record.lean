import MenuBoard.Feed.Basic
import MenuBoard.Form.Request
import MenuBoard.Tag.Note

/-!
Records of the feed. A record's notes say which tags a meal has; what says nothing of tags is kept as a description. A value
that is missing or void stands for an empty one, but a meal must have a number.
-/

namespace MenuBoard.Feed

open MenuBoard.Form

/-- the value of a field, null if it is missing -/
def get (key : String) (fields : List (String × Json)) : Json := (Json.field? key fields).getD .null

/-- a value, or another one in place of a void one -/
def orElse (v whenVoid : Json) : Json := if v.isVoid then whenVoid else v

/-- the items of a list, the keys of an object, or the characters of a text -/
def itemsOf : Json → Except FeedError (List Json)
  | .list items => .ok items
  | .object fields => .ok (fields.map fun f => .str f.1)
  | .str s => .ok (s.toList.map fun c => .str (String.singleton c))
  | v => .error (.noItems v.kind)

def fieldsOf : Json → Except FeedError (List (String × Json))
  | .object fields => .ok fields
  | v => .error (.noFields v.kind)

def textOf : Json → Except FeedError String
  | .str s => .ok s
  | v => .error (.noText v.kind)

/-- a checked value of a form -/
def accept {α : Type} (form : String) : Checked α → Except FeedError α
  | .ok a => .ok a
  | .error issues => .error (.invalid ⟨form, issues⟩)

/-- the notes of a record -/
def notesOf (fields : List (String × Json)) : Except FeedError Tag.NoteSplit := do
  let items ← itemsOf (orElse (get "notes" fields) (.list []))
  return Tag.splitNotes (← items.mapM textOf)

/-- the prices of a record -/
def pricesOf (fields : List (String × Json)) : Except FeedError Prices := do
  let given ← fieldsOf (orElse (get "prices" fields) (.object []))
  accept "Prices" (prices (.object given))

/-- the meal that a record describes -/
def mealOf (record : Json) : Except FeedError Meal := do
  let fields ← fieldsOf record
  let notes ← notesOf fields
  let prices ← pricesOf fields
  let id := Checked.under (.key "id") (int (get "id" fields))
  let name := Checked.under (.key "name") (text (orElse (get "name" fields) (.str "")))
  let category := Checked.under (.key "category") (text (orElse (get "category" fields) (.str "")))
  let head := Checked.both (Checked.both (id.map Meal.mk) name) category
  accept "Meal" (head.map fun meal => meal notes.tags notes.descriptions prices)

end MenuBoard.Feed
