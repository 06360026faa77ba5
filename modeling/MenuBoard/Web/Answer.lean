import MenuBoard.View

/-!
Answers of the web interface: a status and a JSON body. Every error of a request has a status and, where it is the guest's
to mend or the feed's to blame, a code of its own.
-/

namespace MenuBoard.Web

open MenuBoard.Board MenuBoard.Form MenuBoard.Rule

/-- an answer; its body is null if it has none, and it bears a number of its own unless the work on it broke off -/
structure Answer where
  status : Nat
  body : Json := .null
  numbered : Bool := true

namespace Answer

def ok (body : Json) : Answer := { status := 200, body }

/-- an answer that only says what the matter is -/
def detail (status : Nat) (words : String) : Answer := { status, body := .object [("detail", .str words)] }

/-- a body that does not have the form asked for -/
def invalid (issues : List Issue) : Answer :=
  { status := 422, body := .object [("detail", .list (issues.map (View.issue .body)))] }

/-- the work on an answer broke off -/
def broken : Answer := { status := 500, body := .str "Internal Server Error", numbered := false }

/-- an error with a code -/
def coded (status : Nat) (code message : String) (more : List (String × Json)) : Answer :=
  { status, body := .object ([("error_code", .str code), ("message", .str message)] ++ more) }

def ofPatternError (error : PatternError) : Answer :=
  match error with
  | .invalid pattern _ => coded 422 "INVALID_PATTERN" error.message [("pattern", .str pattern)]
  | .repeatTooLarge | .numeral _ | .asciiAndUnicode => broken

/-- the answer to a request that cannot be met -/
def ofRequestError (error : RequestError) : Answer :=
  match error with
  | .rejected phrase reason =>
    coded 400 "INVALID_QUERY" error.message
      [("phrase", .str phrase), ("position", .int reason.position), ("expected", .texts reason.expected)]
  | .pattern error => ofPatternError error
  | .noCanteen =>
    coded 400 "CANTEEN_ID_MISSING" error.message
      [("suggestion", .str "Name a canteen, e.g. 'at park', or configure default_canteen_id.")]
  | .outOfRange => broken
  | .unavailable canteens =>
    coded 400 "CANTEEN_UNAVAILABLE" error.message
      [("canteens", .texts (canteens.map Canteen.name)),
        ("suggestion", .str "Map the canteen to its OpenMensa id under openmensa_ids in the configuration.")]
  | .noMeals failure =>
    coded 502 "MEAL_SOURCE_FAILURE" "Failed to fetch meals from configured sources."
      [("sources", .texts failure.sources), ("errors", .texts failure.errors)]

end Answer

end MenuBoard.Web
