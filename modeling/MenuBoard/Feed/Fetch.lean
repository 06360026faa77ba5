import MenuBoard.Feed.Record
import MenuBoard.Source

/-!
Fetching meals from the feed. A canteen that is closed on a day replies with status 404, which means no meals; other client
and server errors are failures.
-/

namespace MenuBoard.Feed

open MenuBoard.Calendar

/-- the records in the body of a response -/
def recordsOf (body : String) : Except FeedError (List Json) :=
  match Json.read body.toList with
  | .ok v => itemsOf (orElse v (.list []))
  | .error (.syntaxFault kind offset) => .error (.unreadable kind offset body)
  | .error (.numeral digits) => .error (.numeral digits)

/-- the meals of a response, in the order of its records -/
def mealsOf (address : String) (r : Response) : Except FeedError (List Meal) :=
  if r.status = 404 then .ok []
  else if 400 ≤ r.status ∧ r.status < 600 then .error (.refused r.status r.reason address)
  else do (← recordsOf r.body).mapM mealOf

/-- meals out of the feed, with the call and the notices -/
structure Fetched where
  meals : Except FeedError (List Meal)
  call : Call
  notices : List Notice := []

/-- asks the feed for the meals of a canteen on a day -/
def fetch (session : Session) (timeout : Whole) (canteen : Whole) (day : Day) : Fetched :=
  let target := address canteen day
  let call : Call := ⟨target, timeout⟩
  match session target with
  | .broken fault message => { meals := .error (.broken fault message), call }
  | .response r => { meals := mealsOf target r, call, notices := [.feedAnswered canteen day r.status] }

/-- the feed as a source of meals -/
def source (session : Session) (timeout : Whole) : Source where
  name := "OpenMensa"
  ask canteen day :=
    let fetched := fetch session timeout canteen day
    { meals := fetched.meals.mapError FeedError.message, calls := [fetched.call], notices := fetched.notices }

end MenuBoard.Feed
