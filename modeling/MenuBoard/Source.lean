import MenuBoard.Meal
import MenuBoard.Notice

/-!
Sources of meals. A source is asked for the meals of a canteen on a day. It gives them or says why it cannot, and it reports
the calls it made.
-/

namespace MenuBoard

open MenuBoard.Calendar

/-- a question put to another machine: the address, and how many seconds the answer may take -/
structure Call where
  address : String
  timeout : Whole
  deriving DecidableEq, Repr

/-- meals, or the wording of what went wrong -/
structure SourceAnswer where
  meals : Except String (List Meal)
  calls : List Call := []
  notices : List Notice := []

/-- a source as it behaves at the moment -/
structure Source where
  name : String
  ask : (canteen : Whole) → (day : Day) → SourceAnswer

end MenuBoard
