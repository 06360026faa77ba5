import MenuBoard.Tag.Basic

/-!
Meals with their prices. The tags of a meal form a set, kept in the order of their numbers.
-/

namespace MenuBoard

/-- what a meal costs, for each kind of guest; a price may be missing -/
structure Prices where
  students : Option Float := none
  employees : Option Float := none
  pupils : Option Float := none
  others : Option Float := none
  deriving Repr

/-- a meal; `tags` are in the order of their numbers, each once -/
structure Meal where
  id : Int
  name : String
  category : String := ""
  tags : List Tag := []
  notes : List String := []
  prices : Prices := {}
  deriving Repr

end MenuBoard
