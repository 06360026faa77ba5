import MenuBoard.Rule.Lists

/-!
Classification of meals. A meal is visible if it passes the filter and every further restriction. It is highlighted if the
favorites allow it by a pattern: favorites without an allow pattern highlight nothing. The two do not depend on each other.
-/

namespace MenuBoard

open MenuBoard.Rule

structure Classification where
  visible : Bool
  highlighted : Bool
  deriving DecidableEq, Repr

structure ClassifiedMeal where
  meal : Meal
  classification : Classification
  deriving Repr

/-- the rules by which meals are classified -/
structure Classifier where
  filter : RuleSet
  favorites : RuleSet
  restrictions : List RuleSet := []

namespace Classifier

def classify (c : Classifier) (meal : Meal) : Classification where
  visible := c.filter.evaluate meal && c.restrictions.all (·.evaluate meal)
  highlighted := c.favorites.hasAllow && c.favorites.evaluate meal

/-- meals in the order given, each with its classification -/
def classifyAll (c : Classifier) (meals : List Meal) : List ClassifiedMeal :=
  meals.map fun meal => ⟨meal, c.classify meal⟩

end Classifier

end MenuBoard
