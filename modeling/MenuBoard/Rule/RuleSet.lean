import MenuBoard.Rule.Pattern

/-!
Rules over meals. A meal passes if some allow pattern matches it, or there is none, and no deny pattern does.
`evaluate_joined` says how a joined rule set decides.
-/

namespace MenuBoard.Rule

/-- patterns that let a meal pass and patterns that stop it -/
structure RuleSet where
  allow : List Pattern := []
  deny : List Pattern := []

namespace RuleSet

def empty : RuleSet := {}

def hasAllow (r : RuleSet) : Bool := !r.allow.isEmpty

def isEmpty (r : RuleSet) : Bool := r.allow.isEmpty && r.deny.isEmpty

/-- a meal passes -/
def evaluate (r : RuleSet) (meal : Meal) : Bool :=
  (r.allow.isEmpty || r.allow.any (·.holds meal)) && !r.deny.any (·.holds meal)

/-- both sets' patterns -/
def joined (r s : RuleSet) : RuleSet := ⟨r.allow ++ s.allow, r.deny ++ s.deny⟩

/-- A meal passes joined rules if one of the sets allows it, or neither has an allow pattern, and both let it go. -/
theorem evaluate_joined (r s : RuleSet) (meal : Meal) :
    (r.joined s).evaluate meal =
      (((r.allow.isEmpty && s.allow.isEmpty) || (r.allow.any (·.holds meal) || s.allow.any (·.holds meal))) &&
        (!r.deny.any (·.holds meal) && !s.deny.any (·.holds meal))) := by
  cases hr : r.allow <;> simp [evaluate, joined, hr, Bool.or_assoc]

end RuleSet

end MenuBoard.Rule
