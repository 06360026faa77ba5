import MenuBoard.Rule.RuleSet

/-!
Rules as written: six lists of texts, which become a rule set if every text is usable. A request may bring lists of its own,
which extend the configured ones or replace them.
-/

namespace MenuBoard.Rule

/-- the texts of a rule set -/
structure RuleLists where
  allowTags : List String := []
  denyTags : List String := []
  allowCategories : List String := []
  denyCategories : List String := []
  allowNames : List String := []
  denyNames : List String := []
  deriving DecidableEq, Repr

/-- lists that a request brings -/
structure Overrides where
  lists : RuleLists := {}
  overwrite : Bool := false
  deriving DecidableEq, Repr

namespace RuleLists

/-- both lists of each kind, one after the other -/
def joined (a b : RuleLists) : RuleLists :=
  { allowTags := a.allowTags ++ b.allowTags
    denyTags := a.denyTags ++ b.denyTags
    allowCategories := a.allowCategories ++ b.allowCategories
    denyCategories := a.denyCategories ++ b.denyCategories
    allowNames := a.allowNames ++ b.allowNames
    denyNames := a.denyNames ++ b.denyNames }

/-- the lists with a request's own -/
def withOverrides (lists : RuleLists) : Option Overrides → RuleLists
  | none => lists
  | some overrides => if overrides.overwrite then overrides.lists else lists.joined overrides.lists

/-- The rule set that the lists describe, or the first text that is unusable: tags before categories before names, and all
allow lists before the deny lists. -/
def toRuleSet (lists : RuleLists) (compile : Compiler := Regex.compile) : Except PatternError RuleSet := do
  let allowTags ← lists.allowTags.mapM Pattern.ofTag
  let allowCategories ← lists.allowCategories.mapM (Pattern.ofCategory · compile)
  let allowNames ← lists.allowNames.mapM (Pattern.ofName · compile)
  let denyTags ← lists.denyTags.mapM Pattern.ofTag
  let denyCategories ← lists.denyCategories.mapM (Pattern.ofCategory · compile)
  let denyNames ← lists.denyNames.mapM (Pattern.ofName · compile)
  return ⟨allowTags ++ allowCategories ++ allowNames, denyTags ++ denyCategories ++ denyNames⟩

end RuleLists

end MenuBoard.Rule
