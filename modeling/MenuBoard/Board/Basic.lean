import MenuBoard.Classifier
import MenuBoard.Form.Request
import MenuBoard.MealCache.Basic
import MenuBoard.Query
import MenuBoard.Settings.Basic

/-!
The menu board: settings whose rules are ready for use. For one request it makes a classifier out of the configured rules,
the rules that the request brings, and the diet that its phrase asks for.
-/

namespace MenuBoard

open MenuBoard.Rule MenuBoard.Phrase

structure Board where
  settings : Settings
  filter : RuleSet
  favorites : RuleSet
  compile : Compiler := Regex.compile

namespace Board

/-- A board with these settings, unless a configured pattern is unusable. -/
def ofSettings (settings : Settings) (compile : Compiler := Regex.compile) : Except PatternError Board := do
  let filter ← settings.filter.toRuleSet compile
  let favorites ← settings.favorites.toRuleSet compile
  return { settings, filter, favorites, compile }

/-- configured rules, or the rules made of them by a request -/
def effectiveRules (compile : Compiler) (configured : RuleSet) (lists : RuleLists) :
    Option Overrides → Except PatternError RuleSet
  | none => .ok configured
  | some overrides => (lists.withOverrides overrides).toRuleSet compile

/-- The restriction that a query puts on a request; a query without diet puts none. -/
def restrictions : Option Query → List RuleSet
  | none => []
  | some query => if query.rules.isEmpty then [] else [query.rules]

/-- the classifier for one request -/
def classifier (board : Board) (query : Option Query) (filter favorites : Option Overrides) :
    Except PatternError Classifier := do
  let filter ← effectiveRules board.compile board.filter board.settings.filter filter
  let favorites ← effectiveRules board.compile board.favorites board.settings.favorites favorites
  return { filter, favorites, restrictions := restrictions query }

/-- Why a request is not answered. -/
inductive RequestError where
  | rejected (phrase : String) (reason : Rejection)
  | pattern (error : PatternError)
  | noCanteen
  | outOfRange
  | unavailable (canteens : List Canteen)
  | noMeals (failure : SourceFailure)
  deriving DecidableEq, Repr

def RequestError.message : RequestError → String
  | .rejected phrase reason => reason.message phrase.toList
  | .pattern error => error.message
  | .noCanteen => "No canteen given in the phrase and no default canteen id is configured"
  | .outOfRange => Calendar.ResolveError.outOfRange.message
  | .unavailable canteens =>
    let names := ", ".intercalate (canteens.map Canteen.name)
    s!"No OpenMensa id known for: {names}"
  | .noMeals failure => failure.message

/-- the query of a phrase, with its notices -/
def readPhrase (phrase : String) : Except RequestError (Query × List Notice) :=
  (Query.parse phrase.toList).mapError (.rejected phrase)

/-- the query of a phrase that may be missing; an empty phrase asks for nothing -/
def readOptionalPhrase : Option String → Except RequestError (Option Query)
  | none => .ok none
  | some phrase => if phrase.isEmpty then .ok none else (readPhrase phrase).map fun (query, _) => some query

/-- Classifies given meals, in their order. -/
def classify (board : Board) (request : ClassifyRequest) : Except RequestError (List ClassifiedMeal) := do
  let query ← readOptionalPhrase request.phrase
  let classifier ← (board.classifier query request.filter request.favorites).mapError .pattern
  return classifier.classifyAll request.meals

end Board

end MenuBoard
