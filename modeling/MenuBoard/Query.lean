import MenuBoard.Notice
import MenuBoard.Phrase.Clause
import MenuBoard.Rule.RuleSet

/-!
Queries: what a phrase asks for. The first canteen and the first day of a phrase count, and a notice is given of every
further one; ingredients to leave out add up; the last diet counts.
-/

namespace MenuBoard

open MenuBoard.Phrase MenuBoard.Calendar MenuBoard.Rule

/-- what a phrase asks for; what it does not mention is absent -/
structure Query where
  location : Option Canteen := none
  date : Option DateChoice := none
  excludes : Excludes := {}
  restriction : Option Restriction := none
  deriving DecidableEq, Repr

namespace Query

def isEmpty (q : Query) : Bool :=
  q.location.isNone && q.date.isNone && q.excludes == {} && q.restriction.isNone

/-- a query with one more clause, and the notices of what was ignored -/
def add (acc : Query × List Notice) (clause : Clause) : Query × List Notice :=
  let (q, notices) := acc
  match clause.content with
  | .location canteen =>
    match q.location with
    | none => ({ q with location := some canteen }, notices)
    | some _ => (q, notices ++ [.repeatedLocation canteen.name clause.start])
  | .date choice =>
    match q.date with
    | none => ({ q with date := some choice }, notices)
    | some _ => (q, notices ++ [.repeatedDate clause.start])
  | .exclude ingredient => ({ q with excludes := q.excludes.insert ingredient }, notices)
  | .restriction diet => ({ q with restriction := some diet }, notices)

/-- the query of clauses in the order of a phrase -/
def ofClauses (clauses : List Clause) : Query × List Notice := clauses.foldl add ({}, [])

/-- Reads a phrase. -/
def parse (phrase : List Char) : Except Rejection (Query × List Notice) := (tokenize phrase).map ofClauses

/-- the tags that no meal may have for an ingredient to be left out -/
def excludedTags : Exclude → List Tag
  | .pig => [.pig]
  | .fish => [.fish]
  | .alcohol => [.alcohol]

/-- the tags of which a meal must have one to suit a diet -/
def requiredTags : Restriction → List Tag
  | .vegan => [.vegan]
  | .vegetarian => [.vegetarian, .vegan]
  | .flexible => []

/-- the rules that a query puts on meals -/
def rules (q : Query) : RuleSet where
  allow := ((q.restriction.map requiredTags).getD []).map .tag
  deny := (q.excludes.toList.flatMap excludedTags).map .tag

end Query

end MenuBoard
