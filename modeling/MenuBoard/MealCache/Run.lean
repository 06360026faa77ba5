import MenuBoard.MealCache.Basic

/-!
Runs of a cache: time passes, sources change, and meals are asked for, in any order and any number.
-/

namespace MenuBoard.MealCache

open MenuBoard.Calendar

/-- a cache in use -/
structure State where
  sources : List Source
  lifetime : Int
  now : Int := 0
  cache : MealCache := []

inductive Event where
  | advance (seconds : Int)
  | behave (index : Nat) (ask : Whole → Day → SourceAnswer)
  | get (canteen : Whole) (day : Day)

/-- the wish for a canteen's meals as things stand -/
def State.wish (s : State) (canteen : Whole) (day : Day) : Wish where
  canteen := canteen
  day := day
  now := s.now
  lifetime := s.lifetime

/-- what an event brings, if it asks for meals -/
abbrev Reply := Option (Except SourceFailure (List Meal) × Round)

def step (s : State) : Event → State × Reply
  | .advance seconds => ({ s with now := s.now + seconds }, none)
  | .behave index ask => ({ s with sources := s.sources.modify index fun source => { source with ask } }, none)
  | .get canteen day =>
    let collected := collect (s.wish canteen day) s.sources s.cache
    ({ s with cache := collected.2.cache }, some collected)

/-- the state after events -/
def run (s : State) (events : List Event) : State := events.foldl (fun s e => (step s e).1) s

end MenuBoard.MealCache
