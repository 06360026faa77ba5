import MenuBoard.Source

/-!
Meals kept for a while. The cache holds, for each source, canteen and day, what the source last gave and when. `collect` asks
every source whose meals are not kept, or are kept for too long, and puts together what all sources have: a source that fails
gives nothing, and its entry stays as it is.
-/

namespace MenuBoard

open MenuBoard.Calendar

/-- what a source gave for a canteen and a day, and when -/
structure CacheEntry where
  source : String
  canteen : Whole
  day : Day
  time : Int
  meals : List Meal
  deriving Repr

/-- entries in the order in which they were first made -/
abbrev MealCache := List CacheEntry

/-- an entry is about this source, canteen and day; canteens are the same if they count the same -/
def CacheEntry.isFor (e : CacheEntry) (source : String) (canteen : Whole) (day : Day) : Bool :=
  e.source == source && e.canteen.toInt == canteen.toInt && e.day == day

/-- younger than its lifetime -/
def CacheEntry.isFresh (e : CacheEntry) (lifetime now : Int) : Bool := now - e.time < lifetime

namespace MealCache

def find? (cache : MealCache) (source : String) (canteen : Whole) (day : Day) : Option CacheEntry :=
  List.find? (·.isFor source canteen day) cache

/-- A new entry takes the place of an older one for the same source, canteen and day. -/
def insert : MealCache → CacheEntry → MealCache
  | [], e => [e]
  | old :: rest, e =>
    if old.isFor e.source e.canteen e.day then { old with time := e.time, meals := e.meals } :: rest
    else old :: insert rest e

/-- how a source took part in a round: its meals were kept, it gave them, or it failed -/
inductive Part where
  | kept (meals : List Meal)
  | given (meals : List Meal)
  | failed (reason : String)
  deriving Repr

def Part.meals : Part → List Meal
  | .kept meals | .given meals => meals
  | .failed _ => []

/-- the source was asked -/
def Part.wasAsked : Part → Bool
  | .kept _ => false
  | .given _ | .failed _ => true

/-- what is asked for, and how long meals are kept -/
structure Wish where
  canteen : Whole
  day : Day
  now : Int
  lifetime : Int
  deriving DecidableEq, Repr

/-- one source's part, and the cache after it -/
structure Visit where
  part : Part
  cache : MealCache
  calls : List Call := []
  notices : List Notice := []

/-- the meals of a source, out of the cache if they are fresh -/
def visit (wish : Wish) (source : Source) (cache : MealCache) : Visit :=
  match (cache.find? source.name wish.canteen wish.day).filter (·.isFresh wish.lifetime wish.now) with
  | some e => { part := .kept e.meals, cache }
  | none =>
    let answer := source.ask wish.canteen wish.day
    match answer.meals with
    | .ok meals =>
      let entry := { source := source.name, canteen := wish.canteen, day := wish.day, time := wish.now, meals }
      { part := .given meals, cache := cache.insert entry, calls := answer.calls, notices := answer.notices }
    | .error reason =>
      { part := .failed reason
        cache
        calls := answer.calls
        notices := answer.notices ++ [.sourceFailed source.name reason] }

/-- the parts of several sources, in their order -/
structure Round where
  parts : List Part
  cache : MealCache
  calls : List Call := []
  notices : List Notice := []

/-- visits the sources one after the other, each with the cache that the one before it left -/
def round (wish : Wish) : List Source → MealCache → Round
  | [], cache => { parts := [], cache }
  | source :: rest, cache =>
    let first := visit wish source cache
    let later := round wish rest first.cache
    { parts := first.part :: later.parts
      cache := later.cache
      calls := first.calls ++ later.calls
      notices := first.notices ++ later.notices }

end MealCache

/-- no source gave a meal, and at least one failed -/
structure SourceFailure where
  sources : List String
  errors : List String
  deriving DecidableEq, Repr

def SourceFailure.message (_ : SourceFailure) : String := "Failed to fetch meals from sources"

namespace MealCache

/-- the failures of a round, each under the name of its source -/
def failures (sources : List Source) (parts : List Part) : List String :=
  (sources.zip parts).filterMap fun (source, part) =>
    match part with
    | .failed reason => some s!"{source.name}: {reason}"
    | _ => none

/-- The meals of a round. Failures count only if there is no meal at all. -/
def outcome (sources : List Source) (parts : List Part) : Except SourceFailure (List Meal) :=
  let meals := parts.flatMap Part.meals
  let errors := failures sources parts
  if meals.isEmpty && !errors.isEmpty then .error ⟨sources.map Source.name, errors⟩ else .ok meals

/-- the meals of all sources, and the round that got them -/
def collect (wish : Wish) (sources : List Source) (cache : MealCache) : Except SourceFailure (List Meal) × Round :=
  let r := round wish sources cache
  (outcome sources r.parts, r)

theorem round_length (wish : Wish) (sources : List Source) (cache : MealCache) :
    (round wish sources cache).parts.length = sources.length := by
  induction sources generalizing cache with
  | nil => rfl
  | cons source rest ih => simp [round, ih]

end MealCache

end MenuBoard
