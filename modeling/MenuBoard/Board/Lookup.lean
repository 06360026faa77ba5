import MenuBoard.Board.Basic

/-!
Looking up menus. A phrase says which canteens, which day and which diet; what it leaves open comes from the settings and
the reference day. Nothing is fetched until phrase, canteens, day and rules are settled. Canteens that the feed does not know
are skipped, unless there are no others.
-/

namespace MenuBoard.Board

open MenuBoard.Rule MenuBoard.Calendar

/-- the number the feed has for a canteen, as configured or known -/
def feedId? (settings : Settings) (canteen : Int) : Option Whole :=
  match settings.feedIds.find? (·.1 == canteen) with
  | some (_, target) => some target
  | none => (knownFeedIds.find? (·.1 == canteen)).map fun (_, target) => .int target

/-- The number to ask the feed for. A canteen beyond the table is known by the feed's own number. -/
def target? (settings : Settings) (canteen : Canteen) : Option Whole :=
  match canteen.id with
  | .all => none
  | .number n =>
    match feedId? settings n with
    | some target => some target
    | none => if (Canteen.find? canteen.id).isSome then none else some (.int n)

/-- the configured canteen, with a name made of its number if the table does not have it -/
def defaultCanteen : DefaultCanteen → Canteen
  | .all => Canteen.everywhere
  | .number n => (Canteen.find? (.number n.toInt)).getD ⟨.number n.toInt, s!"Canteen {n.text}"⟩

/-- the canteens that a query asks for -/
def canteensOf (settings : Settings) (query : Query) : Except RequestError (List Canteen) :=
  match query.location.or (settings.defaultCanteen.map defaultCanteen) with
  | none => .error .noCanteen
  | some canteen => .ok (if canteen.id = .all then Canteen.known else [canteen])

/-- the day that a query asks for -/
def dayOf (today : Day) (query : Query) : Except RequestError Day :=
  match query.date with
  | none => .ok today
  | some choice =>
    match choice.resolve? today with
    | some day => .ok day
    | none => .error .outOfRange

/-- the meals of a canteen on a day -/
structure Menu where
  canteen : Canteen
  day : Day
  meals : List ClassifiedMeal
  deriving Repr

/-- what a phrase was read as, and the menus it asks for -/
structure MenuAnswer where
  query : Query
  menus : List Menu
  deriving Repr

/-- a request that is settled: nothing but meals is missing -/
structure Plan where
  query : Query
  canteens : List Canteen
  day : Day
  classifier : Classifier
  includeHidden : Bool

/-- Settles a request: phrase, canteens, day, rules, in this order. -/
def plan (board : Board) (today : Day) (request : MenuRequest) : Except RequestError Plan := do
  let (query, _) ← readPhrase request.phrase
  let canteens ← canteensOf board.settings query
  let day ← dayOf today query
  let classifier ← (board.classifier query request.filter request.favorites).mapError .pattern
  return { query, canteens, day, classifier, includeHidden := request.includeHidden }

/-- the canteens that the feed knows, with the numbers it has for them -/
def available (settings : Settings) (canteens : List Canteen) : List (Canteen × Whole) :=
  canteens.filterMap fun canteen => (target? settings canteen).map (canteen, ·)

/-- the canteens that the feed does not know -/
def unavailable (settings : Settings) (canteens : List Canteen) : List Canteen :=
  canteens.filter fun canteen => (target? settings canteen).isNone

/-- classified meals, without the hidden ones if they are not asked for -/
def menuOf (plan : Plan) (canteen : Canteen) (meals : List Meal) : Menu :=
  let classified := plan.classifier.classifyAll meals
  let shown := if plan.includeHidden then classified else classified.filter (·.classification.visible)
  { canteen, day := plan.day, meals := shown }

/-- What serving brings, and what it leaves behind. -/
structure Served (α : Type) where
  outcome : Except RequestError α
  cache : MealCache
  calls : List Call := []
  notices : List Notice := []

/-- the surroundings of a request: the sources as they behave now, and the time -/
structure Surroundings where
  sources : List Source
  now : Int

def Plan.wish (plan : Plan) (settings : Settings) (around : Surroundings) (target : Whole) : MealCache.Wish where
  canteen := target
  day := plan.day
  now := around.now
  lifetime := settings.lifetime.toInt

/-- the menus of canteens one after the other, up to the first whose meals cannot be had -/
def serve (settings : Settings) (around : Surroundings) (plan : Plan) :
    List (Canteen × Whole) → MealCache → Served (List Menu)
  | [], cache => { outcome := .ok [], cache }
  | (canteen, target) :: rest, cache =>
    let (meals, round) := MealCache.collect (plan.wish settings around target) around.sources cache
    match meals with
    | .error failure =>
      { outcome := .error (.noMeals failure), cache := round.cache, calls := round.calls, notices := round.notices }
    | .ok meals =>
      let later := serve settings around plan rest round.cache
      { outcome := later.outcome.map (menuOf plan canteen meals :: ·)
        cache := later.cache
        calls := round.calls ++ later.calls
        notices := round.notices ++ later.notices }

section Serve

variable {settings : Settings} {around : Surroundings} {plan : Plan} {canteen : Canteen} {target : Whole}
  {rest : List (Canteen × Whole)} {cache : MealCache}

theorem serve_cons_of_error {failure : SourceFailure}
    (h : (MealCache.collect (plan.wish settings around target) around.sources cache).1 = .error failure) :
    serve settings around plan ((canteen, target) :: rest) cache =
      let round := (MealCache.collect (plan.wish settings around target) around.sources cache).2
      { outcome := .error (.noMeals failure), cache := round.cache, calls := round.calls, notices := round.notices } := by
  simp [serve, h]

theorem serve_cons_of_ok {meals : List Meal}
    (h : (MealCache.collect (plan.wish settings around target) around.sources cache).1 = .ok meals) :
    serve settings around plan ((canteen, target) :: rest) cache =
      let round := (MealCache.collect (plan.wish settings around target) around.sources cache).2
      let later := serve settings around plan rest round.cache
      { outcome := later.outcome.map (menuOf plan canteen meals :: ·)
        cache := later.cache
        calls := round.calls ++ later.calls
        notices := round.notices ++ later.notices } := by
  simp [serve, h]

end Serve

/-- Answers a settled request. -/
def servePlan (settings : Settings) (around : Surroundings) (plan : Plan) (cache : MealCache) : Served MenuAnswer :=
  let opening := [Notice.lookingUp plan.canteens.length plan.day]
  let missing := unavailable settings plan.canteens
  let targets := available settings plan.canteens
  if targets.isEmpty then { outcome := .error (.unavailable missing), cache, notices := opening }
  else
    let skipped := missing.map fun canteen => Notice.noFeedId canteen.name
    let served := serve settings around plan targets cache
    let closing := match served.outcome with
      | .ok _ => [Notice.lookupDone]
      | .error _ => []
    { outcome := served.outcome.map fun menus => { query := plan.query, menus }
      cache := served.cache
      calls := served.calls
      notices := opening ++ skipped ++ served.notices ++ closing }

/-- the notices of a phrase, which are given whatever becomes of the request -/
def phraseNotices (phrase : String) : List Notice :=
  match readPhrase phrase with
  | .ok (_, notices) => notices
  | .error _ => []

/-- Answers a request for menus. -/
def lookup (board : Board) (around : Surroundings) (today : Day) (request : MenuRequest) (cache : MealCache) :
    Served MenuAnswer :=
  match board.plan today request with
  | .error error => { outcome := .error error, cache, notices := phraseNotices request.phrase }
  | .ok plan =>
    let served := servePlan board.settings around plan cache
    { served with notices := phraseNotices request.phrase ++ served.notices }

/-- a request that cannot be settled leaves the cache alone and calls nobody -/
theorem lookup_of_plan_error {board : Board} {around : Surroundings} {today : Day} {request : MenuRequest}
    {cache : MealCache} {error : RequestError} (h : board.plan today request = .error error) :
    (board.lookup around today request cache).cache = cache ∧ (board.lookup around today request cache).calls = [] := by
  simp [lookup, h]

end MenuBoard.Board
