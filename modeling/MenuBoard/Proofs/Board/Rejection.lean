import MenuBoard.Board.Lookup
import MenuBoard.MealCache.Run
import MenuBoard.Proofs.Except

/-!
What a lookup without an answer leaves behind.

A request that cannot be settled, or for whose canteens the feed has no number, is refused before any source is asked:
it leaves the cache alone and calls nobody, whatever the sources would have said (`lookup_refused`). If meals cannot be
had, the canteens before the one that failed have been asked in their order, and it has; nobody after it has
(`lookup_stopsAt`).
-/

namespace MenuBoard

open MenuBoard.Rule MenuBoard.Calendar MenuBoard.Phrase

namespace MealCache

/-- what the calls of a run bring, in their order -/
def replies (s : State) : List Event → List (Except SourceFailure (List Meal) × Round)
  | [] => []
  | e :: events => (step s e).2.toList ++ replies (step s e).1 events

/-- the calls that a run makes, in their order -/
def callsOf (s : State) (events : List Event) : List Call := (replies s events).flatMap fun reply => reply.2.calls

/-- what becomes of the requests of a run, in their order -/
def outcomesOf (s : State) (events : List Event) : List (Except SourceFailure (List Meal)) :=
  (replies s events).map Prod.fst

end MealCache

namespace Board

open MealCache (callsOf outcomesOf)

/-- the cache in the surroundings of a request -/
def Surroundings.cacheState (around : Surroundings) (settings : Settings) (cache : MealCache) : MealCache.State where
  sources := around.sources
  lifetime := settings.lifetime.toInt
  now := around.now
  cache := cache

/-- the meals of canteens asked for, one after the other -/
def gets (day : Day) (targets : List (Canteen × Whole)) : List MealCache.Event :=
  targets.map fun target => .get target.2 day

/-- Serving stopped at a target: it did what asking for the targets up to this one does, all of which but the last gave
meals. -/
structure StopsAt {α : Type} (s : MealCache.State) (day : Day) (before : List (Canteen × Whole))
    (target : Canteen × Whole) (failure : SourceFailure) (served : Served α) : Prop where
  cache : served.cache = (MealCache.run s (gets day (before ++ [target]))).cache
  calls : served.calls = callsOf s (gets day (before ++ [target]))
  outcomes : ∃ meals : List (List Meal), meals.length = before.length ∧
    outcomesOf s (gets day (before ++ [target])) = meals.map Except.ok ++ [.error failure]

/-- nobody was called, and the cache is as it was -/
structure LeavesAlone {α : Type} (cache : MealCache) (served : Served α) : Prop where
  cache : served.cache = cache
  calls : served.calls = []

/-! ## Serving -/

section Serving

variable {settings : Settings} {around : Surroundings} {plan : Plan} {cache : MealCache} {canteen : Canteen} {id : Whole}

theorem StopsAt.here {α : Type} {failure : SourceFailure} {served : Served α}
    (h : (MealCache.collect (plan.wish settings around id) around.sources cache).1 = .error failure)
    (hcache : served.cache = (MealCache.collect (plan.wish settings around id) around.sources cache).2.cache)
    (hcalls : served.calls = (MealCache.collect (plan.wish settings around id) around.sources cache).2.calls) :
    StopsAt (around.cacheState settings cache) plan.day [] (canteen, id) failure served := by
  constructor
  case cache => exact hcache
  case calls =>
    rw [hcalls]
    exact (List.append_nil _).symm
  case outcomes => exact ⟨[], rfl, congrArg (fun outcome => [outcome]) h⟩

theorem StopsAt.later {α β : Type} {before : List (Canteen × Whole)} {target : Canteen × Whole} {failure : SourceFailure}
    {served : Served α} {rest : Served β} {meals : List Meal}
    (h : (MealCache.collect (plan.wish settings around id) around.sources cache).1 = .ok meals)
    (hrest : StopsAt (around.cacheState settings
      (MealCache.collect (plan.wish settings around id) around.sources cache).2.cache) plan.day before target failure rest)
    (hcache : served.cache = rest.cache)
    (hcalls : served.calls =
      (MealCache.collect (plan.wish settings around id) around.sources cache).2.calls ++ rest.calls) :
    StopsAt (around.cacheState settings cache) plan.day ((canteen, id) :: before) target failure served := by
  constructor
  case cache => exact hcache.trans hrest.cache
  case calls =>
    rw [hcalls, hrest.calls]
    rfl
  case outcomes =>
    obtain ⟨more, hlength, houtcomes⟩ := hrest.outcomes
    refine ⟨meals :: more, congrArg (· + 1) hlength, ?_⟩
    rw [List.map_cons, ← h]
    exact congrArg (_ :: ·) houtcomes

/-- Serving fails only for want of meals, and then stops there. -/
theorem serve_stopsAt {targets : List (Canteen × Whole)} {error : RequestError}
    (h : (serve settings around plan targets cache).outcome = .error error) :
    ∃ before target after failure, error = .noMeals failure ∧ targets = before ++ target :: after ∧
      StopsAt (around.cacheState settings cache) plan.day before target failure
        (serve settings around plan targets cache) := by
  induction targets generalizing cache with
  | nil => cases h
  | cons target rest ih =>
    obtain ⟨canteen, id⟩ := target
    cases hcollect : (MealCache.collect (plan.wish settings around id) around.sources cache).1 with
    | error failure =>
      rw [serve_cons_of_error hcollect] at h ⊢
      obtain rfl := Except.error.inj h
      exact ⟨[], (canteen, id), rest, failure, rfl, rfl, .here hcollect rfl rfl⟩
    | ok meals =>
      rw [serve_cons_of_ok hcollect] at h ⊢
      obtain ⟨before, target, after, failure, herror, hsplit, hstops⟩ := ih (map_eq_error.1 h)
      exact ⟨(canteen, id) :: before, target, after, failure, herror, congrArg ((canteen, id) :: ·) hsplit,
        .later hcollect hstops rfl rfl⟩

end Serving

/-! ## Lookups -/

section Lookup

variable {board : Board} {around : Surroundings} {today : Day} {request : MenuRequest} {cache : MealCache}

theorem canteensOf_eq_error {settings : Settings} {query : Query} {error : RequestError}
    (h : canteensOf settings query = .error error) : error = .noCanteen := by
  unfold canteensOf at h
  split at h
  · exact (Except.error.inj h).symm
  · cases h

theorem dayOf_eq_error {query : Query} {error : RequestError} (h : dayOf today query = .error error) :
    error = .outOfRange := by
  unfold dayOf at h
  split at h
  · cases h
  · split at h
    · cases h
    · exact (Except.error.inj h).symm

theorem plan_eq_error {error : RequestError} (h : board.plan today request = .error error) :
    (∃ reason, error = .rejected request.phrase reason) ∨ error = .noCanteen ∨ error = .outOfRange ∨
      ∃ pattern, error = .pattern pattern := by
  unfold plan at h
  rcases bind_eq_error.1 h with hread | ⟨⟨query, notices⟩, -, h⟩
  · obtain ⟨reason, -, rfl⟩ := mapError_eq_error.1 hread
    exact .inl ⟨reason, rfl⟩
  rcases bind_eq_error.1 h with hcanteens | ⟨canteens, -, h⟩
  · exact .inr (.inl (canteensOf_eq_error hcanteens))
  rcases bind_eq_error.1 h with hday | ⟨day, -, h⟩
  · exact .inr (.inr (.inl (dayOf_eq_error hday)))
  rcases bind_eq_error.1 h with hrules | ⟨classifier, -, h⟩
  · obtain ⟨pattern, -, rfl⟩ := mapError_eq_error.1 hrules
    exact .inr (.inr (.inr ⟨pattern, rfl⟩))
  · cases h

theorem lookup_of_plan {plan : Plan} (h : board.plan today request = .ok plan) (around : Surroundings) (cache : MealCache) :
    board.lookup around today request cache =
      { servePlan board.settings around plan cache with
        notices := phraseNotices request.phrase ++ (servePlan board.settings around plan cache).notices } := by
  simp [lookup, h]

theorem servePlan_eq_error {settings : Settings} {plan : Plan} {error : RequestError}
    (h : (servePlan settings around plan cache).outcome = .error error) :
    (available settings plan.canteens = [] ∧ error = .unavailable (unavailable settings plan.canteens)) ∨
      ∃ before target after failure, error = .noMeals failure ∧
        available settings plan.canteens = before ++ target :: after ∧
        StopsAt (around.cacheState settings cache) plan.day before target failure
          (servePlan settings around plan cache) := by
  unfold servePlan at h ⊢
  simp only at h ⊢
  split at h
  · next hnone => exact .inl ⟨List.isEmpty_iff.1 hnone, (Except.error.inj h).symm⟩
  · next hsome =>
    rw [if_neg hsome]
    obtain ⟨before, target, after, failure, herror, hsplit, hstops⟩ := serve_stopsAt (map_eq_error.1 h)
    exact .inr ⟨before, target, after, failure, herror, hsplit, hstops.cache, hstops.calls, hstops.outcomes⟩

theorem lookup_refused {error : RequestError} (h : (board.lookup around today request cache).outcome = .error error)
    (hrefused : ∀ failure, error ≠ .noMeals failure) (around' : Surroundings) (cache' : MealCache) :
    LeavesAlone cache' (board.lookup around' today request cache') ∧
      (board.lookup around' today request cache').outcome = .error error := by
  cases hplan : board.plan today request with
  | error cause =>
    have houtcome : (board.lookup around' today request cache').outcome = .error error := by
      rw [← h]
      simp only [lookup, hplan]
    have hleft : (board.lookup around' today request cache').cache = cache' ∧
        (board.lookup around' today request cache').calls = [] := lookup_of_plan_error hplan
    exact ⟨⟨hleft.1, hleft.2⟩, houtcome⟩
  | ok plan =>
    rw [lookup_of_plan hplan] at h ⊢
    rcases servePlan_eq_error h with ⟨hnone, rfl⟩ | ⟨-, -, -, failure, herror, -, -⟩
    · have hserved : servePlan board.settings around' plan cache' =
          { outcome := .error (.unavailable (unavailable board.settings plan.canteens)), cache := cache'
            notices := [.lookingUp plan.canteens.length plan.day] } := by
        simp [servePlan, hnone]
      rw [hserved]
      exact ⟨⟨rfl, rfl⟩, rfl⟩
    · exact absurd herror (hrefused failure)

/-- A request fails for want of meals at one of its canteens: those before it have been asked, in their order, and it has;
nobody after it has. -/
theorem lookup_stopsAt {failure : SourceFailure}
    (h : (board.lookup around today request cache).outcome = .error (.noMeals failure)) :
    ∃ plan before target after, board.plan today request = .ok plan ∧
      available board.settings plan.canteens = before ++ target :: after ∧
      StopsAt (around.cacheState board.settings cache) plan.day before target failure
        (board.lookup around today request cache) := by
  cases hplan : board.plan today request with
  | error cause =>
    simp only [lookup, hplan] at h
    obtain rfl := Except.error.inj h
    rcases plan_eq_error hplan with ⟨_, h⟩ | h | h | ⟨_, h⟩ <;> cases h
  | ok plan =>
    rw [lookup_of_plan hplan] at h ⊢
    rcases servePlan_eq_error h with ⟨-, herror⟩ | ⟨before, target, after, failure', herror, hsplit, hstops⟩
    · cases herror
    · obtain rfl := RequestError.noMeals.inj herror
      exact ⟨plan, before, target, after, rfl, hsplit, hstops.cache, hstops.calls, hstops.outcomes⟩

end Lookup

end Board

end MenuBoard
