import MenuBoard.Proofs.Board.Target

/-!
The cache and a source that does not change.

What is kept of such a source is what it would give again (`Faithful`). An empty cache is so, and every lookup leaves it
so, whatever it keeps, drops or fetches anew (`lookup_faithful`). On a faithful cache a lookup comes to what it would come
to without one (`uncached`), so how long answers are kept shows in no answer (`outcomes_any_lifetime`).

As with all canteens at once, no two feed numbers may count the same without being spelled the same: what was fetched
under one spelling would be taken for the other (`outcomes_depend_on_lifetime`).
-/

namespace MenuBoard

open MenuBoard.Calendar

/-! ## A source that does not change -/

namespace MealCache

/-- what a single source comes to when it is asked -/
def answerOf (source : Source) (canteen : Whole) (day : Day) : Except SourceFailure (List Meal) :=
  (source.ask canteen day).meals.mapError fun reason => ⟨[source.name], [s!"{source.name}: {reason}"]⟩

/-- What the cache holds under the numbers of these canteens is what the source would give. -/
def Faithful (source : Source) (targets : List (Canteen × Whole)) (cache : MealCache) : Prop :=
  ∀ target ∈ targets, ∀ day time meals, held cache source.name target.2 day = some (time, meals) →
    (source.ask target.2 day).meals = .ok meals

section Faithful

variable {source : Source} {targets : List (Canteen × Whole)} {target : Canteen × Whole} {wish : Wish} {cache : MealCache}

theorem faithful_nil (source : Source) (targets : List (Canteen × Whole)) : Faithful source targets [] :=
  fun _ _ _ _ _ h => by cases h

theorem outcome_askedPart (wish : Wish) (source : Source) :
    outcome [source] [askedPart wish source] = answerOf source wish.canteen wish.day := by
  unfold askedPart answerOf
  cases (source.ask wish.canteen wish.day).meals with
  | ok meals => simp [outcome, failures, Part.meals, Except.mapError]
  | error reason => simp [outcome, failures, Part.meals, Except.mapError]

theorem askedPart_eq_given {meals : List Meal} :
    askedPart wish source = .given meals ↔ (source.ask wish.canteen wish.day).meals = .ok meals := by
  unfold askedPart
  cases (source.ask wish.canteen wish.day).meals <;> simp

theorem Faithful.collect_eq (h : Faithful source targets cache) (htarget : target ∈ targets)
    (hwish : wish.canteen = target.2) :
    (collect wish [source] cache).1 = answerOf source target.2 wish.day := by
  rw [collect_singleton, ← hwish, ← outcome_askedPart]
  cases hheld : held cache source.name wish.canteen wish.day with
  | none => rfl
  | some kept =>
    obtain ⟨time, meals⟩ := kept
    rw [hwish] at hheld
    have hgiven := h target htarget wish.day time meals hheld
    rw [← hwish] at hgiven
    unfold partOf
    split
    · rfl
    · rw [askedPart_eq_given.2 hgiven]
      rfl

/-- What is stored anew is what the source gives, and is found under one spelling only. -/
theorem Faithful.collect (h : Faithful source targets cache) (halike : Board.SpelledAlike targets)
    (htarget : target ∈ targets) (hwish : wish.canteen = target.2) :
    Faithful source targets (collect wish [source] cache).2.cache := by
  have hcache : (MealCache.collect wish [source] cache).2.cache = (visit wish source cache).cache := rfl
  intro other hother day time meals hheld
  rw [hcache, visit_cache] at hheld
  cases hpart : (visit wish source cache).part with
  | kept kept =>
    rw [hpart] at hheld
    exact h other hother day time meals hheld
  | failed reason =>
    rw [hpart] at hheld
    exact h other hother day time meals hheld
  | given given =>
    rw [hpart, held_insert] at hheld
    split at hheld
    · next hfor =>
      obtain ⟨-, hcount, rfl⟩ := isFor_iff.1 hfor
      obtain ⟨-, rfl⟩ := Prod.mk.inj (Option.some.inj hheld)
      have hspelling : wish.canteen = other.2 := hwish.trans (halike target htarget other hother (hwish ▸ hcount))
      rw [visit_part] at hpart
      rw [← hspelling]
      exact askedPart_eq_given.1 (askedPart_of_given hpart)
    · exact h other hother day time meals hheld

end Faithful

end MealCache

namespace Board

open MealCache (Faithful answerOf)

/-! ## Lookups without a cache -/

/-- the menu of a target, straight from the source -/
def menuFrom (source : Source) (plan : Plan) (target : Canteen × Whole) : Except RequestError Menu :=
  ((answerOf source target.2 plan.day).mapError .noMeals).map (menuOf plan target.1)

/-- the answer to a settled request, straight from the source -/
def answerFrom (settings : Settings) (source : Source) (plan : Plan) : Except RequestError MenuAnswer :=
  let targets := available settings plan.canteens
  if targets.isEmpty then .error (.unavailable (unavailable settings plan.canteens))
  else (targets.mapM (menuFrom source plan)).map fun menus => { query := plan.query, menus }

/-- what a lookup comes to, straight from the source -/
def uncached (board : Board) (source : Source) (today : Day) (request : MenuRequest) : Except RequestError MenuAnswer :=
  board.plan today request >>= answerFrom board.settings source

/-- No two numbers that requests can come to count the same without being spelled the same. -/
def ClearNumbers (settings : Settings) : Prop := SpelledAlike (available settings (askable settings))

instance (settings : Settings) : Decidable (ClearNumbers settings) :=
  inferInstanceAs (Decidable (SpelledAlike (available settings (askable settings))))

section Lookup

variable {board : Board} {settings : Settings} {source : Source} {now : Int} {plan : Plan} {cache : MealCache}
  {targets all : List (Canteen × Whole)}

theorem serve_faithful (h : Faithful source all cache) (halike : SpelledAlike all) (hsub : targets ⊆ all) :
    (serve settings ⟨[source], now⟩ plan targets cache).outcome = targets.mapM (menuFrom source plan) ∧
      Faithful source all (serve settings ⟨[source], now⟩ plan targets cache).cache := by
  induction targets generalizing cache with
  | nil => exact ⟨rfl, h⟩
  | cons target rest ih =>
    obtain ⟨canteen, id⟩ := target
    obtain ⟨htarget, hrest⟩ := List.cons_subset.1 hsub
    have hanswer : (MealCache.collect (plan.wish settings ⟨[source], now⟩ id) [source] cache).1 =
        answerOf source id plan.day := h.collect_eq htarget rfl
    have hfaithful : Faithful source all
        (MealCache.collect (plan.wish settings ⟨[source], now⟩ id) [source] cache).2.cache := h.collect halike htarget rfl
    rw [List.mapM_cons]
    cases hmeals : answerOf source id plan.day with
    | error failure =>
      rw [serve_cons_of_error (hanswer.trans hmeals)]
      simp only [menuFrom, hmeals]
      exact ⟨rfl, hfaithful⟩
    | ok meals =>
      obtain ⟨houtcome, hcache⟩ := ih hfaithful hrest
      rw [serve_cons_of_ok (hanswer.trans hmeals)]
      refine ⟨?_, hcache⟩
      simp only
      rw [houtcome]
      simp only [menuFrom, hmeals]
      cases rest.mapM fun target =>
        ((answerOf source target.2 plan.day).mapError RequestError.noMeals).map (menuOf plan target.1) <;> rfl

theorem servePlan_faithful (h : Faithful source all cache) (halike : SpelledAlike all)
    (hsub : available settings plan.canteens ⊆ all) :
    (servePlan settings ⟨[source], now⟩ plan cache).outcome = answerFrom settings source plan ∧
      Faithful source all (servePlan settings ⟨[source], now⟩ plan cache).cache := by
  obtain ⟨houtcome, hcache⟩ := @serve_faithful settings source now plan cache _ _ h halike hsub
  unfold servePlan answerFrom
  simp only
  split
  · exact ⟨rfl, h⟩
  · exact ⟨congrArg (Except.map _) houtcome, hcache⟩

/-- **On a faithful cache a lookup comes to what it would come to without one, and leaves the cache faithful.** -/
theorem lookup_faithful (hclear : ClearNumbers board.settings)
    (h : Faithful source (available board.settings (askable board.settings)) cache) (today : Day) (request : MenuRequest) :
    (board.lookup ⟨[source], now⟩ today request cache).outcome = board.uncached source today request ∧
      Faithful source (available board.settings (askable board.settings))
        (board.lookup ⟨[source], now⟩ today request cache).cache := by
  unfold uncached
  cases hplan : board.plan today request with
  | error error =>
    simp only [lookup, hplan]
    exact ⟨rfl, h⟩
  | ok plan =>
    rw [lookup_of_plan hplan]
    exact servePlan_faithful h hclear (available_subset fun canteen => mem_askable_of_plan hplan)

end Lookup

/-! ## Runs -/

/-- a lookup, or time that passes before the next one -/
inductive Errand where
  | wait (seconds : Int)
  | lookup (today : Day) (request : MenuRequest)

/-- what the lookups among errands come to, one after the other, with a source that does not change -/
def outcomes (board : Board) (source : Source) : (now : Int) → MealCache → List Errand → List (Except RequestError MenuAnswer)
  | _, _, [] => []
  | now, cache, .wait seconds :: errands => outcomes board source (now + seconds) cache errands
  | now, cache, .lookup today request :: errands =>
    let served := board.lookup ⟨[source], now⟩ today request cache
    served.outcome :: outcomes board source now served.cache errands

/-- what an errand comes to without a cache, if it is a lookup -/
def Errand.uncached? (board : Board) (source : Source) : Errand → Option (Except RequestError MenuAnswer)
  | .wait _ => none
  | .lookup today request => some (board.uncached source today request)

/-- the board with answers of the feed kept for so many seconds -/
def keeping (board : Board) (lifetime : Whole) : Board := { board with settings := { board.settings with lifetime } }

theorem outcomes_eq_uncached {board : Board} {source : Source} (hclear : ClearNumbers board.settings) {cache : MealCache}
    (h : Faithful source (available board.settings (askable board.settings)) cache) (now : Int) (errands : List Errand) :
    board.outcomes source now cache errands = errands.filterMap (Errand.uncached? board source) := by
  induction errands generalizing now cache with
  | nil => rfl
  | cons errand errands ih =>
    cases errand with
    | wait seconds => exact ih h (now + seconds)
    | lookup today request =>
      obtain ⟨houtcome, hcache⟩ := @lookup_faithful board source now cache hclear h today request
      have hrest := ih hcache now
      simp only [outcomes, houtcome, hrest]
      rfl

/-- **How long answers are kept shows in no answer.** With a source that does not change, the lookups of a run come to the
same, one by one, whatever the lifetime of what is kept, unless numbers count the same that are not spelled the same. -/
theorem outcomes_any_lifetime {board : Board} (hclear : ClearNumbers board.settings) (source : Source) (start : Int)
    (errands : List Errand) (lifetime lifetime' : Whole) :
    (board.keeping lifetime).outcomes source start [] errands =
      (board.keeping lifetime').outcomes source start [] errands := by
  have heach : ∀ kept, (board.keeping kept).outcomes source start [] errands =
      errands.filterMap (Errand.uncached? board source) := fun kept =>
    @outcomes_eq_uncached (board.keeping kept) source hclear _ (MealCache.faithful_nil _ _) start errands
  exact (heach lifetime).trans (heach lifetime').symm

/-- the feed of a service, as it is -/
def Service.feed (s : Service) : Source := Feed.source s.table.session s.board.settings.timeout

/-- the numbers of the dishes that each lookup of a run brings, and nothing for one that fails -/
def dishesOf (outcomes : List (Except RequestError MenuAnswer)) : List (Option (List (List Int))) :=
  outcomes.map fun outcome => outcome.toOption.map MenuAnswer.dishes

/-- two lookups with a rejected one between them, and one more when all is stale -/
def longErrands : List Errand :=
  [.lookup sampleDay { phrase := "at all no fish" }, .lookup sampleDay { phrase := "moon" },
    .lookup sampleDay { phrase := "at park" }, .wait 7200, .lookup sampleDay { phrase := "at academica" }]

/-- What is kept for an hour and what is never kept come to the same dishes. -/
theorem sharedKitchen_any_lifetime :
    ClearNumbers sharedKitchen.board.settings ∧
      (sharedKitchen.board.keeping (.int 3600)).outcomes sharedKitchen.feed 0 [] longErrands =
        (sharedKitchen.board.keeping (.int (-1))).outcomes sharedKitchen.feed 0 [] longErrands ∧
      dishesOf ((sharedKitchen.board.keeping (.int (-1))).outcomes sharedKitchen.feed 0 [] longErrands) =
        [some [[2], [2]], none, some [[1, 2]], some [[1, 2]]] := by
  have hclear : ClearNumbers sharedKitchen.board.settings :=
    spelledAlike_of_numbers (fun pair hpair => ⟨63, by rw [List.mem_singleton.1 hpair]⟩) _
  exact ⟨hclear, outcomes_any_lifetime hclear sharedKitchen.feed 0 longErrands (.int 3600) (.int (-1)), by decide +kernel⟩

/-- one canteen after the other -/
def shortErrands : List Errand :=
  [.lookup sampleDay { phrase := "at academica" }, .lookup sampleDay { phrase := "at park" }]

/-- While an answer is kept it is taken for that of another canteen, whose number counts the same. -/
theorem outcomes_depend_on_lifetime :
    ¬ ClearNumbers twoSpellings.board.settings ∧
      (twoSpellings.board.keeping (.int 3600)).outcomes twoSpellings.feed 0 [] shortErrands ≠
        (twoSpellings.board.keeping (.int 0)).outcomes twoSpellings.feed 0 [] shortErrands := by
  have hkept : dishesOf ((twoSpellings.board.keeping (.int 3600)).outcomes twoSpellings.feed 0 [] shortErrands) =
      [some [[1]], some [[1]]] := by decide +kernel
  have hfetched : dishesOf ((twoSpellings.board.keeping (.int 0)).outcomes twoSpellings.feed 0 [] shortErrands) =
      [some [[1]], some [[2]]] := by decide +kernel
  refine ⟨by decide +kernel, fun hsame => ?_⟩
  rw [hsame, hfetched] at hkept
  cases hkept

end Board

end MenuBoard
