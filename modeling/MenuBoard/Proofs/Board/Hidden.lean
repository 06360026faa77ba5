import MenuBoard.Proofs.Board.Everywhere
import MenuBoard.Proofs.Board.Exclusion
import MenuBoard.Proofs.MealCache.Blocks

/-!
What hidden meals change in a lookup.

Whether hidden meals are asked for is looked at in one place only, where a menu is made out of the meals of a canteen. So a
lookup without them is the lookup with them, with the hidden meals left out of its menus (`lookup_withoutHidden`): it fails
alike, calls alike, and leaves the same cache and the same notices.

And a menu with its hidden meals has all meals that the sources have for the canteen, one for one (`HasAll`), as
`serve_hasAll` shows by induction on the canteens, each with the cache that those before it left.

`hidden_meals_are_added` says both of a lookup after any run of a cache. A lookup leaves the cache as another run would
(`exists_run_of_lookup`), so these are all the states that a board comes to, and those of a service among them
(`Service.exists_run`).
-/

namespace MenuBoard.Board

open MenuBoard.Calendar
open MealCache (GivenBy Accounts)

/-- the menu with no meals but the visible ones -/
def Menu.withoutHidden (menu : Menu) : Menu := { menu with meals := menu.meals.filter (·.classification.visible) }

/-- the same query, and every menu with no meals but the visible ones -/
def MenuAnswer.withoutHidden (answer : MenuAnswer) : MenuAnswer :=
  { answer with menus := answer.menus.map Menu.withoutHidden }

/-- Makes something else of what serving brings. What it leaves behind stays as it is. -/
def Served.map {α β : Type} (f : α → β) (served : Served α) : Served β where
  outcome := served.outcome.map f
  cache := served.cache
  calls := served.calls
  notices := served.notices

/-- In a call after a run, the menu of a canteen has all meals, one for one and in their order: those of the sources, one
after the other, each of which fails, gives its meals now, or gave them before under its name. -/
structure HasAll (start : MealCache.State) (events : List MealCache.Event) (target : Canteen × Whole) (day : Day)
    (menu : Menu) : Prop where
  canteen : menu.canteen = target.1
  dated : menu.day = day
  called : ((MealCache.run start events).call target.2 day).1 = .ok (menu.meals.map ClassifiedMeal.meal)
  parts : menu.meals.map ClassifiedMeal.meal =
    ((MealCache.run start events).call target.2 day).2.parts.flatMap MealCache.Part.meals
  accounts : ∀ (index : Nat) (source : Source) (part : MealCache.Part),
    (MealCache.run start events).sources[index]? = some source →
    ((MealCache.run start events).call target.2 day).2.parts[index]? = some part →
    Accounts (GivenBy start (events ++ [.get target.2 day])) ((MealCache.run start events).wish target.2 day) source part

/-! ## With and without hidden meals -/

/-- the plan with hidden meals shown or not -/
def Plan.showing (plan : Plan) (includeHidden : Bool) : Plan := { plan with includeHidden }

section Hidden

variable {settings : Settings} {around : Surroundings} {board : Board} {today : Day}

@[simp] theorem Plan.showing_query (plan : Plan) (shown : Bool) : (plan.showing shown).query = plan.query := rfl

@[simp] theorem Plan.showing_canteens (plan : Plan) (shown : Bool) : (plan.showing shown).canteens = plan.canteens := rfl

@[simp] theorem Plan.showing_day (plan : Plan) (shown : Bool) : (plan.showing shown).day = plan.day := rfl

theorem menuOf_showing_false (plan : Plan) (canteen : Canteen) (meals : List Meal) :
    menuOf (plan.showing false) canteen meals = (menuOf (plan.showing true) canteen meals).withoutHidden := rfl

@[simp] theorem Plan.showing_wish (plan : Plan) (shown : Bool) (target : Whole) :
    (plan.showing shown).wish settings around target = plan.wish settings around target := rfl

/-- Canteens are served alike: the same are asked, and the menus differ in the hidden meals. -/
theorem serve_showing_false (plan : Plan) (targets : List (Canteen × Whole)) (cache : MealCache) :
    serve settings around (plan.showing false) targets cache =
      (serve settings around (plan.showing true) targets cache).map (List.map Menu.withoutHidden) := by
  induction targets generalizing cache with
  | nil => rfl
  | cons target rest ih =>
    obtain ⟨canteen, id⟩ := target
    cases hcollect : (MealCache.collect (plan.wish settings around id) around.sources cache).1 with
    | error failure =>
      have hboth (shown : Bool) :
          (MealCache.collect ((plan.showing shown).wish settings around id) around.sources cache).1 = .error failure := hcollect
      rw [serve_cons_of_error (hboth false), serve_cons_of_error (hboth true)]
      rfl
    | ok meals =>
      have hboth (shown : Bool) :
          (MealCache.collect ((plan.showing shown).wish settings around id) around.sources cache).1 = .ok meals := hcollect
      rw [serve_cons_of_ok (hboth false), serve_cons_of_ok (hboth true)]
      simp only [Plan.showing_wish, ih, menuOf_showing_false]
      cases serve settings around (plan.showing true) rest
        (MealCache.collect (plan.wish settings around id) around.sources cache).2.cache with
      | mk outcome cache calls notices => cases outcome <;> rfl

theorem servePlan_showing_false (plan : Plan) (cache : MealCache) :
    servePlan settings around (plan.showing false) cache =
      (servePlan settings around (plan.showing true) cache).map MenuAnswer.withoutHidden := by
  have htargets (shown : Bool) : available settings (plan.showing shown).canteens = available settings plan.canteens := rfl
  unfold servePlan
  by_cases hnone : (available settings plan.canteens).isEmpty = true
  · rw [if_pos (htargets false ▸ hnone), if_pos (htargets true ▸ hnone)]
    rfl
  · rw [if_neg (htargets false ▸ hnone), if_neg (htargets true ▸ hnone)]
    simp only [Plan.showing_query, Plan.showing_canteens, Plan.showing_day, serve_showing_false]
    cases serve settings around (plan.showing true) (available settings plan.canteens) cache with
    | mk outcome cache calls notices => cases outcome <;> rfl

theorem plan_includeHidden (request : MenuRequest) (includeHidden : Bool) :
    board.plan today { request with includeHidden } = (board.plan today request).map (·.showing includeHidden) := by
  change _ = (·.showing includeHidden) <$> board.plan today request
  unfold plan
  rw [map_bind]
  refine congrArg (readPhrase request.phrase >>= ·) (funext fun read => ?_)
  simp only [map_bind, map_pure]
  rfl

/-- **A lookup without hidden meals is the lookup with them, without them in its menus.** -/
theorem lookup_withoutHidden (request : MenuRequest) (cache : MealCache) :
    board.lookup around today { request with includeHidden := false } cache =
      (board.lookup around today { request with includeHidden := true } cache).map MenuAnswer.withoutHidden := by
  cases hplan : board.plan today request with
  | error error =>
    have hboth (shown : Bool) : board.plan today { request with includeHidden := shown } = .error error := by
      rw [plan_includeHidden, hplan]
      rfl
    simp only [lookup, hboth]
    rfl
  | ok plan =>
    have hboth (shown : Bool) : board.plan today { request with includeHidden := shown } = .ok (plan.showing shown) := by
      rw [plan_includeHidden, hplan]
      rfl
    rw [lookup_of_plan (hboth false), lookup_of_plan (hboth true), servePlan_showing_false]
    rfl

end Hidden

/-! ## All meals of the sources -/

section All

variable {settings : Settings} {plan : Plan} {start : MealCache.State}

theorem lifetime_run (s : MealCache.State) (events : List MealCache.Event) :
    (MealCache.run s events).lifetime = s.lifetime := by
  induction events using List.reverseRecOn with
  | nil => rfl
  | append_singleton events e ih =>
    rw [MealCache.run_snoc, ← ih]
    cases e <;> rfl

theorem hasAll_menuOf (hcache : start.cache = []) (hall : plan.includeHidden = true) {events : List MealCache.Event}
    {canteen : Canteen} {id : Whole} {meals : List Meal}
    (h : ((MealCache.run start events).call id plan.day).1 = .ok meals) :
    HasAll start events (canteen, id) plan.day (menuOf plan canteen meals) := by
  have hmeals : (menuOf plan canteen meals).meals.map ClassifiedMeal.meal = meals := by
    simp [menuOf, hall, Classifier.classifyAll, Function.comp_def]
  constructor
  case canteen => rfl
  case dated => rfl
  case called => rw [hmeals, h]
  case parts => exact hmeals.trans (MealCache.outcome_eq_ok h)
  case accounts => exact (MealCache.holds_call (MealCache.holds_run hcache events) id plan.day).2

/-- **Every menu that is served has all meals of the sources**, as they stand when it is its canteen's turn. -/
theorem serve_hasAll (hcache : start.cache = []) (hlifetime : start.lifetime = settings.lifetime.toInt)
    (hall : plan.includeHidden = true) (events : List MealCache.Event) {targets : List (Canteen × Whole)} {menus : List Menu}
    (h : (serve settings ⟨(MealCache.run start events).sources, (MealCache.run start events).now⟩ plan targets
      (MealCache.run start events).cache).outcome = .ok menus) :
    menus.length = targets.length ∧ ∀ index target menu, targets[index]? = some target → menus[index]? = some menu →
      HasAll start (events ++ gets plan.day (targets.take index)) target plan.day menu := by
  induction targets generalizing events menus with
  | nil =>
    obtain rfl := Except.ok.inj h
    exact ⟨rfl, by simp⟩
  | cons target rest ih =>
    obtain ⟨canteen, id⟩ := target
    have hwish : plan.wish settings ⟨(MealCache.run start events).sources, (MealCache.run start events).now⟩ id =
        (MealCache.run start events).wish id plan.day := by
      unfold Plan.wish MealCache.State.wish
      rw [lifetime_run, hlifetime]
    cases hcall : ((MealCache.run start events).call id plan.day).1 with
    | error failure =>
      rw [serve_cons_of_error (by rw [hwish]; exact hcall)] at h
      cases h
    | ok meals =>
      rw [serve_cons_of_ok (by rw [hwish]; exact hcall)] at h
      obtain ⟨later, hlater, rfl⟩ := map_eq_ok.1 h
      -- the others are served from the state after this call
      have hnext : MealCache.run start (events ++ [.get id plan.day]) =
          { MealCache.run start events with cache := ((MealCache.run start events).call id plan.day).2.cache } :=
        MealCache.run_snoc start events (.get id plan.day)
      rw [hwish] at hlater
      obtain ⟨hlength, hmenus⟩ := ih (events ++ [.get id plan.day]) (by rw [hnext]; exact hlater)
      refine ⟨congrArg (· + 1) hlength, fun index target menu htarget hmenu => ?_⟩
      cases index with
      | zero =>
        obtain rfl := Option.some.inj htarget
        obtain rfl := Option.some.inj hmenu
        rw [List.take_zero, gets, List.map_nil, List.append_nil]
        exact hasAll_menuOf hcache hall hcall
      | succ index =>
        have hlist := hmenus index target menu htarget hmenu
        rw [List.append_assoc] at hlist
        exact hlist

theorem lookup_hasAll {board : Board} (hcache : start.cache = []) (hlifetime : start.lifetime = board.settings.lifetime.toInt)
    (events : List MealCache.Event) {today : Day} {request : MenuRequest} {answer : MenuAnswer}
    (h : (board.lookup ⟨(MealCache.run start events).sources, (MealCache.run start events).now⟩ today
      { request with includeHidden := true } (MealCache.run start events).cache).outcome = .ok answer) :
    ∃ plan, board.plan today { request with includeHidden := true } = .ok plan ∧
      answer.menus.length = (available board.settings plan.canteens).length ∧
      ∀ index target menu, (available board.settings plan.canteens)[index]? = some target →
        answer.menus[index]? = some menu →
        HasAll start (events ++ gets plan.day ((available board.settings plan.canteens).take index)) target plan.day menu := by
  cases hplan : board.plan today { request with includeHidden := true } with
  | error error =>
    simp only [lookup, hplan] at h
    cases h
  | ok plan =>
    have hall : plan.includeHidden = true := by
      rw [plan_includeHidden] at hplan
      obtain ⟨_, -, rfl⟩ := map_eq_ok.1 hplan
      rfl
    rw [lookup_of_plan hplan] at h
    have hsome : available board.settings plan.canteens ≠ [] := by
      intro hnone
      simp [servePlan, hnone] at h
    rw [outcome_servePlan hsome] at h
    obtain ⟨menus, hmenus, rfl⟩ := map_eq_ok.1 h
    exact ⟨plan, rfl, serve_hasAll hcache hlifetime hall events hmenus⟩

end All

/-! ## States that lookups leave -/

section Reach

variable {settings : Settings} {plan : Plan} {around : Surroundings}

/-- Serving leaves the cache as some calls for meals leave it. -/
theorem exists_run_of_serve (targets : List (Canteen × Whole)) (cache : MealCache) :
    ∃ events, MealCache.run (around.cacheState settings cache) events =
      around.cacheState settings (serve settings around plan targets cache).cache := by
  induction targets generalizing cache with
  | nil => exact ⟨[], rfl⟩
  | cons target rest ih =>
    obtain ⟨canteen, id⟩ := target
    cases hcollect : (MealCache.collect (plan.wish settings around id) around.sources cache).1 with
    | error failure =>
      rw [serve_cons_of_error hcollect]
      exact ⟨[.get id plan.day], rfl⟩
    | ok meals =>
      rw [serve_cons_of_ok hcollect]
      obtain ⟨events, hevents⟩ := ih (MealCache.collect (plan.wish settings around id) around.sources cache).2.cache
      exact ⟨.get id plan.day :: events, hevents⟩

theorem exists_run_of_lookup (board : Board) (around : Surroundings) (today : Day) (request : MenuRequest)
    (cache : MealCache) : ∃ events, MealCache.run (around.cacheState board.settings cache) events =
      around.cacheState board.settings (board.lookup around today request cache).cache := by
  cases hplan : board.plan today request with
  | error error =>
    rw [(lookup_of_plan_error hplan).1]
    exact ⟨[], rfl⟩
  | ok plan =>
    rw [lookup_of_plan hplan]
    unfold servePlan
    simp only
    split
    · exact ⟨[], rfl⟩
    · exact exists_run_of_serve _ cache

theorem run_append (s : MealCache.State) (events more : List MealCache.Event) :
    MealCache.run s (events ++ more) = MealCache.run (MealCache.run s events) more := List.foldl_append

/-- the cache of a service in its surroundings -/
def Service.cacheState (s : Service) : MealCache.State := s.around.cacheState s.board.settings s.cache

/-- What happens to a service is a run of its cache. -/
theorem Service.exists_run (s : Service) (events : List Service.Event) :
    ∃ happened, MealCache.run s.cacheState happened = (Service.run s events).cacheState := by
  induction events using List.reverseRecOn with
  | nil => exact ⟨[], rfl⟩
  | append_singleton events event ih =>
    obtain ⟨happened, hhappened⟩ := ih
    rw [Service.run_snoc]
    cases event with
    | advance seconds =>
      refine ⟨happened ++ [.advance seconds], ?_⟩
      rw [MealCache.run_snoc, hhappened]
      rfl
    | respond replies =>
      -- the feed is the only source, and answers otherwise from now on
      let feed := Feed.source (Table.session (replies ++ (Service.run s events).table)) (Service.run s events).board.settings.timeout
      refine ⟨happened ++ [.behave 0 feed.ask], ?_⟩
      rw [MealCache.run_snoc, hhappened]
      rfl
    | lookup today request =>
      obtain ⟨more, hmore⟩ := exists_run_of_lookup (Service.run s events).board (Service.run s events).around today request
        (Service.run s events).cache
      refine ⟨happened ++ more, ?_⟩
      rw [run_append, hhappened]
      exact hmore
    | classify request => exact ⟨happened, hhappened⟩

end Reach

/-! ## Lookups after a run -/

/-- the lookup of a request with a cache as it stands, its hidden meals shown or not -/
def lookupShowing (board : Board) (s : MealCache.State) (today : Day) (request : MenuRequest) (includeHidden : Bool) :
    Served MenuAnswer := board.lookup ⟨s.sources, s.now⟩ today { request with includeHidden } s.cache

/-- **Asking for hidden meals adds hidden meals, and nothing else.** After every run and for every request, a lookup without
hidden meals fails as the one with them does, or has its query and its menus, each with no meals but the visible ones,
classified as they are. Both call alike and leave the same cache, which is that of another run. And the menus with hidden
meals are those of the canteens that the feed knows, each of which has all meals of the sources. -/
theorem hidden_meals_are_added (board : Board) (sources : List Source) (now : Int) (events : List MealCache.Event)
    (today : Day) (request : MenuRequest) :
    let start : MealCache.State := { sources, lifetime := board.settings.lifetime.toInt, now }
    let s := MealCache.run start events
    let full := board.lookupShowing s today request true
    board.lookupShowing s today request false = full.map MenuAnswer.withoutHidden ∧
      (∃ more, MealCache.run start (events ++ more) = { s with cache := full.cache }) ∧
      ∀ answer, full.outcome = .ok answer → ∃ plan, board.plan today { request with includeHidden := true } = .ok plan ∧
        let targets := available board.settings plan.canteens
        answer.menus.length = targets.length ∧
        ∀ index target menu, targets[index]? = some target → answer.menus[index]? = some menu →
          HasAll start (events ++ gets plan.day (targets.take index)) target plan.day menu := by
  intro start s full
  have hlifetime : s.lifetime = board.settings.lifetime.toInt := lifetime_run start events
  have hstate (cache : MealCache) : Surroundings.cacheState ⟨s.sources, s.now⟩ board.settings cache = { s with cache } := by
    unfold Surroundings.cacheState
    rw [← hlifetime]
  refine ⟨lookup_withoutHidden request s.cache, ?_, fun answer hanswer => ?_⟩
  · obtain ⟨more, hmore⟩ := exists_run_of_lookup board ⟨s.sources, s.now⟩ today { request with includeHidden := true } s.cache
    rw [hstate, hstate] at hmore
    exact ⟨more, (run_append start events more).trans hmore⟩
  · exact lookup_hasAll rfl rfl events hanswer

/-- what is shown of the dishes of an answer: their numbers, and whether they are visible -/
def MenuAnswer.dishesShown (answer : MenuAnswer) : List (List (Int × Bool)) :=
  answer.menus.map fun menu => menu.meals.map fun c => (c.meal.id, c.classification.visible)

/-- The dishes are fetched once, and then the feed is out of order. -/
def fetchThenFault : List MealCache.Event :=
  [.get (.int 63) sampleDay, .behave 0 fun _ _ => { meals := .error "offline" }]

/-- The dish with fish is kept, and is added to the menu of a phrase without fish if hidden meals are asked for. -/
theorem fish_is_added :
    let board := Service.fishAndSalad.board
    let start : MealCache.State :=
      { sources := Service.fishAndSalad.around.sources, lifetime := board.settings.lifetime.toInt, now := 0 }
    let s := MealCache.run start fetchThenFault
    let request : MenuRequest := { phrase := "at park no fish" }
    ∃ answer, (board.lookupShowing s sampleDay request true).outcome = .ok answer ∧
      answer.dishesShown = [[(1, false), (2, true)]] ∧
      (board.lookupShowing s sampleDay request false).outcome = .ok answer.withoutHidden ∧
      answer.withoutHidden.dishesShown = [[(2, true)]] := by
  intro board start s request
  have hdishes : (board.lookupShowing s sampleDay request true).outcome.map
      (fun answer => (answer.dishesShown, answer.withoutHidden.dishesShown)) =
        .ok ([[(1, false), (2, true)]], [[(2, true)]]) := by decide +kernel
  obtain ⟨answer, hanswer, hboth⟩ := map_eq_ok.1 hdishes
  obtain ⟨hfull, hvisible⟩ := Prod.mk.inj hboth
  have hshown := (hidden_meals_are_added board start.sources 0 fetchThenFault sampleDay request).1
  refine ⟨answer, hanswer, hfull, ?_, hvisible⟩
  exact (congrArg Served.outcome hshown).trans (congrArg (Except.map MenuAnswer.withoutHidden) hanswer)

end MenuBoard.Board
