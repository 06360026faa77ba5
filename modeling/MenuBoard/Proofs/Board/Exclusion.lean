import MenuBoard.Board.Service
import MenuBoard.Proofs.Board.Diet
import MenuBoard.Proofs.Feed.Record
import MenuBoard.Proofs.MealCache.Origin

/-!
What a guest leaves out does not reach the menu.

Two facts about a board over the feed meet in `lookup_leaves_out`. Every meal of a menu is made of a record that the
feed replied with at some moment of the run, whether it was kept or is fetched now (`run_allMeals`,
`lookup_allMeals`). And a meal that is shown suits the diet of the phrase (`visible_suits`), so that none of its
record's notes can speak of an ingredient that is left out: the note would have given the meal its tag.
-/

namespace MenuBoard

open MenuBoard.Phrase MenuBoard.Rule MenuBoard.Calendar MenuBoard.Feed MenuBoard.MealCache

/-- the word that gives the ingredient away in a note -/
def Exclude.marker : Exclude → String
  | .pig => "schwein"
  | .fish => "fisch"
  | .alcohol => "alkohol"

theorem Exclude.marker_mem (ingredient : Exclude) : ingredient.marker ∈ ingredient.tag.markers := by
  cases ingredient <;> exact List.mem_singleton_self _

namespace Board

/-! ## Plans -/

section Plan

variable {board : Board} {today : Day} {request : MenuRequest} {plan : Plan}

theorem exists_clauses_of_plan (h : board.plan today request = .ok plan) : ∃ clauses,
    tokenize request.phrase.toList = .ok clauses ∧ plan.includeHidden = request.includeHidden ∧
      plan.classifier.restrictions = restrictions (some (Query.ofClauses clauses).1) := by
  obtain ⟨⟨query, notices⟩, hread, h⟩ := bind_eq_ok.1 h
  obtain ⟨canteens, -, h⟩ := bind_eq_ok.1 h
  obtain ⟨day, -, h⟩ := bind_eq_ok.1 h
  obtain ⟨classifier, hclassifier, h⟩ := bind_eq_ok.1 h
  obtain rfl := Except.ok.inj h
  obtain ⟨clauses, hclauses, hquery⟩ := map_eq_ok.1 (mapError_eq_ok.1 hread)
  refine ⟨clauses, hclauses, rfl, ?_⟩
  rw [hquery]
  exact restrictions_of_classifier (mapError_eq_ok.1 hclassifier)

/-- **A meal that is shown suits the phrase**, whatever the settings and the rules of the request are. -/
theorem visible_suits (h : board.plan today request = .ok plan) (hhidden : request.includeHidden = false)
    {clauses : List Clause} (hphrase : tokenize request.phrase.toList = .ok clauses) {canteen : Canteen} {meals : List Meal}
    {c : ClassifiedMeal} (hc : c ∈ (menuOf plan canteen meals).meals) :
    c.meal ∈ meals ∧ Suits (clauses.map (·.content)) c.meal.tags := by
  obtain ⟨clauses', hphrase', hshown, hrestrictions⟩ := exists_clauses_of_plan h
  obtain rfl := Except.ok.inj (hphrase.symm.trans hphrase')
  have hmem : c ∈ (plan.classifier.classifyAll meals).filter (·.classification.visible) := by
    simpa [menuOf, hshown, hhidden] using hc
  obtain ⟨hclassified, hvisible⟩ := List.mem_filter.1 hmem
  obtain ⟨meal, hmeal, rfl⟩ := List.mem_map.1 hclassified
  refine ⟨hmeal, Query.rules_evaluate_ofClauses.1 ?_⟩
  rw [← restrictions_all, ← hrestrictions]
  exact (Bool.and_eq_true_iff.1 hvisible).2

end Plan

/-! ## Meals of a lookup -/

section Lookup

variable {P : Meal → Prop} {around : Surroundings}

theorem serve_allMeals (hsources : ∀ source ∈ around.sources, GivesOnly P source) (settings : Settings) (plan : Plan)
    (targets : List (Canteen × Whole)) {cache : MealCache} (h : AllMeals P cache) :
    (∀ menus, (serve settings around plan targets cache).outcome = .ok menus →
        ∀ menu ∈ menus, ∃ canteen meals, menu = menuOf plan canteen meals ∧ ∀ meal ∈ meals, P meal) ∧
      AllMeals P (serve settings around plan targets cache).cache := by
  induction targets generalizing cache with
  | nil =>
    refine ⟨fun menus hmenus menu hmenu => ?_, h⟩
    obtain rfl := Except.ok.inj hmenus
    cases hmenu
  | cons target rest ih =>
    obtain ⟨canteen, target⟩ := target
    obtain ⟨hmeals, hcache⟩ := h.collect (plan.wish settings around target) hsources
    unfold serve
    cases hcollect : collect (plan.wish settings around target) around.sources cache with
    | mk outcome round =>
      rw [hcollect] at hmeals hcache
      cases outcome with
      | error failure => exact ⟨fun menus hmenus => (by cases hmenus), hcache⟩
      | ok meals =>
        obtain ⟨hmenus, hdone⟩ := ih hcache
        refine ⟨fun menus hok menu hmenu => ?_, hdone⟩
        obtain ⟨later, hlater, rfl⟩ := map_eq_ok.1 hok
        rcases List.mem_cons.1 hmenu with rfl | hmenu
        · exact ⟨canteen, meals, rfl, hmeals meals rfl⟩
        · exact hmenus later hlater menu hmenu

theorem lookup_allMeals (hsources : ∀ source ∈ around.sources, GivesOnly P source) (board : Board) (today : Day)
    (request : MenuRequest) {cache : MealCache} (h : AllMeals P cache) :
    (∀ answer, (board.lookup around today request cache).outcome = .ok answer →
        ∃ plan, board.plan today request = .ok plan ∧
          ∀ menu ∈ answer.menus, ∃ canteen meals, menu = menuOf plan canteen meals ∧ ∀ meal ∈ meals, P meal) ∧
      AllMeals P (board.lookup around today request cache).cache := by
  unfold lookup
  cases hplan : board.plan today request with
  | error error => exact ⟨fun answer hanswer => (by cases hanswer), h⟩
  | ok plan =>
    obtain ⟨hmenus, hcache⟩ := serve_allMeals hsources board.settings plan (available board.settings plan.canteens) h
    unfold servePlan
    cases hempty : (available board.settings plan.canteens).isEmpty with
    | true => exact ⟨fun answer hanswer => by simp [hempty] at hanswer, by simpa [hempty] using h⟩
    | false =>
      refine ⟨fun answer hanswer => ⟨plan, rfl, ?_⟩, by simpa [hempty] using hcache⟩
      simp only [hempty, Bool.false_eq_true, if_false] at hanswer
      obtain ⟨menus, hserved, rfl⟩ := map_eq_ok.1 hanswer
      exact hmenus menus hserved

end Lookup

/-! ## Runs -/

namespace Service

/-- a meal made of a record that the feed replied with at some moment of a run -/
def Gave (s : Service) (events : List Event) (meal : Meal) : Prop :=
  ∃ before, before <+: events ∧ ∃ record, Replies (s.run before).table.session record ∧ mealOf record = .ok meal

theorem Gave.append {s : Service} {events : List Event} {meal : Meal} (h : s.Gave events meal) (more : List Event) :
    s.Gave (events ++ more) meal := by
  obtain ⟨before, hbefore, hrecord⟩ := h
  exact ⟨before, hbefore.trans (List.prefix_append events more), hrecord⟩

theorem givesOnly_around (s : Service) (events : List Event) :
    ∀ source ∈ (s.run events).around.sources, GivesOnly (s.Gave events) source := by
  intro source hsource canteen day meals hmeals meal hmeal
  obtain rfl := List.mem_singleton.1 hsource
  obtain ⟨record, hreplies, hrecord⟩ := exists_record_of_ask hmeals hmeal
  exact ⟨events, List.prefix_rfl, record, hreplies, hrecord⟩

theorem run_snoc (s : Service) (events : List Event) (event : Event) :
    s.run (events ++ [event]) = (step (s.run events) event).1 := by
  unfold run
  rw [List.foldl_append]
  rfl

/-- **Every meal in the cache was given by the feed** at some moment of the run. -/
theorem run_allMeals {s : Service} (hcache : s.cache = []) (events : List Event) :
    AllMeals (s.Gave events) (s.run events).cache := by
  induction events using List.reverseRecOn with
  | nil =>
    have hnone : (s.run []).cache = [] := hcache
    rw [hnone]
    exact fun e he => absurd he List.not_mem_nil
  | append_singleton events event ih =>
    have hkept : AllMeals (s.Gave (events ++ [event])) (s.run events).cache := ih.mono fun meal h => h.append [event]
    rw [run_snoc]
    cases event with
    | advance seconds => exact hkept
    | respond replies => exact hkept
    | classify request => exact hkept
    | lookup today request =>
      have hlookup := (lookup_allMeals (s.givesOnly_around events) (s.run events).board today request ih).2
      exact hlookup.mono fun meal h => h.append _

/-- **No ingredient that is left out reaches the menu from the feed.** Whatever the run before was, every meal of a
menu without hidden meals was made of a record that the feed replied with, and a record whose notes speak of an
ingredient that the phrase leaves out makes none of them. -/
theorem lookup_leaves_out {s : Service} (hcache : s.cache = []) (events : List Event) {today : Day} {request : MenuRequest}
    (hhidden : request.includeHidden = false) {clauses : List Clause}
    (hphrase : tokenize request.phrase.toList = .ok clauses) {ingredient : Exclude}
    (hclause : .exclude ingredient ∈ clauses.map (·.content)) {served : Served MenuAnswer}
    (hserved : (step (s.run events) (.lookup today request)).2 = .served served) {answer : MenuAnswer}
    (hanswer : served.outcome = .ok answer) :
    ∀ menu ∈ answer.menus, ∀ c ∈ menu.meals,
      s.Gave events c.meal ∧ ∀ record, mealOf record = .ok c.meal → ¬ RecordSpeaks ingredient.marker record := by
  obtain rfl := Effect.served.inj hserved
  obtain ⟨plan, hplan, hmenus⟩ := (lookup_allMeals (s.givesOnly_around events) (s.run events).board today request
    (run_allMeals hcache events)).1 answer hanswer
  intro menu hmenu c hc
  obtain ⟨canteen, meals, rfl, hgiven⟩ := hmenus menu hmenu
  obtain ⟨hmeal, hsuits⟩ := visible_suits hplan hhidden hphrase hc
  refine ⟨hgiven c.meal hmeal, fun record hrecord hspeaks => ?_⟩
  exact hsuits.excludes ingredient hclause (tag_of_mealOf ingredient.marker_mem hspeaks hrecord)

/-- a board over a feed with two dishes on one day, the first with fish -/
def fishAndSalad : Service where
  board := { settings := {}, filter := {}, favorites := {} }
  table := [("https://openmensa.org/api/v2/canteens/63/days/2024-01-03/meals", .response {
    body := "[\x7b\"id\": 1, \"name\": \"Lachs\", \"notes\": [\"warm\", \"mit FISCHsauce\"]\x7d, \x7b\"id\": 2\x7d]" })]

/-- The dishes are looked up once, and then the feed is out of order. -/
def lookupThenFault : List Event :=
  [.lookup ⟨738887, by decide⟩ { phrase := "at park" },
    .respond [("https://openmensa.org/api/v2/canteens/63/days/2024-01-03/meals", .response { status := 500 })]]

/-- The dish with fish is still kept, and is not on the menu of a phrase without fish. -/
theorem fishAndSalad_leaves_out_fish :
    tokenize "at park no fish".toList = .ok [⟨.location .amPark, 0, 8⟩, ⟨.exclude .fish, 8, 15⟩] ∧
      ∃ served answer, (step (fishAndSalad.run lookupThenFault)
          (.lookup ⟨738887, by decide⟩ { phrase := "at park no fish" })).2 = .served served ∧
        served.outcome = .ok answer ∧ (answer.menus.map fun menu => menu.meals.map (·.meal.id)) = [[2]] ∧
        ∀ menu ∈ answer.menus, ∀ c ∈ menu.meals, fishAndSalad.Gave lookupThenFault c.meal ∧
          ∀ record, mealOf record = .ok c.meal → ¬ RecordSpeaks "fisch" record := by
  have hphrase : tokenize "at park no fish".toList = .ok [⟨.location .amPark, 0, 8⟩, ⟨.exclude .fish, 8, 15⟩] := by
    decide +kernel
  have hids : ((fishAndSalad.run lookupThenFault).board.lookup (fishAndSalad.run lookupThenFault).around
      ⟨738887, by decide⟩ { phrase := "at park no fish" } (fishAndSalad.run lookupThenFault).cache).outcome.map
        (fun answer => answer.menus.map fun menu => menu.meals.map (·.meal.id)) = .ok [[2]] := by decide +kernel
  obtain ⟨answer, hanswer, hshown⟩ := map_eq_ok.1 hids
  have hclause : Content.exclude .fish ∈ [Clause.mk (.location .amPark) 0 8, ⟨.exclude .fish, 8, 15⟩].map (·.content) :=
    List.mem_cons_of_mem _ (List.mem_singleton_self _)
  have hsafe := @lookup_leaves_out fishAndSalad rfl lookupThenFault ⟨738887, by decide⟩ { phrase := "at park no fish" } rfl
    _ hphrase .fish hclause _ rfl answer hanswer
  exact ⟨hphrase, _, answer, rfl, hanswer, hshown, hsafe⟩

end Service

end Board

end MenuBoard
