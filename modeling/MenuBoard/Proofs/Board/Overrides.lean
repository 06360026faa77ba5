import MenuBoard.Proofs.Board.Diet
import MenuBoard.Proofs.Board.Rejection
import MenuBoard.Proofs.Rule.Joining

/-!
Rules that a request brings.

The configured rules of a board are usable, so what is wrong with the rules of a request is wrong with the lists that it
brings (`classifier_fails_iff`); the request is turned down for them unless something that is looked at earlier is wrong
with it (`classify_eq_pattern`, `lookup_eq_pattern`). Lists that only deny leave the rest of a request as it is, and hide
the meals that they match (`classify_denying`, `lookup_denying`).
-/

namespace MenuBoard

open MenuBoard.Rule MenuBoard.Calendar MenuBoard.Phrase

/-- no allow pattern in any of the lists -/
structure Rule.RuleLists.OnlyDenies (lists : RuleLists) : Prop where
  tags : lists.allowTags = []
  categories : lists.allowCategories = []
  names : lists.allowNames = []

theorem Rule.RuleLists.OnlyDenies.allow_eq_nil {lists : RuleLists} (h : lists.OnlyDenies) {rules : RuleSet}
    (hrules : lists.toRuleSet = .ok rules) : rules.allow = [] := by
  rw [RuleLists.toRuleSet_eq, h.tags, h.categories, h.names] at hrules
  obtain ⟨allow, hallow, hrules⟩ := bind_eq_ok.1 hrules
  obtain ⟨deny, -, hrules⟩ := bind_eq_ok.1 hrules
  cases hrules
  exact (Except.ok.inj hallow).symm

/-- the meal, hidden if a deny pattern of these rules matches it -/
def ClassifiedMeal.denying (denied : RuleSet) (c : ClassifiedMeal) : ClassifiedMeal :=
  { c with classification :=
    { c.classification with visible := c.classification.visible && !denied.deny.any (·.holds c.meal) } }

namespace Board

/-! ## Lists that are unusable -/

/-- Among the lists that a request brings some text is faulty. -/
def FaultyOverrides (filter favorites : Option Overrides) : Prop :=
  ∃ overrides ∈ filter.toList ++ favorites.toList, ∃ e, overrides.lists.Faulty e

/-- No regular expression that a request brings is refused but as invalid. -/
def OnlyInvalidOverrides (filter favorites : Option Overrides) : Prop :=
  ∀ overrides ∈ filter.toList ++ favorites.toList, overrides.lists.OnlyInvalid

section Classifier

variable {settings : Settings} {board : Board} {query : Option Query} {filter favorites : Option Overrides}
  {e : PatternError}

/-- Beside usable lists, those of a request are unusable exactly if they are so alone. -/
theorem effectiveRules_eq_error {compile : Compiler} {configured : RuleSet} {lists : RuleLists}
    (h : lists.toRuleSet compile = .ok configured) {overrides : Option Overrides} :
    effectiveRules compile configured lists overrides = .error e ↔
      ∃ own, overrides = some own ∧ own.lists.toRuleSet compile = .error e := by
  cases overrides with
  | none =>
    constructor
    · exact fun h => by cases h
    · exact fun ⟨_, h, _⟩ => by cases h
  | some own =>
    have halone : effectiveRules compile configured lists (some own) = .error e ↔ own.lists.toRuleSet compile = .error e := by
      -- lists that take the place of the configured ones are made alone, the others beside usable ones
      obtain ⟨texts, overwrite⟩ := own
      cases overwrite with
      | true => exact Iff.rfl
      | false => exact (RuleLists.toRuleSet_joined lists texts compile).error_iff h
    rw [halone]
    constructor
    · exact fun h => ⟨own, rfl, h⟩
    · rintro ⟨other, heq, h⟩
      rw [Option.some.inj heq]
      exact h

theorem mem_of_classifier_eq_error (hboard : ofSettings settings = .ok board)
    (h : board.classifier query filter favorites = .error e) :
    ∃ overrides ∈ filter.toList ++ favorites.toList, overrides.lists.toRuleSet = .error e := by
  obtain ⟨hfilter, hfavorites, rfl, hcompile⟩ := rules_of_ofSettings hboard
  rw [classifier, hcompile] at h
  rcases bind_eq_error.1 h with hfails | ⟨rules, -, h⟩
  · obtain ⟨own, rfl, hown⟩ := (effectiveRules_eq_error hfilter).1 hfails
    exact ⟨own, List.mem_append_left _ (List.mem_singleton_self own), hown⟩
  · rcases bind_eq_error.1 h with hfails | ⟨favored, -, h⟩
    · obtain ⟨own, rfl, hown⟩ := (effectiveRules_eq_error hfavorites).1 hfails
      exact ⟨own, List.mem_append_right _ (List.mem_singleton_self own), hown⟩
    · cases h

/-- **The rules of a request can be made exactly if the lists that it brings are usable.** -/
theorem classifier_fails_iff (hboard : ofSettings settings = .ok board) :
    (∃ e, board.classifier query filter favorites = .error e) ↔ FaultyOverrides filter favorites := by
  constructor
  · rintro ⟨e, h⟩
    obtain ⟨own, hmem, hown⟩ := mem_of_classifier_eq_error hboard h
    exact ⟨own, hmem, e, RuleLists.faulty_of_toRuleSet hown⟩
  · rintro ⟨own, hmem, hfaulty⟩
    obtain ⟨hfilter, hfavorites, rfl, hcompile⟩ := rules_of_ofSettings hboard
    obtain ⟨e, hown⟩ := RuleLists.toRuleSet_fails_iff.2 hfaulty
    cases hclassifier : board.classifier query filter favorites with
    | error e' => exact ⟨e', rfl⟩
    | ok c =>
      rw [classifier, hcompile] at hclassifier
      obtain ⟨rules, hrules, h⟩ := bind_eq_ok.1 hclassifier
      obtain ⟨favored, hfavored, -⟩ := bind_eq_ok.1 h
      rcases List.mem_append.1 hmem with hmem | hmem
      · have hfails := (effectiveRules_eq_error hfilter).2 ⟨own, Option.mem_toList.1 hmem, hown⟩
        rw [hrules] at hfails
        cases hfails
      · have hfails := (effectiveRules_eq_error hfavorites).2 ⟨own, Option.mem_toList.1 hmem, hown⟩
        rw [hfavored] at hfails
        cases hfails

/-- Where regular expressions are refused as invalid only, the failure names a text of the lists that the request brings. -/
theorem classifier_invalid_iff (hboard : ofSettings settings = .ok board) (hinvalid : OnlyInvalidOverrides filter favorites) :
    (∃ text reason, board.classifier query filter favorites = .error (.invalid text reason)) ↔
      FaultyOverrides filter favorites := by
  rw [← @classifier_fails_iff _ _ query _ _ hboard]
  constructor
  · exact fun ⟨text, reason, h⟩ => ⟨_, h⟩
  · rintro ⟨e, h⟩
    obtain ⟨own, hmem, hown⟩ := mem_of_classifier_eq_error hboard h
    obtain ⟨text, -, reason, rfl⟩ := (RuleLists.faulty_of_toRuleSet hown).exists_invalid (hinvalid own hmem)
    exact ⟨text, reason, h⟩

end Classifier

/-! ## Requests that are turned down for their rules -/

section Requests

variable {board : Board} {around : Surroundings} {today : Day} {cache : MealCache} {e : PatternError}

theorem readPhrase_ne_pattern (phrase : String) : readPhrase phrase ≠ .error (.pattern e) := by
  intro h
  obtain ⟨reason, -, h⟩ := mapError_eq_error.1 h
  cases h

theorem readOptionalPhrase_ne_pattern (phrase : Option String) : readOptionalPhrase phrase ≠ .error (.pattern e) := by
  intro h
  unfold readOptionalPhrase at h
  split at h
  · cases h
  · split at h
    · cases h
    · exact readPhrase_ne_pattern _ (map_eq_error.1 h)

theorem mapError_bind_eq_pattern {α : Type} {made : Except PatternError Classifier} {use : Classifier → α} :
    (made.mapError RequestError.pattern >>= fun classifier => pure (use classifier)) = .error (.pattern e) ↔
      made = .error e := by
  rw [bind_eq_error, mapError_eq_error]
  constructor
  · rintro (⟨cause, hcause, heq⟩ | ⟨c, -, h⟩)
    · cases heq
      exact hcause
    · cases h
  · exact fun h => .inl ⟨e, h, rfl⟩

theorem classify_eq_pattern {request : ClassifyRequest} : board.classify request = .error (.pattern e) ↔
    ∃ query, readOptionalPhrase request.phrase = .ok query ∧
      board.classifier query request.filter request.favorites = .error e := by
  unfold classify
  rw [bind_eq_error, or_iff_right (readOptionalPhrase_ne_pattern _)]
  exact exists_congr fun query => and_congr_right fun _ => mapError_bind_eq_pattern

/-- what a phrase asks for besides rules: its query, the canteens and the day -/
def asked (board : Board) (today : Day) (phrase : String) : Except RequestError (Query × List Canteen × Day) := do
  let (query, _) ← readPhrase phrase
  let canteens ← canteensOf board.settings query
  let day ← dayOf today query
  return (query, canteens, day)

theorem plan_eq (board : Board) (today : Day) (request : MenuRequest) : board.plan today request = do
    let (query, canteens, day) ← asked board today request.phrase
    let classifier ← (board.classifier query request.filter request.favorites).mapError .pattern
    return { query, canteens, day, classifier, includeHidden := request.includeHidden } := by
  unfold plan asked
  simp only [bind_assoc, pure_bind]

theorem asked_ne_pattern (phrase : String) : asked board today phrase ≠ .error (.pattern e) := by
  intro h
  rcases bind_eq_error.1 h with hread | ⟨⟨query, notices⟩, -, h⟩
  · exact readPhrase_ne_pattern _ hread
  rcases bind_eq_error.1 h with hcanteens | ⟨canteens, -, h⟩
  · cases canteensOf_eq_error hcanteens
  rcases bind_eq_error.1 h with hday | ⟨day, -, h⟩
  · cases dayOf_eq_error hday
  · cases h

theorem plan_eq_pattern {request : MenuRequest} : board.plan today request = .error (.pattern e) ↔
    ∃ query canteens day, asked board today request.phrase = .ok (query, canteens, day) ∧
      board.classifier (some query) request.filter request.favorites = .error e := by
  rw [plan_eq, bind_eq_error, or_iff_right (asked_ne_pattern _)]
  constructor
  · rintro ⟨⟨query, canteens, day⟩, hasked, h⟩
    exact ⟨query, canteens, day, hasked, mapError_bind_eq_pattern.1 h⟩
  · rintro ⟨query, canteens, day, hasked, h⟩
    exact ⟨_, hasked, mapError_bind_eq_pattern.2 h⟩

theorem lookup_eq_pattern {request : MenuRequest} :
    (board.lookup around today request cache).outcome = .error (.pattern e) ↔
      ∃ query canteens day, asked board today request.phrase = .ok (query, canteens, day) ∧
        board.classifier (some query) request.filter request.favorites = .error e := by
  rw [← plan_eq_pattern]
  cases hplan : board.plan today request with
  | error error =>
    simp only [lookup, hplan]
    exact ⟨fun h => congrArg Except.error (Except.error.inj h), fun h => congrArg Except.error (Except.error.inj h)⟩
  | ok plan =>
    constructor
    · intro h
      rw [lookup_of_plan hplan] at h
      rcases servePlan_eq_error h with ⟨-, h⟩ | ⟨-, -, -, failure, h, -, -⟩ <;> cases h
    · exact fun h => by cases h

end Requests

/-! ## Lists that only deny -/

section Denying

variable {settings : Settings} {board : Board} {lists : RuleLists} {denied : RuleSet}

theorem exists_effectiveRules {configured : RuleSet} {own : RuleLists} (hconfigured : lists.toRuleSet = .ok configured)
    (hdenies : own.OnlyDenies) (hdenied : own.toRuleSet = .ok denied) :
    ∃ rules, effectiveRules Regex.compile configured lists (some { lists := own }) = .ok rules ∧
      ∀ meal, rules.evaluate meal = (configured.evaluate meal && !denied.deny.any (·.holds meal)) := by
  have hmerges := RuleLists.toRuleSet_joined lists own Regex.compile
  obtain ⟨rules, hrules⟩ := hmerges.ok_iff.2 ⟨⟨configured, hconfigured⟩, denied, hdenied⟩
  refine ⟨rules, hrules, fun meal => ?_⟩
  rw [(hmerges.of_ok hconfigured hdenied hrules).evaluate_eq, RuleSet.evaluate_joined, hdenies.allow_eq_nil hdenied]
  simp [RuleSet.evaluate, Bool.and_assoc]

/-- the second classifier does what the first one does, and hides the meals that these rules deny -/
def Denies (denied : RuleSet) (c c' : Classifier) : Prop :=
  ∀ meal, ⟨meal, c'.classify meal⟩ = ClassifiedMeal.denying denied ⟨meal, c.classify meal⟩

theorem Denies.classifyAll {c c' : Classifier} (h : Denies denied c c') (meals : List Meal) :
    c'.classifyAll meals = (c.classifyAll meals).map (·.denying denied) := by
  unfold Classifier.classifyAll
  rw [List.map_map]
  exact List.map_congr_left fun meal _ => h meal

theorem classifier_denying (hboard : ofSettings settings = .ok board) (hdenies : lists.OnlyDenies)
    (hdenied : lists.toRuleSet = .ok denied) (query : Option Query) (favorites : Option Overrides) :
    (∃ e, board.classifier query none favorites = .error e ∧
        board.classifier query (some { lists }) favorites = .error e) ∨
      ∃ c c', board.classifier query none favorites = .ok c ∧
        board.classifier query (some { lists }) favorites = .ok c' ∧ Denies denied c c' := by
  obtain ⟨hfilter, -, rfl, hcompile⟩ := rules_of_ofSettings hboard
  obtain ⟨rules, hrules, hevaluate⟩ := exists_effectiveRules hfilter hdenies hdenied
  unfold classifier
  rw [hcompile, hrules]
  cases effectiveRules Regex.compile board.favorites board.settings.favorites favorites with
  | error e => exact .inl ⟨e, rfl, rfl⟩
  | ok favored =>
    refine .inr ⟨_, _, rfl, rfl, fun meal => ?_⟩
    simp only [Classifier.classify, ClassifiedMeal.denying, hevaluate, Bool.and_right_comm]

/-- **Deny lists of a request hide the meals that they match, and change nothing else.** -/
theorem classify_denying (hboard : ofSettings settings = .ok board) (hdenies : lists.OnlyDenies)
    (hdenied : lists.toRuleSet = .ok denied) (request : ClassifyRequest) :
    board.classify { request with filter := some { lists } } =
      (board.classify { request with filter := none }).map (List.map (·.denying denied)) := by
  cases hread : readOptionalPhrase request.phrase with
  | error error =>
    have hplain : board.classify { request with filter := none } = .error error := bind_eq_error.2 (.inl hread)
    have hmore : board.classify { request with filter := some { lists } } = .error error := bind_eq_error.2 (.inl hread)
    rw [hplain, hmore]
    rfl
  | ok query =>
    obtain ⟨e, hplain, hmore⟩ | ⟨c, c', hplain, hmore, h⟩ :=
      classifier_denying hboard hdenies hdenied query request.favorites
    · have hplain := (@classify_eq_pattern board e { request with filter := none }).2 ⟨query, hread, hplain⟩
      have hmore := (@classify_eq_pattern board e { request with filter := some { lists } }).2 ⟨query, hread, hmore⟩
      rw [hplain, hmore]
      rfl
    · have hplain : board.classify { request with filter := none } = .ok (c.classifyAll request.meals) :=
        bind_eq_ok.2 ⟨query, hread, bind_eq_ok.2 ⟨c, mapError_eq_ok.2 hplain, rfl⟩⟩
      have hmore : board.classify { request with filter := some { lists } } = .ok (c'.classifyAll request.meals) :=
        bind_eq_ok.2 ⟨query, hread, bind_eq_ok.2 ⟨c', mapError_eq_ok.2 hmore, rfl⟩⟩
      rw [hplain, hmore, h.classifyAll]
      rfl

theorem plan_denying (hboard : ofSettings settings = .ok board) (hdenies : lists.OnlyDenies)
    (hdenied : lists.toRuleSet = .ok denied) (today : Day) (request : MenuRequest) :
    (∃ e, board.plan today { request with filter := none } = .error e ∧
        board.plan today { request with filter := some { lists } } = .error e) ∨
      ∃ plan c', board.plan today { request with filter := none } = .ok plan ∧
        plan.includeHidden = request.includeHidden ∧
        board.plan today { request with filter := some { lists } } = .ok { plan with classifier := c' } ∧
        Denies denied plan.classifier c' := by
  rw [plan_eq, plan_eq]
  cases hasked : asked board today request.phrase with
  | error error => exact .inl ⟨error, rfl, rfl⟩
  | ok settled =>
    obtain ⟨query, canteens, day⟩ := settled
    obtain ⟨e, hplain, hmore⟩ | ⟨c, c', hplain, hmore, h⟩ :=
      classifier_denying hboard hdenies hdenied query request.favorites
    · refine .inl ⟨.pattern e, bind_eq_error.2 (.inr ⟨_, rfl, ?_⟩), bind_eq_error.2 (.inr ⟨_, rfl, ?_⟩)⟩
      · exact mapError_bind_eq_pattern.2 hplain
      · exact mapError_bind_eq_pattern.2 hmore
    · refine .inr ⟨{ query, canteens, day, classifier := c, includeHidden := request.includeHidden }, c',
        bind_eq_ok.2 ⟨_, rfl, ?_⟩, rfl, bind_eq_ok.2 ⟨_, rfl, ?_⟩, h⟩
      · exact bind_eq_ok.2 ⟨c, mapError_eq_ok.2 hplain, rfl⟩
      · exact bind_eq_ok.2 ⟨c', mapError_eq_ok.2 hmore, rfl⟩

/-- the menu with these deny patterns on top; what they hide is left out unless hidden meals are asked for -/
def Menu.denying (denied : RuleSet) (includeHidden : Bool) (menu : Menu) : Menu :=
  let meals := menu.meals.map (·.denying denied)
  { menu with meals := if includeHidden then meals else meals.filter (·.classification.visible) }

/-- the answer with these deny patterns on top of every menu -/
def MenuAnswer.denying (denied : RuleSet) (includeHidden : Bool) (answer : MenuAnswer) : MenuAnswer :=
  { answer with menus := answer.menus.map (·.denying denied includeHidden) }

/-- Meals that were hidden before are hidden with more deny patterns as well, so they may be left out first. -/
theorem filter_denying (denied : RuleSet) (meals : List ClassifiedMeal) :
    (meals.map (·.denying denied)).filter (·.classification.visible) =
      ((meals.filter (·.classification.visible)).map (·.denying denied)).filter (·.classification.visible) := by
  rw [List.filter_map, List.filter_map, List.filter_filter]
  congr 1
  refine List.filter_congr fun c _ => ?_
  simp only [Function.comp_apply, ClassifiedMeal.denying]
  cases c.classification.visible <;> simp

theorem menuOf_denying {plan : Plan} {c' : Classifier} (h : Denies denied plan.classifier c') (canteen : Canteen)
    (meals : List Meal) : menuOf { plan with classifier := c' } canteen meals =
      (menuOf plan canteen meals).denying denied plan.includeHidden := by
  unfold menuOf Menu.denying
  simp only [h.classifyAll]
  cases plan.includeHidden with
  | true => rfl
  | false =>
    simp only [Bool.false_eq_true, if_false]
    rw [filter_denying]

variable {around : Surroundings} {plan : Plan} {c' : Classifier}

theorem serve_denying (h : Denies denied plan.classifier c') (targets : List (Canteen × Whole)) (cache : MealCache) :
    (serve settings around { plan with classifier := c' } targets cache).outcome =
      (serve settings around plan targets cache).outcome.map (List.map (·.denying denied plan.includeHidden)) := by
  induction targets generalizing cache with
  | nil => rfl
  | cons target rest ih =>
    obtain ⟨canteen, id⟩ := target
    -- what is fetched does not depend on the classifier
    have hwish : Plan.wish { plan with classifier := c' } settings around id = plan.wish settings around id := rfl
    cases hcollect : (MealCache.collect (plan.wish settings around id) around.sources cache).1 with
    | error failure =>
      rw [serve_cons_of_error hcollect, serve_cons_of_error (hwish ▸ hcollect)]
      rfl
    | ok meals =>
      rw [serve_cons_of_ok hcollect, serve_cons_of_ok (hwish ▸ hcollect)]
      simp only [hwish, ih, menuOf_denying h]
      cases (serve settings around plan rest
        (MealCache.collect (plan.wish settings around id) around.sources cache).2.cache).outcome <;> rfl

/-- **So they do on menus**: the meals that they match are hidden, and nothing else changes. -/
theorem lookup_denying (hboard : ofSettings settings = .ok board) (hdenies : lists.OnlyDenies)
    (hdenied : lists.toRuleSet = .ok denied) (around : Surroundings) (today : Day) (request : MenuRequest) (cache : MealCache) :
    (board.lookup around today { request with filter := some { lists } } cache).outcome =
      (board.lookup around today { request with filter := none } cache).outcome.map
        (·.denying denied request.includeHidden) := by
  obtain ⟨e, hplain, hmore⟩ | ⟨plan, c', hplain, hhidden, hmore, h⟩ := plan_denying hboard hdenies hdenied today request
  · simp only [lookup, hplain, hmore]
    rfl
  · rw [lookup_of_plan hplain, lookup_of_plan hmore, ← hhidden]
    simp only [servePlan]
    split
    · rfl
    · simp only [serve_denying h]
      cases (serve board.settings around plan (available board.settings plan.canteens) cache).outcome <;> rfl

end Denying

/-! ## Rules of a request, in all -/

/-- Joining lists and joining the rule sets that they describe come to the same for every meal, and fail for the same
texts. -/
structure JoinsAlike (a b : RuleLists) : Prop where
  ok_iff : (∃ rules, (a.joined b).toRuleSet = .ok rules) ↔ (∃ r, a.toRuleSet = .ok r) ∧ ∃ s, b.toRuleSet = .ok s
  decides : ∀ r s rules, a.toRuleSet = .ok r → b.toRuleSet = .ok s → (a.joined b).toRuleSet = .ok rules →
    (∀ meal, rules.evaluate meal = (r.joined s).evaluate meal) ∧ rules.hasAllow = (r.joined s).hasAllow ∧
      rules.isEmpty = (r.joined s).isEmpty
  fails : ∀ e, (a.joined b).toRuleSet = .error e → a.toRuleSet = .error e ∨ b.toRuleSet = .error e
  names : a.OnlyInvalid → b.OnlyInvalid → ∀ e, (a.joined b).toRuleSet = .error e → ∃ text reason, e = .invalid text reason

theorem joinsAlike (a b : RuleLists) : JoinsAlike a b where
  ok_iff := (RuleLists.toRuleSet_joined a b Regex.compile).ok_iff
  decides r s rules ha hb hjoined := by
    have hsame := (RuleLists.toRuleSet_joined a b Regex.compile).of_ok ha hb hjoined
    exact ⟨hsame.evaluate_eq, hsame.hasAllow_eq, hsame.isEmpty_eq⟩
  fails e h := (RuleLists.toRuleSet_joined a b Regex.compile).of_error h
  names ha hb e h := by
    rcases (RuleLists.toRuleSet_joined a b Regex.compile).of_error h with hfails | hfails
    · obtain ⟨text, -, hnames⟩ := (RuleLists.faulty_of_toRuleSet hfails).exists_invalid ha
      exact ⟨text, hnames⟩
    · obtain ⟨text, -, hnames⟩ := (RuleLists.faulty_of_toRuleSet hfails).exists_invalid hb
      exact ⟨text, hnames⟩

/-- **The rules of a request.** Joined lists and joined rule sets come to the same. So a board turns a request down for an
invalid pattern exactly if a list that the request brings is unusable by itself, whatever the meals are, and nothing that
is looked at before the rules is wrong with it. Lists that only deny hide the meals that they match, and no others. -/
theorem overrides_alone {settings : Settings} {board : Board} (hboard : ofSettings settings = .ok board) :
    (∀ a b, JoinsAlike a b) ∧
      (∀ request : ClassifyRequest, OnlyInvalidOverrides request.filter request.favorites →
        ((∃ text reason, board.classify request = .error (.pattern (.invalid text reason))) ↔
          (∃ query, readOptionalPhrase request.phrase = .ok query) ∧ FaultyOverrides request.filter request.favorites)) ∧
      (∀ around today cache, ∀ request : MenuRequest, OnlyInvalidOverrides request.filter request.favorites →
        ((∃ text reason,
            (board.lookup around today request cache).outcome = .error (.pattern (.invalid text reason))) ↔
          (∃ query canteens day, asked board today request.phrase = .ok (query, canteens, day)) ∧
            FaultyOverrides request.filter request.favorites)) ∧
      ∀ lists : RuleLists, lists.OnlyDenies → ∀ denied, lists.toRuleSet = .ok denied →
        (∀ request : ClassifyRequest, board.classify { request with filter := some { lists } } =
          (board.classify { request with filter := none }).map (List.map (·.denying denied))) ∧
        ∀ around today cache, ∀ request : MenuRequest,
          (board.lookup around today { request with filter := some { lists } } cache).outcome =
            (board.lookup around today { request with filter := none } cache).outcome.map
              (·.denying denied request.includeHidden) := by
  refine ⟨joinsAlike, fun request hinvalid => ?_, fun around today cache request hinvalid => ?_,
    fun lists hdenies denied hdenied => ⟨classify_denying hboard hdenies hdenied, fun around today cache request =>
      lookup_denying hboard hdenies hdenied around today request cache⟩⟩
  · constructor
    · rintro ⟨text, reason, h⟩
      obtain ⟨query, hquery, h⟩ := classify_eq_pattern.1 h
      exact ⟨⟨query, hquery⟩, (classifier_invalid_iff hboard hinvalid).1 ⟨text, reason, h⟩⟩
    · rintro ⟨⟨query, hquery⟩, hfaulty⟩
      obtain ⟨text, reason, h⟩ := (@classifier_invalid_iff _ _ query _ _ hboard hinvalid).2 hfaulty
      exact ⟨text, reason, classify_eq_pattern.2 ⟨query, hquery, h⟩⟩
  · constructor
    · rintro ⟨text, reason, h⟩
      obtain ⟨query, canteens, day, hasked, h⟩ := lookup_eq_pattern.1 h
      exact ⟨⟨query, canteens, day, hasked⟩, (classifier_invalid_iff hboard hinvalid).1 ⟨text, reason, h⟩⟩
    · rintro ⟨⟨query, canteens, day, hasked⟩, hfaulty⟩
      obtain ⟨text, reason, h⟩ := (@classifier_invalid_iff _ _ (some query) _ _ hboard hinvalid).2 hfaulty
      exact ⟨text, reason, lookup_eq_pattern.2 ⟨query, canteens, day, hasked, h⟩⟩

/-- a list with a bracket that is not closed -/
def openBracket : Overrides := { lists := { denyCategories := ["("] } }

theorem compileRegex_bracket : (compileRegex "(").map (fun _ => ()) =
    .error (.invalid "(" "missing ), unterminated subpattern at position 0") := by decide +kernel

/-- A bracket that is not closed turns a request without meals down, and fish that is denied is hidden beside the nuts that
were denied before. -/
theorem overrides_alone_bracket : ∃ board, ofSettings { filter := { denyTags := ["Nuts"] } } = .ok board ∧
    OnlyInvalidOverrides (some openBracket) none ∧
    (∃ text reason, board.classify { meals := [], filter := some openBracket } = .error (.pattern (.invalid text reason))) ∧
    RuleLists.OnlyDenies { denyTags := ["Fish"] } ∧
    RuleLists.toRuleSet { denyTags := ["Fish"] } = .ok { deny := [.tag .fish] } ∧
    board.classify { meals := [{ id := 1, name := "Lachs", tags := [.fish] }, { id := 2, name := "Pesto", tags := [.nuts] },
        { id := 3, name := "Reis" }], filter := some { lists := { denyTags := ["Fish"] } } } =
      (board.classify { meals := [{ id := 1, name := "Lachs", tags := [.fish] }, { id := 2, name := "Pesto", tags := [.nuts] },
        { id := 3, name := "Reis" }] }).map (List.map (·.denying { deny := [.tag .fish] })) := by
  have hboard : ofSettings { filter := { denyTags := ["Nuts"] } } =
      .ok { settings := { filter := { denyTags := ["Nuts"] } }, filter := { deny := [.tag .nuts] }, favorites := {} } := rfl
  have hdenies : RuleLists.OnlyDenies { denyTags := ["Fish"] } := ⟨rfl, rfl, rfl⟩
  have hdenied : RuleLists.toRuleSet { denyTags := ["Fish"] } = .ok { deny := [.tag .fish] } := rfl
  have hfaulty := map_eq_error.1 compileRegex_bracket
  have hinvalid : OnlyInvalidOverrides (some openBracket) none := by
    intro overrides hoverrides text htext e he
    obtain rfl := List.mem_singleton.1 hoverrides
    obtain rfl := List.mem_singleton.1 htext
    exact ⟨_, Except.error.inj (he.symm.trans hfaulty)⟩
  obtain ⟨-, hclassify, -, hdenying⟩ := overrides_alone hboard
  refine ⟨_, hboard, hinvalid, (hclassify { meals := [], filter := some openBracket } hinvalid).2 ⟨⟨none, rfl⟩, ?_⟩,
    hdenies, hdenied, (hdenying _ hdenies _ hdenied).1 { meals := _ }⟩
  exact ⟨openBracket, List.mem_singleton_self _, _, .inr ⟨"(", List.mem_singleton_self _, hfaulty⟩⟩

/-- a list with the name of no tag -/
def noTag : Overrides := { lists := { denyTags := ["xyz"] } }

/-- A phrase that cannot be read turns a request down before its rules are looked at. -/
theorem classify_reads_phrase_first : ∃ board, ofSettings {} = .ok board ∧ OnlyInvalidOverrides (some noTag) none ∧
    FaultyOverrides (some noTag) none ∧ ¬ ∃ text reason,
      board.classify { meals := [], phrase := some "moon", filter := some noTag } =
        .error (.pattern (.invalid text reason)) := by
  have hunread : (readOptionalPhrase (some "moon")).toOption.isNone = true := by decide +kernel
  refine ⟨{ settings := {}, filter := {}, favorites := {} }, rfl, ?_, ?_, ?_⟩
  · intro overrides hoverrides text htext
    obtain rfl := List.mem_singleton.1 hoverrides
    cases htext
  · exact ⟨noTag, List.mem_singleton_self _, _, .inl ⟨"xyz", List.mem_singleton_self _, rfl⟩⟩
  · rintro ⟨text, reason, h⟩
    obtain ⟨query, hread, -⟩ := classify_eq_pattern.1 h
    rw [hread] at hunread
    cases hunread

end Board

end MenuBoard
