import MenuBoard.Board.Basic
import MenuBoard.Proofs.Except
import MenuBoard.Proofs.Phrase.Tokenize

/-!
The diet of a phrase, from its clauses to the meals that are shown.

`Suits` says what the clauses of a phrase ask of a meal's tags, without a query and without rules. The fold over the
clauses keeps every ingredient to leave out and the last diet (`contains_ofClauses`, `restriction_ofClauses`), the
rules of the query decide as `Suits` does (`rules_evaluate`), and it makes no difference that rules without a pattern
are left out (`restrictions_all`).
-/

namespace MenuBoard

open MenuBoard.Phrase MenuBoard.Rule

/-! ## What clauses ask for -/

/-- the tag of meals that have the ingredient -/
def Exclude.tag : Exclude → Tag
  | .pig => .pig
  | .fish => .fish
  | .alcohol => .alcohol

/-- the diet that a clause names -/
def Phrase.Content.diet? : Content → Option Restriction
  | .restriction diet => some diet
  | _ => none

/-- the last diet that the clauses name -/
def lastDiet (contents : List Content) : Option Restriction := (contents.filterMap Content.diet?).getLast?

/-- meals with these tags may be eaten on the diet -/
def KeepsDiet : Option Restriction → List Tag → Prop
  | some .vegan, tags => .vegan ∈ tags
  | some .vegetarian, tags => .vegetarian ∈ tags ∨ .vegan ∈ tags
  | some .flexible, _ => True
  | none, _ => True

/-- meals with these tags are what clauses with these contents ask for -/
structure Suits (contents : List Content) (tags : List Tag) : Prop where
  excludes : ∀ ingredient, .exclude ingredient ∈ contents → ingredient.tag ∉ tags
  diet : KeepsDiet (lastDiet contents) tags

/-! ## The query of a row of clauses -/

namespace Query

theorem contains_add {acc : Query × List Notice} {clause : Clause} {ingredient : Exclude} :
    (add acc clause).1.excludes.contains ingredient = true ↔
      acc.1.excludes.contains ingredient = true ∨ .exclude ingredient = clause.content := by
  obtain ⟨q, notices⟩ := acc
  obtain ⟨content, start, stop⟩ := clause
  cases content with
  | location canteen => cases h : q.location <;> simp [add, h]
  | date choice => cases h : q.date <;> simp [add, h]
  | exclude other =>
    have hinsert : (add (q, notices) ⟨.exclude other, start, stop⟩).1.excludes = q.excludes.insert other := rfl
    rw [hinsert, Excludes.contains_insert, Bool.or_eq_true, beq_iff_eq, Content.exclude.injEq, or_comm,
      eq_comm (a := other)]
  | restriction diet => simp [add]

theorem contains_foldl_add {clauses : List Clause} {acc : Query × List Notice} {ingredient : Exclude} :
    (clauses.foldl add acc).1.excludes.contains ingredient = true ↔
      acc.1.excludes.contains ingredient = true ∨ .exclude ingredient ∈ clauses.map (·.content) := by
  induction clauses generalizing acc with
  | nil => simp
  | cons clause clauses ih => rw [List.foldl_cons, ih, contains_add, List.map_cons, List.mem_cons, or_assoc]

theorem contains_ofClauses {clauses : List Clause} {ingredient : Exclude} :
    (ofClauses clauses).1.excludes.contains ingredient = true ↔ .exclude ingredient ∈ clauses.map (·.content) := by
  have hempty : ({} : Query).excludes.contains ingredient = false := Excludes.contains_empty ingredient
  unfold ofClauses
  rw [contains_foldl_add, hempty]
  simp

theorem lastDiet_cons (content : Content) (contents : List Content) :
    lastDiet (content :: contents) = (lastDiet contents).or content.diet? := by
  unfold lastDiet
  cases h : content.diet? with
  | none => rw [List.filterMap_cons_none h, Option.or_none]
  | some diet =>
    rw [List.filterMap_cons_some h, List.getLast?_cons]
    cases (contents.filterMap Content.diet?).getLast? <;> rfl

theorem restriction_add {acc : Query × List Notice} {clause : Clause} :
    (add acc clause).1.restriction = clause.content.diet?.or acc.1.restriction := by
  obtain ⟨q, notices⟩ := acc
  obtain ⟨content, start, stop⟩ := clause
  cases content with
  | location canteen => cases h : q.location <;> simp [add, h, Content.diet?]
  | date choice => cases h : q.date <;> simp [add, h, Content.diet?]
  | exclude other => simp [add, Content.diet?]
  | restriction diet => simp [add, Content.diet?]

theorem restriction_foldl_add {clauses : List Clause} {acc : Query × List Notice} :
    (clauses.foldl add acc).1.restriction = (lastDiet (clauses.map (·.content))).or acc.1.restriction := by
  induction clauses generalizing acc with
  | nil => rfl
  | cons clause clauses ih => rw [List.foldl_cons, ih, restriction_add, List.map_cons, lastDiet_cons, Option.or_assoc]

/-- The last diet counts. -/
theorem restriction_ofClauses {clauses : List Clause} :
    (ofClauses clauses).1.restriction = lastDiet (clauses.map (·.content)) := by
  unfold ofClauses
  rw [restriction_foldl_add]
  exact Option.or_none

/-! ## The rules of a query -/

theorem excludedTags_eq (ingredient : Exclude) : excludedTags ingredient = [ingredient.tag] := by cases ingredient <;> rfl

theorem any_holds_tag {tags : List Tag} {meal : Meal} :
    (tags.map Pattern.tag).any (·.holds meal) = true ↔ ∃ t ∈ tags, t ∈ meal.tags := by
  simp [Pattern.holds]

/-- Required tags decide as the diet does. -/
theorem keepsDiet_iff {diet : Option Restriction} {tags : List Tag} :
    KeepsDiet diet tags ↔ (diet.map requiredTags).getD [] = [] ∨ ∃ t ∈ (diet.map requiredTags).getD [], t ∈ tags := by
  rcases diet with _ | _ | _ | _ <;> simp [KeepsDiet, requiredTags]

/-- The rules of a query let a meal pass if it has none of the ingredients and keeps the diet. -/
theorem rules_evaluate {q : Query} {meal : Meal} : q.rules.evaluate meal = true ↔
    (∀ ingredient, q.excludes.contains ingredient = true → ingredient.tag ∉ meal.tags) ∧
      KeepsDiet q.restriction meal.tags := by
  have hdeny : q.rules.deny.any (·.holds meal) = true ↔
      ∃ ingredient, q.excludes.contains ingredient = true ∧ ingredient.tag ∈ meal.tags := by
    simp [rules, Pattern.holds, excludedTags_eq]
  have hallow : (q.rules.allow.isEmpty || q.rules.allow.any (·.holds meal)) = true ↔
      KeepsDiet q.restriction meal.tags := by
    rw [keepsDiet_iff, Bool.or_eq_true, List.isEmpty_iff]
    refine or_congr List.map_eq_nil_iff any_holds_tag
  unfold RuleSet.evaluate
  rw [Bool.and_eq_true, hallow, Bool.not_eq_true', ← Bool.not_eq_true, hdeny, and_comm]
  simp

theorem rules_evaluate_ofClauses {clauses : List Clause} {meal : Meal} :
    (ofClauses clauses).1.rules.evaluate meal = true ↔ Suits (clauses.map (·.content)) meal.tags := by
  rw [rules_evaluate, restriction_ofClauses]
  constructor
  · rintro ⟨hexcludes, hdiet⟩
    exact ⟨fun ingredient hmem => hexcludes ingredient (contains_ofClauses.2 hmem), hdiet⟩
  · rintro ⟨hexcludes, hdiet⟩
    exact ⟨fun ingredient hmem => hexcludes ingredient (contains_ofClauses.1 hmem), hdiet⟩

end Query

namespace Board

/-! ## The classifier of a request -/

theorem rules_of_ofSettings {settings : Settings} {compile : Compiler} {board : Board}
    (h : ofSettings settings compile = .ok board) : settings.filter.toRuleSet compile = .ok board.filter ∧
      settings.favorites.toRuleSet compile = .ok board.favorites ∧ board.settings = settings ∧ board.compile = compile := by
  obtain ⟨filter, hfilter, h⟩ := bind_eq_ok.1 h
  obtain ⟨favorites, hfavorites, h⟩ := bind_eq_ok.1 h
  obtain rfl := Except.ok.inj h
  exact ⟨hfilter, hfavorites, rfl, rfl⟩

theorem effectiveRules_eq {compile : Compiler} {configured : RuleSet} {lists : RuleLists}
    (h : lists.toRuleSet compile = .ok configured) (overrides : Option Overrides) :
    effectiveRules compile configured lists overrides = (lists.withOverrides overrides).toRuleSet compile := by
  cases overrides with
  | none => exact h.symm
  | some overrides => rfl

theorem restrictions_of_classifier {board : Board} {query : Option Query} {filter favorites : Option Overrides}
    {c : Classifier} (h : board.classifier query filter favorites = .ok c) : c.restrictions = restrictions query := by
  obtain ⟨rules, hrules, h⟩ := bind_eq_ok.1 h
  obtain ⟨favored, hfavored, h⟩ := bind_eq_ok.1 h
  obtain rfl := Except.ok.inj h
  rfl

/-- It makes no difference that rules without a pattern are left out. -/
theorem restrictions_all (q : Query) (meal : Meal) :
    (restrictions (some q)).all (·.evaluate meal) = q.rules.evaluate meal := by
  by_cases hempty : q.rules.isEmpty = true
  · have hrules : restrictions (some q) = [] := if_pos hempty
    unfold RuleSet.isEmpty at hempty
    rw [Bool.and_eq_true, List.isEmpty_iff, List.isEmpty_iff] at hempty
    rw [hrules]
    simp [RuleSet.evaluate, hempty.1, hempty.2]
  · have hrules : restrictions (some q) = [q.rules] := if_neg hempty
    rw [hrules, List.all_cons, List.all_nil, Bool.and_true]

/-- A phrase that is read, or missing, is worth its clauses to the meals. -/
theorem exists_readOptionalPhrase {phrase : Option String} {clauses : List Clause}
    (h : tokenize (phrase.getD "").toList = .ok clauses) : ∃ query, readOptionalPhrase phrase = .ok query ∧
      ∀ meal, (restrictions query).all (·.evaluate meal) = true ↔ Suits (clauses.map (·.content)) meal.tags := by
  have hnothing : ∀ meal : Meal, (restrictions none).all (·.evaluate meal) = true ↔ Suits [] meal.tags :=
    fun meal => ⟨fun _ => ⟨fun _ hmem => (List.not_mem_nil hmem).elim, trivial⟩, fun _ => rfl⟩
  have hread : readPhrase (phrase.getD "") = .ok (Query.ofClauses clauses) := by
    unfold readPhrase Query.parse
    rw [h]
    rfl
  have hempty : tokenize "".toList = .ok [] := tokenize_eq_ok.2 (clausesFrom_nil _)
  cases phrase with
  | none =>
    obtain rfl := Except.ok.inj (hempty.symm.trans h)
    exact ⟨none, rfl, hnothing⟩
  | some phrase =>
    cases hphrase : phrase.isEmpty with
    | true =>
      obtain rfl := String.isEmpty_iff.1 hphrase
      obtain rfl := Except.ok.inj (hempty.symm.trans h)
      exact ⟨none, rfl, hnothing⟩
    | false =>
      refine ⟨some (Query.ofClauses clauses).1, ?_, fun meal => ?_⟩
      · change readPhrase phrase = _ at hread
        simp only [readOptionalPhrase, hphrase, hread]
        rfl
      · rw [restrictions_all]
        exact Query.rules_evaluate_ofClauses

/-- **Diets are honoured exactly.** A board that could be made classifies the meals of every request whose phrase and
rules are usable, in their order, and shows those that the effective filter lets pass and that suit the phrase. -/
theorem classify_visible_iff_suits {settings : Settings} {board : Board} {request : ClassifyRequest}
    {clauses : List Clause} {filter favorites : RuleSet} (hboard : ofSettings settings = .ok board)
    (hphrase : tokenize (request.phrase.getD "").toList = .ok clauses)
    (hfilter : (settings.filter.withOverrides request.filter).toRuleSet = .ok filter)
    (hfavorites : (settings.favorites.withOverrides request.favorites).toRuleSet = .ok favorites) :
    ∃ classified, board.classify request = .ok classified ∧ classified.map (·.meal) = request.meals ∧
      ∀ c ∈ classified, c.classification.visible = true ↔
        filter.evaluate c.meal = true ∧ Suits (clauses.map (·.content)) c.meal.tags := by
  obtain ⟨hconfigured, hfavored, rfl, hcompile⟩ := rules_of_ofSettings hboard
  obtain ⟨query, hquery, hsuits⟩ := exists_readOptionalPhrase hphrase
  have hclassifier : board.classifier query request.filter request.favorites =
      .ok { filter, favorites, restrictions := restrictions query } := by
    unfold classifier
    rw [hcompile, effectiveRules_eq hconfigured, effectiveRules_eq hfavored, hfilter, hfavorites]
    rfl
  refine ⟨Classifier.classifyAll { filter, favorites, restrictions := restrictions query } request.meals, ?_, ?_, ?_⟩
  · exact bind_eq_ok.2 ⟨query, hquery, bind_eq_ok.2 ⟨_, mapError_eq_ok.2 hclassifier, rfl⟩⟩
  · simp [Classifier.classifyAll, Function.comp_def]
  · intro c hc
    obtain ⟨meal, -, rfl⟩ := List.mem_map.1 hc
    rw [← hsuits]
    exact Bool.and_eq_true_iff

/-- The later diet replaces the earlier one, the ingredient stays left out, and lists of the request replace those of
the settings. -/
theorem classify_curry_and_schnitzel :
    ∃ board, ofSettings { filter := { denyTags := ["Nuts"] } } = .ok board ∧
      tokenize "vegan no pig veggie".toList =
        .ok [⟨.restriction .vegan, 0, 6⟩, ⟨.exclude .pig, 6, 13⟩, ⟨.restriction .vegetarian, 13, 19⟩] ∧
      ∃ classified, board.classify
          { meals :=
              [{ id := 1, name := "Curry", tags := [.nuts, .vegan] }, { id := 2, name := "Schnitzel", tags := [.pig] }]
            phrase := some "vegan no pig veggie"
            filter := some { lists := { denyTags := ["Egg"] }, overwrite := true } } = .ok classified ∧
        classified.map (·.meal) =
          [{ id := 1, name := "Curry", tags := [.nuts, .vegan] }, { id := 2, name := "Schnitzel", tags := [.pig] }] ∧
        ∀ c ∈ classified, c.classification.visible = true ↔ RuleSet.evaluate { deny := [.tag .egg] } c.meal = true ∧
          Suits [.restriction .vegan, .exclude .pig, .restriction .vegetarian] c.meal.tags := by
  have hboard : ofSettings { filter := { denyTags := ["Nuts"] } } =
      .ok { settings := { filter := { denyTags := ["Nuts"] } }, filter := { deny := [.tag .nuts] }, favorites := {} } := rfl
  have hphrase : tokenize "vegan no pig veggie".toList =
      .ok [⟨.restriction .vegan, 0, 6⟩, ⟨.exclude .pig, 6, 13⟩, ⟨.restriction .vegetarian, 13, 19⟩] := by decide +kernel
  refine ⟨_, hboard, hphrase, ?_⟩
  exact @classify_visible_iff_suits _ _ _
    [⟨.restriction .vegan, 0, 6⟩, ⟨.exclude .pig, 6, 13⟩, ⟨.restriction .vegetarian, 13, 19⟩] _ {} hboard hphrase rfl rfl

end Board

end MenuBoard
