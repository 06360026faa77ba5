import MenuBoard.Board.Lookup
import MenuBoard.Proofs.Query.Merge

/-!
A canteen in front of a phrase.

A phrase with a canteen put in front of it asks for that canteen, and else for what it asked for before
(`readPhrase_within`). So requests that differ in this canteen alone are settled alike: the same day, the same rules, and
the same failures (`plan_within`).
-/

namespace MenuBoard

open MenuBoard.Phrase MenuBoard.Rule MenuBoard.Calendar

/-- the request for the canteens of this name, and for whatever else the phrase asks for -/
def MenuRequest.within (request : MenuRequest) (name : String) : MenuRequest :=
  { request with phrase := "at " ++ name ++ " " ++ request.phrase }

/-! ## A canteen in front of a phrase -/

theorem Query.ofClauses_of_location {all clauses : List Clause} {canteen : Canteen}
    (h : all.map (·.content) = .location canteen :: clauses.map (·.content)) :
    (ofClauses all).1 = { (ofClauses clauses).1 with location := some canteen } := by
  refine ext_parts ?_ ?_ (fun ingredient => ?_) ?_
  · rw [location_ofClauses, h]
    rfl
  · rw [date_ofClauses, h]
    exact date_ofClauses.symm
  · have hmem : .exclude ingredient ∈ all.map (·.content) ↔ .exclude ingredient ∈ clauses.map (·.content) := by
      rw [h]
      simp
    exact Bool.eq_iff_iff.2 (contains_ofClauses.trans (hmem.trans contains_ofClauses.symm))
  · rw [restriction_ofClauses, h, lastDiet_cons]
    exact Option.or_none.trans restriction_ofClauses.symm

theorem spellsClause_at {canteen : Canteen} {name : List Char} (h : canteenNames.Spells canteen name) :
    SpellsClause (.location canteen) ("at".toList ++ ([' '] ++ name)) :=
  ⟨_, _, name, rfl, (spells_opener atWord_forms).2 rfl, List.cons_ne_nil _ _, by decide, h⟩

theorem spells_of_mem_forms {canteen : Canteen} {word : List Char} (h : ([word], canteen) ∈ canteenNames.forms) :
    canteenNames.Spells canteen word := Vocabulary.spells_iff.2 ⟨[word], h, rfl⟩

theorem spells_all : canteenNames.Spells .everywhere "all".toList := spells_of_mem_forms (by decide +kernel)

namespace Board

/-- A phrase with a canteen put in front of it asks for that canteen, and else for the same. -/
theorem readPhrase_within {request : MenuRequest} {query : Query} {notices : List Notice}
    (h : readPhrase request.phrase = .ok (query, notices)) {canteen : Canteen} {name : String}
    (hname : canteenNames.Spells canteen name.toList) :
    ∃ notices', readPhrase (request.within name).phrase = .ok ({ query with location := some canteen }, notices') := by
  obtain ⟨clauses, hclauses, hquery⟩ := map_eq_ok.1 (mapError_eq_ok.1 h)
  obtain rfl : (Query.ofClauses clauses).1 = query := congrArg Prod.fst hquery
  have hphrase : (request.within name).phrase.toList =
      ("at".toList ++ ([' '] ++ name.toList)) ++ ([' '] ++ request.phrase.toList) := by
    simp [MenuRequest.within]
  have hspells : SpellsPhrase (.location canteen :: clauses.map (·.content)) (request.within name).phrase.toList := by
    rw [hphrase]
    exact ((spellsClause_at hname).append (List.cons_ne_nil _ _) (by decide)
      (spellsPhrase_of_tokenize hclauses)).spellsPhrase
  obtain ⟨all, hall, hcontents⟩ := exists_tokenize hspells
  refine ⟨(Query.ofClauses all).2, mapError_eq_ok.2 ?_⟩
  rw [Query.parse_eq_ok hall, ← Query.ofClauses_of_location hcontents]

/-! ## Plans for one canteen or another -/

/-- what is left to settle of a request whose canteens are known: the day and the rules -/
def settle (board : Board) (today : Day) (request : MenuRequest) (query : Query) :
    Except RequestError (Day × Classifier) := do
  let day ← dayOf today query
  let classifier ← (board.classifier query request.filter request.favorites).mapError .pattern
  return (day, classifier)

/-- the plan of a request for a canteen, once day and rules are settled -/
def planFor (request : MenuRequest) (query : Query) (canteen : Canteen) (settled : Day × Classifier) : Plan where
  query := { query with location := some canteen }
  canteens := if canteen.id = .all then Canteen.known else [canteen]
  day := settled.1
  classifier := settled.2
  includeHidden := request.includeHidden

section Plan

variable {board : Board} {today : Day} {request : MenuRequest} {query : Query} {notices : List Notice} {canteen : Canteen}
  {name : String}

theorem plan_within (h : readPhrase request.phrase = .ok (query, notices))
    (hname : canteenNames.Spells canteen name.toList) :
    board.plan today (request.within name) = (settle board today request query).map (planFor request query canteen) := by
  obtain ⟨notices', hread⟩ := readPhrase_within h hname
  have hcanteens : canteensOf board.settings { query with location := some canteen } =
      .ok (if canteen.id = .all then Canteen.known else [canteen]) := rfl
  have hday : dayOf today { query with location := some canteen } = dayOf today query := rfl
  have hrules : board.classifier (some { query with location := some canteen }) request.filter request.favorites =
      board.classifier (some query) request.filter request.favorites := rfl
  unfold plan settle
  rw [hread]
  change (do
    let canteens ← canteensOf board.settings { query with location := some canteen }
    let day ← dayOf today { query with location := some canteen }
    let classifier ← (board.classifier (some { query with location := some canteen }) request.filter
      request.favorites).mapError .pattern
    return (⟨{ query with location := some canteen }, canteens, day, classifier, request.includeHidden⟩ : Plan)) = _
  rw [hcanteens, hday, hrules]
  cases dayOf today query with
  | error error => rfl
  | ok day => cases board.classifier (some query) request.filter request.favorites <;> rfl

end Plan

end Board

end MenuBoard
