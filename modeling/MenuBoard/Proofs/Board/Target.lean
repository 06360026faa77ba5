import MenuBoard.Proofs.Board.Everywhere

/-!
Whom a request can come to.

A phrase names canteens of the table only (`location_of_readPhrase`), so a settled request is for canteens of the table
or for the configured one (`mem_askable_of_plan`).
-/

namespace MenuBoard

open MenuBoard.Phrase MenuBoard.Calendar

/-! ## Canteens that a phrase can name -/

theorem canteenNames_table : ∀ entry ∈ canteenNames.entries, entry.2 ∈ Canteen.known ++ [.everywhere] := by
  decide +kernel

theorem Phrase.Vocabulary.Spells.mem_table {canteen : Canteen} {text : List Char} (h : canteenNames.Spells canteen text) :
    canteen ∈ Canteen.known ++ [.everywhere] := by
  obtain ⟨keyword, hentry, -⟩ := h
  exact canteenNames_table _ hentry

theorem Phrase.SpellsClause.mem_table {canteen : Canteen} {text : List Char} (h : SpellsClause (.location canteen) text) :
    canteen ∈ Canteen.known ++ [.everywhere] := by
  obtain ⟨-, -, tail, -, -, -, -, hname⟩ := h
  exact hname.mem_table

theorem Phrase.SpellsClauses.mem_table {contents : List Content} {text : List Char} (h : SpellsClauses contents text)
    {canteen : Canteen} (hmem : .location canteen ∈ contents) : canteen ∈ Canteen.known ++ [.everywhere] := by
  induction h with
  | last hclause _ _ =>
    rw [← List.mem_singleton.1 hmem] at hclause
    exact hclause.mem_table
  | cons hclause _ _ _ _ ih =>
    rcases List.mem_cons.1 hmem with rfl | hmem
    · exact hclause.mem_table
    · exact ih hmem

/-- The canteen of a row of clauses is one that a clause of the row names. -/
theorem mem_of_firstLocation {contents : List Content} {canteen : Canteen} (h : firstLocation contents = some canteen) :
    .location canteen ∈ contents := by
  obtain ⟨content, hmem, hcontent⟩ := List.mem_filterMap.1 (List.mem_of_mem_head? h)
  cases content with
  | location other =>
    obtain rfl := Option.some.inj hcontent
    exact hmem
  | exclude _ | date _ | restriction _ => cases hcontent

namespace Board

/-- A phrase names a canteen of the table, or all of them. -/
theorem location_of_readPhrase {phrase : String} {query : Query} {notices : List Notice}
    (h : readPhrase phrase = .ok (query, notices)) {canteen : Canteen} (hlocation : query.location = some canteen) :
    canteen ∈ Canteen.known ++ [.everywhere] := by
  obtain ⟨clauses, hclauses, hquery⟩ := map_eq_ok.1 (mapError_eq_ok.1 h)
  obtain rfl : (Query.ofClauses clauses).1 = query := congrArg Prod.fst hquery
  rw [Query.location_ofClauses] at hlocation
  have hmem := mem_of_firstLocation hlocation
  rcases spellsPhrase_of_tokenize hclauses with ⟨hnone, -⟩ | ⟨lead, body, -, -, hspells⟩
  · rw [hnone] at hmem
    cases hmem
  · exact hspells.mem_table hmem

/-! ## Canteens that a request can come to -/

/-- the canteens of the table, and the configured one -/
def askable (settings : Settings) : List Canteen := Canteen.known ++ (settings.defaultCanteen.map defaultCanteen).toList

theorem single_of_mem_table {canteen : Canteen} (h : canteen ∈ Canteen.known ++ [.everywhere]) (hsingle : canteen.id ≠ .all) :
    canteen ∈ Canteen.known := by
  rcases List.mem_append.1 h with hknown | hall
  · exact hknown
  · rw [List.mem_singleton.1 hall] at hsingle
    exact absurd rfl hsingle

theorem mem_askable_of_canteensOf {settings : Settings} {query : Query} {canteens : List Canteen}
    (hlocation : ∀ canteen, query.location = some canteen → canteen ∈ Canteen.known ++ [.everywhere])
    (h : canteensOf settings query = .ok canteens) {canteen : Canteen} (hmem : canteen ∈ canteens) :
    canteen ∈ askable settings := by
  unfold canteensOf at h
  split at h
  · cases h
  · next chosen hchosen =>
    obtain rfl := Except.ok.inj h
    split at hmem
    · exact List.mem_append_left _ hmem
    · next hsingle =>
      obtain rfl := List.mem_singleton.1 hmem
      rcases Option.or_eq_some_iff.1 hchosen with hnamed | ⟨-, hdefault⟩
      · exact List.mem_append_left _ (single_of_mem_table (hlocation _ hnamed) hsingle)
      · exact List.mem_append_right _ (Option.mem_toList.2 hdefault)

/-- Canteens and day of a plan are those that its phrase asks for. -/
theorem exists_query_of_plan {board : Board} {today : Day} {request : MenuRequest} {plan : Plan}
    (h : board.plan today request = .ok plan) : ∃ query notices, readPhrase request.phrase = .ok (query, notices) ∧
      canteensOf board.settings query = .ok plan.canteens ∧ dayOf today query = .ok plan.day := by
  obtain ⟨⟨query, notices⟩, hread, h⟩ := bind_eq_ok.1 h
  obtain ⟨canteens, hcanteens, h⟩ := bind_eq_ok.1 h
  obtain ⟨day, hday, h⟩ := bind_eq_ok.1 h
  obtain ⟨classifier, hclassifier, h⟩ := bind_eq_ok.1 h
  obtain rfl := Except.ok.inj h
  exact ⟨query, notices, hread, hcanteens, hday⟩

/-- **A settled request is for canteens of the table or for the configured one.** -/
theorem mem_askable_of_plan {board : Board} {today : Day} {request : MenuRequest} {plan : Plan}
    (h : board.plan today request = .ok plan) {canteen : Canteen} (hmem : canteen ∈ plan.canteens) :
    canteen ∈ askable board.settings := by
  obtain ⟨query, notices, hread, hcanteens, -⟩ := exists_query_of_plan h
  exact mem_askable_of_canteensOf (fun canteen => location_of_readPhrase hread) hcanteens hmem

theorem available_subset {settings : Settings} {canteens others : List Canteen} (h : canteens ⊆ others) :
    available settings canteens ⊆ available settings others := by
  rintro ⟨canteen, id⟩ hmem
  obtain ⟨hcanteen, hid⟩ := mem_available.1 hmem
  exact mem_available.2 ⟨h hcanteen, hid⟩

end Board

end MenuBoard
