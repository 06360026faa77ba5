import MenuBoard.Proofs.Phrase.Recognition

/-!
The tokenizer accepts the grammar, and nothing else.

`clausesFrom` commits to the first alternative at every clause. Behind each clause stands nothing or a word that opens
another one, which is what `alternative_readContent` asks for, so the clauses that are spelled are the clauses that
are read (`exists_clausesFrom`), and the other way round (`spellsClauses_of_clausesFrom`). That a phrase spells one
row of clauses at most follows from the two.
-/

namespace MenuBoard.Phrase

open MenuBoard.Text

/-! ## A row of clauses -/

theorem SpellsClauses.exists_cons {contents : List Content} {text : List Char} (h : SpellsClauses contents text) :
    ∃ c cs, text = c :: cs ∧ isWordChar c = true := by
  cases h with
  | last hclause =>
    obtain ⟨c, cs, rfl, hc⟩ := alternative_readContent.starts hclause
    exact ⟨c, _, rfl, hc⟩
  | cons hclause =>
    obtain ⟨c, cs, rfl, hc⟩ := alternative_readContent.starts hclause
    exact ⟨c, _, rfl, hc⟩

theorem SpellsClauses.dropBlanks_eq {contents : List Content} {text : List Char} (h : SpellsClauses contents text) :
    dropBlanks text = text := by
  obtain ⟨c, cs, rfl, hc⟩ := h.exists_cons
  exact dropBlanks_cons (isBlank_of_isWordChar hc) cs

/-- A row of clauses begins with a word that may open a clause. -/
theorem SpellsClauses.firstWord_mem {contents : List Content} {text : List Char} (h : SpellsClauses contents text) :
    firstWord text ∈ openings := by
  cases h with
  | last hclause _ hend => exact alternative_readContent.opens hclause hend
  | cons hclause _ _ hend _ => exact alternative_readContent.opens hclause hend

theorem clausesFrom_nil (start : Nat) : clausesFrom start [] = .ok [] := by
  rw [clausesFrom]
  rfl

theorem clausesFrom_eq_ok {start : Nat} {text rest : List Char} {content : Content} {clauses : List Clause}
    (hread : readContent text = .ok (content, rest))
    (hmore : clausesFrom (start + (text.length - rest.length)) rest = .ok clauses) :
    clausesFrom start text = .ok (⟨content, start, start + (text.length - rest.length)⟩ :: clauses) := by
  have hne : text.isEmpty = false := by
    cases text with
    | nil => exact absurd (readContent_shorter hread) (Nat.not_lt_zero _)
    | cons c text => rfl
  rw [clausesFrom, hne]
  simp only [Bool.false_eq_true, if_false]
  split
  · next stops h =>
    rw [hread] at h
    cases h
  · next content' rest' h =>
    rw [hread] at h
    cases h
    rw [hmore]

/-- A clause is read to the end of a text, with the blanks behind it. -/
theorem readContent_last {content : Content} {clause gap : List Char} (hclause : SpellsClause content clause)
    (hgap : Blank gap) (hend : atWordEnd gap = true) : readContent (clause ++ gap) = .ok (content, []) := by
  have hfollow : firstWord gap ∈ followers := by
    rw [firstWord_of_blank hgap]
    exact List.mem_cons_self
  rw [← dropBlanks_of_blank hgap]
  exact alternative_readContent.complete hclause hend hfollow

theorem exists_clausesFrom {contents : List Content} {text : List Char} (h : SpellsClauses contents text) (start : Nat) :
    ∃ clauses, clausesFrom start text = .ok clauses ∧ clauses.map (·.content) = contents := by
  induction h generalizing start with
  | @last content clause gap hclause hgap hend =>
    exact ⟨_, clausesFrom_eq_ok (readContent_last hclause hgap hend) (clausesFrom_nil _), rfl⟩
  | @cons content clause gap rest contents hclause hne hgap hend hrest ih =>
    have hread : readContent (clause ++ (gap ++ rest)) = .ok (content, rest) := by
      have hfollow : firstWord (gap ++ rest) ∈ followers := by
        rw [firstWord_blank_append hgap]
        exact List.mem_cons_of_mem _ hrest.firstWord_mem
      have hdrop : dropBlanks (gap ++ rest) = rest := by
        rw [dropBlanks_blank_append hgap, hrest.dropBlanks_eq]
      have hcomplete := alternative_readContent.complete hclause hend hfollow
      rwa [hdrop] at hcomplete
    obtain ⟨clauses, hclauses, hcontents⟩ := ih (start + ((clause ++ (gap ++ rest)).length - rest.length))
    exact ⟨_, clausesFrom_eq_ok hread hclauses, by rw [List.map_cons, hcontents]⟩

/-- What is read as a row of clauses is spelled, or there was nothing to read. -/
theorem spellsClauses_of_clausesFrom {start : Nat} {text : List Char} {clauses : List Clause}
    (h : clausesFrom start text = .ok clauses) :
    (text = [] ∧ clauses = []) ∨ SpellsClauses (clauses.map (·.content)) text := by
  fun_induction clausesFrom start text generalizing clauses with
  | case1 start text hempty =>
    obtain rfl := Except.ok.inj h
    exact .inl ⟨List.isEmpty_iff.1 hempty, rfl⟩
  | case2 => cases h
  | case3 => cases h
  | case4 start text hempty content rest hread stop more hmore =>
    rename_i ih
    obtain rfl := Except.ok.inj h
    obtain ⟨head, tail, rfl, hclause, hend, rfl⟩ := alternative_readContent.sound hread
    obtain ⟨gap, htail, hgap⟩ := exists_blank_append_dropBlanks tail
    refine .inr ?_
    rcases ih hmore with ⟨hnil, rfl⟩ | hrest
    · rw [hnil, List.append_nil] at htail
      obtain rfl := htail
      exact .last hclause hgap hend
    · have hne : gap ≠ [] := by
        -- the next clause begins with a word character, and the last one has ended before it
        rintro rfl
        obtain ⟨c, cs, hcons, hc⟩ := hrest.exists_cons
        rw [htail, List.nil_append, hcons] at hend
        simp [atWordEnd, hc] at hend
      rw [htail] at hend ⊢
      exact .cons hclause hne hgap hend hrest

/-! ## Phrases -/

theorem tokenize_eq_ok {phrase : List Char} {clauses : List Clause} : tokenize phrase = .ok clauses ↔
    clausesFrom (phrase.length - (dropBlanks phrase).length) (dropBlanks phrase) = .ok clauses := by
  simp only [tokenize]
  generalize clausesFrom (phrase.length - (dropBlanks phrase).length) (dropBlanks phrase) = read
  cases read <;> simp

theorem spellsPhrase_of_tokenize {phrase : List Char} {clauses : List Clause} (h : tokenize phrase = .ok clauses) :
    SpellsPhrase (clauses.map (·.content)) phrase := by
  obtain ⟨lead, hlead, hblank⟩ := exists_blank_append_dropBlanks phrase
  rcases spellsClauses_of_clausesFrom (tokenize_eq_ok.1 h) with ⟨hnil, rfl⟩ | hspells
  · rw [hnil, List.append_nil] at hlead
    exact .inl ⟨rfl, hlead ▸ hblank⟩
  · exact .inr ⟨lead, _, hlead, hblank, hspells⟩

theorem exists_tokenize {contents : List Content} {phrase : List Char} (h : SpellsPhrase contents phrase) :
    ∃ clauses, tokenize phrase = .ok clauses ∧ clauses.map (·.content) = contents := by
  rcases h with ⟨rfl, hblank⟩ | ⟨lead, body, rfl, hlead, hbody⟩
  · refine ⟨[], tokenize_eq_ok.2 ?_, rfl⟩
    rw [dropBlanks_of_blank hblank]
    exact clausesFrom_nil _
  · have hdrop : dropBlanks (lead ++ body) = body := by rw [dropBlanks_blank_append hlead, hbody.dropBlanks_eq]
    obtain ⟨clauses, hclauses, hcontents⟩ := exists_clausesFrom hbody ((lead ++ body).length - body.length)
    refine ⟨clauses, tokenize_eq_ok.2 ?_, hcontents⟩
    rw [hdrop]
    exact hclauses

theorem blank_nil : Blank [] := fun c hc => by cases hc

theorem SpellsClause.spellsPhrase {content : Content} {text : List Char} (h : SpellsClause content text) :
    SpellsPhrase [content] text := by
  have hrow : SpellsClauses [content] (text ++ []) := .last h blank_nil rfl
  rw [List.append_nil] at hrow
  exact .inr ⟨[], text, rfl, blank_nil, hrow⟩

/-- A phrase spells one row of clauses at most. -/
theorem SpellsPhrase.unique {contents contents' : List Content} {phrase : List Char} (h : SpellsPhrase contents phrase)
    (h' : SpellsPhrase contents' phrase) : contents = contents' := by
  obtain ⟨clauses, hclauses, rfl⟩ := exists_tokenize h
  obtain ⟨clauses', hclauses', rfl⟩ := exists_tokenize h'
  rw [hclauses] at hclauses'
  rw [Except.ok.inj hclauses']

/-- **The tokenizer recognises the grammar.** It returns clauses with some contents exactly if the phrase spells them,
and rejects exactly the phrases that spell nothing; what a phrase spells is unique, and a clause alone is read as that
clause, so no entry of a vocabulary is hidden by an earlier one. -/
theorem tokenize_recognizes_grammar (phrase : List Char) :
    (∀ contents, (∃ clauses, tokenize phrase = .ok clauses ∧ clauses.map (·.content) = contents) ↔
      SpellsPhrase contents phrase) ∧
    ((∃ r, tokenize phrase = .error r) ↔ ∀ contents, ¬ SpellsPhrase contents phrase) ∧
    (∀ contents contents', SpellsPhrase contents phrase → SpellsPhrase contents' phrase → contents = contents') ∧
    ∀ content, SpellsClause content phrase →
      ∃ clauses, tokenize phrase = .ok clauses ∧ clauses.map (·.content) = [content] := by
  refine ⟨fun contents => ⟨?_, exists_tokenize⟩, ⟨?_, ?_⟩, fun _ _ h h' => h.unique h', fun _ h => ?_⟩
  · rintro ⟨clauses, hclauses, rfl⟩
    exact spellsPhrase_of_tokenize hclauses
  · rintro ⟨r, hr⟩ contents h
    obtain ⟨clauses, hclauses, -⟩ := exists_tokenize h
    rw [hr] at hclauses
    cases hclauses
  · intro hnone
    cases h : tokenize phrase with
    | error r => exact ⟨r, rfl⟩
    | ok clauses => exact absurd (spellsPhrase_of_tokenize h) (hnone _)
  · exact exists_tokenize h.spellsPhrase

/-- A name of two words, the first of which is a name too, is read whole. -/
theorem tokenize_schoenauer_strasse :
    SpellsPhrase [.location .schoenauer] "AT\tschönauer  Straße".toList ∧
      SpellsClause (.location .schoenauer) "AT\tschönauer  Straße".toList ∧
      ∃ clauses, tokenize "AT\tschönauer  Straße".toList = .ok clauses ∧
        clauses.map (·.content) = [.location .schoenauer] := by
  have hstreet : SameText "straße".toList "Straße".toList := by decide +kernel
  have hname : canteenNames.Spells .schoenauer "schönauer  Straße".toList :=
    Vocabulary.spells_iff.2 ⟨["schönauer".toList, "straße".toList], by decide +kernel, "schönauer".toList, "  ".toList,
      "Straße".toList, by decide +kernel, by decide +kernel, by decide +kernel, by decide +kernel, hstreet⟩
  have hclause : SpellsClause (.location .schoenauer) "AT\tschönauer  Straße".toList :=
    ⟨"AT".toList, "\t".toList, "schönauer  Straße".toList, by decide +kernel,
      (spells_opener atWord_forms).2 (by decide +kernel), by decide +kernel, by decide +kernel, hname⟩
  have hread := (tokenize_recognizes_grammar _).2.2.2 _ hclause
  exact ⟨((tokenize_recognizes_grammar _).1 _).1 hread, hclause, hread⟩

end MenuBoard.Phrase
