import MenuBoard.Proofs.Query.Merge

/-!
The order of clauses.

Phrases of one clause each, joined by blanks, are read as the clauses that they are (`spellsPhrase_join`). Of each kind
the query keeps the first or the last clause, or all of them without their order, so it is the same for every order
that changes nothing within the kinds of which it keeps one (`parse_join_perm`).
-/

namespace MenuBoard

open MenuBoard.Phrase MenuBoard.Calendar MenuBoard.Text

/-- the content of a phrase that is one clause -/
def clauseOf? (phrase : List Char) : Option Content :=
  match tokenize phrase with
  | .ok [clause] => some clause.content
  | _ => none

/-- the phrase is one clause, of this kind -/
def IsOfKind (kind : String) (phrase : List Char) : Prop := (clauseOf? phrase).map Content.kindName = some kind

instance (kind : String) (phrase : List Char) : Decidable (IsOfKind kind phrase) :=
  inferInstanceAs (Decidable ((clauseOf? phrase).map Content.kindName = some kind))

theorem clauseOf?_eq_some {phrase : List Char} {content : Content} :
    clauseOf? phrase = some content ↔ ∃ clause, tokenize phrase = .ok [clause] ∧ clause.content = content := by
  unfold clauseOf?
  constructor
  · intro h
    split at h
    · next clause hclause => exact ⟨clause, hclause, Option.some.inj h⟩
    · cases h
  · rintro ⟨clause, hclause, rfl⟩
    rw [hclause]

/-! ## Joined phrases -/

/-- **Joined phrases spell their clauses in a row.** -/
theorem spellsPhrase_join {phrases : List (List Char)} (h : ∀ phrase ∈ phrases, ∃ clause, tokenize phrase = .ok [clause]) :
    SpellsPhrase (phrases.filterMap clauseOf?) ([' '].intercalate phrases) := by
  induction phrases with
  | nil => exact .inl ⟨rfl, blank_nil⟩
  | cons phrase phrases ih =>
    obtain ⟨clause, hclause⟩ := h phrase List.mem_cons_self
    have hfirst : SpellsPhrase [clause.content] phrase := spellsPhrase_of_tokenize hclause
    have hothers := ih fun other hother => h other (List.mem_cons_of_mem phrase hother)
    rw [List.filterMap_cons_some (clauseOf?_eq_some.2 ⟨clause, hclause, rfl⟩)]
    cases phrases with
    | nil =>
      rw [List.intercalate_singleton]
      exact hfirst
    | cons next phrases =>
      rw [List.intercalate_cons_cons, List.append_assoc]
      exact hfirst.append (List.cons_ne_nil _ _) (by decide) hothers

theorem exists_tokenize_join {phrases : List (List Char)}
    (h : ∀ phrase ∈ phrases, ∃ clause, tokenize phrase = .ok [clause]) :
    ∃ clauses, tokenize ([' '].intercalate phrases) = .ok clauses ∧
      clauses.map (·.content) = phrases.filterMap clauseOf? := exists_tokenize (spellsPhrase_join h)

/-! ## Kinds -/

theorem filterMap_ofKind {β : Type} {named : Content → Option β} {kind : String}
    (hnamed : ∀ content b, named content = some b → content.kindName = kind) (phrases : List (List Char)) :
    (phrases.filterMap clauseOf?).filterMap named =
      ((phrases.filter (IsOfKind kind)).filterMap clauseOf?).filterMap named := by
  rw [List.filterMap_filterMap, List.filterMap_filterMap, List.filterMap_filter]
  refine List.filterMap_congr fun phrase _ => ?_
  split
  · rfl
  · next hother =>
    -- a phrase of another kind names nothing
    cases hclause : clauseOf? phrase with
    | none => rfl
    | some content =>
      cases hnames : named content with
      | none => simpa using hnames
      | some b =>
        refine absurd ?_ hother
        have hkind : (clauseOf? phrase).map Content.kindName = some kind := by
          rw [hclause, Option.map_some, hnamed content b hnames]
        exact decide_eq_true hkind

theorem kindName_of_location? (content : Content) (canteen : Canteen) (h : content.location? = some canteen) :
    content.kindName = "location" := by
  cases content <;> cases h
  rfl

theorem kindName_of_date? (content : Content) (choice : DateChoice) (h : content.date? = some choice) :
    content.kindName = "date" := by
  cases content <;> cases h
  rfl

theorem kindName_of_diet? (content : Content) (diet : Restriction) (h : content.diet? = some diet) :
    content.kindName = "restriction" := by
  cases content <;> cases h
  rfl

namespace Query

/-- Phrases that agree in each kind of which one clause counts, and have the same members, ask for the same. -/
theorem ofClauses_eq_of_kinds {phrases phrases' : List (List Char)}
    (hmem : ∀ phrase, phrase ∈ phrases' ↔ phrase ∈ phrases)
    (hordered : ∀ kind ∈ ["location", "date", "restriction"],
      phrases'.filter (IsOfKind kind) = phrases.filter (IsOfKind kind)) {clauses clauses' : List Clause}
    (hclauses : clauses.map (·.content) = phrases.filterMap clauseOf?)
    (hclauses' : clauses'.map (·.content) = phrases'.filterMap clauseOf?) :
    (ofClauses clauses').1 = (ofClauses clauses).1 := by
  have hkind : ∀ {β : Type} {named : Content → Option β} {kind : String}, kind ∈ ["location", "date", "restriction"] →
      (∀ content b, named content = some b → content.kindName = kind) →
      (clauses'.map (·.content)).filterMap named = (clauses.map (·.content)).filterMap named := by
    intro β named kind hin hnamed
    rw [hclauses', filterMap_ofKind hnamed, hordered kind hin, ← filterMap_ofKind hnamed, hclauses]
  have hlocation := hkind (by decide) kindName_of_location?
  have hdate := hkind (by decide) kindName_of_date?
  have hdiet := hkind (by decide) kindName_of_diet?
  refine ofClauses_congr (congrArg List.head? hlocation) (congrArg List.head? hdate) (fun ingredient => ?_)
    (congrArg List.getLast? hdiet)
  rw [hclauses, hclauses', List.mem_filterMap, List.mem_filterMap]
  simp only [hmem]

/-- **The order of clauses matters only within a kind.** Phrases of one clause each are joined by blanks. They may be
put into any order that leaves canteens, days and diets in the order among themselves, and clauses that leave out an
ingredient may be repeated: both orders are read, and ask for the same. -/
theorem parse_join_perm {phrases repeated phrases' : List (List Char)}
    (hone : ∀ phrase ∈ phrases, ∃ clause, tokenize phrase = .ok [clause])
    (hrepeated : ∀ phrase ∈ repeated, phrase ∈ phrases ∧ IsOfKind "exclude" phrase)
    (hperm : phrases'.Perm (phrases ++ repeated))
    (hordered : ∀ kind ∈ ["location", "date", "restriction"],
      phrases'.filter (IsOfKind kind) = phrases.filter (IsOfKind kind)) :
    ∃ first second, parse ([' '].intercalate phrases) = .ok first ∧ parse ([' '].intercalate phrases') = .ok second ∧
      first.1 = second.1 := by
  have hmem : ∀ phrase, phrase ∈ phrases' ↔ phrase ∈ phrases := by
    intro phrase
    rw [hperm.mem_iff, List.mem_append]
    exact or_iff_left_of_imp fun h => (hrepeated phrase h).1
  obtain ⟨clauses, htokens, hclauses⟩ := exists_tokenize_join hone
  obtain ⟨clauses', htokens', hclauses'⟩ := exists_tokenize_join fun phrase hphrase => hone phrase ((hmem phrase).1 hphrase)
  refine ⟨_, _, parse_eq_ok htokens, parse_eq_ok htokens', ?_⟩
  exact (ofClauses_eq_of_kinds hmem hordered hclauses hclauses').symm

/-- a phrase for each clause of an order, as a guest may write them -/
def wishes : List (List Char) :=
  ["at mensa am park".toList, "no fish".toList, "vegan".toList, "on monday".toList, "at all".toList, "no pig".toList,
    " veggie	".toList]

/-- the same wishes in another order, the fish left out twice -/
def wishesAgain : List (List Char) :=
  ["no fish".toList, "vegan".toList, "no pig".toList, "at mensa am park".toList, "no fish".toList, " veggie	".toList,
    "at all".toList, "on monday".toList]

/-- Two canteens and two diets keep their order, and everything else moves. -/
theorem parse_wishes_again :
    (∀ phrase ∈ wishes, ∃ clause, tokenize phrase = .ok [clause]) ∧
      (∀ phrase ∈ ["no fish".toList], phrase ∈ wishes ∧ IsOfKind "exclude" phrase) ∧
      wishesAgain.Perm (wishes ++ ["no fish".toList]) ∧
      (∀ kind ∈ ["location", "date", "restriction"],
        wishesAgain.filter (IsOfKind kind) = wishes.filter (IsOfKind kind)) ∧
      ∃ first second, parse ([' '].intercalate wishes) = .ok first ∧ parse ([' '].intercalate wishesAgain) = .ok second ∧
        first.1 = second.1 := by
  have hone : ∀ phrase ∈ wishes, ∃ clause, tokenize phrase = .ok [clause] := by
    have hsome : ∀ phrase ∈ wishes, (clauseOf? phrase).isSome = true := by decide +kernel
    intro phrase hphrase
    obtain ⟨content, hcontent⟩ := Option.isSome_iff_exists.1 (hsome phrase hphrase)
    obtain ⟨clause, hclause, -⟩ := clauseOf?_eq_some.1 hcontent
    exact ⟨clause, hclause⟩
  have hrepeated : ∀ phrase ∈ ["no fish".toList], phrase ∈ wishes ∧ IsOfKind "exclude" phrase := by decide +kernel
  have hperm : wishesAgain.Perm (wishes ++ ["no fish".toList]) := by decide +kernel
  have hordered : ∀ kind ∈ ["location", "date", "restriction"],
      wishesAgain.filter (IsOfKind kind) = wishes.filter (IsOfKind kind) := by decide +kernel
  exact ⟨hone, hrepeated, hperm, hordered, parse_join_perm hone hrepeated hperm hordered⟩

end Query

end MenuBoard
