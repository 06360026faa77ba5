import MenuBoard.Proofs.Board.Diet
import MenuBoard.Proofs.Phrase.Concatenation

/-!
Reading a phrase as merging what its parts ask for.

The query of a row of clauses has the first canteen and the first day that they name, every ingredient to leave out,
and the last diet (`location_ofClauses`, `date_ofClauses`, `contains_ofClauses`, `restriction_ofClauses`), so it depends
on the contents of the clauses alone (`ofClauses_congr`). `merge` puts two queries together by the same rules. With the
results on phrases put behind each other this makes reading a homomorphism (`parse_append_eq_merge`).
-/

namespace MenuBoard

open MenuBoard.Phrase MenuBoard.Calendar MenuBoard.Text

/-- the canteen that a clause names -/
def Phrase.Content.location? : Content → Option Canteen
  | .location canteen => some canteen
  | _ => none

/-- the day that a clause names -/
def Phrase.Content.date? : Content → Option DateChoice
  | .date choice => some choice
  | _ => none

/-- the first canteen that the clauses name -/
def firstLocation (contents : List Content) : Option Canteen := (contents.filterMap Content.location?).head?

/-- the first day that the clauses name -/
def firstDate (contents : List Content) : Option DateChoice := (contents.filterMap Content.date?).head?

namespace Query

/-! ## The parts of a query -/

theorem head?_filterMap_cons {α β : Type} (f : α → Option β) (a : α) (l : List α) :
    ((a :: l).filterMap f).head? = (f a).or (l.filterMap f).head? := by
  cases h : f a with
  | none => rw [List.filterMap_cons_none h, Option.none_or]
  | some b => rw [List.filterMap_cons_some h, List.head?_cons, Option.some_or]

theorem location_add {acc : Query × List Notice} {clause : Clause} :
    (add acc clause).1.location = acc.1.location.or clause.content.location? := by
  obtain ⟨q, notices⟩ := acc
  obtain ⟨content, start, stop⟩ := clause
  cases content with
  | location canteen => cases h : q.location <;> simp [add, h, Content.location?]
  | date choice => cases h : q.date <;> simp [add, h, Content.location?]
  | exclude ingredient => simp [add, Content.location?]
  | restriction diet => simp [add, Content.location?]

theorem date_add {acc : Query × List Notice} {clause : Clause} :
    (add acc clause).1.date = acc.1.date.or clause.content.date? := by
  obtain ⟨q, notices⟩ := acc
  obtain ⟨content, start, stop⟩ := clause
  cases content with
  | location canteen => cases h : q.location <;> simp [add, h, Content.date?]
  | date choice => cases h : q.date <;> simp [add, h, Content.date?]
  | exclude ingredient => simp [add, Content.date?]
  | restriction diet => simp [add, Content.date?]

/-- A part of the query that is filled once is what the first clause that names it names. -/
theorem foldl_add_first {β : Type} (part : Query → Option β) (named : Content → Option β)
    (hadd : ∀ acc clause, part (add acc clause).1 = (part acc.1).or (named clause.content)) (clauses : List Clause)
    (acc : Query × List Notice) :
    part (clauses.foldl add acc).1 = (part acc.1).or ((clauses.map (·.content)).filterMap named).head? := by
  induction clauses generalizing acc with
  | nil => exact Option.or_none.symm
  | cons clause clauses ih => rw [List.foldl_cons, ih, hadd, List.map_cons, head?_filterMap_cons, Option.or_assoc]

theorem location_ofClauses {clauses : List Clause} :
    (ofClauses clauses).1.location = firstLocation (clauses.map (·.content)) :=
  foldl_add_first Query.location Content.location? (fun _ _ => location_add) clauses ({}, [])

theorem date_ofClauses {clauses : List Clause} :
    (ofClauses clauses).1.date = firstDate (clauses.map (·.content)) :=
  foldl_add_first Query.date Content.date? (fun _ _ => date_add) clauses ({}, [])

theorem ext_parts {q r : Query} (hlocation : q.location = r.location) (hdate : q.date = r.date)
    (hexcludes : ∀ ingredient, q.excludes.contains ingredient = r.excludes.contains ingredient)
    (hrestriction : q.restriction = r.restriction) : q = r := by
  obtain ⟨location, date, excludes, restriction⟩ := q
  obtain rfl : location = r.location := hlocation
  obtain rfl : date = r.date := hdate
  obtain rfl : excludes = r.excludes := Excludes.ext_contains hexcludes
  obtain rfl : restriction = r.restriction := hrestriction
  rfl

/-- Clauses with the same first canteen, first day, ingredients and last diet ask for the same. -/
theorem ofClauses_congr {clauses clauses' : List Clause}
    (hlocation : firstLocation (clauses.map (·.content)) = firstLocation (clauses'.map (·.content)))
    (hdate : firstDate (clauses.map (·.content)) = firstDate (clauses'.map (·.content)))
    (hexcludes : ∀ ingredient, .exclude ingredient ∈ clauses.map (·.content) ↔
      .exclude ingredient ∈ clauses'.map (·.content))
    (hdiet : lastDiet (clauses.map (·.content)) = lastDiet (clauses'.map (·.content))) :
    (ofClauses clauses).1 = (ofClauses clauses').1 := by
  refine ext_parts ?_ ?_ (fun ingredient => ?_) ?_
  · rw [location_ofClauses, location_ofClauses, hlocation]
  · rw [date_ofClauses, date_ofClauses, hdate]
  · exact Bool.eq_iff_iff.2 (contains_ofClauses.trans ((hexcludes ingredient).trans contains_ofClauses.symm))
  · rw [restriction_ofClauses, restriction_ofClauses, hdiet]

/-! ## Merging -/

/-- what one query and then another ask for: canteen and day of the first that has them, the ingredients of both, and
the diet of the last that has one -/
def merge (q r : Query) : Query where
  location := q.location.or r.location
  date := q.date.or r.date
  excludes := q.excludes.union r.excludes
  restriction := r.restriction.or q.restriction

theorem firstLocation_append (a b : List Content) : firstLocation (a ++ b) = (firstLocation a).or (firstLocation b) := by
  unfold firstLocation
  rw [List.filterMap_append, List.head?_append]

theorem firstDate_append (a b : List Content) : firstDate (a ++ b) = (firstDate a).or (firstDate b) := by
  unfold firstDate
  rw [List.filterMap_append, List.head?_append]

theorem lastDiet_append (a b : List Content) : lastDiet (a ++ b) = (lastDiet b).or (lastDiet a) := by
  unfold lastDiet
  rw [List.filterMap_append, List.getLast?_append]

/-- Clauses in a row ask for what their parts ask for. -/
theorem ofClauses_eq_merge {all before clauses : List Clause}
    (h : all.map (·.content) = before.map (·.content) ++ clauses.map (·.content)) :
    (ofClauses all).1 = (ofClauses before).1.merge (ofClauses clauses).1 := by
  refine ext_parts ?_ ?_ (fun ingredient => ?_) ?_
  · unfold merge
    rw [location_ofClauses, h, firstLocation_append, location_ofClauses, location_ofClauses]
  · unfold merge
    rw [date_ofClauses, h, firstDate_append, date_ofClauses, date_ofClauses]
  · have hunion : ((ofClauses before).1.merge (ofClauses clauses).1).excludes.contains ingredient =
        ((ofClauses before).1.excludes.contains ingredient || (ofClauses clauses).1.excludes.contains ingredient) :=
      Excludes.contains_union _ _ ingredient
    rw [hunion, Bool.eq_iff_iff, Bool.or_eq_true, contains_ofClauses, contains_ofClauses, contains_ofClauses, h,
      List.mem_append]
  · unfold merge
    rw [restriction_ofClauses, h, lastDiet_append, restriction_ofClauses, restriction_ofClauses]

theorem parse_eq_ok {phrase : List Char} {clauses : List Clause} (h : tokenize phrase = .ok clauses) :
    parse phrase = .ok (ofClauses clauses) := by
  unfold parse
  rw [h]
  rfl

/-- **Reading goes through concatenation.** Before a phrase and blanks, a text is a phrase exactly if the whole is one.
The whole then has the clauses of the one and of the other in a row, and asks for what the two ask for. -/
theorem parse_append_eq_merge {front gap phrase : List Char} {clauses : List Clause} (hne : gap ≠ []) (hgap : Blank gap)
    (hphrase : tokenize phrase = .ok clauses) :
    ((∃ all, tokenize (front ++ gap ++ phrase) = .ok all) ↔ ∃ before, tokenize front = .ok before) ∧
      ∀ before, tokenize front = .ok before →
        (∃ all, tokenize (front ++ gap ++ phrase) = .ok all ∧
          all.map (·.content) = before.map (·.content) ++ clauses.map (·.content)) ∧
        ∃ first second whole, parse front = .ok first ∧ parse phrase = .ok second ∧
          parse (front ++ gap ++ phrase) = .ok whole ∧ whole.1 = first.1.merge second.1 := by
  rw [List.append_assoc]
  have hspells := spellsPhrase_of_tokenize hphrase
  have hforward : ∀ before, tokenize front = .ok before → ∃ all, tokenize (front ++ (gap ++ phrase)) = .ok all ∧
      all.map (·.content) = before.map (·.content) ++ clauses.map (·.content) := fun before hbefore =>
    exists_tokenize ((spellsPhrase_of_tokenize hbefore).append hne hgap hspells)
  refine ⟨⟨?_, ?_⟩, fun before hbefore => ⟨hforward before hbefore, ?_⟩⟩
  · rintro ⟨all, hall⟩
    obtain ⟨contents, hfront⟩ := (spellsPhrase_of_tokenize hall).exists_front hne hgap hspells
    obtain ⟨before, hbefore, -⟩ := exists_tokenize hfront
    exact ⟨before, hbefore⟩
  · rintro ⟨before, hbefore⟩
    obtain ⟨all, hall, -⟩ := hforward before hbefore
    exact ⟨all, hall⟩
  · obtain ⟨all, hall, hcontents⟩ := hforward before hbefore
    exact ⟨_, _, _, parse_eq_ok hbefore, parse_eq_ok hphrase, parse_eq_ok hall, ofClauses_eq_merge hcontents⟩

/-- A name of several words at the seam stays whole, the first canteen counts and the last diet does. -/
theorem parse_park_and_more :
    "\t ".toList ≠ [] ∧ Blank "\t ".toList ∧
      tokenize "vegan at all no fish".toList =
        .ok [⟨.restriction .vegan, 0, 6⟩, ⟨.location .everywhere, 6, 13⟩, ⟨.exclude .fish, 13, 20⟩] ∧
      tokenize "veggie at mensa am park".toList = .ok [⟨.restriction .vegetarian, 0, 7⟩, ⟨.location .amPark, 7, 23⟩] ∧
      (∃ all, tokenize ("veggie at mensa am park".toList ++ "\t ".toList ++ "vegan at all no fish".toList) = .ok all ∧
        all.map (·.content) = [.restriction .vegetarian, .location .amPark, .restriction .vegan, .location .everywhere,
          .exclude .fish]) ∧
      ∃ first second whole, parse "veggie at mensa am park".toList = .ok first ∧
        parse "vegan at all no fish".toList = .ok second ∧
        parse ("veggie at mensa am park".toList ++ "\t ".toList ++ "vegan at all no fish".toList) = .ok whole ∧
        whole.1 = first.1.merge second.1 := by
  have hne : "\t ".toList ≠ [] := by decide
  have hgap : Blank "\t ".toList := by decide +kernel
  have hphrase : tokenize "vegan at all no fish".toList =
      .ok [⟨.restriction .vegan, 0, 6⟩, ⟨.location .everywhere, 6, 13⟩, ⟨.exclude .fish, 13, 20⟩] := by decide +kernel
  have hfront : tokenize "veggie at mensa am park".toList =
      .ok [⟨.restriction .vegetarian, 0, 7⟩, ⟨.location .amPark, 7, 23⟩] := by decide +kernel
  obtain ⟨hall, hwhole⟩ := (parse_append_eq_merge hne hgap hphrase).2 _ hfront
  exact ⟨hne, hgap, hphrase, hfront, hall, hwhole⟩

end Query

end MenuBoard
