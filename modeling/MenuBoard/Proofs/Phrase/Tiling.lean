import MenuBoard.Proofs.Except
import MenuBoard.Proofs.Phrase.Tokenize

/-!
Where clauses stand in a phrase.

Clauses lie side by side. The first one begins with the first character that is no blank, each other one where the one before
it ends, and the last one ends with the phrase (`Tiles`). And clauses are local: what a clause takes is read by itself as this
clause and nothing else (`Clause.StandsAlone`), so that no alternative and no end of a word looks at what stands beyond it.

`exists_part_of_readContent` says this of one clause, `tiles_of_clausesFrom` of a row of them by induction on the reading,
and `tokenize_tiles` of a phrase.
-/

namespace MenuBoard.Phrase

open MenuBoard.Text

/-- the offset of the first character that is neither a space nor a tab, the length of the text if there is none -/
def firstNonBlank (text : List Char) : Nat := text.findIdx fun c => !isBlank c

/-- the part of a phrase that a clause takes -/
def Clause.part (c : Clause) (phrase : List Char) : List Char := (phrase.take c.stop).drop c.start

/-- A clause takes a part of the phrase that begins with no blank, and this part is read by itself as the same clause, which
takes all of it. -/
structure Clause.StandsAlone (phrase : List Char) (c : Clause) : Prop where
  advances : c.start < c.stop
  within : c.stop ≤ phrase.length
  begins : ∃ first rest, c.part phrase = first :: rest ∧ isBlank first = false
  alone : tokenize (c.part phrase) = .ok [⟨c.content, 0, (c.part phrase).length⟩]

/-- Clauses take a phrase from an offset to its end, side by side, with blanks at the end of each but the last. -/
structure Tiles (start : Nat) (phrase : List Char) (clauses : List Clause) : Prop where
  first : ∀ c ∈ clauses.head?, c.start = start
  adjacent : clauses.IsChain fun a b => b.start = a.stop
  last : ∀ c ∈ clauses.getLast?, c.stop = phrase.length
  each : ∀ c ∈ clauses, c.StandsAlone phrase
  apart : ∀ c ∈ clauses.dropLast, ∃ front blank, c.part phrase = front ++ [blank] ∧ isBlank blank = true
  covers : phrase.take start ++ clauses.flatMap (·.part phrase) = phrase

/-! ## Offsets -/

theorem dropBlanks_eq_drop (text : List Char) : dropBlanks text = text.drop (firstNonBlank text) :=
  List.dropWhile_eq_drop_findIdx_not

theorem firstNonBlank_eq (text : List Char) : text.length - (dropBlanks text).length = firstNonBlank text := by
  have hle : firstNonBlank text ≤ text.length := List.findIdx_le_length
  rw [dropBlanks_eq_drop, List.length_drop]
  omega

theorem Clause.part_between (content : Content) (front part rest : List Char) :
    Clause.part ⟨content, front.length, (front ++ part).length⟩ (front ++ (part ++ rest)) = part := by
  unfold Clause.part
  rw [← List.append_assoc, List.take_left, List.drop_left]

/-! ## One clause -/

theorem tokenize_part {content : Content} {clause gap : List Char} (hclause : SpellsClause content clause)
    (hgap : Blank gap) (hend : atWordEnd gap = true) :
    tokenize (clause ++ gap) = .ok [⟨content, 0, (clause ++ gap).length⟩] := by
  have hbegin : dropBlanks (clause ++ gap) = clause ++ gap := (SpellsClauses.last hclause hgap hend).dropBlanks_eq
  rw [tokenize_eq_ok, hbegin, Nat.sub_self]
  simpa using @clausesFrom_eq_ok 0 _ _ _ _ (readContent_last hclause hgap hend) (clausesFrom_nil _)

/-- **Reading a clause looks at nothing beyond it.** It takes a part of the text that begins with no blank and is read by
itself as the same clause, and if more clauses follow then the part ends with a blank. -/
theorem exists_part_of_readContent {text rest : List Char} {content : Content} (h : readContent text = .ok (content, rest)) :
    ∃ part, text = part ++ rest ∧ (∃ first more, part = first :: more ∧ isBlank first = false) ∧
      tokenize part = .ok [⟨content, 0, part.length⟩] ∧
      ((∃ c cs, rest = c :: cs ∧ isWordChar c = true) → ∃ front blank, part = front ++ [blank] ∧ isBlank blank = true) := by
  obtain ⟨clause, tail, rfl, hclause, hend, rfl⟩ := alternative_readContent.sound h
  obtain ⟨gap, htail, hgap⟩ := exists_blank_append_dropBlanks tail
  obtain ⟨first, more, hfirst, hword⟩ := alternative_readContent.starts hclause
  have hgapend : atWordEnd gap = true := by
    rw [htail] at hend
    cases gap with
    | nil => rfl
    | cons c gap => exact hend
  refine ⟨clause ++ gap, ?_, ⟨first, more ++ gap, ?_, isBlank_of_isWordChar hword⟩, tokenize_part hclause hgap hgapend, ?_⟩
  · rw [List.append_assoc, ← htail]
  · rw [hfirst, List.cons_append]
  · rintro ⟨c, cs, hrest, hc⟩
    have hne : gap ≠ [] := by
      -- otherwise the clause would go on into the next word
      rintro rfl
      rw [htail, List.nil_append, hrest] at hend
      simp [atWordEnd, hc] at hend
    obtain ⟨front, blank, rfl⟩ := (List.eq_nil_or_concat gap).resolve_left hne
    exact ⟨clause ++ front, blank, by simp, hgap blank (by simp)⟩

/-! ## A row of clauses -/

section Row

variable {front part rest : List Char} {content : Content} {clauses : List Clause}

theorem tiles_nil (phrase : List Char) : Tiles phrase.length phrase [] where
  first := by simp
  adjacent := List.isChain_nil
  last := by simp
  each := by simp
  apart := by simp
  covers := by simp

theorem standsAlone_between (hbegins : ∃ first more, part = first :: more ∧ isBlank first = false)
    (halone : tokenize part = .ok [⟨content, 0, part.length⟩]) :
    Clause.StandsAlone (front ++ (part ++ rest)) ⟨content, front.length, (front ++ part).length⟩ where
  advances := by
    obtain ⟨first, more, rfl, -⟩ := hbegins
    simp
  within := by simp
  begins := by rwa [Clause.part_between]
  alone := by rwa [Clause.part_between]

theorem Tiles.cons (hbegins : ∃ first more, part = first :: more ∧ isBlank first = false)
    (halone : tokenize part = .ok [⟨content, 0, part.length⟩])
    (hends : clauses ≠ [] → ∃ front blank, part = front ++ [blank] ∧ isBlank blank = true)
    (hlast : clauses = [] → rest = [])
    (h : Tiles (front ++ part).length (front ++ (part ++ rest)) clauses) :
    Tiles front.length (front ++ (part ++ rest)) (⟨content, front.length, (front ++ part).length⟩ :: clauses) where
  first c hc := by
    obtain rfl := Option.some.inj hc
    rfl
  adjacent := List.isChain_cons.2 ⟨h.first, h.adjacent⟩
  last c hc := by
    cases clauses with
    | nil =>
      obtain rfl := Option.some.inj hc
      simp [hlast rfl]
    | cons next more => exact h.last c (by rwa [List.getLast?_cons_cons] at hc)
  each c hc := by
    rcases List.mem_cons.1 hc with rfl | hc
    · exact standsAlone_between hbegins halone
    · exact h.each c hc
  apart c hc := by
    cases clauses with
    | nil => cases hc
    | cons next more =>
      rw [List.dropLast_cons_cons] at hc
      rcases List.mem_cons.1 hc with rfl | hc
      · rw [Clause.part_between]
        exact hends (List.cons_ne_nil next more)
      · exact h.apart c hc
  covers := by
    have hcovers := h.covers
    have htake : (front ++ (part ++ rest)).take (front ++ part).length = front ++ part := by
      rw [← List.append_assoc, List.take_left]
    rw [htake, List.append_assoc] at hcovers
    rw [List.flatMap_cons, Clause.part_between, List.take_left]
    exact hcovers

/-- **Clauses that are read lie side by side**, whatever stands before the text that they are read from. -/
theorem tiles_of_clausesFrom {front text : List Char} (h : clausesFrom front.length text = .ok clauses) :
    Tiles front.length (front ++ text) clauses := by
  generalize hstart : front.length = start at h
  fun_induction clausesFrom start text generalizing front clauses with
  | case1 start text hempty =>
    obtain rfl := Except.ok.inj h
    rw [List.isEmpty_iff.1 hempty, List.append_nil, ← hstart]
    exact tiles_nil front
  | case2 => cases h
  | case3 => cases h
  | case4 start text hempty content rest hread stop more hmore =>
    rename_i ih
    obtain rfl := Except.ok.inj h
    obtain ⟨part, rfl, hbegins, halone, hends⟩ := exists_part_of_readContent hread
    have hstop : (front ++ part).length = stop := by
      simp only [stop, List.length_append, hstart]
      omega
    have hlater := ih hstop hmore
    rw [List.append_assoc, ← hstop] at hlater
    rw [← hstart, ← hstop]
    refine Tiles.cons hbegins halone (fun hne => hends ?_) (fun hnil => ?_) hlater
    · -- the next clause begins with a word character
      rcases spellsClauses_of_clausesFrom hmore with ⟨-, hnil⟩ | hrow
      · exact absurd hnil hne
      · exact hrow.exists_cons
    · rcases spellsClauses_of_clausesFrom hmore with ⟨hrest, -⟩ | hrow
      · exact hrest
      · rw [hnil] at hrow
        cases hrow

end Row

/-! ## A phrase -/

/-- A phrase is read behind the blanks that it begins with. -/
theorem clausesFrom_of_tokenize {phrase : List Char} {clauses : List Clause} (h : tokenize phrase = .ok clauses) :
    ∃ lead, phrase = lead ++ dropBlanks phrase ∧ lead.length = firstNonBlank phrase ∧
      clausesFrom lead.length (dropBlanks phrase) = .ok clauses := by
  obtain ⟨lead, hlead, -⟩ := exists_blank_append_dropBlanks phrase
  have hlength : lead.length = firstNonBlank phrase := by
    have hsum := congrArg List.length hlead
    rw [List.length_append] at hsum
    rw [← firstNonBlank_eq]
    omega
  have hread := tokenize_eq_ok.1 h
  rw [firstNonBlank_eq, ← hlength] at hread
  exact ⟨lead, hlead, hlength, hread⟩

/-- **The clauses of a phrase tile it and are local.** They lie side by side from the first character that is no blank to the
end of the phrase, each takes at least one character, begins with no blank and, if another one follows, ends with one, and
what a clause takes is read by itself as this clause alone. -/
theorem tokenize_tiles {phrase : List Char} {clauses : List Clause} (h : tokenize phrase = .ok clauses) :
    Tiles (firstNonBlank phrase) phrase clauses := by
  obtain ⟨lead, hlead, hlength, hread⟩ := clausesFrom_of_tokenize h
  have htiles := tiles_of_clausesFrom hread
  rwa [← hlead, hlength] at htiles

/-- Three clauses, each with the blanks behind it; the second one is a name of two words, the first of which is a name too. -/
theorem tiles_schoenauer_strasse : ∃ clauses, tokenize " vegan \tat SCHÖNAUER  straße on sun".toList = .ok clauses ∧
    clauses.map (fun c => (c.start, c.stop)) = [(1, 8), (8, 29), (29, 35)] ∧
    Tiles (firstNonBlank " vegan \tat SCHÖNAUER  straße on sun".toList) " vegan \tat SCHÖNAUER  straße on sun".toList clauses := by
  have hread : (tokenize " vegan \tat SCHÖNAUER  straße on sun".toList).map (·.map fun c => (c.start, c.stop)) =
      .ok [(1, 8), (8, 29), (29, 35)] := by decide +kernel
  obtain ⟨clauses, hclauses, hplaces⟩ := map_eq_ok.1 hread
  exact ⟨clauses, hclauses, hplaces, tokenize_tiles hclauses⟩

end MenuBoard.Phrase
