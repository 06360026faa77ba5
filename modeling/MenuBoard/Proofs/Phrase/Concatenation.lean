import MenuBoard.Proofs.Phrase.ClauseWords
import MenuBoard.Proofs.Phrase.Tokenize

/-!
Phrases put behind each other.

Two phrases with blanks between them spell what the first spells and then what the second spells
(`SpellsPhrase.append`). The other way round, a phrase that spells something and ends in a phrase of its own has a
phrase before it (`SpellsPhrase.exists_front`): no clause reaches over the blanks between them, because a clause has no
word behind its first one that could open another clause (`SpellsClause.blank_of_cut`).
-/

namespace MenuBoard.Phrase

open MenuBoard.Text

/-! ## Putting phrases together -/

theorem Blank.append {a b : List Char} (ha : Blank a) (hb : Blank b) : Blank (a ++ b) := fun c hc =>
  (List.mem_append.1 hc).elim (ha c) (hb c)

theorem Blank.of_append_left {a b : List Char} (h : Blank (a ++ b)) : Blank a := fun c hc =>
  h c (List.mem_append_left b hc)

theorem atWordEnd_of_blank {gap : List Char} (h : Blank gap) : atWordEnd gap = true := by
  cases gap with
  | nil => rfl
  | cons c gap =>
    have hend := atWordEnd_blank_append h (List.cons_ne_nil c gap) []
    rwa [List.append_nil] at hend

theorem SpellsClauses.spellsPhrase {contents : List Content} {text : List Char} (h : SpellsClauses contents text) :
    SpellsPhrase contents text := .inr ⟨[], text, rfl, blank_nil, h⟩

theorem SpellsClause.append_blank {content : Content} {clause gap : List Char} (h : SpellsClause content clause)
    (hgap : Blank gap) : SpellsClauses [content] (clause ++ gap) := .last h hgap (atWordEnd_of_blank hgap)

theorem SpellsPhrase.blank_append {contents : List Content} {phrase gap : List Char} (hgap : Blank gap)
    (h : SpellsPhrase contents phrase) : SpellsPhrase contents (gap ++ phrase) := by
  rcases h with ⟨rfl, hblank⟩ | ⟨lead, body, rfl, hlead, hbody⟩
  · exact .inl ⟨rfl, hgap.append hblank⟩
  · exact .inr ⟨gap ++ lead, body, (List.append_assoc ..).symm, hgap.append hlead, hbody⟩

theorem SpellsClause.append {content : Content} {contents : List Content} {clause gap phrase : List Char}
    (hclause : SpellsClause content clause) (hne : gap ≠ []) (hgap : Blank gap) (h : SpellsPhrase contents phrase) :
    SpellsClauses (content :: contents) (clause ++ (gap ++ phrase)) := by
  rcases h with ⟨rfl, hblank⟩ | ⟨lead, body, rfl, hlead, hbody⟩
  · exact hclause.append_blank (hgap.append hblank)
  · have hall := hgap.append hlead
    have hallne : gap ++ lead ≠ [] := fun hnil => hne (List.append_eq_nil_iff.1 hnil).1
    rw [← List.append_assoc gap lead body]
    exact .cons hclause hallne hall (atWordEnd_blank_append hall hallne body) hbody

theorem SpellsClauses.append {contents others : List Content} {text gap phrase : List Char}
    (h : SpellsClauses contents text) (hne : gap ≠ []) (hgap : Blank gap) (hphrase : SpellsPhrase others phrase) :
    SpellsClauses (contents ++ others) (text ++ (gap ++ phrase)) := by
  induction h with
  | @last content clause behind hclause hbehind hend =>
    have hallne : behind ++ gap ≠ [] := fun hnil => hne (List.append_eq_nil_iff.1 hnil).2
    rw [List.append_assoc, ← List.append_assoc behind]
    exact hclause.append hallne (hbehind.append hgap) hphrase
  | @cons content clause between rest contents hclause hbetweenne hbetween hend hrest ih =>
    rw [List.append_assoc, List.append_assoc]
    exact hclause.append hbetweenne hbetween ih.spellsPhrase

/-- **Phrases with blanks between them spell what they spell in a row.** -/
theorem SpellsPhrase.append {contents others : List Content} {phrase gap other : List Char}
    (h : SpellsPhrase contents phrase) (hne : gap ≠ []) (hgap : Blank gap) (hother : SpellsPhrase others other) :
    SpellsPhrase (contents ++ others) (phrase ++ (gap ++ other)) := by
  rcases h with ⟨rfl, hblank⟩ | ⟨lead, body, rfl, hlead, hbody⟩
  · rw [← List.append_assoc]
    exact hother.blank_append (hblank.append hgap)
  · rw [List.append_assoc]
    exact (hbody.append hne hgap hother).spellsPhrase.blank_append hlead

/-! ## Taking phrases apart -/

/-- the first word, if there is one, could open a clause -/
def OpensNext (words : List (List Nat)) : Prop := ∀ word ∈ words.head?, word ∈ openings

theorem SpellsClause.opensNext {content : Content} {text : List Char} (h : SpellsClause content text)
    (more : List (List Nat)) : OpensNext (wordKeys text ++ more) := by
  obtain ⟨first, inner, hwords, hfirst, -⟩ := h.opensOnce
  intro word hword
  rw [hwords] at hword
  obtain rfl := Option.some.inj hword
  exact hfirst

/-- A phrase begins with a word that could open a clause, or has no words. -/
theorem SpellsPhrase.opensNext {contents : List Content} {phrase : List Char} (h : SpellsPhrase contents phrase) :
    OpensNext (wordKeys phrase) := by
  rcases h with ⟨-, hblank⟩ | ⟨lead, body, rfl, hlead, hbody⟩
  · rw [wordKeys_of_blank hblank]
    intro word hword
    cases hword
  · rw [wordKeys_blank_append hlead]
    cases hbody with
    | last hclause hgap _ =>
      rw [wordKeys_append_blank hgap, ← List.append_nil (wordKeys _)]
      exact hclause.opensNext []
    | cons hclause hne hgap _ _ =>
      rw [wordKeys_append hne hgap]
      exact hclause.opensNext _

/-- **No clause reaches over blanks into the next one.** If a clause is cut at a blank, and the words from there on
begin with one that could open a clause, then nothing but blanks stands before the cut. -/
theorem SpellsClause.blank_of_cut {content : Content} {front back : List Char} {c : Char} {more : List (List Nat)}
    (h : SpellsClause content (front ++ c :: back)) (hc : isBlank c = true)
    (hnext : OpensNext (wordKeys back ++ more)) : Blank front := by
  obtain ⟨first, inner, hwords, -, hinner⟩ := h.opensOnce
  rw [wordKeys_append_cons hc] at hwords
  cases hfront : wordKeys front with
  | nil => exact blank_of_wordKeys_eq_nil hfront
  | cons word others =>
    rw [hfront] at hwords
    obtain ⟨-, hothers⟩ := List.cons.inj hwords
    cases hback : wordKeys back with
    | nil =>
      -- then the clause would end in blanks
      have hblank : Blank (c :: back) := by
        refine Blank.append (a := [c]) (fun d hd => ?_) (blank_of_wordKeys_eq_nil hback)
        rwa [List.mem_singleton.1 hd]
      exact absurd hblank (h.endsInWord.not_blank (List.cons_ne_nil c back))
    | cons next further =>
      rw [hback] at hnext hothers
      have hmem : next ∈ inner := hothers ▸ List.mem_append_right others List.mem_cons_self
      exact absurd (hnext next rfl) (hinner next hmem)

/-- What stands before a cut at the end of a clause, or inside it, is a phrase. -/
theorem SpellsClause.exists_front {content : Content} {front back : List Char} (more : List (List Nat))
    (h : SpellsClause content (front ++ back))
    (hback : ∀ c rest, back = c :: rest → isBlank c = true ∧ OpensNext (wordKeys rest ++ more)) :
    ∃ others, SpellsPhrase others front := by
  cases back with
  | nil =>
    rw [List.append_nil] at h
    exact ⟨[content], h.spellsPhrase⟩
  | cons c rest =>
    obtain ⟨hc, hnext⟩ := hback c rest rfl
    exact ⟨[], .inl ⟨rfl, h.blank_of_cut hc hnext⟩⟩

theorem SpellsClauses.exists_front {contents : List Content} {text front back : List Char} {c : Char}
    (h : SpellsClauses contents text) (hc : isBlank c = true) (hnext : OpensNext (wordKeys back))
    (htext : text = front ++ c :: back) : ∃ others, SpellsPhrase others front := by
  induction h generalizing front with
  | @last content clause gap hclause hgap hend =>
    rcases List.append_eq_append_iff.1 htext with ⟨behind, rfl, rfl⟩ | ⟨inside, rfl, hcut⟩
    · exact ⟨_, (hclause.append_blank hgap.of_append_left).spellsPhrase⟩
    · refine hclause.exists_front [] fun d rest hrest => ?_
      rw [hrest] at hcut
      obtain ⟨rfl, rfl⟩ := List.cons.inj hcut
      rw [List.append_eq, wordKeys_append_blank hgap] at hnext
      rw [List.append_nil]
      exact ⟨hc, hnext⟩
  | @cons content clause gap rest contents hclause hne hgap hend hrest ih =>
    rcases List.append_eq_append_iff.1 htext with ⟨behind, rfl, hbehind⟩ | ⟨inside, rfl, hcut⟩
    · rcases List.append_eq_append_iff.1 hbehind with ⟨further, rfl, hfurther⟩ | ⟨gap', rfl, -⟩
      · -- the cut lies among the other clauses
        obtain ⟨others, hothers⟩ := ih hfurther
        exact ⟨_, (hclause.append hne hgap hothers).spellsPhrase⟩
      · exact ⟨_, (hclause.append_blank hgap.of_append_left).spellsPhrase⟩
    · refine hclause.exists_front (wordKeys rest) fun d back' hback' => ?_
      rw [hback'] at hcut
      obtain ⟨rfl, rfl⟩ := List.cons.inj hcut
      rw [List.append_eq, wordKeys_append hne hgap] at hnext
      exact ⟨hc, hnext⟩

/-- **Before a phrase stands a phrase**, if the whole is one and blanks stand between them. -/
theorem SpellsPhrase.exists_front {contents others : List Content} {front gap phrase : List Char}
    (h : SpellsPhrase contents (front ++ (gap ++ phrase))) (hne : gap ≠ []) (hgap : Blank gap)
    (hphrase : SpellsPhrase others phrase) : ∃ before, SpellsPhrase before front := by
  obtain ⟨c, gap, rfl⟩ := List.exists_cons_of_ne_nil hne
  have hnext : OpensNext (wordKeys (gap ++ phrase)) := by
    rw [wordKeys_blank_append fun d hd => hgap d (List.mem_cons_of_mem c hd)]
    exact hphrase.opensNext
  rcases h with ⟨-, hblank⟩ | ⟨lead, body, heq, hlead, hbody⟩
  · exact ⟨[], .inl ⟨rfl, hblank.of_append_left⟩⟩
  · rcases List.append_eq_append_iff.1 heq with ⟨more, rfl, -⟩ | ⟨front, rfl, hcut⟩
    · exact ⟨[], .inl ⟨rfl, hlead.of_append_left⟩⟩
    · obtain ⟨before, hbefore⟩ := hbody.exists_front (hgap c List.mem_cons_self) hnext hcut
      exact ⟨before, hbefore.blank_append hlead⟩

end MenuBoard.Phrase
