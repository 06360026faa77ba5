import MenuBoard.Proofs.Phrase.Recognition

/-!
Readers take as much as they can.

Where something is spelled, a reader reads it or something longer, whatever stands behind it: `Reaches`. A vocabulary is
read up to the last of the spellings that stand at one place, because an entry is tried before the others only if it is no
part of them (`reaches_readWord`). An opener before its argument keeps this (`Reaches.after`), and so does a choice between
alternatives that begin with different words (`FarAlternative.choice`). So it holds of clauses (`reaches_readContent`).
-/

namespace MenuBoard.Phrase

open MenuBoard.Text MenuBoard.Calendar

/-! ## What is left of a text -/

theorem length_dropBlanks_le_append (front back : List Char) :
    (dropBlanks back).length ≤ (dropBlanks (front ++ back)).length := by
  induction front with
  | nil => exact le_rfl
  | cons c front ih =>
    cases hc : isBlank c with
    | true =>
      have hdrop : dropBlanks (c :: (front ++ back)) = dropBlanks (front ++ back) := by simp [dropBlanks, hc]
      rw [List.cons_append, hdrop]
      exact ih
    | false =>
      have hle := length_dropBlanks back
      rw [List.cons_append, dropBlanks_cons hc]
      simp only [List.length_cons, List.length_append]
      omega

/-- Of two rows of words spelled at the head of one text, the one that goes on with the other leaves no more. -/
theorem length_dropBlanks_le_of_prefix {form other : List (List Char)} {text text' rest rest' : List Char}
    (hform : Lettered form) (hother : Lettered other) (hpart : keys other <+: keys form) (h : SpellsWords form text)
    (h' : SpellsWords other text') (hrest : atWordEnd rest = true) (hrest' : atWordEnd rest' = true)
    (heq : dropBlanks (text ++ rest) = dropBlanks (text' ++ rest')) :
    (dropBlanks rest).length ≤ (dropBlanks rest').length := by
  induction other generalizing form text text' with
  | nil =>
    obtain rfl : text' = [] := h'
    rw [List.nil_append] at heq
    rw [← heq]
    exact length_dropBlanks_le_append text rest
  | cons word' other ih =>
    cases form with
    | nil => exact absurd (List.eq_nil_of_prefix_nil hpart) (List.cons_ne_nil _ _)
    | cons word form =>
      obtain ⟨-, tail, tail', htail, htail', hdrop⟩ := h.uncons_both hform hother h' hrest hrest' heq
      have hmore : keys other <+: keys form := (List.cons_prefix_cons.1 hpart).2
      exact ih hform.tail hother.tail hmore htail htail' hdrop

theorem exists_findSome?_of_pairwise {α β : Type} {R : α → α → Prop} {f : α → Option β} {l : List α} {x : α} {y : β}
    (hl : l.Pairwise R) (hx : x ∈ l) (hy : f x = some y) :
    ∃ x' ∈ l, ∃ y', l.findSome? f = some y' ∧ f x' = some y' ∧ (x' = x ∨ R x' x) := by
  induction l with
  | nil => cases hx
  | cons z l ih =>
    rw [List.pairwise_cons] at hl
    rw [List.findSome?_cons]
    cases hz : f z with
    | some y' =>
      refine ⟨z, List.mem_cons_self, y', rfl, hz, ?_⟩
      rcases List.mem_cons.1 hx with rfl | hmem
      · exact .inl rfl
      · exact .inr (hl.1 x hmem)
    | none =>
      have hmem : x ∈ l := by
        rcases List.mem_cons.1 hx with rfl | hmem
        · rw [hz] at hy
          cases hy
        · exact hmem
      obtain ⟨x', hx', y', hfind, hfx', hfirst⟩ := ih hl.2 hmem
      exact ⟨x', List.mem_cons_of_mem z hx', y', hfind, hfx', hfirst⟩

/-! ## Readers -/

/-- Where something is spelled, up to a place where a word may end, a reader reads something that leaves no more. -/
def Reaches {α : Type} (reader : List Char → Reading α) (Spells : α → List Char → Prop) : Prop :=
  ∀ ⦃head tail a⦄, Spells a head → atWordEnd tail = true →
    ∃ b rest, reader (head ++ tail) = .ok (b, rest) ∧ rest.length ≤ (dropBlanks tail).length

theorem reaches_readWord {α : Type} {v : Vocabulary α} (hv : WellOrdered (v.forms.map Prod.fst)) (name : String) :
    Reaches (readWord v name) v.Spells := by
  intro head tail a h hend
  obtain ⟨form, hmem, hwords⟩ := Vocabulary.spells_iff.1 h
  have hlet : ∀ e ∈ v.forms, Lettered e.1 := fun e he => (hv.lettered e.1 (List.mem_map_of_mem he)).2
  obtain ⟨first, hfirst, ⟨b, rest⟩, hfind, hread, hle⟩ := exists_findSome?_of_pairwise
    (List.pairwise_map.1 hv.unshadowed) hmem ((matchForm?_eq_some hmem).2 ⟨head, tail, rfl, hwords, hend, rfl, rfl⟩)
  refine ⟨b, rest, readWord_eq_ok.2 ((Vocabulary.match?_eq_findSome? v _).trans hfind), ?_⟩
  obtain ⟨head', tail', heq, hwords', hend', -, rfl⟩ := (matchForm?_eq_some hfirst).1 hread
  have hsame : dropBlanks (head' ++ tail') = dropBlanks (head ++ tail) := congrArg dropBlanks heq.symm
  rcases hle with rfl | ⟨hnopart, -⟩
  · exact length_dropBlanks_le_of_prefix (hlet _ hmem) (hlet _ hmem) (List.prefix_refl _) hwords' hwords hend' hend hsame
  · -- the entry tried before is no part of the one that is spelled, so it goes on with it
    rcases prefix_of_spellsWords (hlet first hfirst) (hlet _ hmem) hwords' hwords hend' hend hsame with hpart | hlonger
    · exact absurd hpart hnopart
    · exact length_dropBlanks_le_of_prefix (hlet first hfirst) (hlet _ hmem)
        ((List.prefix_append _ _).trans hlonger) hwords' hwords hend' hend hsame

theorem Reaches.after {α : Type} {opener : Keyword} {word : List Char} {argument : List Char → Reading α}
    {Spells : α → List Char → Prop} (h : Reaches argument Spells) (hforms : opener.forms = [[word]])
    (hstarts : ∀ {head a}, Spells a head → ∃ c cs, head = c :: cs ∧ isWordChar c = true) :
    Reaches (readAfter opener argument) (fun a => SpellsAfter opener (Spells a)) := by
  rintro head tail a ⟨first, gap, arg, rfl, hfirst, hne, hgap, hspells⟩ hend
  unfold readAfter
  rw [match?_before_argument hforms hfirst hne hgap (hstarts hspells)]
  exact h hspells hend

/-! ## Days -/

theorem reaches_readDate : Reaches readDate SpellsDate := by
  rintro head tail choice (hword | ⟨day, rfl, hday⟩ | hweekday) hend
  · obtain ⟨b, rest, hread, hle⟩ := reaches_readWord dateWords_wellOrdered "" hword hend
    exact ⟨b, rest, readDate_of_word (readWord_eq_ok.1 hread), hle⟩
  · exact ⟨.explicit day, dropBlanks tail, readDate_of_day hday hend, le_rfl⟩
  · rw [readDate_of_weekday hweekday hend]
    exact reaches_readWord weekdayNames_wellOrdered _ hweekday hend

/-! ## Clauses -/

section Choice

variable {α β : Type} {reader : List Char → Reading α} {Spells : α → List Char → Prop} {words : List (List Nat)}

theorem Reaches.map (h : Reaches reader Spells) (f : α → β) :
    Reaches (fun text => Reading.map f (reader text)) (fun b text => ∃ a, f a = b ∧ Spells a text) := by
  rintro head tail b ⟨a, rfl, hspells⟩ hend
  obtain ⟨a', rest, hread, hle⟩ := h hspells hend
  exact ⟨f a', rest, Reading.map_eq_ok.2 ⟨a', hread, rfl⟩, hle⟩

/-- an alternative that reads at least as far as it is spelled -/
structure FarAlternative (reader : List Char → Reading α) (Spells : α → List Char → Prop)
    (words : List (List Nat)) : Prop extends Alternative reader Spells words where
  reaches : Reaches reader Spells

theorem FarAlternative.map (h : FarAlternative reader Spells words) (f : α → β) :
    FarAlternative (fun text => Reading.map f (reader text)) (fun b text => ∃ a, f a = b ∧ Spells a text) words :=
  { h.toAlternative.map f with reaches := h.reaches.map f }

theorem farAlternative_none : FarAlternative (firstOf ([] : List (List Char → Reading α))) (fun _ _ => False) [] :=
  { alternative_none with reaches := fun _ _ _ h => h.elim }

/-- A choice reads as far as one of its alternatives is spelled, if they begin with different words. -/
theorem FarAlternative.choice {others : List (List Char → Reading α)} {Others : α → List Char → Prop}
    {more : List (List Nat)} (h : FarAlternative reader Spells words)
    (hothers : FarAlternative (firstOf others) Others more) (hdiff : ∀ word ∈ words, word ∉ more) :
    FarAlternative (firstOf (reader :: others)) (fun a text => Spells a text ∨ Others a text) (words ++ more) where
  toAlternative := h.toAlternative.choice hothers.toAlternative hdiff
  reaches := by
    rintro head tail a (hspells | hspells) hend
    · obtain ⟨b, rest, hread, hle⟩ := h.reaches hspells hend
      exact ⟨b, rest, firstOf_of_first hread, hle⟩
    · obtain ⟨b, rest, hread, hle⟩ := hothers.reaches hspells hend
      exact ⟨b, rest, h.firstOf_of_others hothers.opens hdiff hspells hend hread, hle⟩

end Choice

/-- An opener of one word is a far-reading alternative if its argument reads far. -/
theorem farAlternative_readAfter {α : Type} {opener : Keyword} {word : List Char} {argument : List Char → Reading α}
    {Spells : α → List Char → Prop} (hforms : opener.forms = [[word]]) (hword : Lettered [word])
    (h : Recognizes argument Spells) (hreaches : Reaches argument Spells) :
    FarAlternative (readAfter opener argument) (fun a => SpellsAfter opener (Spells a)) [word.map caseKey] :=
  { alternative_readAfter hforms hword h with reaches := hreaches.after hforms h.starts }

/-- **Where a clause is spelled, one is read that reaches at least as far**, whatever stands behind it. -/
theorem reaches_readContent : Reaches readContent SpellsClause := by
  have hdistinct := openings_nodup
  rw [openings_eq, List.nodup_append, List.nodup_append, List.nodup_append] at hdistinct
  obtain ⟨-, ⟨-, ⟨-, -, hon⟩, hno⟩, hat⟩ := hdistinct
  have hlocation := farAlternative_readAfter atWord_forms (by decide +kernel)
    (recognizes_readWord canteenNames_wellOrdered canteenNames.name) (reaches_readWord canteenNames_wellOrdered _)
  have hexclude := farAlternative_readAfter noWord_forms (by decide +kernel)
    (recognizes_readWord excludeNames_wellOrdered excludeNames.name) (reaches_readWord excludeNames_wellOrdered _)
  have hdate := farAlternative_readAfter onWord_forms (by decide +kernel) recognizes_readDate reaches_readDate
  have hdiet : FarAlternative (readWord restrictionNames restrictionNames.name) restrictionNames.Spells dietWords :=
    { recognizes_readWord restrictionNames_wellOrdered _ with
      opens := opensWith_vocabulary restrictionNames_wellOrdered
      reaches := reaches_readWord restrictionNames_wellOrdered _ }
  -- from the last alternative to the first, each before those that the order puts behind it
  have h1 := (hdiet.map Content.restriction).choice farAlternative_none (by simp)
  have h2 := (hdate.map Content.date).choice h1 fun word hword hmem => hon word hword word hmem rfl
  have h3 := (hexclude.map Content.exclude).choice h2 fun word hword hmem => hno word hword word hmem rfl
  have h4 := (hlocation.map Content.location).choice h3 fun word hword hmem => hat word hword word hmem rfl
  rw [spellsClause_eq]
  exact h4.reaches

end MenuBoard.Phrase
