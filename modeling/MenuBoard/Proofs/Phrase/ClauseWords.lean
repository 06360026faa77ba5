import MenuBoard.Proofs.Phrase.Recognition

/-!
The words of a clause.

`wordKeys` cuts a text at its blanks and forgets the case of the words; it goes through concatenation. The words of a
clause are an opening and further words none of which could open another clause (`SpellsClause.opensOnce`), and its last
character belongs to a word (`SpellsClause.endsInWord`). So the places where clauses begin can be told from the words
of a phrase alone.
-/

namespace MenuBoard.Phrase

open MenuBoard.Text MenuBoard.Calendar

/-! ## The words of a text -/

/-- the words between the blanks of a text, without their case -/
def wordKeys (text : List Char) : List (List Nat) := keys ((pieces isBlank text).filter fun word => !word.isEmpty)

/-- the words between the blanks of a text, as they are typed -/
def typedWords (text : List Char) : List (List Char) := (pieces isBlank text).filter fun word => !word.isEmpty

theorem wordKeys_eq_keys (text : List Char) : wordKeys text = keys (typedWords text) := rfl

theorem typedWords_append_cons {c : Char} (hc : isBlank c = true) (a b : List Char) :
    typedWords (a ++ c :: b) = typedWords a ++ typedWords b := by
  unfold typedWords
  rw [pieces_append_cons hc, List.filter_append]

theorem typedWords_blank_append {gap : List Char} (h : Blank gap) (rest : List Char) :
    typedWords (gap ++ rest) = typedWords rest := by
  induction gap with
  | nil => rfl
  | cons c gap ih =>
    have hcut : typedWords (c :: (gap ++ rest)) = typedWords (gap ++ rest) :=
      typedWords_append_cons (h c List.mem_cons_self) [] (gap ++ rest)
    rw [List.cons_append, hcut, ih fun d hd => h d (List.mem_cons_of_mem c hd)]

/-- Blanks between two texts keep their words apart. -/
theorem typedWords_append {gap : List Char} (hne : gap ≠ []) (h : Blank gap) (a b : List Char) :
    typedWords (a ++ (gap ++ b)) = typedWords a ++ typedWords b := by
  obtain ⟨c, gap, rfl⟩ := List.exists_cons_of_ne_nil hne
  rw [List.cons_append, typedWords_append_cons (h c List.mem_cons_self),
    typedWords_blank_append fun d hd => h d (List.mem_cons_of_mem c hd)]

theorem typedWords_append_blank {gap : List Char} (h : Blank gap) (a : List Char) : typedWords (a ++ gap) = typedWords a := by
  by_cases hne : gap = []
  · rw [hne, List.append_nil]
  · have hcut := typedWords_append hne h a []
    rw [List.append_nil] at hcut
    rw [hcut]
    exact List.append_nil _

/-- What is no blank belongs to a word. -/
theorem exists_mem_typedWords {c : Char} {text : List Char} (hc : isBlank c = false) (h : c ∈ text) :
    ∃ word ∈ typedWords text, c ∈ word := by
  obtain ⟨word, hword, hmem⟩ := exists_mem_pieces hc h
  refine ⟨word, List.mem_filter.2 ⟨hword, ?_⟩, hmem⟩
  simpa using List.ne_nil_of_mem hmem

theorem wordKeys_append_cons {c : Char} (hc : isBlank c = true) (a b : List Char) :
    wordKeys (a ++ c :: b) = wordKeys a ++ wordKeys b := by
  simp only [wordKeys_eq_keys, typedWords_append_cons hc, keys, List.map_append]

theorem wordKeys_blank_append {gap : List Char} (h : Blank gap) (rest : List Char) :
    wordKeys (gap ++ rest) = wordKeys rest := congrArg keys (typedWords_blank_append h rest)

theorem wordKeys_append {gap : List Char} (hne : gap ≠ []) (h : Blank gap) (a b : List Char) :
    wordKeys (a ++ (gap ++ b)) = wordKeys a ++ wordKeys b := by
  simp only [wordKeys_eq_keys, typedWords_append hne h, keys, List.map_append]

theorem wordKeys_of_blank {gap : List Char} (h : Blank gap) : wordKeys gap = [] := by
  have hcut := wordKeys_blank_append h []
  rw [List.append_nil] at hcut
  exact hcut

theorem wordKeys_append_blank {gap : List Char} (h : Blank gap) (a : List Char) : wordKeys (a ++ gap) = wordKeys a :=
  congrArg keys (typedWords_append_blank h a)

/-- A text without blanks is one word. -/
theorem wordKeys_eq_singleton {word : List Char} (hne : word ≠ []) (h : ∀ c ∈ word, isBlank c = false) :
    wordKeys word = [word.map caseKey] := by
  have hkept : [word].filter (fun word => !word.isEmpty) = [word] := by simp [hne]
  unfold wordKeys
  rw [pieces_eq_singleton h, hkept]
  rfl

/-- A text without words is blank. -/
theorem blank_of_wordKeys_eq_nil {text : List Char} (h : wordKeys text = []) : Blank text := by
  induction text with
  | nil => exact fun c hc => absurd hc List.not_mem_nil
  | cons c text ih =>
    cases hc : isBlank c with
    | true =>
      have hcut : wordKeys (c :: text) = wordKeys text := wordKeys_append_cons hc [] text
      rw [hcut] at h
      intro d hd
      rcases List.mem_cons.1 hd with rfl | hd
      · exact hc
      · exact ih h d hd
    | false =>
      -- the first piece holds the character
      obtain ⟨word, more, hpieces⟩ := List.exists_cons_of_ne_nil (pieces_ne_nil isBlank text)
      simp [wordKeys, keys, pieces, hc, hpieces] at h

/-! ## The words of a spelling -/

/-- A spelling of words in a row has these words. -/
theorem SpellsWords.wordKeys_eq {form : List (List Char)} {text : List Char} (hform : Lettered form)
    (h : SpellsWords form text) : wordKeys text = keys form := by
  induction form generalizing text with
  | nil =>
    obtain rfl : text = [] := h
    rfl
  | cons word form ih =>
    obtain ⟨hne, hword⟩ := hform word List.mem_cons_self
    have hsingle : ∀ {head}, SameText word head → wordKeys head = [word.map caseKey] := by
      intro head hhead
      obtain ⟨c, cs, rfl, -⟩ := hhead.exists_cons hne hword
      rw [wordKeys_eq_singleton (List.cons_ne_nil c cs) fun d hd =>
        isBlank_of_isWordChar (hhead.all_isWordChar hword d hd)]
      exact congrArg ([·]) hhead.symm
    cases form with
    | nil => exact hsingle h
    | cons w form =>
      obtain ⟨head, gap, tail, rfl, hhead, hgapne, hgap, htail⟩ := h
      rw [wordKeys_append hgapne hgap, hsingle hhead, ih hform.tail htail]
      rfl

/-- none of the words could open a clause -/
def Inner (words : List (List Nat)) : Prop := ∀ word ∈ words, word ∉ openings

instance (words : List (List Nat)) : Decidable (Inner words) :=
  inferInstanceAs (Decidable (∀ word ∈ words, word ∉ openings))

/-- the first word could open a clause, and no other could -/
def OpensOnce (words : List (List Nat)) : Prop := ∃ first inner, words = first :: inner ∧ first ∈ openings ∧ Inner inner

section Entries

variable {α : Type} {v : Vocabulary α}

theorem Vocabulary.Spells.wordKeys_eq (hv : WellOrdered (v.forms.map Prod.fst)) {a : α} {text : List Char}
    (h : v.Spells a text) : ∃ form ∈ v.forms.map Prod.fst, wordKeys text = keys form := by
  obtain ⟨form, hmem, hwords⟩ := Vocabulary.spells_iff.1 h
  have hfst : form ∈ v.forms.map Prod.fst := List.mem_map_of_mem hmem
  exact ⟨form, hfst, hwords.wordKeys_eq (hv.lettered form hfst).2⟩

theorem Vocabulary.Spells.inner (hv : WellOrdered (v.forms.map Prod.fst))
    (hinner : ∀ form ∈ v.forms.map Prod.fst, Inner (keys form)) {a : α} {text : List Char} (h : v.Spells a text) :
    Inner (wordKeys text) := by
  obtain ⟨form, hmem, hwords⟩ := h.wordKeys_eq hv
  rw [hwords]
  exact hinner form hmem

theorem canteenNames_inner : ∀ form ∈ canteenNames.forms.map Prod.fst, Inner (keys form) := by decide +kernel
theorem excludeNames_inner : ∀ form ∈ excludeNames.forms.map Prod.fst, Inner (keys form) := by decide +kernel
theorem dateWords_inner : ∀ form ∈ dateWords.forms.map Prod.fst, Inner (keys form) := by decide +kernel
theorem weekdayNames_inner : ∀ form ∈ weekdayNames.forms.map Prod.fst, Inner (keys form) := by decide +kernel

/-- Every diet is one word, which opens a clause. -/
theorem restrictionNames_keys : ∀ form ∈ restrictionNames.forms.map Prod.fst, keys form ∈ openings.map ([·]) := by
  decide +kernel

end Entries

/-! ## The words of a written date -/

theorem SpellsNumber.all_digits {count n : Nat} {text : List Char} (h : SpellsNumber count n text) :
    ∀ c ∈ text, ∃ d, digitValue? c = some d := by
  obtain ⟨digits, hmap, -, -⟩ := h
  intro c hc
  have hmem : digitValue? c ∈ digits.map some := hmap ▸ List.mem_map_of_mem hc
  obtain ⟨d, -, hd⟩ := List.mem_map.1 hmem
  exact ⟨d, hd.symm⟩

/-- A written date holds digits and hyphens only. -/
theorem SpellsDay.hyphen_or_digit {day : Day} {text : List Char} (h : SpellsDay day text) :
    ∀ c ∈ text, c = '-' ∨ ∃ d, digitValue? c = some d := by
  obtain ⟨year, month, n, y, m, d, rfl, hy, hm, hd, -, -⟩ := h
  intro c hc
  simp only [List.mem_append, List.mem_cons] at hc
  rcases hc with hc | rfl | hc | rfl | hc
  · exact .inr (hy.all_digits c hc)
  · exact .inl rfl
  · exact .inr (hm.all_digits c hc)
  · exact .inl rfl
  · exact .inr (hd.all_digits c hc)

/-- So it is one word. -/
theorem SpellsDay.wordKeys_eq {day : Day} {text : List Char} (h : SpellsDay day text) :
    wordKeys text = [text.map caseKey] := by
  have hnotBlank : ∀ c ∈ text, isBlank c = false := by
    intro c hc
    rcases h.hyphen_or_digit c hc with rfl | ⟨d, hd⟩
    · rfl
    · exact isBlank_of_isWordChar (isWordChar_of_digitValue? hd)
  obtain ⟨c, cs, -, rfl, -⟩ := h.exists_cons
  exact wordKeys_eq_singleton (List.cons_ne_nil c cs) hnotBlank

/-- The words that open a clause are made of letters. -/
theorem openings_letters : ∀ word ∈ openings, ∃ c ∈ alphabet, word.head? = some (caseKey c) := by
  have hall : (openings.all fun word => alphabet.any fun c => word.head? == some (caseKey c)) = true := by decide +kernel
  intro word hword
  obtain ⟨c, hc, hhead⟩ := List.any_eq_true.1 (List.all_eq_true.1 hall word hword)
  exact ⟨c, hc, beq_iff_eq.1 hhead⟩

/-- A date begins with a digit, and so with no letter. -/
theorem SpellsDay.head?_ne {day : Day} {text : List Char} (h : SpellsDay day text) {l : Char} (hl : l ∈ alphabet) :
    (text.map caseKey).head? ≠ some (caseKey l) := by
  obtain ⟨c, cs, d, rfl, hd⟩ := h.exists_cons
  intro hhead
  have hkey : caseKey l = caseKey c := (Option.some.inj hhead).symm
  rw [digitValue?_of_alphabet hl hkey] at hd
  cases hd

/-- It opens no clause. -/
theorem SpellsDay.inner {day : Day} {text : List Char} (h : SpellsDay day text) : Inner (wordKeys text) := by
  rw [h.wordKeys_eq]
  intro word hword hopens
  obtain rfl := List.mem_singleton.1 hword
  obtain ⟨letter, hletter, hhead⟩ := openings_letters _ hopens
  exact h.head?_ne hletter hhead

/-! ## The words of a clause -/

theorem SpellsDate.inner {choice : DateChoice} {text : List Char} (h : SpellsDate choice text) : Inner (wordKeys text) := by
  rcases h with hword | ⟨day, -, hday⟩ | hweekday
  · exact hword.inner dateWords_wellOrdered dateWords_inner
  · exact hday.inner
  · exact hweekday.inner weekdayNames_wellOrdered weekdayNames_inner

theorem opensOnce_after {opener : Keyword} {word : List Char} (hforms : opener.forms = [[word]]) (hword : Lettered [word])
    (hopens : word.map caseKey ∈ openings) {Argument : List Char → Prop}
    (hinner : ∀ {text}, Argument text → Inner (wordKeys text)) {text : List Char} (h : SpellsAfter opener Argument text) :
    OpensOnce (wordKeys text) := by
  obtain ⟨head, gap, tail, rfl, hhead, hne, hgap, htail⟩ := h
  have hspells : SpellsWords [word] head := (spells_opener hforms).1 hhead
  have hfirst : wordKeys head = [word.map caseKey] := hspells.wordKeys_eq hword
  refine ⟨word.map caseKey, wordKeys tail, ?_, hopens, hinner htail⟩
  rw [wordKeys_append hne hgap, hfirst]
  rfl

/-- **A clause opens once**: its first word is an opening, and none of the others is. -/
theorem SpellsClause.opensOnce {content : Content} {text : List Char} (h : SpellsClause content text) :
    OpensOnce (wordKeys text) := by
  cases content with
  | location canteen =>
    exact opensOnce_after atWord_forms (by decide +kernel) (by decide +kernel)
      (fun h => h.inner canteenNames_wellOrdered canteenNames_inner) h
  | exclude ingredient =>
    exact opensOnce_after noWord_forms (by decide +kernel) (by decide +kernel)
      (fun h => h.inner excludeNames_wellOrdered excludeNames_inner) h
  | date choice => exact opensOnce_after onWord_forms (by decide +kernel) (by decide +kernel) SpellsDate.inner h
  | restriction diet =>
    obtain ⟨form, hmem, hwords⟩ := Vocabulary.Spells.wordKeys_eq restrictionNames_wellOrdered h
    obtain ⟨word, hword, hkeys⟩ := List.mem_map.1 (restrictionNames_keys form hmem)
    exact ⟨word, [], hwords.trans hkeys.symm, hword, fun w hw => absurd hw List.not_mem_nil⟩

/-! ## The end of a clause -/

/-- the last character belongs to a word -/
def EndsInWord (text : List Char) : Prop := ∃ front c, text = front ++ [c] ∧ isWordChar c = true

theorem EndsInWord.append {text : List Char} (h : EndsInWord text) (front : List Char) : EndsInWord (front ++ text) := by
  obtain ⟨more, c, rfl, hc⟩ := h
  exact ⟨front ++ more, c, (List.append_assoc ..).symm, hc⟩

theorem endsInWord_of_forall {text : List Char} (hne : text ≠ []) (h : ∀ c ∈ text, isWordChar c = true) :
    EndsInWord text :=
  ⟨text.dropLast, text.getLast hne, (List.dropLast_concat_getLast hne).symm, h _ (List.getLast_mem hne)⟩

theorem EndsInWord.of_append {front back : List Char} (h : EndsInWord (front ++ back)) (hne : back ≠ []) :
    EndsInWord back := by
  obtain ⟨more, c, heq, hc⟩ := h
  have hlast : (front ++ back).getLast? = some c := by rw [heq, List.getLast?_concat]
  rw [List.getLast?_append_of_ne_nil front hne] at hlast
  obtain ⟨init, rfl⟩ := List.getLast?_eq_some_iff.1 hlast
  exact ⟨init, c, rfl, hc⟩

theorem not_endsInWord_of_blank {gap : List Char} (h : Blank gap) : ¬ EndsInWord gap := by
  rintro ⟨front, c, rfl, hc⟩
  rw [isWordChar_of_isBlank (h c (List.mem_append_right front List.mem_cons_self))] at hc
  cases hc

/-- What ends in a word does not end in blanks. -/
theorem EndsInWord.not_blank {front back : List Char} (h : EndsInWord (front ++ back)) (hne : back ≠ []) :
    ¬ Blank back := fun hblank => not_endsInWord_of_blank hblank (h.of_append hne)

theorem SpellsWords.endsInWord {form : List (List Char)} {text : List Char} (hne : form ≠ []) (hform : Lettered form)
    (h : SpellsWords form text) : EndsInWord text := by
  induction form generalizing text with
  | nil => exact absurd rfl hne
  | cons word form ih =>
    cases form with
    | nil =>
      obtain ⟨hwordne, hword⟩ := hform word List.mem_cons_self
      have hsame : SameText word text := h
      obtain ⟨c, cs, rfl, -⟩ := hsame.exists_cons hwordne hword
      exact endsInWord_of_forall (List.cons_ne_nil c cs) (hsame.all_isWordChar hword)
    | cons w form =>
      obtain ⟨head, gap, tail, rfl, -, -, -, htail⟩ := h
      exact ((ih (List.cons_ne_nil w form) hform.tail htail).append gap).append head

theorem Vocabulary.Spells.endsInWord {α : Type} {v : Vocabulary α} (hv : WellOrdered (v.forms.map Prod.fst)) {a : α}
    {text : List Char} (h : v.Spells a text) : EndsInWord text := by
  obtain ⟨form, hmem, hwords⟩ := Vocabulary.spells_iff.1 h
  obtain ⟨hne, hform⟩ := hv.lettered form (List.mem_map_of_mem hmem)
  exact hwords.endsInWord hne hform

theorem SpellsDay.endsInWord {day : Day} {text : List Char} (h : SpellsDay day text) : EndsInWord text := by
  obtain ⟨year, month, n, y, m, d, rfl, -, -, hd, -, -⟩ := h
  obtain ⟨c, cs, -, rfl, -⟩ := hd.exists_cons
  have hend : EndsInWord (c :: cs) := by
    refine endsInWord_of_forall (List.cons_ne_nil c cs) fun e he => ?_
    obtain ⟨value, hvalue⟩ := hd.all_digits e he
    exact isWordChar_of_digitValue? hvalue
  exact (((hend.append ['-']).append m).append ['-']).append y

theorem SpellsDate.endsInWord {choice : DateChoice} {text : List Char} (h : SpellsDate choice text) : EndsInWord text := by
  rcases h with hword | ⟨day, -, hday⟩ | hweekday
  · exact hword.endsInWord dateWords_wellOrdered
  · exact hday.endsInWord
  · exact hweekday.endsInWord weekdayNames_wellOrdered

theorem endsInWord_after {opener : Keyword} {Argument : List Char → Prop}
    (hargument : ∀ {text}, Argument text → EndsInWord text) {text : List Char} (h : SpellsAfter opener Argument text) :
    EndsInWord text := by
  obtain ⟨head, gap, tail, rfl, -, -, -, htail⟩ := h
  exact ((hargument htail).append gap).append head

/-- No blanks belong to the end of a clause. -/
theorem SpellsClause.endsInWord {content : Content} {text : List Char} (h : SpellsClause content text) :
    EndsInWord text := by
  cases content with
  | location canteen => exact endsInWord_after (fun h => h.endsInWord canteenNames_wellOrdered) h
  | exclude ingredient => exact endsInWord_after (fun h => h.endsInWord excludeNames_wellOrdered) h
  | date choice => exact endsInWord_after SpellsDate.endsInWord h
  | restriction diet => exact Vocabulary.Spells.endsInWord restrictionNames_wellOrdered h

end MenuBoard.Phrase
