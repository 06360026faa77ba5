import MenuBoard.Proofs.Phrase.Grammar
import MenuBoard.Proofs.Text.WordChar

/-!
Words as they are compared.

`firstWord` is the first word of a text without its case. Two forms that are read from one text agree word for word as
far as both go (`prefix_of_spellsWords`), so a reading is lost to an earlier alternative only if that one is a shorter
row of the same words, or a longer one whose next word could also begin a clause. `WellOrdered` says that a list of
forms has no such pair; the vocabularies of a phrase are checked for it.
-/

namespace MenuBoard.Phrase

open MenuBoard.Text

/-! ## First words -/

/-- the word that a text begins with behind its blanks, without its case; empty if there is none -/
def firstWord (text : List Char) : List Nat := ((dropBlanks text).takeWhile isWordChar).map caseKey

/-- every word has a letter, and letters only -/
def Lettered (form : List (List Char)) : Prop := ∀ word ∈ form, word ≠ [] ∧ ∀ c ∈ word, c ∈ alphabet

instance (form : List (List Char)) : Decidable (Lettered form) :=
  decidable_of_iff ((form.all fun word => !word.isEmpty && word.all alphabet.contains) = true) (by simp [Lettered])

theorem Lettered.tail {word : List Char} {form : List (List Char)} (h : Lettered (word :: form)) : Lettered form :=
  fun w hw => h w (List.mem_cons_of_mem word hw)

theorem firstWord_of_dropBlanks_eq {a b : List Char} (h : dropBlanks a = dropBlanks b) : firstWord a = firstWord b := by
  unfold firstWord
  rw [h]

theorem takeWhile_eq_nil_of_atWordEnd {text : List Char} (h : atWordEnd text = true) : text.takeWhile isWordChar = [] := by
  cases text with
  | nil => rfl
  | cons c text =>
    have hc : isWordChar c = false := by simpa [atWordEnd] using h
    simp [hc]

/-- What stands for a word is letters of it, up to case. -/
theorem SameText.exists_letter {word head : List Char} (h : SameText word head) {d : Char} (hd : d ∈ head) :
    ∃ c ∈ word, caseKey c = caseKey d := by
  have hkey : caseKey d ∈ word.map caseKey := by
    rw [show word.map caseKey = head.map caseKey from h]
    exact List.mem_map_of_mem hd
  exact List.mem_map.1 hkey

/-- A spelled word takes word characters only. -/
theorem SameText.all_isWordChar {word head : List Char} (hword : ∀ c ∈ word, c ∈ alphabet) (h : SameText word head) :
    ∀ d ∈ head, isWordChar d = true := by
  intro d hd
  obtain ⟨c, hc, hcd⟩ := h.exists_letter hd
  exact isWordChar_of_alphabet (hword c hc) hcd

/-- A run of word characters up to a place where a word may end is determined by the text. -/
theorem eq_of_append_eq {a b r s : List Char} (ha : ∀ c ∈ a, isWordChar c = true) (hb : ∀ c ∈ b, isWordChar c = true)
    (hr : atWordEnd r = true) (hs : atWordEnd s = true) (h : a ++ r = b ++ s) : a = b ∧ r = s := by
  have htake := congrArg (List.takeWhile isWordChar) h
  rw [List.takeWhile_append_of_pos ha, List.takeWhile_append_of_pos hb, takeWhile_eq_nil_of_atWordEnd hr,
    takeWhile_eq_nil_of_atWordEnd hs, List.append_nil, List.append_nil] at htake
  subst htake
  exact ⟨rfl, List.append_cancel_left h⟩

theorem isBlank_of_isWordChar {c : Char} (h : isWordChar c = true) : isBlank c = false := by
  refine Bool.eq_false_iff.2 fun hblank => ?_
  rw [isWordChar_of_isBlank hblank] at h
  cases h

/-- A spelled word begins with a word character. -/
theorem SameText.exists_cons {word head : List Char} (hne : word ≠ []) (hword : ∀ c ∈ word, c ∈ alphabet)
    (h : SameText word head) : ∃ c cs, head = c :: cs ∧ isWordChar c = true := by
  cases head with
  | nil => exact absurd (List.map_eq_nil_iff.1 h) hne
  | cons c cs => exact ⟨c, cs, rfl, h.all_isWordChar hword c List.mem_cons_self⟩

/-- There are no blanks to drop before a spelled word. -/
theorem SameText.dropBlanks_append {word head : List Char} (hne : word ≠ []) (hword : ∀ c ∈ word, c ∈ alphabet)
    (h : SameText word head) (rest : List Char) : dropBlanks (head ++ rest) = head ++ rest := by
  obtain ⟨c, cs, rfl, hc⟩ := h.exists_cons hne hword
  exact dropBlanks_cons (isBlank_of_isWordChar hc) (cs ++ rest)

/-- The first word of a text that begins with a spelled word is that word. -/
theorem firstWord_append {word head rest : List Char} (hne : word ≠ []) (hword : ∀ c ∈ word, c ∈ alphabet)
    (h : SameText word head) (hrest : atWordEnd rest = true) : firstWord (head ++ rest) = word.map caseKey := by
  unfold firstWord
  rw [h.dropBlanks_append hne hword, List.takeWhile_append_of_pos (h.all_isWordChar hword),
    takeWhile_eq_nil_of_atWordEnd hrest, List.append_nil]
  exact h.symm

theorem firstWord_of_blank {gap : List Char} (h : Blank gap) : firstWord gap = [] := by
  unfold firstWord
  rw [dropBlanks_of_blank h]
  rfl

theorem firstWord_blank_append {gap : List Char} (h : Blank gap) (rest : List Char) :
    firstWord (gap ++ rest) = firstWord rest := firstWord_of_dropBlanks_eq (dropBlanks_blank_append h rest)

/-- The first word of a spelling, and the spelling of the others behind it. -/
theorem SpellsWords.uncons {word text rest : List Char} {form : List (List Char)} (h : SpellsWords (word :: form) text)
    (hrest : atWordEnd rest = true) : ∃ head back tail, text ++ rest = head ++ back ∧ SameText word head ∧
      atWordEnd back = true ∧ SpellsWords form tail ∧ dropBlanks back = dropBlanks (tail ++ rest) := by
  cases form with
  | nil => exact ⟨text, rest, [], rfl, h, hrest, rfl, rfl⟩
  | cons w form =>
    obtain ⟨head, gap, tail, rfl, hhead, hne, hgap, htail⟩ := h
    refine ⟨head, gap ++ (tail ++ rest), tail, by simp, hhead, atWordEnd_blank_append hgap hne _, htail, ?_⟩
    exact dropBlanks_blank_append hgap _

theorem SpellsWords.firstWord_eq {word text rest : List Char} {form : List (List Char)} (hform : Lettered (word :: form))
    (h : SpellsWords (word :: form) text) (hrest : atWordEnd rest = true) :
    firstWord (text ++ rest) = word.map caseKey := by
  obtain ⟨head, back, tail, heq, hhead, hback, -, -⟩ := h.uncons hrest
  obtain ⟨hne, hword⟩ := hform word List.mem_cons_self
  rw [heq, firstWord_append hne hword hhead hback]

/-- Two rows of words spelled at the head of one text begin with the same word, and their other words are spelled at the head
of one text again. -/
theorem SpellsWords.uncons_both {word word' text text' rest rest' : List Char} {form other : List (List Char)}
    (hform : Lettered (word :: form)) (hother : Lettered (word' :: other)) (h : SpellsWords (word :: form) text)
    (h' : SpellsWords (word' :: other) text') (hrest : atWordEnd rest = true) (hrest' : atWordEnd rest' = true)
    (heq : dropBlanks (text ++ rest) = dropBlanks (text' ++ rest')) :
    word.map caseKey = word'.map caseKey ∧ ∃ tail tail', SpellsWords form tail ∧ SpellsWords other tail' ∧
      dropBlanks (tail ++ rest) = dropBlanks (tail' ++ rest') := by
  obtain ⟨head, back, tail, hsplit, hhead, hback, htail, hdrop⟩ := h.uncons hrest
  obtain ⟨head', back', tail', hsplit', hhead', hback', htail', hdrop'⟩ := h'.uncons hrest'
  obtain ⟨hne, hword⟩ := hform word List.mem_cons_self
  obtain ⟨hne', hword'⟩ := hother word' List.mem_cons_self
  rw [hsplit, hsplit', hhead.dropBlanks_append hne hword, hhead'.dropBlanks_append hne' hword'] at heq
  obtain ⟨rfl, rfl⟩ := eq_of_append_eq (hhead.all_isWordChar hword) (hhead'.all_isWordChar hword') hback hback' heq
  exact ⟨Eq.trans hhead hhead'.symm, tail, tail', htail, htail', hdrop.symm.trans hdrop'⟩

/-- the words of a form without their case -/
def keys (form : List (List Char)) : List (List Nat) := form.map (·.map caseKey)

/-- Of two forms spelled at the head of one text, the first is a part of the second, or goes on with the word that
stands behind the second. -/
theorem prefix_of_spellsWords {form other : List (List Char)} {text text' rest rest' : List Char} (hform : Lettered form)
    (hother : Lettered other) (h : SpellsWords form text) (h' : SpellsWords other text') (hrest : atWordEnd rest = true)
    (hrest' : atWordEnd rest' = true) (heq : dropBlanks (text ++ rest) = dropBlanks (text' ++ rest')) :
    keys form <+: keys other ∨ keys other ++ [firstWord rest'] <+: keys form := by
  induction other generalizing form text text' with
  | nil =>
    obtain rfl : text' = [] := h'
    cases form with
    | nil => exact .inl List.nil_prefix
    | cons word form =>
      have hfirst := h.firstWord_eq hform hrest
      rw [firstWord_of_dropBlanks_eq heq] at hfirst
      refine .inr ⟨keys form, ?_⟩
      simp [keys, ← hfirst]
  | cons word' other ih =>
    cases form with
    | nil => exact .inl List.nil_prefix
    | cons word form =>
      obtain ⟨hkey, tail, tail', htail, htail', hdrop⟩ := h.uncons_both hform hother h' hrest hrest' heq
      have hmore := ih hform.tail hother.tail htail htail' hdrop
      simp only [keys, List.map_cons, List.cons_append, hkey, List.prefix_cons_inj]
      exact hmore

/-! ## Vocabularies -/

/-- the words that a clause may begin with -/
def openings : List (List Nat) :=
  ["at", "no", "on", "vegan", "vegetarian", "veggie", "flexible"].map fun word => word.toList.map caseKey

/-- what may stand behind a clause: nothing, or the first word of another clause -/
def followers : List (List Nat) := [] :: openings

/-- No form is read in place of a later one: it is neither a part of it, nor that form and a word that may follow it. -/
def Unshadowed (forms : List (List (List Char))) : Prop :=
  forms.Pairwise fun earlier later =>
    ¬ keys earlier <+: keys later ∧ ∀ word ∈ followers, ¬ keys later ++ [word] <+: keys earlier

instance (forms : List (List (List Char))) : Decidable (Unshadowed forms) :=
  inferInstanceAs (Decidable (forms.Pairwise fun earlier later =>
    ¬ keys earlier <+: keys later ∧ ∀ word ∈ followers, ¬ keys later ++ [word] <+: keys earlier))

/-- forms that a reader may try in order: their words are made of letters, and none shadows a later one -/
structure WellOrdered (forms : List (List (List Char))) : Prop where
  lettered : ∀ form ∈ forms, form ≠ [] ∧ Lettered form
  unshadowed : Unshadowed forms

instance (forms : List (List (List Char))) : Decidable (WellOrdered forms) :=
  decidable_of_iff ((∀ form ∈ forms, form ≠ [] ∧ Lettered form) ∧ Unshadowed forms)
    ⟨fun h => ⟨h.1, h.2⟩, fun h => ⟨h.lettered, h.unshadowed⟩⟩

theorem canteenNames_wellOrdered : WellOrdered (canteenNames.forms.map Prod.fst) := by decide +kernel
theorem excludeNames_wellOrdered : WellOrdered (excludeNames.forms.map Prod.fst) := by decide +kernel
theorem dateWords_wellOrdered : WellOrdered (dateWords.forms.map Prod.fst) := by decide +kernel
theorem weekdayNames_wellOrdered : WellOrdered (weekdayNames.forms.map Prod.fst) := by decide +kernel
theorem restrictionNames_wellOrdered : WellOrdered (restrictionNames.forms.map Prod.fst) := by decide +kernel

end MenuBoard.Phrase
