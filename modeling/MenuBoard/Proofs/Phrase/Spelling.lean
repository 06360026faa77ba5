import Mathlib.Data.List.DropRight
import MenuBoard.Phrase.Vocabulary
import MenuBoard.Proofs.Text.CaseVariants

/-!
How a keyword may be spelled, said without a reader.

`SpellsWords` and `Keyword.Spells` say which texts are spellings: the words in a row, characters compared without
their case, one blank or more between two words, and perhaps the fragment behind the last one. A keyword with a
fragment has two `forms`, lists of words with the fragment already in place.

`readForm?_eq_some`: a reader takes exactly the spellings of a form that end where a word may end.
`Keyword.match?_eq_findSome?`, `Vocabulary.match?_eq_findSome?`: keywords and vocabularies try their forms in order.
-/

namespace MenuBoard.Phrase

open MenuBoard.Text

/-- nothing but spaces and tabs -/
def Blank (text : List Char) : Prop := ∀ c ∈ text, isBlank c = true

/-- the same characters, one for one, when case is ignored -/
def SameText (a b : List Char) : Prop := a.map caseKey = b.map caseKey

instance (text : List Char) : Decidable (Blank text) := decidable_of_iff (text.all isBlank = true) List.all_eq_true

instance (a b : List Char) : Decidable (SameText a b) := inferInstanceAs (Decidable (a.map caseKey = b.map caseKey))

/-- `text` spells the words in a row, with at least one blank between two of them -/
def SpellsWords : (words : List (List Char)) → (text : List Char) → Prop
  | [], text => text = []
  | [word], text => SameText word text
  | word :: rest, text => ∃ head gap tail, text = head ++ (gap ++ tail) ∧ SameText word head ∧ gap ≠ [] ∧ Blank gap ∧
      SpellsWords rest tail

/-- `text` spells a keyword: its words, and after them the whole of its fragment or nothing -/
def Keyword.Spells (k : Keyword) (text : List Char) : Prop :=
  SpellsWords k.words text ∨
    k.suffix ≠ "" ∧ ∃ body fragment, text = body ++ fragment ∧ SpellsWords k.words body ∧
      SameText k.suffix.toList fragment

/-! ## Blanks -/

theorem dropBlanks_blank_append {gap : List Char} (h : Blank gap) (rest : List Char) :
    dropBlanks (gap ++ rest) = dropBlanks rest := by
  unfold dropBlanks
  rw [List.dropWhile_append_of_pos h]

theorem dropBlanks_of_blank {gap : List Char} (h : Blank gap) : dropBlanks gap = [] := List.dropWhile_eq_nil_iff.2 h

theorem dropBlanks_cons {c : Char} (h : isBlank c = false) (text : List Char) : dropBlanks (c :: text) = c :: text := by
  simp [dropBlanks, h]

/-- A text is some blanks and what is left when they are dropped. -/
theorem exists_blank_append_dropBlanks (text : List Char) : ∃ gap, text = gap ++ dropBlanks text ∧ Blank gap :=
  ⟨text.takeWhile isBlank, List.takeWhile_append_dropWhile.symm, fun _ hc => List.mem_takeWhile_imp hc⟩

theorem dropBlanks_dropBlanks (text : List Char) : dropBlanks (dropBlanks text) = dropBlanks text :=
  List.dropWhile_idempotent isBlank text

/-- A word may end before blanks. -/
theorem atWordEnd_blank_append {gap : List Char} (h : Blank gap) (hne : gap ≠ []) (rest : List Char) :
    atWordEnd (gap ++ rest) = true := by
  cases gap with
  | nil => exact absurd rfl hne
  | cons c gap => simp [atWordEnd, isWordChar_of_isBlank (h c List.mem_cons_self)]

/-! ## One word -/

theorem SameText.append {a b c d : List Char} (h : SameText a b) (h' : SameText c d) : SameText (a ++ c) (b ++ d) := by
  unfold SameText at *
  rw [List.map_append, List.map_append, h, h']

theorem sameText_append_iff {a b text : List Char} :
    SameText (a ++ b) text ↔ ∃ head tail, text = head ++ tail ∧ SameText a head ∧ SameText b tail := by
  constructor
  · intro h
    unfold SameText at h
    rw [List.map_append, eq_comm, List.map_eq_append_iff] at h
    obtain ⟨head, tail, rfl, hhead, htail⟩ := h
    exact ⟨head, tail, rfl, hhead.symm, htail.symm⟩
  · rintro ⟨head, tail, rfl, hhead, htail⟩
    exact hhead.append htail

/-- A text begins with a word exactly if its first characters are the word's, up to case. -/
theorem stripWord?_eq_some {word text rest : List Char} :
    stripWord? word text = some rest ↔ ∃ head, text = head ++ rest ∧ SameText word head := by
  induction word generalizing text with
  | nil => simp [stripWord?, SameText, eq_comm]
  | cons w word ih =>
    cases text with
    | nil => simp [stripWord?, SameText]
    | cons c text =>
      unfold stripWord?
      constructor
      · intro h
        split at h
        · next hwc =>
          obtain ⟨head, rfl, hsame⟩ := ih.1 h
          refine ⟨c :: head, rfl, ?_⟩
          unfold SameText at *
          rw [List.map_cons, List.map_cons, hsame, beq_iff_eq.1 hwc]
        · cases h
      · rintro ⟨head, heq, hsame⟩
        cases head with
        | nil => simp [SameText] at hsame
        | cons d head =>
          obtain ⟨rfl, rfl⟩ := List.cons.inj heq
          have hkeys := List.cons.inj hsame
          have hwc : sameIgnoringCase w c = true := beq_iff_eq.2 hkeys.1
          rw [if_pos hwc]
          exact ih.2 ⟨head, rfl, hkeys.2⟩

theorem stripWord?_append (a b text : List Char) :
    stripWord? (a ++ b) text = (stripWord? a text).bind (stripWord? b) := by
  induction a generalizing text with
  | nil => rfl
  | cons w a ih =>
    cases text with
    | nil => rfl
    | cons c text =>
      simp only [List.cons_append, stripWord?]
      split
      · exact ih text
      · rfl

/-! ## Words in a row -/

/-- every word but the first begins with a character that is no blank, so the blanks before it are all of the gap -/
def Separable (form : List (List Char)) : Prop := ∀ word ∈ form.tail, ∃ c cs, word = c :: cs ∧ isBlank c = false

theorem Separable.tail {word : List Char} {form : List (List Char)} (h : Separable (word :: form)) : Separable form :=
  fun w hw => h w (List.mem_of_mem_tail hw)

/-- The spelling of a word that begins with no blank begins with none either. -/
theorem dropBlanks_append_of_sameText {c : Char} {cs head : List Char} (h : SameText (c :: cs) head)
    (hc : isBlank c = false) (rest : List Char) : dropBlanks (head ++ rest) = head ++ rest := by
  cases head with
  | nil => simp [SameText] at h
  | cons d head =>
    have hkey : caseKey d = caseKey c := (List.cons.inj h).1.symm
    have hd : isBlank d = false := by
      by_contra hd
      have hcd := eq_of_caseKey_blank (by simpa using hd) hkey
      rw [hcd] at hc
      exact hd hc
    rw [List.cons_append, dropBlanks_cons hd]

theorem SpellsWords.exists_head {c : Char} {cs text : List Char} {form : List (List Char)}
    (h : SpellsWords ((c :: cs) :: form) text) : ∃ head tail, text = head ++ tail ∧ SameText (c :: cs) head := by
  cases form with
  | nil => exact ⟨text, [], by simp, h⟩
  | cons w form =>
    obtain ⟨head, gap, tail, rfl, hhead, -, -, -⟩ := h
    exact ⟨head, gap ++ tail, rfl, hhead⟩

theorem afterBlanks?_eq_some {text rest : List Char} :
    afterBlanks? text = some rest ↔ ∃ gap, text = gap ++ rest ∧ gap ≠ [] ∧ Blank gap ∧ dropBlanks rest = rest := by
  cases text with
  | nil => simp +contextual [afterBlanks?]
  | cons c text =>
    simp only [afterBlanks?]
    constructor
    · intro h
      split at h
      · next hc =>
        obtain rfl := Option.some.inj h
        obtain ⟨gap, htext, hgap⟩ := exists_blank_append_dropBlanks text
        refine ⟨c :: gap, by rw [List.cons_append, ← htext], by simp, ?_, dropBlanks_dropBlanks text⟩
        intro d hd
        rcases List.mem_cons.1 hd with rfl | hd
        · exact hc
        · exact hgap d hd
      · cases h
    · rintro ⟨gap, heq, hne, hgap, hrest⟩
      cases gap with
      | nil => exact absurd rfl hne
      | cons d gap =>
        obtain ⟨rfl, htext⟩ := List.cons.inj heq
        rw [if_pos (hgap c List.mem_cons_self), htext, List.append_eq,
          dropBlanks_blank_append (fun e he => hgap e (List.mem_cons_of_mem _ he)), hrest]

/-- What is read as words in a row is a spelling of them. -/
theorem spellsWords_of_afterWords? {form : List (List Char)} {text rest : List Char}
    (h : afterWords? form text = some rest) : ∃ head, text = head ++ rest ∧ SpellsWords form head := by
  fun_induction afterWords? form text with
  | case1 text => exact ⟨[], Option.some.inj h, rfl⟩
  | case2 text word => exact stripWord?_eq_some.1 h
  | case3 word more text hmore ih =>
    simp only [Option.bind_eq_bind, Option.bind_eq_some_iff] at h
    obtain ⟨t1, h1, t2, h2, h3⟩ := h
    obtain ⟨head, rfl, hhead⟩ := stripWord?_eq_some.1 h1
    obtain ⟨gap, rfl, hne, hgap, -⟩ := afterBlanks?_eq_some.1 h2
    obtain ⟨tail, rfl, htail⟩ := ih t2 h3
    obtain ⟨w, more', rfl⟩ := List.exists_cons_of_ne_nil hmore
    exact ⟨head ++ (gap ++ tail), by simp, head, gap, tail, rfl, hhead, hne, hgap, htail⟩

/-- Every spelling of words in a row is read. -/
theorem afterWords?_of_spellsWords {form : List (List Char)} {text : List Char} (hsep : Separable form)
    (h : SpellsWords form text) (rest : List Char) : afterWords? form (text ++ rest) = some rest := by
  induction form generalizing text with
  | nil =>
    obtain rfl : text = [] := h
    rfl
  | cons word form ih =>
    cases form with
    | nil => exact stripWord?_eq_some.2 ⟨text, rfl, h⟩
    | cons w more =>
      obtain ⟨head, gap, tail, rfl, hhead, hne, hgap, htail⟩ := h
      obtain ⟨c, cs, rfl, hc⟩ := hsep w (by simp)
      obtain ⟨front, back, rfl, hfront⟩ := htail.exists_head
      have hdrop : dropBlanks (front ++ back ++ rest) = front ++ back ++ rest := by
        rw [List.append_assoc]
        exact dropBlanks_append_of_sameText hfront hc (back ++ rest)
      have hstrip : stripWord? word (head ++ (gap ++ (front ++ back)) ++ rest) = some (gap ++ (front ++ back ++ rest)) :=
        stripWord?_eq_some.2 ⟨head, by simp, hhead⟩
      have hblanks : afterBlanks? (gap ++ (front ++ back ++ rest)) = some (front ++ back ++ rest) :=
        afterBlanks?_eq_some.2 ⟨gap, rfl, hne, hgap, hdrop⟩
      simp only [afterWords?, hstrip, Option.bind_eq_bind, Option.bind_some, hblanks]
      exact ih hsep.tail htail

/-! ## Forms -/

/-- words with a fragment put behind the last of them -/
def appendLast (fragment : List Char) : List (List Char) → List (List Char)
  | [] => [fragment]
  | [word] => [word ++ fragment]
  | word :: rest => word :: appendLast fragment rest

theorem appendLast_ne_nil (fragment : List Char) (form : List (List Char)) : appendLast fragment form ≠ [] := by
  rcases form with _ | ⟨w, _ | ⟨w', form⟩⟩ <;> simp [appendLast]

theorem spellsWords_appendLast {fragment text : List Char} {form : List (List Char)} :
    SpellsWords (appendLast fragment form) text ↔
      ∃ body tail, text = body ++ tail ∧ SpellsWords form body ∧ SameText fragment tail := by
  fun_induction appendLast fragment form generalizing text with
  | case1 =>
    constructor
    · intro h
      exact ⟨[], text, rfl, rfl, h⟩
    · rintro ⟨body, tail, rfl, rfl, htail⟩
      exact htail
  | case2 word => exact sameText_append_iff
  | case3 word rest hrest ih =>
    obtain ⟨w, more, rfl⟩ := List.exists_cons_of_ne_nil (fun h => hrest h)
    obtain ⟨w', more', happend⟩ := List.exists_cons_of_ne_nil (appendLast_ne_nil fragment (w :: more))
    rw [happend] at ih ⊢
    constructor
    · rintro ⟨head, gap, tail, rfl, hhead, hne, hgap, htail⟩
      obtain ⟨body, last, rfl, hbody, hlast⟩ := ih.1 htail
      exact ⟨head ++ (gap ++ body), last, by simp, ⟨head, gap, body, rfl, hhead, hne, hgap, hbody⟩, hlast⟩
    · rintro ⟨body, last, rfl, ⟨head, gap, tail, rfl, hhead, hne, hgap, htail⟩, hlast⟩
      exact ⟨head, gap, tail ++ last, by simp, hhead, hne, hgap, ih.2 ⟨tail, last, rfl, htail, hlast⟩⟩

theorem afterWords?_appendLast (fragment : List Char) (form : List (List Char)) (text : List Char) :
    afterWords? (appendLast fragment form) text = (afterWords? form text).bind (stripWord? fragment) := by
  fun_induction appendLast fragment form generalizing text with
  | case1 => rfl
  | case2 word => exact stripWord?_append word fragment text
  | case3 word rest hrest ih =>
    obtain ⟨w, more, rfl⟩ := List.exists_cons_of_ne_nil (fun h => hrest h)
    obtain ⟨w', more', happend⟩ := List.exists_cons_of_ne_nil (appendLast_ne_nil fragment (w :: more))
    rw [happend] at ih ⊢
    simp only [afterWords?, Option.bind_eq_bind, Option.bind_assoc, ih]

/-- the rows of words that a keyword may stand for, the one with the fragment first -/
def Keyword.forms (k : Keyword) : List (List (List Char)) :=
  if k.suffix.toList.isEmpty then [k.words] else [appendLast k.suffix.toList k.words, k.words]

theorem exists_prefix_of_mem_tail_appendLast {fragment word : List Char} {form : List (List Char)}
    (h : word ∈ (appendLast fragment form).tail) : ∃ w ∈ form, ∃ more, word = w ++ more := by
  fun_induction appendLast fragment form with
  | case1 => simp at h
  | case2 w => simp at h
  | case3 w rest hrest ih =>
    rcases rest with _ | ⟨w', _ | ⟨w'', rest⟩⟩
    · exact absurd rfl hrest
    · obtain rfl : word = w' ++ fragment := by simpa [appendLast] using h
      exact ⟨w', by simp, fragment, rfl⟩
    · rcases List.mem_cons.1 h with rfl | h
      · exact ⟨word, by simp, [], by simp⟩
      · obtain ⟨v, hv, more, rfl⟩ := ih h
        exact ⟨v, List.mem_cons_of_mem _ hv, more, rfl⟩

/-- The words of a keyword hold no white space. -/
theorem Keyword.exists_cons_of_mem_words {k : Keyword} {word : List Char} (h : word ∈ k.words) :
    ∃ c cs, word = c :: cs ∧ isBlank c = false := by
  obtain ⟨hpiece, hne⟩ := List.mem_filter.1 h
  cases word with
  | nil => simp at hne
  | cons c cs =>
    refine ⟨c, cs, rfl, Bool.eq_false_iff.2 fun hblank => ?_⟩
    have hspace := not_mem_of_mem_pieces hpiece c List.mem_cons_self
    rw [isSpace_of_isBlank hblank] at hspace
    cases hspace

theorem Keyword.separable {k : Keyword} {form : List (List Char)} (h : form ∈ k.forms) : Separable form := by
  have hwords : ∀ word ∈ form.tail, ∃ w ∈ k.words, ∃ more, word = w ++ more := by
    unfold Keyword.forms at h
    split at h
    · obtain rfl := List.mem_singleton.1 h
      exact fun word hw => ⟨word, List.mem_of_mem_tail hw, [], by simp⟩
    · rcases List.mem_cons.1 h with rfl | h
      · exact fun word hw => exists_prefix_of_mem_tail_appendLast hw
      · obtain rfl := List.mem_singleton.1 h
        exact fun word hw => ⟨word, List.mem_of_mem_tail hw, [], by simp⟩
  intro word hw
  obtain ⟨w, hmem, more, rfl⟩ := hwords word hw
  obtain ⟨c, cs, rfl, hc⟩ := Keyword.exists_cons_of_mem_words hmem
  exact ⟨c, cs ++ more, rfl, hc⟩

/-- A keyword is spelled by spelling one of its forms. -/
theorem Keyword.spells_iff {k : Keyword} {text : List Char} : k.Spells text ↔ ∃ form ∈ k.forms, SpellsWords form text := by
  unfold Keyword.Spells Keyword.forms
  by_cases hempty : k.suffix = ""
  · simp [hempty]
  · have hne : k.suffix.toList.isEmpty = false := by simpa using hempty
    simp [hne, hempty, spellsWords_appendLast, or_comm]

/-- the text after a spelling of a form, where a word may end -/
def readForm? (form : List (List Char)) (text : List Char) : Option (List Char) := (afterWords? form text).bind ending?

/-- A form is read exactly where a spelling of it stands and a word may end. -/
theorem readForm?_eq_some {form : List (List Char)} (hsep : Separable form) {text rest : List Char} :
    readForm? form text = some rest ↔ ∃ head, text = head ++ rest ∧ SpellsWords form head ∧ atWordEnd rest = true := by
  constructor
  · intro h
    obtain ⟨t, ht, hend⟩ := Option.bind_eq_some_iff.1 h
    obtain ⟨rfl, hword⟩ := ending?_eq_some.1 hend
    obtain ⟨head, rfl, hhead⟩ := spellsWords_of_afterWords? ht
    exact ⟨head, rfl, hhead, hword⟩
  · rintro ⟨head, rfl, hhead, hword⟩
    rw [readForm?, afterWords?_of_spellsWords hsep hhead, Option.bind_some]
    exact ending?_eq_some.2 ⟨rfl, hword⟩

/-- A keyword tries its forms in order. -/
theorem Keyword.match?_eq_findSome? (k : Keyword) (text : List Char) :
    k.match? text = (k.forms.findSome? (readForm? · text)).map dropBlanks := by
  have hlong : k.withSuffix? text =
      if k.suffix.toList.isEmpty then none else readForm? (appendLast k.suffix.toList k.words) text := by
    simp only [Keyword.withSuffix?, readForm?, afterWords?_appendLast, Option.bind_eq_bind, Option.bind_assoc]
  have hshort : k.withoutSuffix? text = readForm? k.words text := rfl
  unfold Keyword.match? Keyword.forms
  rw [hlong, hshort]
  cases k.suffix.toList.isEmpty
  · simp only [Bool.false_eq_true, if_false, List.findSome?_cons, List.findSome?_nil]
    cases readForm? (appendLast k.suffix.toList k.words) text <;> cases readForm? k.words text <;> rfl
  · simp only [if_true, List.findSome?_cons, List.findSome?_nil]
    cases readForm? k.words text <;> rfl

/-- the forms of all keywords in order, each with what it stands for -/
def Vocabulary.forms {α : Type} (v : Vocabulary α) : List (List (List Char) × α) :=
  v.entries.flatMap fun (keyword, value) => keyword.forms.map (·, value)

/-- the value of a form that a text begins with, and the text after it -/
def matchForm? {α : Type} (text : List Char) (entry : List (List Char) × α) : Option (α × List Char) :=
  (readForm? entry.1 text).map fun rest => (entry.2, dropBlanks rest)

theorem Keyword.map_match? {α : Type} (k : Keyword) (value : α) (text : List Char) :
    (k.match? text).map (value, ·) = (k.forms.map (·, value)).findSome? (matchForm? text) := by
  rw [Keyword.match?_eq_findSome?]
  induction k.forms with
  | nil => rfl
  | cons form forms ih =>
    rw [List.map_cons, List.findSome?_cons, List.findSome?_cons, ← ih]
    cases h : readForm? form text <;> simp [matchForm?, h]

/-- A vocabulary tries the forms of its keywords in order. -/
theorem Vocabulary.match?_eq_findSome? {α : Type} (v : Vocabulary α) (text : List Char) :
    v.match? text = v.forms.findSome? (matchForm? text) := by
  unfold Vocabulary.match? Vocabulary.forms
  induction v.entries with
  | nil => rfl
  | cons entry entries ih =>
    obtain ⟨k, value⟩ := entry
    rw [List.flatMap_cons, List.findSome?_append, ← ih, ← Keyword.map_match?, List.findSome?_cons]
    cases h : k.match? text <;> simp [h]

end MenuBoard.Phrase
