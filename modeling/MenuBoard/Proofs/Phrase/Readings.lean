import MenuBoard.Proofs.Phrase.Spelling
import MenuBoard.Proofs.Phrase.Tiling

/-!
The readings of a keyword at an offset of a text, and which of them a match takes.

A reading says what of the text stands for each word of the keyword, what stands between two words, and what stands for the
fragment behind them, if it is a reading of the keyword with its fragment (`Keyword.Reads`). It is said without a reader, and
nothing in it is to be tried in an order.

`Keyword.Reads.unique`: there is at most one reading of each extent, since words are as long as what stands for them and
begin with no blank. `Keyword.exists_reads_iff` ties readings to the readers of `Keyword.match?`, and
`Keyword.matchAt?_by_readings` says what a match comes to in terms of readings.
-/

namespace MenuBoard.Phrase

open MenuBoard.Text

/-- how much of a keyword is read: its words with the fragment, or the words alone -/
inductive Extent where
  | whole
  | stem
  deriving DecidableEq, Repr

/-- a keyword as it is typed: its words one by one, what stands between two of them, and what stands behind the last -/
structure Typed where
  words : List (List Char)
  gaps : List (List Char)
  fragment : List Char
  deriving DecidableEq, Repr

/-- words in a row, with the gaps between them -/
def interleave : (words gaps : List (List Char)) → List Char
  | word :: words, gap :: gaps => word ++ (gap ++ interleave words gaps)
  | words, _ => words.flatten

def Typed.text (t : Typed) : List Char := interleave t.words t.gaps ++ t.fragment

/-- words as they are typed, up to case, with at least one blank between two of them -/
structure InRow (words typed gaps : List (List Char)) : Prop where
  same : List.Forall₂ SameText words typed
  between : gaps.length = words.length - 1
  blank : ∀ gap ∈ gaps, gap ≠ [] ∧ Blank gap

/-- what follows the words of a keyword -/
def Keyword.fragment (k : Keyword) : Extent → List Char
  | .whole => k.suffix.toList
  | .stem => []

/-- A reading of a keyword that begins at an offset of the text and ends where a word may end. -/
structure Keyword.Reads (k : Keyword) (extent : Extent) (text : List Char) (pos : Nat) (t : Typed) : Prop where
  row : InRow k.words t.words t.gaps
  fragment : SameText (k.fragment extent) t.fragment
  hasFragment : extent = .whole → k.suffix ≠ ""
  stands : t.text <+: text.drop pos
  ends : atWordEnd (text.drop (pos + t.text.length)) = true

/-- The offset behind a match that begins at an offset of the text. An offset beyond the text counts as its end. -/
def Keyword.matchAt? (k : Keyword) (text : List Char) (pos : Nat) : Option Nat :=
  (k.match? (text.drop pos)).map fun rest => text.length - rest.length

/-- the first offset from the given one on that is no space and no tab, the end of the text if there is none -/
def nextNonBlank (text : List Char) (pos : Nat) : Nat := min pos text.length + firstNonBlank (text.drop pos)

/-! ## Words in a row -/

section Row

variable {words typed typed' gaps gaps' : List (List Char)} {word other gap rest rest' : List Char}

theorem exists_interleave_cons (word : List Char) (words gaps : List (List Char)) :
    ∃ more, interleave (word :: words) gaps = word ++ more := by
  cases gaps with
  | nil => exact ⟨words.flatten, List.flatten_cons⟩
  | cons gap gaps => exact ⟨gap ++ interleave words gaps, rfl⟩

theorem SameText.length_eq {a b : List Char} (h : SameText a b) : a.length = b.length := by
  simpa using congrArg List.length h

theorem inRow_nil : InRow [] typed gaps ↔ typed = [] ∧ gaps = [] := by
  constructor
  · intro h
    exact ⟨List.forall₂_nil_left_iff.1 h.same, List.eq_nil_of_length_eq_zero h.between⟩
  · rintro ⟨rfl, rfl⟩
    exact ⟨.nil, rfl, by simp⟩

theorem inRow_singleton : InRow [word] typed gaps ↔ ∃ head, SameText word head ∧ typed = [head] ∧ gaps = [] := by
  constructor
  · intro h
    obtain ⟨head, more, hsame, hmore, rfl⟩ := List.forall₂_cons_left_iff.1 h.same
    obtain rfl := List.forall₂_nil_left_iff.1 hmore
    exact ⟨head, hsame, rfl, List.eq_nil_of_length_eq_zero h.between⟩
  · rintro ⟨head, hsame, rfl, rfl⟩
    exact ⟨.cons hsame .nil, rfl, by simp⟩

theorem inRow_cons_cons : InRow (word :: other :: words) typed gaps ↔ ∃ head gap typed' gaps', SameText word head ∧
    gap ≠ [] ∧ Blank gap ∧ InRow (other :: words) typed' gaps' ∧ typed = head :: typed' ∧ gaps = gap :: gaps' := by
  constructor
  · intro h
    obtain ⟨head, typed', hsame, hmore, rfl⟩ := List.forall₂_cons_left_iff.1 h.same
    cases gaps with
    | nil => exact absurd h.between (by simp)
    | cons gap gaps =>
      obtain ⟨⟨hne, hgap⟩, hgaps⟩ := List.forall_mem_cons.1 h.blank
      exact ⟨head, gap, typed', gaps, hsame, hne, hgap, ⟨hmore, by simpa using h.between, hgaps⟩, rfl, rfl⟩
  · rintro ⟨head, gap, typed', gaps', hsame, hne, hgap, hrow, rfl, rfl⟩
    exact ⟨.cons hsame hrow.same, by simpa using hrow.between, List.forall_mem_cons.2 ⟨⟨hne, hgap⟩, hrow.blank⟩⟩

/-- A text spells words in a row if it is these words as typed, with gaps between them. -/
theorem spellsWords_iff_inRow {text : List Char} :
    SpellsWords words text ↔ ∃ typed gaps, InRow words typed gaps ∧ interleave typed gaps = text := by
  induction words generalizing text with
  | nil => simp [SpellsWords, inRow_nil, interleave, eq_comm]
  | cons word words ih =>
    cases words with
    | nil => simp [SpellsWords, inRow_singleton, interleave]
    | cons other words =>
      constructor
      · rintro ⟨head, gap, tail, rfl, hsame, hne, hgap, htail⟩
        obtain ⟨typed, gaps, hrow, rfl⟩ := ih.1 htail
        exact ⟨head :: typed, gap :: gaps, inRow_cons_cons.2 ⟨head, gap, typed, gaps, hsame, hne, hgap, hrow, rfl, rfl⟩, rfl⟩
      · rintro ⟨typed, gaps, hrow, rfl⟩
        obtain ⟨head, gap, typed', gaps', hsame, hne, hgap, hmore, rfl, rfl⟩ := inRow_cons_cons.1 hrow
        exact ⟨head, gap, interleave typed' gaps', rfl, hsame, hne, hgap, ih.2 ⟨typed', gaps', hmore, rfl⟩⟩

theorem InRow.dropBlanks_eq (h : InRow words typed gaps) {c : Char} {cs : List Char} (hword : words.head? = some (c :: cs))
    (hc : isBlank c = false) (rest : List Char) : dropBlanks (interleave typed gaps ++ rest) = interleave typed gaps ++ rest := by
  obtain ⟨more, rfl⟩ := List.head?_eq_some_iff.1 hword
  obtain ⟨head, typed, hsame, -, rfl⟩ := List.forall₂_cons_left_iff.1 h.same
  obtain ⟨tail, htail⟩ := exists_interleave_cons head typed gaps
  rw [htail, List.append_assoc]
  exact dropBlanks_append_of_sameText hsame hc (tail ++ rest)

/-- **Words in a row are typed in one way only**: each takes as many characters as it has, and all blanks behind it are the
gap, since the next word begins with none. -/
theorem InRow.unique (hsep : Separable words) (h : InRow words typed gaps) (h' : InRow words typed' gaps')
    (heq : interleave typed gaps ++ rest = interleave typed' gaps' ++ rest') :
    typed = typed' ∧ gaps = gaps' ∧ rest = rest' := by
  induction words generalizing typed typed' gaps gaps' with
  | nil =>
    obtain ⟨rfl, rfl⟩ := inRow_nil.1 h
    obtain ⟨rfl, rfl⟩ := inRow_nil.1 h'
    exact ⟨rfl, rfl, heq⟩
  | cons word words ih =>
    cases words with
    | nil =>
      obtain ⟨head, hsame, rfl, rfl⟩ := inRow_singleton.1 h
      obtain ⟨head', hsame', rfl, rfl⟩ := inRow_singleton.1 h'
      have hlength : head.length = head'.length := hsame.length_eq.symm.trans hsame'.length_eq
      obtain ⟨rfl, rfl⟩ := List.append_inj (by simpa [interleave] using heq) hlength
      exact ⟨rfl, rfl, rfl⟩
    | cons other words =>
      obtain ⟨head, gap, typed, gaps, hsame, -, hgap, hrow, rfl, rfl⟩ := inRow_cons_cons.1 h
      obtain ⟨head', gap', typed', gaps', hsame', -, hgap', hrow', rfl, rfl⟩ := inRow_cons_cons.1 h'
      simp only [interleave, List.append_assoc] at heq
      obtain ⟨rfl, hgaps⟩ := List.append_inj heq (hsame.length_eq.symm.trans hsame'.length_eq)
      obtain ⟨c, cs, rfl, hc⟩ := hsep other (by simp)
      have htail : interleave typed gaps ++ rest = interleave typed' gaps' ++ rest' := by
        have hdrop := congrArg dropBlanks hgaps
        rwa [dropBlanks_blank_append hgap, dropBlanks_blank_append hgap', hrow.dropBlanks_eq rfl hc,
          hrow'.dropBlanks_eq rfl hc] at hdrop
      obtain ⟨rfl, rfl, rfl⟩ := ih hsep.tail hrow hrow' htail
      rw [List.append_cancel_right hgaps]
      exact ⟨rfl, rfl, rfl⟩

end Row

/-! ## Readings -/

section Readings

variable {k : Keyword} {extent : Extent} {text : List Char} {pos : Nat} {t t' : Typed}

theorem Keyword.separable_words (k : Keyword) : Separable k.words :=
  fun _ hword => Keyword.exists_cons_of_mem_words (List.mem_of_mem_tail hword)

/-- There is at most one reading of each extent. -/
theorem Keyword.Reads.unique (h : k.Reads extent text pos t) (h' : k.Reads extent text pos t') : t = t' := by
  obtain ⟨words, gaps, fragment⟩ := t
  obtain ⟨words', gaps', fragment'⟩ := t'
  obtain ⟨rest, hrest⟩ := h.stands
  obtain ⟨rest', hrest'⟩ := h'.stands
  have heq := hrest.trans hrest'.symm
  simp only [Typed.text, List.append_assoc] at heq
  obtain ⟨rfl, rfl, htail⟩ := InRow.unique k.separable_words h.row h'.row heq
  have hlength : fragment.length = fragment'.length := h.fragment.length_eq.symm.trans h'.fragment.length_eq
  rw [(List.append_inj htail hlength).1]

/-- the words that a reading of an extent spells -/
def Keyword.form (k : Keyword) : Extent → List (List Char)
  | .whole => appendLast k.suffix.toList k.words
  | .stem => k.words

/-- A reading spells its form, and every spelling of the form is that of a reading. -/
theorem Keyword.spellsWords_form {head : List Char} : SpellsWords (k.form extent) head ↔
    ∃ t : Typed, InRow k.words t.words t.gaps ∧ SameText (k.fragment extent) t.fragment ∧ t.text = head := by
  have hbody : (∃ body tail, head = body ++ tail ∧ SpellsWords k.words body ∧ SameText (k.fragment extent) tail) ↔
      ∃ t : Typed, InRow k.words t.words t.gaps ∧ SameText (k.fragment extent) t.fragment ∧ t.text = head := by
    constructor
    · rintro ⟨body, tail, rfl, hbody, htail⟩
      obtain ⟨typed, gaps, hrow, rfl⟩ := spellsWords_iff_inRow.1 hbody
      exact ⟨⟨typed, gaps, tail⟩, hrow, htail, rfl⟩
    · rintro ⟨t, hrow, hfragment, rfl⟩
      exact ⟨interleave t.words t.gaps, t.fragment, rfl, spellsWords_iff_inRow.2 ⟨t.words, t.gaps, hrow, rfl⟩, hfragment⟩
  rw [← hbody]
  cases extent with
  | whole => exact spellsWords_appendLast
  | stem => simp [Keyword.form, Keyword.fragment, SameText, eq_comm]

/-- The forms of a keyword are those of its extents, the one with the fragment first. -/
theorem Keyword.forms_eq (k : Keyword) :
    k.forms = if k.suffix = "" then [k.form .stem] else [k.form .whole, k.form .stem] := by
  unfold Keyword.forms
  simp only [List.isEmpty_iff, String.toList_eq_nil_iff]
  rfl

theorem Keyword.mem_forms {form : List (List Char)} :
    form ∈ k.forms ↔ ∃ extent, (extent = .whole → k.suffix ≠ "") ∧ k.form extent = form := by
  rw [Keyword.forms_eq]
  constructor
  · intro h
    split at h
    · exact ⟨.stem, by simp, (List.mem_singleton.1 h).symm⟩
    · next hsuffix =>
      rcases List.mem_pair.1 h with rfl | rfl
      · exact ⟨.whole, fun _ => hsuffix, rfl⟩
      · exact ⟨.stem, by simp, rfl⟩
  · rintro ⟨extent, hsuffix, rfl⟩
    cases extent with
    | whole => simp [hsuffix rfl]
    | stem => split <;> simp

theorem Keyword.readForm?_form_eq_some (hextent : extent = .whole → k.suffix ≠ "") {rest : List Char} :
    readForm? (k.form extent) (text.drop pos) = some rest ↔
      ∃ t, k.Reads extent text pos t ∧ rest = text.drop (pos + t.text.length) := by
  rw [readForm?_eq_some (Keyword.separable (Keyword.mem_forms.2 ⟨extent, hextent, rfl⟩))]
  constructor
  · rintro ⟨head, htext, hspells, hend⟩
    obtain ⟨t, hrow, hfragment, rfl⟩ := Keyword.spellsWords_form.1 hspells
    have hrest : rest = text.drop (pos + t.text.length) := by
      rw [← List.drop_drop, htext, List.drop_left]
    exact ⟨t, ⟨hrow, hfragment, hextent, ⟨rest, htext.symm⟩, hrest ▸ hend⟩, hrest⟩
  · rintro ⟨t, h, rfl⟩
    refine ⟨t.text, ?_, Keyword.spellsWords_form.2 ⟨t, h.row, h.fragment, rfl⟩, h.ends⟩
    obtain ⟨rest, hrest⟩ := h.stands
    rw [← List.drop_drop, ← hrest, List.drop_left]

theorem Keyword.Reads.readForm?_eq (h : k.Reads extent text pos t) :
    readForm? (k.form extent) (text.drop pos) = some (text.drop (pos + t.text.length)) :=
  (Keyword.readForm?_form_eq_some h.hasFragment).2 ⟨t, h, rfl⟩

/-! ## Matches -/

/-- the text behind the first form of the keyword that is read at an offset -/
def Keyword.behind? (k : Keyword) (text : List Char) (pos : Nat) : Option (List Char) :=
  k.forms.findSome? (readForm? · (text.drop pos))

theorem Keyword.behind?_eq_none : k.behind? text pos = none ↔ ∀ extent t, ¬ k.Reads extent text pos t := by
  unfold Keyword.behind?
  rw [List.findSome?_eq_none_iff]
  constructor
  · intro h extent t hreads
    have hnone := h (k.form extent) (Keyword.mem_forms.2 ⟨extent, hreads.hasFragment, rfl⟩)
    rw [hreads.readForm?_eq] at hnone
    cases hnone
  · intro h form hform
    obtain ⟨extent, hextent, rfl⟩ := Keyword.mem_forms.1 hform
    refine Option.eq_none_iff_forall_ne_some.2 fun rest hrest => ?_
    obtain ⟨t, hreads, -⟩ := (Keyword.readForm?_form_eq_some hextent).1 hrest
    exact h extent t hreads

theorem Keyword.Reads.behind?_eq_of_whole (h : k.Reads .whole text pos t) :
    k.behind? text pos = some (text.drop (pos + t.text.length)) := by
  unfold Keyword.behind?
  rw [Keyword.forms_eq, if_neg (h.hasFragment rfl), List.findSome?_cons, h.readForm?_eq]

theorem Keyword.Reads.behind?_eq_of_stem (h : k.Reads .stem text pos t) (hno : ∀ t, ¬ k.Reads .whole text pos t) :
    k.behind? text pos = some (text.drop (pos + t.text.length)) := by
  unfold Keyword.behind?
  rw [Keyword.forms_eq]
  split
  · rw [List.findSome?_cons, h.readForm?_eq]
  · next hsuffix =>
    have hnone : readForm? (k.form .whole) (text.drop pos) = none := by
      refine Option.eq_none_iff_forall_ne_some.2 fun rest hrest => ?_
      obtain ⟨t, hreads, -⟩ := (Keyword.readForm?_form_eq_some fun _ => hsuffix).1 hrest
      exact hno t hreads
    rw [List.findSome?_cons, hnone, List.findSome?_cons, h.readForm?_eq]

theorem length_sub_dropBlanks_drop (text : List Char) (pos : Nat) :
    text.length - (dropBlanks (text.drop pos)).length = nextNonBlank text pos := by
  have hoffset := firstNonBlank_eq (text.drop pos)
  have hle := length_dropBlanks (text.drop pos)
  rw [List.length_drop] at hoffset hle
  unfold nextNonBlank
  omega

theorem Keyword.matchAt?_eq (k : Keyword) (text : List Char) (pos : Nat) :
    k.matchAt? text pos = (k.behind? text pos).map fun rest => text.length - (dropBlanks rest).length := by
  unfold Keyword.matchAt? Keyword.behind?
  rw [Keyword.match?_eq_findSome?, Option.map_map]
  rfl

end Readings

/-- **A keyword matches where there is a reading of it.** The match ends behind the reading with the fragment if there is one,
otherwise behind the reading of the words alone, and takes the blanks that follow. There is at most one reading of each. -/
theorem Keyword.matchAt?_by_readings (k : Keyword) (text : List Char) (pos : Nat) :
    (k.matchAt? text pos = none ↔ ∀ extent t, ¬ k.Reads extent text pos t) ∧
      (∀ t, k.Reads .whole text pos t → k.matchAt? text pos = some (nextNonBlank text (pos + t.text.length))) ∧
      (∀ t, k.Reads .stem text pos t → (∀ t', ¬ k.Reads .whole text pos t') →
        k.matchAt? text pos = some (nextNonBlank text (pos + t.text.length))) ∧
      ∀ extent t t', k.Reads extent text pos t → k.Reads extent text pos t' → t = t' := by
  have hbehind : ∀ t : Typed, k.behind? text pos = some (text.drop (pos + t.text.length)) →
      k.matchAt? text pos = some (nextNonBlank text (pos + t.text.length)) := by
    intro t ht
    rw [Keyword.matchAt?_eq, ht, Option.map_some, length_sub_dropBlanks_drop]
  refine ⟨?_, ?_, ?_, ?_⟩
  · rw [Keyword.matchAt?_eq, Option.map_eq_none_iff]
    exact Keyword.behind?_eq_none
  · intro t h
    exact hbehind t h.behind?_eq_of_whole
  · intro t h hno
    exact hbehind t (h.behind?_eq_of_stem hno)
  · intro extent t t' h h'
    exact h.unique h'

/-- Two readings at one offset. The one with the fragment is taken, although the other one ends before it. -/
theorem matchAt?_dining_hall :
    Keyword.Reads ⟨"dining hall", " 1"⟩ .stem "at Dining \tHALL 1  x".toList 3
        ⟨["Dining".toList, "HALL".toList], [" \t".toList], []⟩ ∧
      Keyword.Reads ⟨"dining hall", " 1"⟩ .whole "at Dining \tHALL 1  x".toList 3
        ⟨["Dining".toList, "HALL".toList], [" \t".toList], " 1".toList⟩ ∧
      Keyword.matchAt? ⟨"dining hall", " 1"⟩ "at Dining \tHALL 1  x".toList 3 = some 19 := by
  have hrow : InRow (Keyword.words ⟨"dining hall", " 1"⟩) ["Dining".toList, "HALL".toList] [" \t".toList] :=
    ⟨.cons (by decide +kernel) (.cons (by decide +kernel) .nil), by decide +kernel, by decide +kernel⟩
  have hwhole : Keyword.Reads ⟨"dining hall", " 1"⟩ .whole "at Dining \tHALL 1  x".toList 3
      ⟨["Dining".toList, "HALL".toList], [" \t".toList], " 1".toList⟩ :=
    ⟨hrow, by decide +kernel, by decide, by decide +kernel, by decide +kernel⟩
  exact ⟨⟨hrow, by decide, by decide, by decide +kernel, by decide +kernel⟩, hwhole,
    (Keyword.matchAt?_by_readings _ _ _).2.1 _ hwhole⟩

/-- The fragment counts as a whole, and only where a word may end. -/
example : (["tues", "tue", "Tuesday x", "tuesdays"].map fun text => Keyword.matchAt? ⟨"tue", "sday"⟩ text.toList 0) =
    [none, some 3, some 8, none] := by decide +kernel

end MenuBoard.Phrase
