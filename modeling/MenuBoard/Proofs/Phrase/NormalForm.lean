import Mathlib.Data.List.DropRight
import MenuBoard.Proofs.Phrase.Alike

/-!
Letter case and runs of blanks make no difference to a phrase.

`normalForm` is a phrase in small letters with single spaces between its words and none at its ends. It looks the same to the
readers as the phrase without its leading blanks (`shape_normalForm`), so phrases with the same normal form are read alike
(`tokenize_of_normalForm_eq`), be they accepted or rejected.
-/

namespace MenuBoard.Phrase

open MenuBoard.Text

/-- every run of blanks becomes one space -/
def squeeze : List Char → List Char
  | [] => []
  | c :: text =>
    if isBlank c then if text.head?.any isBlank then squeeze text else ' ' :: squeeze text else c :: squeeze text

/-- a phrase in small letters (ASCII ones only), with runs of blanks made one space and without blanks at its ends -/
def normalForm (phrase : List Char) : List Char := trimBy isBlank (squeeze (phrase.map Char.toLower))

/-! ## Small letters -/

theorem traits_toLower (c : Char) : traits c.toLower = traits c ∧ isBlank c.toLower = isBlank c := by
  have hcapitals : ∀ n ∈ List.range' 0x41 26, traits (Char.ofNat n).toLower = traits (Char.ofNat n) ∧
      isBlank (Char.ofNat n).toLower = isBlank (Char.ofNat n) := by decide +kernel
  rcases toLower_eq_self_or c with hself | ⟨n, hn, rfl⟩
  · rw [hself]
    exact ⟨rfl, rfl⟩
  · exact hcapitals n hn

theorem shape_map_toLower (text : List Char) : shape (text.map Char.toLower) = shape text := by
  induction text with
  | nil => rfl
  | cons c text ih =>
    obtain ⟨htraits, hblank⟩ := traits_toLower c
    rw [List.map_cons, shape, shape, ih, htraits, hblank]

/-! ## Runs of blanks -/

theorem shape_squeeze (text : List Char) : shape (squeeze text) = shape text := by
  induction text with
  | nil => rfl
  | cons c text ih =>
    by_cases hc : isBlank c = true
    · rw [shape_blank_cons hc, squeeze, if_pos hc]
      by_cases hnext : text.head?.any isBlank = true
      · -- the blank is not the last one of its run
        rw [if_pos hnext, ih]
        cases text with
        | nil => cases hnext
        | cons d text => rw [shape_blank_cons hnext, gapBefore_gapBefore]
      · rw [if_neg hnext, shape_blank_cons rfl, ih]
    · rw [squeeze, if_neg hc, shape_cons (by simpa using hc), shape_cons (by simpa using hc), ih]

theorem shape_trimBy (text : List Char) : shape (trimBy isBlank text) = shape (dropBlanks text) := by
  have hback : Blank ((dropBlanks text).rtakeWhile isBlank) := fun _ hc => List.mem_rtakeWhile_imp hc
  calc shape (trimBy isBlank text)
      = shape ((dropBlanks text).rdropWhile isBlank ++ (dropBlanks text).rtakeWhile isBlank) :=
        (shape_append_blank _ hback).symm
    _ = shape (dropBlanks text) := by rw [List.rdropWhile_append_rtakeWhile]

/-! ## Phrases -/

/-- A phrase looks as its normal form does, from its first word on. -/
theorem shape_normalForm (phrase : List Char) : shape (normalForm phrase) = shape (dropBlanks phrase) := by
  calc shape (normalForm phrase)
      = shape (dropBlanks (squeeze (phrase.map Char.toLower))) := shape_trimBy _
    _ = (shape (squeeze (phrase.map Char.toLower))).dropWhile Option.isNone := shape_dropBlanks _
    _ = (shape phrase).dropWhile Option.isNone := by rw [shape_squeeze, shape_map_toLower]
    _ = shape (dropBlanks phrase) := (shape_dropBlanks phrase).symm

/-- **Letter case and runs of blanks make no difference**: two phrases with the same normal form are both accepted, with the
same contents in the same order, or both rejected, and then the same is expected. -/
theorem tokenize_of_normalForm_eq {p q : List Char} (h : normalForm p = normalForm q) :
    (∃ clauses clauses', tokenize p = .ok clauses ∧ tokenize q = .ok clauses' ∧
      clauses.map (·.content) = clauses'.map (·.content)) ∨
    ∃ r r', tokenize p = .error r ∧ tokenize q = .error r' ∧ r.expected = r'.expected := by
  apply tokenize_of_alike
  have hshapes := congrArg shape h
  rwa [shape_normalForm, shape_normalForm] at hshapes

/-- A canteen that is not finished, and blanks where its name would go on. -/
theorem unfinished_mensa_am :
    normalForm "at MENSA  am \t".toList = normalForm " At\tmensa am".toList ∧
      ((∃ clauses clauses', tokenize "at MENSA  am \t".toList = .ok clauses ∧
        tokenize " At\tmensa am".toList = .ok clauses' ∧ clauses.map (·.content) = clauses'.map (·.content)) ∨
      ∃ r r', tokenize "at MENSA  am \t".toList = .error r ∧ tokenize " At\tmensa am".toList = .error r' ∧
        r.expected = r'.expected) := by
  have hsame : normalForm "at MENSA  am \t".toList = normalForm " At\tmensa am".toList := by decide +kernel
  exact ⟨hsame, tokenize_of_normalForm_eq hsame⟩

end MenuBoard.Phrase
