import Mathlib.Data.List.Nodup
import MenuBoard.Proofs.Numeral
import MenuBoard.Proofs.Text.CaseVariants
import MenuBoard.Tag.Lookup

/-!
Which texts a tag is found by: its name in any case, and its number in decimal digits of any script, with white space around.

White space around a name never matters. Around a number the separators U+001C to U+001F do: they are white space, so the text
without them is taken for a number, but no numeral may have them around it. `findsTag` says which tag is found, why none is, and
that these texts are all that is lost; `find_five_behind_separator` is about one of them.
-/

namespace MenuBoard.Tag

open MenuBoard.Text

/-- the text is the name of the tag, up to case -/
def NamedBy (t : Tag) (text : List Char) : Prop := lower text = lower t.name.toList

/-- the text is the number of the tag, in decimal digits of any script -/
def NumberedBy (t : Tag) (text : List Char) : Prop :=
  text ≠ [] ∧ ∃ digits : List Nat, text.map digitValue? = digits.map some ∧ ofDigits digits = t.id

/-- One of the separators stands in the white space around the text. -/
def SeparatorAround (text : List Char) : Prop :=
  ∃ front back, front ++ trim text ++ back = text ∧ ∃ c ∈ front ++ back, isSeparator c = true

/-- The number of a tag with a separator in the white space around it. -/
def Hindered (text : List Char) : Prop := SeparatorAround text ∧ ∃ t, NumberedBy t (trim text)

/-- What is found by a text. -/
structure FindsTag (s : String) : Prop where
  found : ∀ t, find s = .ok t ↔ NamedBy t (trim s.toList) ∨ NumberedBy t (trim s.toList) ∧ ¬ SeparatorAround s.toList
  /-- There is no failure but these, and a numeral is never refused for its length. -/
  error : ∀ error, find s = .error error →
    error = .unknownNumber s ∨ error = .unknownName (quoted s) ∨ error = .numeral (.malformed s)
  /-- The separators make no difference but to the numbers of tags. -/
  lost : (∀ t, find s = .ok t ↔ NamedBy t (trim s.toList) ∨ NumberedBy t (trim s.toList)) ↔ ¬ Hindered s.toList
  /-- The text without the white space around it is found alike, with the same exception. -/
  trimmed : (∀ t, find s = .ok t ↔ find (String.ofList (trim s.toList)) = .ok t) ↔ ¬ Hindered s.toList

section Names

variable {t : Tag} {text : List Char} {shown : String}

/-! ## Names and numbers -/

theorem lower_name_injective {t t' : Tag} (h : lower t.name.toList = lower t'.name.toList) : t = t' := by
  have hnodup : (all.map fun t => lower t.name.toList).Nodup := by decide +kernel
  exact List.inj_on_of_nodup_map hnodup (mem_all t) (mem_all t') h

theorem ofNumber?_eq_some {n : Int} : ofNumber? n = some t ↔ n = t.id := by
  constructor
  · intro h
    have hid := ofNumber?_id t
    unfold ofNumber? at h hid
    split at h
    · cases h
    · next hn =>
      rw [if_neg (Int.not_lt.2 (Int.natCast_nonneg _)), Int.toNat_natCast] at hid
      obtain ⟨hlt, -⟩ := List.getElem?_eq_some_iff.1 h
      have hsame : n.toNat = t.id := (List.getElem?_inj hlt (by decide)).1 (h.trans hid.symm)
      omega
  · rintro rfl
    exact ofNumber?_id t

theorem findNumber_eq_ok {n : Int} : findNumber n shown = .ok t ↔ n = t.id := by
  rw [← ofNumber?_eq_some]
  unfold findNumber
  split
  · next h => simp [h]
  · next h => simp [h]

theorem findName_eq_ok : findName text shown = .ok t ↔ NamedBy t (trim text) := by
  unfold findName NamedBy
  split
  · next t' h =>
    have hname : lower t'.name.toList = lower (trim text) := by simpa using List.find?_some h
    constructor
    · rintro ⟨rfl⟩
      exact hname.symm
    · intro hnamed
      rw [lower_name_injective (hname.trans hnamed)]
  · next h =>
    have hnone := List.find?_eq_none.1 h t (mem_all t)
    constructor
    · intro h
      cases h
    · intro hnamed
      rw [hnamed] at hnone
      exact absurd (beq_self_eq_true _) hnone

/-! ## Digits -/

theorem isNumberText_iff : isNumberText text = true ↔ text ≠ [] ∧ ∀ c ∈ text, isDigitLike c = true := by
  simp [isNumberText, Bool.and_eq_true]

theorem NumberedBy.isNumberText (h : NumberedBy t text) : isNumberText text = true := by
  obtain ⟨hne, digits, hdigits, -⟩ := h
  refine isNumberText_iff.2 ⟨hne, fun c hc => ?_⟩
  obtain ⟨d, hd⟩ := digit_of_map hdigits hc
  exact isDigitLike_of_digitValue? hd

/-- A name does not look like a number: what has a letter for its small form is no digit. -/
theorem NamedBy.not_isNumberText (h : NamedBy t text) : ¬ isNumberText text = true := by
  intro hnumber
  obtain ⟨hne, hdigits⟩ := isNumberText_iff.1 hnumber
  obtain ⟨c, rest, rfl⟩ := List.exists_cons_of_ne_nil hne
  have hdigit := hdigits c List.mem_cons_self
  obtain ⟨l, hl, hascii, hhead⟩ : ∃ l ∈ alphabet, l.toNat < 0x80 ∧ (lower t.name.toList).head? = some l := by
    cases t <;> exact ⟨_, by decide, by decide, rfl⟩
  have hlower : (lowerChar c).head? = some l := by
    rw [← hhead, ← h]
    unfold lower lowerChar
    rw [List.flatMap_cons]
    split <;> rfl
  unfold lowerChar at hlower
  split at hlower
  · next hdotted =>
    rw [← Char.ofNat_toNat c, hdotted] at hdigit
    exact absurd hdigit (by decide)
  · have hkey := caseKey_of_lowerCode hl hascii (Option.some.inj hlower)
    rw [isDigitLike_of_alphabet hl hkey] at hdigit
    cases hdigit

/-! ## White space around a number -/

theorem SeparatorAround.exists_mem (h : SeparatorAround text) : ∃ c ∈ text, isSeparator c = true := by
  obtain ⟨front, back, hpad, c, hc, hseparator⟩ := h
  have hsub : (front ++ back).Sublist text := by
    have hmiddle := (List.Sublist.refl front).append (List.sublist_append_right (trim text) back)
    rwa [← List.append_assoc, hpad] at hmiddle
  exact ⟨c, hsub.subset hc, hseparator⟩

theorem not_separatorAround_trim (text : List Char) : ¬ SeparatorAround (trim text) := by
  rintro ⟨front, back, htrim, c, hc, -⟩
  have hlength := congrArg List.length htrim
  rw [trim_trim, List.length_append, List.length_append] at hlength
  have hpos := List.length_pos_of_mem hc
  rw [List.length_append] at hpos
  omega

/-- Digits are read with white space around them, if none of the separators is in it. -/
theorem readInt_of_not_separatorAround {digits : List Nat} (hfree : ¬ SeparatorAround text) (hne : trim text ≠ [])
    (hdigits : (trim text).map digitValue? = digits.map some) (hlength : (trim text).length ≤ maxNumeralDigits) :
    readInt text = .ok (ofDigits digits : Int) := by
  obtain ⟨front, back, hpad, hfront, hback⟩ := exists_pad_trim text
  have hblank (c : Char) (hc : c ∈ front ++ back) (hspace : isSpace c = true) : isNumeralBlank c = true := by
    rw [isNumeralBlank_eq, hspace, Bool.true_and, Bool.not_eq_true']
    exact Bool.eq_false_iff.2 fun hseparator => hfree ⟨front, back, hpad, c, hc, hseparator⟩
  have hread := readInt_digits (fun c hc => hblank c (List.mem_append_left _ hc) (hfront c hc))
    (fun c hc => hblank c (List.mem_append_right _ hc) (hback c hc)) hne hdigits hlength
  rwa [hpad] at hread

/-- **A text of digits is read** exactly if all of them are decimal digits and none of the separators stands around them. -/
theorem readInt_iff {n : Int} (hnumber : isNumberText (trim text) = true) (hlength : (trim text).length ≤ maxNumeralDigits) :
    readInt text = .ok n ↔ ¬ SeparatorAround text ∧
      ∃ digits : List Nat, (trim text).map digitValue? = digits.map some ∧ n = ofDigits digits := by
  obtain ⟨hne, hlike⟩ := isNumberText_iff.1 hnumber
  constructor
  · intro h
    have hfree : ¬ SeparatorAround text := by
      intro haround
      obtain ⟨c, hc, hseparator⟩ := haround.exists_mem
      rw [isSeparator_of_readInt h hc] at hseparator
      cases hseparator
    have hdecimal : (trim text).map digitValue? = ((trim text).map fun c => (digitValue? c).getD 0).map some := by
      rw [List.map_map]
      refine List.map_congr_left fun c hc => ?_
      obtain ⟨d, hd⟩ := digit_of_readInt h (mem_of_mem_trim hc) (hlike c hc)
      rw [Function.comp_apply, hd]
      rfl
    have hread := readInt_of_not_separatorAround hfree hne hdecimal hlength
    exact ⟨hfree, _, hdecimal, Except.ok.inj (h.symm.trans hread)⟩
  · rintro ⟨hfree, digits, hdigits, rfl⟩
    exact readInt_of_not_separatorAround hfree hne hdigits hlength

end Names

/-! ## What is found -/

section Find

variable {s : String}

theorem find_eq_ok (hlength : (trim s.toList).length ≤ maxNumeralDigits) {t : Tag} : find s = .ok t ↔
    NamedBy t (trim s.toList) ∨ NumberedBy t (trim s.toList) ∧ ¬ SeparatorAround s.toList := by
  unfold find
  by_cases hnumber : isNumberText (trim s.toList) = true
  · have hname : ¬ NamedBy t (trim s.toList) := fun hname => hname.not_isNumberText hnumber
    have hne := (isNumberText_iff.1 hnumber).1
    rw [if_pos hnumber, or_iff_right hname]
    split
    · next n hread =>
      obtain ⟨hfree, digits, hdigits, rfl⟩ := (readInt_iff hnumber hlength).1 hread
      rw [findNumber_eq_ok, Int.natCast_inj]
      constructor
      · intro hid
        exact ⟨⟨hne, digits, hdigits, hid⟩, hfree⟩
      · rintro ⟨⟨-, others, hothers, hid⟩, -⟩
        have hsame : digits.map some = others.map some := hdigits.symm.trans hothers
        rw [← hid, (List.map_inj_right fun _ _ => Option.some.inj).1 hsame]
    · next error hread =>
      constructor
      · intro h
        cases h
      · rintro ⟨⟨-, digits, hdigits, -⟩, hfree⟩
        rw [(readInt_iff hnumber hlength).2 ⟨hfree, digits, hdigits, rfl⟩] at hread
        cases hread
  · have hnumbered : ¬ NumberedBy t (trim s.toList) := fun h => hnumber h.isNumberText
    rw [if_neg hnumber, findName_eq_ok]
    simp [hnumbered]

theorem find_eq_error (hlength : (trim s.toList).length ≤ maxNumeralDigits) {error : TagError} (h : find s = .error error) :
    error = .unknownNumber s ∨ error = .unknownName (quoted s) ∨ error = .numeral (.malformed s) := by
  unfold find at h
  split at h
  · split at h
    · unfold findNumber at h
      split at h <;> cases h
      exact .inl rfl
    · next refused hread =>
      cases h
      rw [readInt_error hlength hread, String.ofList_toList]
      exact .inr (.inr rfl)
  · unfold findName at h
    split at h <;> cases h
    exact .inr (.inl rfl)

/-- Only numbers with a separator around them are not found for the separator's sake. -/
theorem found_iff_not_hindered {text : List Char} :
    (∀ t, (NamedBy t (trim text) ∨ NumberedBy t (trim text) ∧ ¬ SeparatorAround text) ↔
      (NamedBy t (trim text) ∨ NumberedBy t (trim text))) ↔ ¬ Hindered text := by
  constructor
  · rintro h ⟨haround, t, hnumbered⟩
    rcases (h t).2 (.inr hnumbered) with hnamed | ⟨-, hfree⟩
    · exact hnamed.not_isNumberText hnumbered.isNumberText
    · exact hfree haround
  · intro hfree t
    refine or_congr_right (and_iff_left_of_imp fun hnumbered haround => ?_)
    exact hfree ⟨haround, t, hnumbered⟩

/-- **A tag is found by its name or its number**, and by nothing else. White space around does not matter, but for separators
around a number. -/
theorem findsTag (hlength : (trim s.toList).length ≤ maxNumeralDigits) : FindsTag s := by
  have htrimmed (t : Tag) : find (String.ofList (trim s.toList)) = .ok t ↔
      NamedBy t (trim s.toList) ∨ NumberedBy t (trim s.toList) := by
    have hagain : trim (String.ofList (trim s.toList)).toList = trim s.toList := by
      rw [String.toList_ofList, trim_trim]
    have hfree : ¬ SeparatorAround (String.ofList (trim s.toList)).toList := by
      rw [String.toList_ofList]
      exact not_separatorAround_trim s.toList
    rw [find_eq_ok (by rwa [hagain]), hagain, and_iff_left hfree]
  constructor
  case found => exact fun t => find_eq_ok hlength
  case error => exact fun error h => find_eq_error hlength h
  case lost =>
    simp only [find_eq_ok hlength]
    exact found_iff_not_hindered
  case trimmed =>
    simp only [find_eq_ok hlength, htrimmed]
    exact found_iff_not_hindered

end Find

/-- A number in another script is found with white space around it, and a name even with separators. -/
theorem findsTag_two_and_flavorEnhancer : FindsTag "\u00a0٠٢\t" ∧ find "\u00a0٠٢\t" = .ok .blackened ∧
    FindsTag "\x1e flavorENHANCER\x1f" ∧ find "\x1e flavorENHANCER\x1f" = .ok .flavorEnhancer := by
  have hnumber : FindsTag "\u00a0٠٢\t" := findsTag (by decide)
  have hname : FindsTag "\x1e flavorENHANCER\x1f" := findsTag (by decide)
  refine ⟨hnumber, (hnumber.found _).2 (.inr ⟨⟨by decide, [0, 2], by decide, rfl⟩, fun haround => ?_⟩), hname,
    (hname.found _).2 (.inl (by unfold NamedBy; decide +kernel))⟩
  obtain ⟨c, hc, hseparator⟩ := haround.exists_mem
  have hnone : "\u00a0٠٢\t".toList.any isSeparator = false := by decide
  rw [List.any_eq_true.2 ⟨c, hc, hseparator⟩] at hnone
  cases hnone

/-- The 5 behind a separator is the number of a tag, but it is taken for a numeral and refused; the 5 alone is found. -/
theorem find_five_behind_separator : NumberedBy .egg (trim "\x1c5".toList) ∧
    find "\x1c5" = .error (.numeral (.malformed "\x1c5")) ∧ find (String.ofList (trim "\x1c5".toList)) = .ok .egg ∧
    ¬ ∀ s : String, (trim s.toList).length ≤ maxNumeralDigits →
      ∀ t, find s = .ok t ↔ NamedBy t (trim s.toList) ∨ NumberedBy t (trim s.toList) := by
  have hfive : NumberedBy .egg (trim "\x1c5".toList) := ⟨by decide, [5], by decide, rfl⟩
  have hrefused : find "\x1c5" = .error (.numeral (.malformed "\x1c5")) := by decide +kernel
  refine ⟨hfive, hrefused, by decide +kernel, fun hfound => ?_⟩
  have hegg := (hfound "\x1c5" (by decide) .egg).2 (.inr hfive)
  rw [hrefused] at hegg
  cases hegg

end MenuBoard.Tag
