import MenuBoard.Numeral
import MenuBoard.Proofs.Settings.Cut

/-!
Which texts are whole numbers.

Digits are the number they spell, with whatever may stand around a numeral (`readInt_digits`), and a text that is read holds
nothing but signs, digits, underscores and what may stand around them (`readInt_chars`). White space may, but not the separators
U+001C to U+001F (`isNumeralBlank_eq`). What is refused is malformed unless it has too many digits, and white space adds none
(`readInt_error`).
-/

namespace MenuBoard

open MenuBoard.Text

/-! ## Characters -/

/-- the four separators U+001C to U+001F, white space that may not stand around a numeral -/
def isSeparator (c : Char) : Bool := 0x1c ≤ c.toNat && c.toNat ≤ 0x1f

theorem isNumeralBlank_eq (c : Char) : isNumeralBlank c = (isSpace c && !isSeparator c) := by
  have hspace : c = ' ' ↔ c.toNat = 0x20 := Char.toNat_inj.symm
  rw [Bool.eq_iff_iff]
  unfold isNumeralBlank isSpace isSeparator
  split <;> simp [hspace] <;> omega

theorem isSpace_of_isNumeralBlank {c : Char} (h : isNumeralBlank c = true) : isSpace c = true := by
  rw [isNumeralBlank_eq, Bool.and_eq_true] at h
  exact h.1

theorem isSpace_of_isSeparator {c : Char} (h : isSeparator c = true) : isSpace c = true := by
  simp only [isSeparator, Bool.and_eq_true, decide_eq_true_eq] at h
  simp only [isSpace, Bool.or_eq_true, Bool.and_eq_true, decide_eq_true_eq]
  omega

/-- all code points of white space -/
def spaceCodes : List Nat := List.range' 0x09 5 ++ List.range' 0x1c 5 ++ [0x85, 0xa0, 0x1680] ++ List.range' 0x2000 11 ++
  [0x2028, 0x2029, 0x202f, 0x205f, 0x3000]

/-- What holds of all code points of white space holds of all white space. -/
theorem of_isSpace {p : Char → Prop} (h : ∀ n ∈ spaceCodes, p (Char.ofNat n)) {c : Char} (hc : isSpace c = true) : p c := by
  have hmem : c.toNat ∈ spaceCodes := by
    simp only [isSpace, Bool.or_eq_true, Bool.and_eq_true, decide_eq_true_eq, beq_iff_eq] at hc
    simp only [spaceCodes, List.mem_append, List.mem_range'_1, List.mem_cons, List.not_mem_nil]
    omega
  have hp := h c.toNat hmem
  rwa [Char.ofNat_toNat] at hp

theorem isDigitLike_of_isSpace {c : Char} (h : isSpace c = true) : isDigitLike c = false :=
  of_isSpace (p := fun c => isDigitLike c = false) (by decide +kernel) h

/-- White space does not stand inside a numeral. -/
theorem isNumeralChar_of_isSpace {c : Char} (h : isSpace c = true) : isNumeralChar c = false :=
  of_isSpace (p := fun c => isNumeralChar c = false) (by decide +kernel) h

/-- What looks like a digit is no sign and no underscore. -/
theorem ne_of_isDigitLike {c : Char} (h : isDigitLike c = true) : c ≠ '-' ∧ c ≠ '+' ∧ c ≠ '_' := by
  have hother {d : Char} (hd : isDigitLike d = false) : c ≠ d := by
    rintro rfl
    rw [h] at hd
    cases hd
  exact ⟨hother (by decide), hother (by decide), hother (by decide)⟩

theorem isDigitLike_of_digitValue? {c : Char} {d : Nat} (h : digitValue? c = some d) : isDigitLike c = true := by
  simp [isDigitLike, isDecimalDigit, h]

theorem isNumeralChar_of_digitValue? {c : Char} {d : Nat} (h : digitValue? c = some d) : isNumeralChar c = true := by
  simp [isNumeralChar, isDecimalDigit, h]

/-! ## Digits of a numeral -/

theorem digit_of_map {body : List Char} {digits : List Nat} (h : body.map digitValue? = digits.map some) {c : Char}
    (hc : c ∈ body) : ∃ d, digitValue? c = some d := by
  have hmem : digitValue? c ∈ digits.map some := h ▸ List.mem_map_of_mem hc
  obtain ⟨d, -, hd⟩ := List.mem_map.1 hmem
  exact ⟨d, hd.symm⟩

theorem numeralDigits?_of_map {body : List Char} {digits : List Nat} (hne : body ≠ [])
    (h : body.map digitValue? = digits.map some) : numeralDigits? body = some digits := by
  fun_induction numeralDigits? body generalizing digits with
  | case1 => exact absurd rfl hne
  | case2 c =>
    obtain ⟨d, digits, rfl, hd, hrest⟩ := List.map_eq_cons_iff.1 h.symm
    rw [← hd, List.map_eq_nil_iff.1 hrest]
    rfl
  | case3 c rest ih =>
    -- an underscore has no value
    obtain ⟨d, digits, rfl, -, hrest⟩ := List.map_eq_cons_iff.1 h.symm
    obtain ⟨e, digits, rfl, hvalue, -⟩ := List.map_eq_cons_iff.1 hrest
    cases hvalue
  | case4 c rest hend _ ih =>
    obtain ⟨d, digits, rfl, hd, hrest⟩ := List.map_eq_cons_iff.1 h.symm
    rw [← hd, ih hend hrest.symm]
    rfl

theorem length_numeralDigits? {body : List Char} {digits : List Nat} (h : numeralDigits? body = some digits) :
    digits.length ≤ body.length := by
  fun_induction numeralDigits? body generalizing digits with
  | case1 => cases h
  | case2 c =>
    obtain ⟨d, -, rfl⟩ := Option.map_eq_some_iff.1 h
    exact Nat.le_refl 1
  | case3 c rest ih =>
    obtain ⟨d, -, hrest⟩ := Option.bind_eq_some_iff.1 h
    obtain ⟨more, hmore, hdigits⟩ := Option.bind_eq_some_iff.1 hrest
    cases hdigits
    exact Nat.succ_le_succ (Nat.le_succ_of_le (ih hmore))
  | case4 c rest _ _ ih =>
    obtain ⟨d, -, hrest⟩ := Option.bind_eq_some_iff.1 h
    obtain ⟨more, hmore, hdigits⟩ := Option.bind_eq_some_iff.1 hrest
    cases hdigits
    exact Nat.succ_le_succ (ih hmore)

theorem exists_digit_of_numeralDigits? {body : List Char} {digits : List Nat} (h : numeralDigits? body = some digits) :
    ∃ c ∈ body, ∃ d, digitValue? c = some d := by
  unfold numeralDigits? at h
  split at h
  · cases h
  · next c =>
    obtain ⟨d, hd, -⟩ := Option.map_eq_some_iff.1 h
    exact ⟨c, List.mem_cons_self, d, hd⟩
  · next c rest =>
    obtain ⟨d, hd, -⟩ := Option.bind_eq_some_iff.1 h
    exact ⟨c, List.mem_cons_self, d, hd⟩
  · next c rest _ _ =>
    obtain ⟨d, hd, -⟩ := Option.bind_eq_some_iff.1 h
    exact ⟨c, List.mem_cons_self, d, hd⟩

/-! ## Reading a text -/

/-- A run of characters goes as far as its characters do. -/
theorem takeWhile_append_stop {p : Char → Bool} {run rest : List Char} (hrun : ∀ c ∈ run, p c = true)
    (hrest : ∀ c ∈ rest, p c = false) : (run ++ rest).takeWhile p = run ∧ (run ++ rest).dropWhile p = rest := by
  rw [List.takeWhile_append_of_pos hrun, List.dropWhile_append_of_pos hrun]
  cases rest with
  | nil => exact ⟨List.append_nil run, rfl⟩
  | cons c rest =>
    have hstop : ¬ p c = true := Bool.eq_false_iff.1 (hrest c List.mem_cons_self)
    rw [List.takeWhile_cons_of_neg hstop, List.dropWhile_cons_of_neg hstop]
    exact ⟨List.append_nil run, rfl⟩

/-- **Digits are the number they spell**, with whatever may stand around a numeral. -/
theorem readInt_digits {lead body tail : List Char} {digits : List Nat} (hlead : ∀ c ∈ lead, isNumeralBlank c = true)
    (htail : ∀ c ∈ tail, isNumeralBlank c = true) (hne : body ≠ []) (hbody : body.map digitValue? = digits.map some)
    (hlength : body.length ≤ maxNumeralDigits) : readInt (lead ++ body ++ tail) = .ok (ofDigits digits : Int) := by
  have hall (c : Char) (hc : c ∈ body) : isNumeralChar c = true := by
    obtain ⟨d, hd⟩ := digit_of_map hbody hc
    exact isNumeralChar_of_digitValue? hd
  have hdrop : (lead ++ body ++ tail).dropWhile isNumeralBlank = body ++ tail := by
    rw [List.append_assoc, List.dropWhile_append_of_pos hlead]
    obtain ⟨c, body, rfl⟩ := List.exists_cons_of_ne_nil hne
    refine List.dropWhile_cons_of_neg fun hblank => ?_
    have hnot := isNumeralChar_of_isSpace (isSpace_of_isNumeralBlank hblank)
    rw [hall c List.mem_cons_self] at hnot
    cases hnot
  have hsign : splitSign (body ++ tail) = (false, body ++ tail) := by
    obtain ⟨c, body, rfl⟩ := List.exists_cons_of_ne_nil hne
    obtain ⟨d, hd⟩ := digit_of_map hbody List.mem_cons_self
    obtain ⟨hminus, hplus, -⟩ := ne_of_isDigitLike (isDigitLike_of_digitValue? hd)
    unfold splitSign
    split
    · next heq => exact absurd (List.cons.inj heq).1 hminus
    · next heq => exact absurd (List.cons.inj heq).1 hplus
    · rfl
  obtain ⟨htake, hrest⟩ := takeWhile_append_stop hall fun c hc =>
    isNumeralChar_of_isSpace (isSpace_of_isNumeralBlank (htail c hc))
  have hshort : ¬ maxNumeralDigits < digits.length := by
    have hsame := congrArg List.length hbody
    rw [List.length_map, List.length_map] at hsame
    omega
  have hblank : tail.all isNumeralBlank = true := List.all_eq_true.2 htail
  simp only [readInt, hdrop, hsign, htake, hrest, numeralDigits?_of_map hne hbody, if_neg hshort, hblank]
  rfl

theorem mem_splitSign {c : Char} {text : List Char} (h : c ∈ text) : c = '-' ∨ c = '+' ∨ c ∈ (splitSign text).2 := by
  unfold splitSign
  split
  · rcases List.mem_cons.1 h with rfl | h
    · exact .inl rfl
    · exact .inr (.inr h)
  · rcases List.mem_cons.1 h with rfl | h
    · exact .inr (.inl rfl)
    · exact .inr (.inr h)
  · exact .inr (.inr h)

theorem splitSign_sublist (text : List Char) : (splitSign text).2.Sublist text := by
  unfold splitSign
  split
  · exact List.sublist_cons_self _ _
  · exact List.sublist_cons_self _ _
  · exact List.Sublist.refl _

/-- There is a digit in a number. -/
theorem exists_digit_of_readInt {text : List Char} {n : Int} (h : readInt text = .ok n) :
    ∃ c ∈ text, ∃ d, digitValue? c = some d := by
  simp only [readInt] at h
  split at h
  · cases h
  · next digits hdigits =>
    obtain ⟨c, hc, hd⟩ := exists_digit_of_numeralDigits? hdigits
    have hunsigned := (List.takeWhile_sublist _).subset hc
    exact ⟨c, (List.dropWhile_suffix _).subset ((splitSign_sublist _).subset hunsigned), hd⟩

/-- What is read holds nothing but signs, digits, underscores, and what may stand around a numeral. -/
theorem readInt_chars {text : List Char} {n : Int} (h : readInt text = .ok n) : ∀ c ∈ text,
    isNumeralBlank c = true ∨ c = '-' ∨ c = '+' ∨ isNumeralChar c = true := by
  intro c hc
  simp only [readInt] at h
  rw [← List.takeWhile_append_dropWhile (p := isNumeralBlank) (l := text)] at hc
  rcases List.mem_append.1 hc with hlead | hc
  · exact .inl (List.mem_takeWhile_imp hlead)
  rcases mem_splitSign hc with hminus | hplus | hc
  · exact .inr (.inl hminus)
  · exact .inr (.inr (.inl hplus))
  rw [← List.takeWhile_append_dropWhile (p := isNumeralChar) (l := (splitSign _).2)] at hc
  rcases List.mem_append.1 hc with hbody | hrest
  · exact .inr (.inr (.inr (List.mem_takeWhile_imp hbody)))
  · split at h
    · cases h
    split at h
    · cases h
    split at h
    · cases h
    next hblank =>
    rw [Bool.not_eq_true, Bool.not_eq_false', List.all_eq_true] at hblank
    exact .inl (hblank c hrest)

/-- No separator is in what is read. -/
theorem isSeparator_of_readInt {text : List Char} {n : Int} (h : readInt text = .ok n) {c : Char} (hc : c ∈ text) :
    isSeparator c = false := by
  refine Bool.eq_false_iff.2 fun hseparator => ?_
  have hspace := isSpace_of_isSeparator hseparator
  rcases readInt_chars h c hc with hblank | rfl | rfl | hchar
  · rw [isNumeralBlank_eq, hseparator, Bool.not_true, Bool.and_false] at hblank
    cases hblank
  · cases hspace
  · cases hspace
  · rw [isNumeralChar_of_isSpace hspace] at hchar
    cases hchar

/-- What looks like a digit in what is read is one. -/
theorem digit_of_readInt {text : List Char} {n : Int} (h : readInt text = .ok n) {c : Char} (hc : c ∈ text)
    (hlike : isDigitLike c = true) : ∃ d, digitValue? c = some d := by
  obtain ⟨hminus, hplus, hunderscore⟩ := ne_of_isDigitLike hlike
  rcases readInt_chars h c hc with hblank | rfl | rfl | hchar
  · rw [isDigitLike_of_isSpace (isSpace_of_isNumeralBlank hblank)] at hlike
    cases hlike
  · exact absurd rfl hminus
  · exact absurd rfl hplus
  · rcases Bool.or_eq_true_iff.1 hchar with hdigit | hother
    · exact Option.isSome_iff_exists.1 hdigit
    · exact absurd (beq_iff_eq.1 hother) hunderscore

/-- **What is refused is malformed** if what is left of it without white space at its ends is not too long. -/
theorem readInt_error {text : List Char} {error : NumeralError} (hlength : (trim text).length ≤ maxNumeralDigits)
    (h : readInt text = .error error) : error = .malformed (String.ofList text) := by
  simp only [readInt] at h
  split at h
  · exact (Except.error.inj h).symm
  next digits hdigits =>
  have hshort : digits.length ≤ maxNumeralDigits := by
    let body := (splitSign (text.dropWhile isNumeralBlank)).2.takeWhile isNumeralChar
    have hsub : body.Sublist text :=
      (List.takeWhile_sublist _).trans ((splitSign_sublist _).trans (List.dropWhile_sublist _))
    -- white space at the ends holds nothing that stands inside a numeral
    have hcount : (trim text).countP isNumeralChar = text.countP isNumeralChar :=
      apply_trim (f := fun text => text.countP isNumeralChar) (fun c text hc => by simp [isNumeralChar_of_isSpace hc])
        (fun c text hc => by simp [isNumeralChar_of_isSpace hc]) text
    calc digits.length ≤ body.length := length_numeralDigits? hdigits
      _ = body.countP isNumeralChar := (List.countP_eq_length.2 fun c hc => List.mem_takeWhile_imp hc).symm
      _ ≤ text.countP isNumeralChar := hsub.countP_le
      _ = (trim text).countP isNumeralChar := hcount.symm
      _ ≤ (trim text).length := List.countP_le_length
      _ ≤ maxNumeralDigits := hlength
  rw [if_neg (Nat.not_lt.2 hshort)] at h
  split at h
  · exact (Except.error.inj h).symm
  · cases h

end MenuBoard
