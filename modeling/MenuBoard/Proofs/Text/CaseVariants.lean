import MenuBoard.Text.Case
import MenuBoard.Text.Digit
import MenuBoard.Text.WordChar
import MenuBoard.Text.Blank

/-!
Characters that are equal when case is ignored.

`mem_caseVariants`: the list of variants of a code point misses none, so a property of everything that equals a letter
up to case can be checked on that list (`of_caseKey_eq`).

`alphabet` holds the letters that the words of a phrase are made of. Whatever equals one of them up to case is a word
character and no decimal digit. Blanks equal nothing but themselves.
-/

namespace MenuBoard.Text

theorem CaseRun.source?_of_image? {r : CaseRun} {n m : Nat} (h : r.image? n = some m) : r.source? m = some n := by
  unfold CaseRun.image? at h
  split at h
  · next hn =>
    obtain ⟨hfirst, hlast, hstep⟩ := hn
    obtain rfl := Option.some.inj h
    have hback : r.image + (n - r.first) - r.image = n - r.first := by omega
    unfold CaseRun.source?
    rw [if_pos ⟨by omega, by omega, by rw [hback]; exact hstep⟩, hback]
    congr 1
    omega
  · cases h

/-- What has the small partner `s` is `s` itself, its ASCII capital, or the source of a run. -/
theorem lowerCode_cases {n s : Nat} (h : lowerCode n = s) :
    n = s ∨ (0x61 ≤ s ∧ s ≤ 0x7a ∧ n = s - 0x20) ∨ ∃ r ∈ lowerRuns, r.source? s = some n := by
  unfold lowerCode at h
  split at h
  · split at h
    · next hn => exact .inr (.inl (by omega))
    · exact .inl h
  · cases hrun : lowerRuns.findSome? (·.image? n) with
    | none =>
      rw [hrun] at h
      exact .inl h
    | some m =>
      rw [hrun] at h
      obtain rfl : m = s := h
      obtain ⟨r, hr, him⟩ := List.exists_of_findSome?_eq_some hrun
      exact .inr (.inr ⟨r, hr, CaseRun.source?_of_image? him⟩)

/-- The least code point of a kind is the small partner itself or the one it is listed with. -/
theorem caseCode_cases (n : Nat) : caseCode n = lowerCode n ∨ (lowerCode n, caseCode n) ∈ caseAliases := by
  by_cases hascii : lowerCode n < 0x80
  · exact .inl (by simp [caseCode, hascii])
  · cases hfind : caseAliases.find? (·.1 == lowerCode n) with
    | none => exact .inl (by simp [caseCode, hascii, hfind])
    | some pair =>
      have hkey : caseCode n = pair.2 := by simp [caseCode, hascii, hfind]
      have hfst : pair.1 = lowerCode n := by simpa using List.find?_some hfind
      have hmem := List.mem_of_find?_eq_some hfind
      rw [hkey, ← hfst]
      exact .inr hmem

/-- The variants of a code point are all that equal it when case is ignored. -/
theorem mem_caseVariants {n m : Nat} (h : caseCode n = caseCode m) : n ∈ caseVariants m := by
  have hsmall : lowerCode n ∈ caseCode m :: (caseAliases.filter (·.2 == caseCode m)).map (·.1) := by
    rcases caseCode_cases n with hn | hn
    · rw [← h, hn]
      exact List.mem_cons_self
    · refine List.mem_cons_of_mem _ (List.mem_map.2 ⟨_, List.mem_filter.2 ⟨hn, ?_⟩, rfl⟩)
      simpa using h
  unfold caseVariants
  rcases lowerCode_cases (n := n) rfl with hself | ⟨hlo, hhi, hup⟩ | ⟨r, hr, hsrc⟩
  · rw [← hself] at hsmall
    exact List.mem_append_left _ (List.mem_append_left _ hsmall)
  · refine List.mem_append_left _ (List.mem_append_right _ (List.mem_filterMap.2 ⟨_, hsmall, ?_⟩))
    rw [if_pos ⟨hlo, hhi⟩, ← hup]
  · exact List.mem_append_right _ (List.mem_flatMap.2 ⟨_, hsmall, List.mem_filterMap.2 ⟨r, hr, hsrc⟩⟩)

theorem of_caseKey_eq {p : Char → Prop} {c d : Char} (h : ∀ n ∈ caseVariants c.toNat, p (Char.ofNat n))
    (hd : caseKey c = caseKey d) : p d := by
  have hmem : d.toNat ∈ caseVariants c.toNat := mem_caseVariants hd.symm
  have := h _ hmem
  rwa [Char.ofNat_toNat] at this

/-! ## Small ASCII letters -/

/-- A character of a given code has this code, unless there is none. -/
theorem ofNat_cases (n : Nat) : Char.ofNat n = Char.ofNat 0 ∨ (Char.ofNat n).toNat = n := by
  by_cases hvalid : n.isValidChar
  · have hchar : Char.ofNat n = Char.ofNatAux n hvalid := dif_pos hvalid
    rw [hchar]
    exact .inr rfl
  · exact .inl (dif_neg hvalid)

theorem toNat_toLower (c : Char) :
    c.toLower.toNat = if 0x41 ≤ c.toNat ∧ c.toNat ≤ 0x5a then c.toNat + 0x20 else c.toNat := by
  have hcapital : (c.val ≥ 'A'.val ∧ c.val ≤ 'Z'.val) ↔ 0x41 ≤ c.toNat ∧ c.toNat ≤ 0x5a := Iff.rfl
  unfold Char.toLower
  split
  · next h =>
    have hrange := hcapital.1 h
    have hsum : (c.val + ('a'.val - 'A'.val)).toNat = (c.toNat + 0x20) % 2 ^ 32 := UInt32.toNat_add _ _
    rw [if_pos hrange]
    exact hsum.trans (by omega)
  · next h => rw [if_neg fun h' => h (hcapital.2 h')]

theorem lowerCode_toLower (c : Char) : lowerCode c.toLower.toNat = lowerCode c.toNat := by
  rw [toNat_toLower]
  split
  · next h =>
    have hsmall : lowerCode (c.toNat + 0x20) = c.toNat + 0x20 := by
      unfold lowerCode
      rw [if_pos (by omega), if_neg (by omega)]
    have hcapital : lowerCode c.toNat = c.toNat + 0x20 := by
      unfold lowerCode
      rw [if_pos (by omega), if_pos h]
    rw [hsmall, hcapital]
  · rfl

theorem caseKey_toLower (c : Char) : caseKey c.toLower = caseKey c := by
  unfold caseKey caseCode
  rw [lowerCode_toLower]

theorem toLower_eq_self_or (c : Char) : c.toLower = c ∨ ∃ n ∈ List.range' 0x41 26, c = Char.ofNat n := by
  by_cases hcapital : 0x41 ≤ c.toNat ∧ c.toNat ≤ 0x5a
  · refine .inr ⟨c.toNat, List.mem_range'_1.2 ⟨hcapital.1, by omega⟩, ?_⟩
    rw [Char.ofNat_toNat]
  · refine .inl (Char.toNat_inj.1 ?_)
    rw [toNat_toLower, if_neg hcapital]

/-! ## Blanks and letters -/

/-- A blank equals nothing but itself. -/
theorem eq_of_caseKey_blank {c d : Char} (hc : isBlank c = true) (h : caseKey c = caseKey d) : d = c := by
  refine of_caseKey_eq (p := (· = c)) ?_ h
  simp only [isBlank, Bool.or_eq_true, beq_iff_eq] at hc
  rcases hc with rfl | rfl <;> decide +kernel

/-- the letters of the words in a phrase -/
def alphabet : List Char := "abcdefghijklmnopqrstuvwxyzßéö".toList

theorem alphabet_variants {c : Char} (hc : c ∈ alphabet) : ∀ n ∈ caseVariants c.toNat,
    isWordChar (Char.ofNat n) = true ∧ digitValue? (Char.ofNat n) = none := by
  have hall : (alphabet.all fun c => decide (∀ n ∈ caseVariants c.toNat,
      isWordChar (Char.ofNat n) = true ∧ digitValue? (Char.ofNat n) = none)) = true := by decide +kernel
  exact of_decide_eq_true (List.all_eq_true.1 hall c hc)

theorem isWordChar_of_alphabet {c d : Char} (hc : c ∈ alphabet) (h : caseKey c = caseKey d) : isWordChar d = true :=
  (of_caseKey_eq (p := fun d => isWordChar d = true ∧ digitValue? d = none) (alphabet_variants hc) h).1

theorem digitValue?_of_alphabet {c d : Char} (hc : c ∈ alphabet) (h : caseKey c = caseKey d) : digitValue? d = none :=
  (of_caseKey_eq (p := fun d => isWordChar d = true ∧ digitValue? d = none) (alphabet_variants hc) h).2

theorem isDigitLike_of_alphabet {c d : Char} (hc : c ∈ alphabet) (h : caseKey c = caseKey d) : isDigitLike d = false := by
  have hall : (alphabet.all fun c => decide (∀ n ∈ caseVariants c.toNat, isDigitLike (Char.ofNat n) = false)) = true := by
    decide +kernel
  exact of_caseKey_eq (p := fun d => isDigitLike d = false) (of_decide_eq_true (List.all_eq_true.1 hall c hc)) h

/-- A character whose small form is an ASCII letter equals this letter up to case. -/
theorem caseKey_of_lowerCode {c l : Char} (hl : l ∈ alphabet) (hascii : l.toNat < 0x80)
    (h : Char.ofNat (lowerCode c.toNat) = l) : caseKey l = caseKey c := by
  have hletters : (alphabet.all fun l => l.toNat != 0 && (caseKey l == l.toNat)) = true := by decide +kernel
  have hletter := List.all_eq_true.1 hletters l hl
  obtain ⟨hne, hself⟩ : l.toNat ≠ 0 ∧ caseKey l = l.toNat := by simpa using hletter
  have hcode : lowerCode c.toNat = l.toNat := by
    rcases ofNat_cases (lowerCode c.toNat) with hzero | hsame
    · rw [← h, hzero] at hne
      exact absurd rfl hne
    · rw [← h, hsame]
  rw [hself]
  simp [caseKey, caseCode, hcode, hascii]

theorem digitValue?_of_lowerCode {c l : Char} (hl : l ∈ alphabet) (hascii : l.toNat < 0x80)
    (h : Char.ofNat (lowerCode c.toNat) = l) : digitValue? c = none :=
  digitValue?_of_alphabet hl (caseKey_of_lowerCode hl hascii h)

theorem isWordChar_of_isBlank {c : Char} (h : isBlank c = true) : isWordChar c = false := by
  simp only [isBlank, Bool.or_eq_true, beq_iff_eq] at h
  rcases h with rfl | rfl <;> decide

end MenuBoard.Text
