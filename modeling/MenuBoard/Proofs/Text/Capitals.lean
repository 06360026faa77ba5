import MenuBoard.Proofs.Text.CaseVariants

/-!
Texts in capitals.

Capitals change neither blanks nor digits, and no blank comes of anything else, so a text in capitals has the words of the
text in capitals (`pieces_upper`). The letters that words of phrases are made of stay the same up to case, with one
exception: the sharp s becomes two letters, and these do not equal it (`map_caseKey_upperChar`).
-/

namespace MenuBoard.Text

/-- the small letter with no capital of its own -/
def sharpS : Char := 'ß'

theorem upper_cons (c : Char) (text : List Char) : upper (c :: text) = upperChar c ++ upper text := List.flatMap_cons

theorem upper_append (a b : List Char) : upper (a ++ b) = upper a ++ upper b := List.flatMap_append

theorem upper_eq_self {text : List Char} (h : ∀ c ∈ text, upperChar c = [c]) : upper text = text := by
  induction text with
  | nil => rfl
  | cons c text ih =>
    rw [upper_cons, h c List.mem_cons_self, ih fun d hd => h d (List.mem_cons_of_mem c hd)]
    rfl

/-! ## Blanks -/

theorem upperChar_of_isBlank {c : Char} (h : isBlank c = true) : upperChar c = [c] := by
  simp only [isBlank, Bool.or_eq_true, beq_iff_eq] at h
  rcases h with rfl | rfl <;> decide

theorem isBlank_ofNat {n : Nat} (h : 0x41 ≤ n) : isBlank (Char.ofNat n) = false := by
  rcases ofNat_cases n with hzero | hcode
  · rw [hzero]
    rfl
  · refine Bool.eq_false_iff.2 fun hblank => ?_
    simp only [isBlank, Bool.or_eq_true, beq_iff_eq] at hblank
    rcases hblank with hc | hc <;> rw [hc] at hcode
    · have hn : n = 0x20 := hcode.symm
      omega
    · have hn : n = 0x09 := hcode.symm
      omega

theorem upperExpansions_letters :
    (upperExpansions.all fun e => !e.2.isEmpty && e.2.all (Nat.ble 0x41 ·)) = true := by decide +kernel

theorem upperRuns_letters : (upperRuns.all fun r => Nat.ble 0x41 r.image) = true := by decide +kernel

/-- No blank comes of what is none, and neither does nothing. -/
theorem upperChar_not_blank {c : Char} (h : isBlank c = false) :
    upperChar c ≠ [] ∧ ∀ d ∈ upperChar c, isBlank d = false := by
  by_cases hascii : c.toNat < 0x80
  · have hup : upperChar c = [if 0x61 ≤ c.toNat ∧ c.toNat ≤ 0x7a then Char.ofNat (c.toNat - 0x20) else c] := by
      simp only [upperChar, if_pos hascii]
    rw [hup]
    refine ⟨List.cons_ne_nil _ _, fun d hd => ?_⟩
    rw [List.mem_singleton.1 hd]
    split
    · next hsmall => exact isBlank_ofNat (by omega)
    · exact h
  · cases hexpand : upperExpansions.find? (·.1 == c.toNat) with
    | some e =>
      have hup : upperChar c = e.2.map Char.ofNat := by simp only [upperChar, if_neg hascii, hexpand]
      have hletters := List.all_eq_true.1 upperExpansions_letters e (List.mem_of_find?_eq_some hexpand)
      simp only [Bool.and_eq_true, Bool.not_eq_true', List.isEmpty_eq_false_iff, List.all_eq_true, Nat.ble_eq] at hletters
      rw [hup]
      refine ⟨by simp [hletters.1], fun d hd => ?_⟩
      obtain ⟨n, hn, rfl⟩ := List.mem_map.1 hd
      exact isBlank_ofNat (hletters.2 n hn)
    | none =>
      have hup : upperChar c = [Char.ofNat ((upperRuns.findSome? (·.image? c.toNat)).getD c.toNat)] := by
        simp only [upperChar, if_neg hascii, hexpand]
      rw [hup]
      refine ⟨List.cons_ne_nil _ _, fun d hd => ?_⟩
      rw [List.mem_singleton.1 hd]
      apply isBlank_ofNat
      cases hrun : upperRuns.findSome? (·.image? c.toNat) with
      | none =>
        rw [Option.getD_none]
        omega
      | some n =>
        obtain ⟨r, hr, himage⟩ := List.exists_of_findSome?_eq_some hrun
        have hletter := List.all_eq_true.1 upperRuns_letters r hr
        simp only [CaseRun.image?, Nat.ble_eq] at himage hletter
        split at himage
        · rw [Option.getD_some, ← Option.some.inj himage]
          omega
        · cases himage

theorem upper_eq_nil {text : List Char} (h : ∀ c ∈ text, isBlank c = false) : upper text = [] ↔ text = [] := by
  cases text with
  | nil => simp [upper]
  | cons c text =>
    have hne := (upperChar_not_blank (h c List.mem_cons_self)).1
    simp [upper_cons, hne]

/-- The words of a text in capitals are its words in capitals. -/
theorem pieces_upper (text : List Char) : pieces isBlank (upper text) = (pieces isBlank text).map upper := by
  induction text with
  | nil => rfl
  | cons c text ih =>
    cases hc : isBlank c with
    | true =>
      rw [upper_cons, upperChar_of_isBlank hc, List.singleton_append, pieces, pieces, if_pos hc, if_pos hc, ih]
      rfl
    | false =>
      obtain ⟨word, words, hpieces⟩ := List.exists_cons_of_ne_nil (pieces_ne_nil isBlank text)
      rw [hpieces, List.map_cons] at ih
      rw [upper_cons, pieces_append (upperChar_not_blank hc).2 ih, pieces, hc, hpieces]
      simp [upper_cons]

/-! ## Digits -/

theorem digitZeros_apart : (digitZeros.all fun z => upperExpansions.all (fun e => Nat.blt e.1 z || Nat.ble (z + 10) e.1) &&
    upperRuns.all (fun r => Nat.blt r.last z || Nat.ble (z + 10) r.first)) = true := by decide +kernel

/-- Digits have no capitals. -/
theorem upperChar_of_digit {c : Char} {d : Nat} (h : digitValue? c = some d) : upperChar c = [c] := by
  unfold digitValue? at h
  by_cases hascii : c.toNat < 0x80
  · rw [if_pos hascii] at h
    split at h
    · next hdigit =>
      have hle : c.toNat ≤ 0x39 := hdigit.2
      simp only [upperChar, if_pos hascii]
      rw [if_neg (by omega)]
    · cases h
  · rw [if_neg hascii] at h
    obtain ⟨z, hz, -⟩ := Option.map_eq_some_iff.1 h
    have hrow := List.find?_some hz
    simp only [Bool.and_eq_true, decide_eq_true_eq] at hrow
    have hapart := List.all_eq_true.1 digitZeros_apart z (List.mem_of_find?_eq_some hz)
    simp only [Bool.and_eq_true, List.all_eq_true, Bool.or_eq_true, Nat.blt_eq, Nat.ble_eq] at hapart
    have hexpand : upperExpansions.find? (·.1 == c.toNat) = none := by
      refine List.find?_eq_none.2 fun e he heq => ?_
      have hout := hapart.1 e he
      have hcode : e.1 = c.toNat := beq_iff_eq.1 heq
      omega
    have hrun : upperRuns.findSome? (·.image? c.toNat) = none := by
      refine List.findSome?_eq_none_iff.2 fun r hr => if_neg fun hin => ?_
      have hout := hapart.2 r hr
      omega
    simp only [upperChar, if_neg hascii, hexpand, hrun, Option.getD_none, Char.ofNat_toNat]

/-! ## Letters -/

/-- A letter in capitals is the same up to case, unless it is a sharp s. -/
theorem map_caseKey_upperChar {l c : Char} (hl : l ∈ alphabet) (h : caseKey l = caseKey c) (hne : c ≠ sharpS) :
    (upperChar c).map caseKey = [caseKey c] := by
  have hall : (alphabet.all fun l => (caseVariants l.toNat).all fun n =>
      Char.ofNat n == sharpS || (upperChar (Char.ofNat n)).map caseKey == [caseKey l]) = true := by decide +kernel
  have hletter : ∀ n ∈ caseVariants l.toNat, Char.ofNat n = sharpS ∨ (upperChar (Char.ofNat n)).map caseKey = [caseKey l] := by
    intro n hn
    have hvariant := List.all_eq_true.1 (List.all_eq_true.1 hall l hl) n hn
    simpa using hvariant
  rcases of_caseKey_eq (p := fun c => c = sharpS ∨ (upperChar c).map caseKey = [caseKey l]) hletter h with hsharp | hkey
  · exact absurd hsharp hne
  · rw [hkey, h]

/-- A sharp s in capitals is two letters. -/
theorem upperChar_sharpS : upperChar sharpS = ['S', 'S'] := by decide

end MenuBoard.Text
