import Mathlib.Data.List.Chain
import MenuBoard.Text.Digit
import MenuBoard.Text.WordChar

/-!
Decimal digits among the word characters.

`isWordChar_of_digitValue?`: a decimal digit of any script is a word character, so a word never ends before one. The
table of word characters rises (`wordRanges_rising`), hence a look-up in it finds every member.
-/

namespace MenuBoard.Text

/-- It is enough to compare each range with the next one. -/
theorem Ranges.rising_of_isChain {rs : Ranges} (hle : ∀ r ∈ rs, r.1 ≤ r.2) (h : rs.IsChain fun a b => a.2 < b.1) :
    rs.Rising := by
  induction rs with
  | nil => trivial
  | cons r rest ih =>
    have hrest := ih (fun s hs => hle s (List.mem_cons_of_mem r hs)) h.tail
    refine ⟨hle r List.mem_cons_self, ?_, hrest⟩
    cases rest with
    | nil => simp
    | cons s more =>
      have hrs : r.2 < s.1 := (List.isChain_cons_cons.1 h).1
      intro t ht
      rcases List.mem_cons.1 ht with rfl | ht
      · exact hrs
      · have hs : s.1 ≤ s.2 := hle s (by simp)
        have hst : s.2 < t.1 := hrest.2.1 t ht
        omega

theorem wordRanges_rising : wordRanges.Rising := Ranges.rising_of_isChain (by decide +kernel) (by decide +kernel)

theorem digitRows_covered : (digitZeros.all fun z =>
    Nat.blt z 0x80 || wordRanges.any fun r => Nat.ble r.1 z && Nat.ble (z + 9) r.2) = true := by decide +kernel

/-- A decimal digit of any script is a word character. -/
theorem isWordChar_of_digitValue? {c : Char} {d : Nat} (h : digitValue? c = some d) : isWordChar c = true := by
  unfold digitValue? at h
  unfold isWordChar
  split at h
  · next hascii =>
    split at h
    · next hc =>
      have hdigit : c.isDigit = true := by
        simp only [Char.isDigit, ge_iff_le, Bool.and_eq_true, decide_eq_true_eq]
        exact hc
      simp [hascii, Char.isAlphanum, hdigit]
    · cases h
  · next hascii =>
    obtain ⟨z, hz, -⟩ := Option.map_eq_some_iff.1 h
    have hrow := List.find?_some hz
    simp only [Bool.and_eq_true, decide_eq_true_eq] at hrow
    have hcover := List.all_eq_true.1 digitRows_covered z (List.mem_of_find?_eq_some hz)
    rw [if_neg hascii, Ranges.contains_iff wordRanges_rising]
    -- the row of `z` may begin in ASCII only if it ends there
    rcases Bool.or_eq_true_iff.1 hcover with hlow | hany
    · have hz : z < 0x80 := by simpa using hlow
      have hten : ∀ z ∈ digitZeros, z < 0x80 → z + 10 ≤ 0x80 := by decide
      have := hten z (List.mem_of_find?_eq_some ‹_›) hz
      omega
    · obtain ⟨r, hr, hin⟩ := List.any_eq_true.1 hany
      simp only [Bool.and_eq_true, Nat.ble_eq] at hin
      exact ⟨r, hr, by omega, by omega⟩

end MenuBoard.Text
