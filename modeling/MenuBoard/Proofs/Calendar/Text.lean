import MenuBoard.Json.Reader
import MenuBoard.Proofs.Calendar.Gregorian

/-!
Numbers and days as they are written.

`IsDecimal` and `IsIsoDate` say which texts write a number and a day, in ASCII digits and without a printer. What is
printed is such a text (`isDecimal_toString`, `Day.isIsoDate_text`): years have four digits and months and days two,
since no date of the calendar needs more.
-/

namespace MenuBoard

open MenuBoard.Json

/-- decimal digits, at least one, that stand for the number -/
structure IsDecimal (n : Nat) (text : List Char) : Prop where
  ne_nil : text ≠ []
  digits : ∀ c ∈ text, isAsciiDigit c = true
  value : digitsValue text = n

theorem digitsValue_eq (text : List Char) : digitsValue text = Nat.ofDigitChars 10 text 0 := by
  unfold digitsValue ofDigits Nat.ofDigitChars
  rw [List.foldl_map]
  rfl

theorem isDecimal_toString (n : Nat) : IsDecimal n (toString n).toList := by
  have htext : (toString n).toList = Nat.toDigits 10 n := Nat.toList_repr
  rw [htext]
  constructor
  case ne_nil => exact Nat.toDigits_ne_nil
  case digits => exact fun c hc => Nat.isDigit_of_mem_toDigits (by decide) (by decide) hc
  case value => rw [digitsValue_eq, Nat.ofDigitChars_toDigits (by decide) (by decide)]

/-- Zeros in front do not change what digits stand for. -/
theorem IsDecimal.zeros_append {n : Nat} {text : List Char} (h : IsDecimal n text) (count : Nat) :
    IsDecimal n (List.replicate count '0' ++ text) := by
  constructor
  case ne_nil => exact List.append_ne_nil_of_right_ne_nil _ h.ne_nil
  case digits =>
    intro c hc
    rcases List.mem_append.1 hc with hzero | htext
    · rw [(List.mem_replicate.1 hzero).2]
      rfl
    · exact h.digits c htext
  case value =>
    rw [digitsValue_eq, Nat.ofDigitChars_append, Nat.ofDigitChars_replicate_zero, Nat.mul_zero, ← digitsValue_eq]
    exact h.value

namespace Calendar

theorem toList_padded (width n : Nat) : (Day.padded width n).toList =
    List.replicate (width - (toString n).toList.length) '0' ++ (toString n).toList := String.toList_ofList

theorem isDecimal_padded (width n : Nat) : IsDecimal n (Day.padded width n).toList := by
  rw [toList_padded]
  exact (isDecimal_toString n).zeros_append _

theorem length_padded {width n : Nat} (hwidth : 0 < width) (h : n < 10 ^ width) :
    (Day.padded width n).toList.length = width := by
  have htext : (toString n).toList = Nat.toDigits 10 n := Nat.toList_repr
  have hlength := (Nat.length_toDigits_le_iff (by decide) hwidth).2 h
  rw [toList_padded, htext, List.length_append, List.length_replicate]
  omega

/-- year, month and day in four, two and two digits, with hyphens between -/
def IsIsoDate (day : Day) (text : List Char) : Prop :=
  ∃ year month n y m d, day.date = (year, month, n) ∧ text = y ++ '-' :: (m ++ '-' :: d) ∧
    (IsDecimal year y ∧ y.length = 4) ∧ (IsDecimal month m ∧ m.length = 2) ∧ (IsDecimal n d ∧ d.length = 2)

theorem monthLengths_le (year : Nat) : ∀ length ∈ monthLengths year, length ≤ 31 := by
  unfold monthLengths
  cases isLeap year <;> decide

/-- No date of the calendar needs more than four, two and two digits. -/
theorem Day.date_lt {day : Day} {year month n : Nat} (h : day.date = (year, month, n)) :
    year < 10 ^ 4 ∧ month < 10 ^ 2 ∧ n < 10 ^ 2 := by
  obtain ⟨hyear, hlast, hmonth, hday, length, hlength, hle⟩ := isDate_iff.1 (Day.isDate_date h).1
  obtain ⟨hbound, hget⟩ := List.getElem?_eq_some_iff.1 hlength
  have hmonths : (monthLengths year).length = 12 := rfl
  have hmax := monthLengths_le year length (hget ▸ List.getElem_mem hbound)
  omega

/-- **A day is written as yyyy-mm-dd.** -/
theorem Day.isIsoDate_text (day : Day) : IsIsoDate day day.text.toList := by
  cases hdate : day.date with
  | mk year rest =>
    obtain ⟨month, n⟩ := rest
    obtain ⟨hyear, hmonth, hday⟩ := Day.date_lt hdate
    refine ⟨year, month, n, _, _, _, hdate, ?_, ⟨isDecimal_padded 4 year, length_padded (by decide) hyear⟩,
      ⟨isDecimal_padded 2 month, length_padded (by decide) hmonth⟩,
      ⟨isDecimal_padded 2 n, length_padded (by decide) hday⟩⟩
    simp [Day.text, hdate, ToString.toString]

end Calendar

end MenuBoard
