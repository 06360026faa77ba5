import Mathlib.Algebra.Ring.Nat
import MenuBoard.Calendar.Day

/-!
Days and dates.

`Day.ofDate?_eq_some_iff`: a date of the calendar names the one day that bears it, so reading a date and asking a day
for its date undo each other. `Day.exists_ofDate?`: every date from the year 1 to the year 9999 names a day.
-/

namespace MenuBoard.Calendar

/-- the days of a year -/
def yearLength (year : Nat) : Nat := if isLeap year then 366 else 365

theorem monthLengths_sum (year : Nat) : (monthLengths year).sum = yearLength year := by
  unfold monthLengths yearLength
  cases isLeap year <;> rfl

theorem isLeap_iff (year : Nat) : isLeap year = true ↔ year % 4 = 0 ∧ (year % 100 ≠ 0 ∨ year % 400 = 0) := by
  simp [isLeap]

theorem daysBeforeYear_eq (year : Nat) :
    daysBeforeYear year = (year - 1) * 365 + (year - 1) / 4 - (year - 1) / 100 + (year - 1) / 400 := rfl

/-! ## Years

A year is counted by whole cycles of 400, 100, 4 and 1 years before it. Only the last year of four is a leap year, and
of the last years of a century only the last of four. -/

theorem exists_cycles {year : Nat} (h : 1 ≤ year) :
    ∃ a b c e, b ≤ 3 ∧ c ≤ 24 ∧ e ≤ 3 ∧ year = a * 400 + b * 100 + c * 4 + e + 1 :=
  ⟨(year - 1) / 400, (year - 1) % 400 / 100, (year - 1) % 100 / 4, (year - 1) % 4, by omega, by omega, by omega, by omega⟩

section Cycles

variable {a b c e : Nat} (hb : b ≤ 3) (hc : c ≤ 24) (he : e ≤ 3)

include hb hc he

theorem daysBeforeYear_cycles :
    daysBeforeYear (a * 400 + b * 100 + c * 4 + e + 1) = a * 146097 + b * 36524 + c * 1461 + e * 365 := by
  rw [daysBeforeYear_eq]
  omega

theorem yearLength_cycles :
    yearLength (a * 400 + b * 100 + c * 4 + e + 1) = if e = 3 ∧ (c = 24 → b = 3) then 366 else 365 := by
  have hleap : isLeap (a * 400 + b * 100 + c * 4 + e + 1) = true ↔ e = 3 ∧ (c = 24 → b = 3) := by
    rw [isLeap_iff]
    omega
  unfold yearLength
  simp only [hleap]

end Cycles

/-- The days before the next year are those before this one and its own. -/
theorem daysBeforeYear_succ {year : Nat} (h : 1 ≤ year) :
    daysBeforeYear (year + 1) = daysBeforeYear year + yearLength year := by
  obtain ⟨a, b, c, e, hb, hc, he, rfl⟩ := exists_cycles h
  rw [yearLength_cycles hb hc he, daysBeforeYear_cycles hb hc he]
  by_cases he3 : e = 3
  · by_cases hc24 : c = 24
    · by_cases hb3 : b = 3
      · have := daysBeforeYear_cycles (a := a + 1) (b := 0) (c := 0) (e := 0) (by omega) (by omega) (by omega)
        rw [show a * 400 + b * 100 + c * 4 + e + 1 + 1 = (a + 1) * 400 + 0 * 100 + 0 * 4 + 0 + 1 by omega, this,
          if_pos ⟨he3, fun _ => hb3⟩]
        omega
      · have := daysBeforeYear_cycles (a := a) (b := b + 1) (c := 0) (e := 0) (by omega) (by omega) (by omega)
        rw [show a * 400 + b * 100 + c * 4 + e + 1 + 1 = a * 400 + (b + 1) * 100 + 0 * 4 + 0 + 1 by omega, this,
          if_neg (fun hleap => hb3 (hleap.2 hc24))]
        omega
    · have := daysBeforeYear_cycles (a := a) (b := b) (c := c + 1) (e := 0) (by omega) (by omega) (by omega)
      rw [show a * 400 + b * 100 + c * 4 + e + 1 + 1 = a * 400 + b * 100 + (c + 1) * 4 + 0 + 1 by omega, this,
        if_pos ⟨he3, fun h => absurd h hc24⟩]
      omega
  · have := daysBeforeYear_cycles (a := a) (b := b) (c := c) (e := e + 1) (by omega) (by omega) (by omega)
    rw [show a * 400 + b * 100 + c * 4 + e + 1 + 1 = a * 400 + b * 100 + c * 4 + (e + 1) + 1 by omega, this,
      if_neg (fun hleap => he3 hleap.1)]
    omega

theorem daysBeforeYear_le_succ (year : Nat) : daysBeforeYear year ≤ daysBeforeYear (year + 1) := by
  cases year with
  | zero => decide
  | succ year =>
    rw [daysBeforeYear_succ (Nat.succ_pos year)]
    exact Nat.le_add_right _ _

theorem daysBeforeYear_mono {a b : Nat} (h : a ≤ b) : daysBeforeYear a ≤ daysBeforeYear b := by
  induction h with
  | refl => exact Nat.le_refl _
  | step _ ih => exact Nat.le_trans ih (daysBeforeYear_le_succ _)

/-- A day's number by its cycles, and the days that they leave over: 365 of them only in a leap year. -/
theorem Day.exists_number_cycles (d : Day) : ∃ a b c e rest, b ≤ 3 ∧ c ≤ 24 ∧ e ≤ 3 ∧
    d.year = a * 400 + b * 100 + c * 4 + e + 1 ∧
    d.number = a * 146097 + b * 36524 + c * 1461 + e * 365 + rest ∧
    rest ≤ 365 ∧ (rest = 365 → e = 3 ∧ (c = 24 → b = 3)) := by
  have hcentury : ∀ m < 146097, min 3 (m / 36524) ≤ 3 ∧ min 3 (m / 36524) * 36524 ≤ m ∧
      m - min 3 (m / 36524) * 36524 ≤ 36524 ∧ (m - min 3 (m / 36524) * 36524 = 36524 → min 3 (m / 36524) = 3) := by omega
  have hyear : ∀ q < 1461, min 3 (q / 365) ≤ 3 ∧ min 3 (q / 365) * 365 ≤ q ∧ q - min 3 (q / 365) * 365 ≤ 365 ∧
      (q - min 3 (q / 365) * 365 = 365 → min 3 (q / 365) = 3 ∧ q = 1460) := by omega
  have hday : d.year = d.number / 146097 * 400 + min 3 (d.number % 146097 / 36524) * 100 +
      (d.number % 146097 - min 3 (d.number % 146097 / 36524) * 36524) / 1461 * 4 +
      min 3 ((d.number % 146097 - min 3 (d.number % 146097 / 36524) * 36524) % 1461 / 365) + 1 := by
    simp only [Day.year]
  obtain ⟨hb, hble, hcent, hlast⟩ := hcentury _ (Nat.mod_lt d.number (by decide))
  have hnumber := Nat.div_add_mod d.number 146097
  generalize min 3 (d.number % 146097 / 36524) = b at *
  generalize d.number % 146097 = m at *
  obtain ⟨he, hele, hrest, hleap⟩ := hyear _ (Nat.mod_lt (m - b * 36524) (by decide))
  have hn := Nat.div_add_mod (m - b * 36524) 1461
  generalize min 3 ((m - b * 36524) % 1461 / 365) = e at *
  generalize (m - b * 36524) % 1461 = q at *
  refine ⟨_, b, _, e, q - e * 365, hb, by omega, he, hday, by omega, hrest, fun h => ⟨(hleap h).1, fun hc => hlast ?_⟩⟩
  have := (hleap h).2
  omega

theorem Day.year_bounds (d : Day) : daysBeforeYear d.year ≤ d.number ∧ d.number < daysBeforeYear (d.year + 1) := by
  obtain ⟨a, b, c, e, rest, hb, hc, he, hyear, hnumber, hrest, hlast⟩ := d.exists_number_cycles
  have hend : daysBeforeYear (d.year + 1) = daysBeforeYear d.year + yearLength d.year :=
    daysBeforeYear_succ (by omega)
  have hlength : rest < yearLength d.year := by
    rw [hyear, yearLength_cycles hb hc he]
    split
    · omega
    · next hleap =>
      have : rest ≠ 365 := fun h => hleap (hlast h)
      omega
  have hbegin : daysBeforeYear d.year = a * 146097 + b * 36524 + c * 1461 + e * 365 := by
    rw [hyear, daysBeforeYear_cycles hb hc he]
  omega

theorem Day.one_le_year (d : Day) : 1 ≤ d.year := by
  obtain ⟨a, b, c, e, rest, -, -, -, hyear, -⟩ := d.exists_number_cycles
  omega

theorem Day.year_le (d : Day) : d.year ≤ 9999 := by
  have hlast := d.le_last
  have hbegun := d.year_bounds.1
  by_cases h : d.year ≤ 9999
  · exact h
  · have hmono := daysBeforeYear_mono (show 10000 ≤ d.year by omega)
    have hend : daysBeforeYear 10000 = lastNumber + 1 := by decide
    omega

theorem Day.year_eq {d : Day} {year : Nat} (hle : daysBeforeYear year ≤ d.number)
    (hlt : d.number < daysBeforeYear (year + 1)) : d.year = year := by
  obtain ⟨hle', hlt'⟩ := d.year_bounds
  rcases Nat.lt_trichotomy d.year year with h | h | h
  · have := daysBeforeYear_mono (show d.year + 1 ≤ year by omega)
    omega
  · exact h
  · have := daysBeforeYear_mono (show year + 1 ≤ d.year by omega)
    omega

/-! ## Months -/

/-- The `j`-th day of the `i`-th month stands behind all days of the months before. -/
theorem Day.monthAndDay_of_lt {lengths : List Nat} {i j length : Nat} (hi : lengths[i]? = some length) (hj : j < length)
    (month : Nat) : Day.monthAndDay month lengths ((lengths.take i).sum + j) = (month + i, j + 1) := by
  induction lengths generalizing i month with
  | nil => simp at hi
  | cons first rest ih =>
    cases i with
    | zero =>
      obtain rfl : first = length := by simpa using hi
      simp [Day.monthAndDay, hj]
    | succ i =>
      have hrest : rest[i]? = some length := by simpa using hi
      have hskip : ¬ first + (rest.take i).sum + j < first := by omega
      simp only [List.take_succ_cons, List.sum_cons, Day.monthAndDay, hskip, if_false]
      rw [show first + (rest.take i).sum + j - first = (rest.take i).sum + j by omega, ih hrest]
      congr 1
      omega

/-- Every day of a year belongs to one of its months. -/
theorem Day.exists_of_monthAndDay {lengths : List Nat} {n : Nat} (hn : n < lengths.sum) (month : Nat) :
    ∃ i j length, lengths[i]? = some length ∧ j < length ∧ n = (lengths.take i).sum + j ∧
      Day.monthAndDay month lengths n = (month + i, j + 1) := by
  induction lengths generalizing n month with
  | nil => simp at hn
  | cons first rest ih =>
    by_cases hfirst : n < first
    · exact ⟨0, n, first, by simp, hfirst, by simp, by simp [Day.monthAndDay, hfirst]⟩
    · rw [List.sum_cons] at hn
      obtain ⟨i, j, length, hi, hj, hsum, -⟩ := ih (n := n - first) (by omega) month
      have hi' : (first :: rest)[i + 1]? = some length := by simpa using hi
      have hn' : n = ((first :: rest).take (i + 1)).sum + j := by
        rw [List.take_succ_cons, List.sum_cons]
        omega
      refine ⟨i + 1, j, length, hi', hj, hn', ?_⟩
      rw [hn', Day.monthAndDay_of_lt hi' hj]

theorem daysBeforeMonth_eq (year month : Nat) :
    daysBeforeMonth year month = ((monthLengths year).take (month - 1)).sum := by
  unfold daysBeforeMonth
  rw [List.sum_eq_foldl]

/-! ## Dates -/

theorem isDate_iff {year month day : Nat} : isDate year month day = true ↔
    1 ≤ year ∧ year ≤ 9999 ∧ 1 ≤ month ∧ 1 ≤ day ∧
      ∃ length, (monthLengths year)[month - 1]? = some length ∧ day ≤ length := by
  unfold isDate
  cases h : (monthLengths year)[month - 1]? <;> simp [and_assoc]

/-- Within a year, the days of the months before a date and those of its own month stay below the year's length. -/
theorem dayOfYear_lt {year month day length : Nat} (hlength : (monthLengths year)[month - 1]? = some length)
    (hday : 1 ≤ day) (hle : day ≤ length) : daysBeforeMonth year month + (day - 1) < yearLength year := by
  rw [daysBeforeMonth_eq, ← monthLengths_sum]
  obtain ⟨hi, hget⟩ := List.getElem?_eq_some_iff.1 hlength
  have hsplit : (monthLengths year).sum = ((monthLengths year).take (month - 1)).sum +
      ((monthLengths year).drop (month - 1)).sum := by
    rw [← List.sum_append, List.take_append_drop]
  rw [List.drop_eq_getElem_cons hi, List.sum_cons, hget] at hsplit
  omega

theorem Day.date_of_number {d : Day} {year month day : Nat} (hdate : isDate year month day = true)
    (hnumber : d.number = daysBeforeYear year + daysBeforeMonth year month + (day - 1)) : d.date = (year, month, day) := by
  obtain ⟨hyear, -, hmonth, hday, length, hlength, hle⟩ := isDate_iff.1 hdate
  have hlt := dayOfYear_lt hlength hday hle
  have hd : d.year = year := by
    refine Day.year_eq (by omega) ?_
    rw [daysBeforeYear_succ hyear]
    omega
  unfold Day.date
  rw [hd, hnumber, show daysBeforeYear year + daysBeforeMonth year month + (day - 1) - daysBeforeYear year =
    ((monthLengths year).take (month - 1)).sum + (day - 1) by rw [← daysBeforeMonth_eq]; omega]
  rw [Day.monthAndDay_of_lt hlength (by omega)]
  congr 2 <;> omega

/-- The date of a day is one of the calendar, and the day stands where it belongs. -/
theorem Day.isDate_date {d : Day} {year month day : Nat} (h : d.date = (year, month, day)) :
    isDate year month day = true ∧ d.number = daysBeforeYear year + daysBeforeMonth year month + (day - 1) := by
  obtain ⟨hle, hlt⟩ := d.year_bounds
  have hone := d.one_le_year
  rw [daysBeforeYear_succ hone] at hlt
  have hn : d.number - daysBeforeYear d.year < (monthLengths d.year).sum := by
    rw [monthLengths_sum]
    omega
  obtain ⟨i, j, length, hi, hj, hsum, hmonth⟩ := Day.exists_of_monthAndDay hn 1
  unfold Day.date at h
  rw [hmonth] at h
  obtain ⟨rfl, hmd⟩ := Prod.mk.inj h
  obtain ⟨rfl, rfl⟩ := Prod.mk.inj hmd
  have hi' : 1 + i - 1 = i := by omega
  constructor
  · exact isDate_iff.2 ⟨hone, d.year_le, by omega, by omega, length, by rw [hi', hi], by omega⟩
  · rw [daysBeforeMonth_eq, hi']
    omega

/-- **Dates name days.** Reading a date gives a day exactly if the calendar has the date, and then the day that bears
it. -/
theorem Day.ofDate?_eq_some_iff {year month day : Nat} {d : Day} :
    Day.ofDate? year month day = some d ↔ isDate year month day = true ∧ d.date = (year, month, day) := by
  unfold Day.ofDate?
  constructor
  · intro h
    split at h
    · next hdate => exact ⟨hdate, Day.date_of_number hdate (Day.ofNumber?_eq_some.1 h)⟩
    · cases h
  · rintro ⟨hdate, hd⟩
    rw [if_pos hdate]
    exact Day.ofNumber?_eq_some.2 (Day.isDate_date hd).2

theorem Day.exists_ofDate? {year month day : Nat} (h : isDate year month day = true) :
    ∃ d, Day.ofDate? year month day = some d := by
  obtain ⟨hyear, hlast, -, hday, length, hlength, hle⟩ := isDate_iff.1 h
  have hlt := dayOfYear_lt hlength hday hle
  have hsucc := daysBeforeYear_succ hyear
  have hmono := daysBeforeYear_mono (show year + 1 ≤ 10000 by omega)
  have hend : daysBeforeYear 10000 = lastNumber + 1 := by decide
  have hle : daysBeforeYear year + daysBeforeMonth year month + (day - 1) ≤ lastNumber := by omega
  refine ⟨⟨_, hle⟩, ?_⟩
  rw [Day.ofDate?, if_pos h]
  exact Day.ofNumber?_eq_some.2 rfl

end MenuBoard.Calendar
