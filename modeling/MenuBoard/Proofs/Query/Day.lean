import Mathlib.Order.Bounds.Basic
import MenuBoard.Proofs.Calendar.Gregorian
import MenuBoard.Proofs.Query.Merge

/-!
The day that a phrase names.

`DateChoice.Means` says which day is meant on a reference day, by its number in a calendar that does not end: the reference
day, the one after it, a day of its own, or the first from the reference day on that is a given weekday. There is always
exactly one, and it comes no earlier for a later reference day (`number_mono`). Resolving a choice gives that day, and
fails if and only if the calendar ends before it (`resolve_form_eq_ok`, `resolve_form_eq_error`). So it does for every
phrase that names a day (`resolve_phrase`). Days that follow each other bear dates that do (`Day.date_next`).
-/

namespace MenuBoard.Calendar

/-! ## The next day -/

/-- the date after a date: the next day of the month, or the first day of the next month or year -/
def nextDate (year month day : Nat) : Nat × Nat × Nat :=
  if (monthLengths year)[month - 1]?.any (day < ·) then (year, month, day + 1)
  else if month < 12 then (year, month + 1, 1)
  else (year + 1, 1, 1)

theorem daysBeforeMonth_succ {year month length : Nat} (hmonth : 1 ≤ month)
    (hlength : (monthLengths year)[month - 1]? = some length) :
    daysBeforeMonth year (month + 1) = daysBeforeMonth year month + length := by
  obtain ⟨hi, hget⟩ := List.getElem?_eq_some_iff.1 hlength
  have hnext : month + 1 - 1 = month - 1 + 1 := by omega
  rw [daysBeforeMonth_eq, daysBeforeMonth_eq, hnext, List.take_succ_eq_append_getElem hi, List.sum_append, hget]
  simp

theorem daysBeforeMonth_end (year : Nat) : daysBeforeMonth year 13 = yearLength year := by
  rw [daysBeforeMonth_eq, ← monthLengths_sum, List.take_of_length_le]
  simp [monthLengths]

/-- **Days that follow each other bear dates that do**, also where a month, a leap year's February or a year ends. -/
theorem Day.date_next {d d' : Day} (hnext : d'.number = d.number + 1) {year month day : Nat}
    (h : d.date = (year, month, day)) : d'.date = nextDate year month day := by
  obtain ⟨hdate, hnumber⟩ := Day.isDate_date h
  obtain ⟨hyear, hlast, hmonth, hday, length, hlength, hle⟩ := isDate_iff.1 hdate
  unfold nextDate
  by_cases hinside : day < length
  · have hdate' : isDate year month (day + 1) = true :=
      isDate_iff.2 ⟨hyear, hlast, hmonth, by omega, length, hlength, hinside⟩
    simp only [hlength, Option.any_some, hinside, decide_true, if_true]
    exact Day.date_of_number hdate' (by omega)
  · have hsucc := daysBeforeMonth_succ hmonth hlength
    simp only [hlength, Option.any_some, hinside, decide_false, Bool.false_eq_true, if_false]
    by_cases hdecember : month < 12
    · obtain ⟨length', hlength'⟩ : ∃ length', (monthLengths year)[month]? = some length' :=
        ⟨_, List.getElem?_eq_getElem (by simpa [monthLengths] using hdecember)⟩
      have hpositive : 1 ≤ length' := by
        have hmem := List.mem_of_getElem? hlength'
        simp only [monthLengths, List.mem_cons, List.not_mem_nil, or_false] at hmem
        split at hmem <;> omega
      have hdate' : isDate year (month + 1) 1 = true :=
        isDate_iff.2 ⟨hyear, hlast, by omega, by omega, length', by simpa using hlength', hpositive⟩
      rw [if_pos hdecember]
      exact Day.date_of_number hdate' (by omega)
    · obtain rfl : month = 12 := by
        obtain ⟨hi, -⟩ := List.getElem?_eq_some_iff.1 hlength
        have hmonths : (monthLengths year).length = 12 := rfl
        omega
      have hend : daysBeforeMonth year (12 + 1) = yearLength year := daysBeforeMonth_end year
      have hyears := daysBeforeYear_succ hyear
      -- the last day of the last year is followed by none
      have hbefore : year + 1 ≤ 9999 := by
        have hfirst : daysBeforeYear (9999 + 1) = lastNumber + 1 := by decide
        have hbound := d'.le_last
        by_contra hbeyond
        obtain rfl : year = 9999 := by omega
        omega
      have hdate' : isDate (year + 1) 1 1 = true := isDate_iff.2 ⟨by omega, hbefore, by omega, by omega, 31, rfl, by omega⟩
      have hjanuary : daysBeforeMonth (year + 1) 1 = 0 := rfl
      rw [if_neg hdecember]
      exact Day.date_of_number hdate' (by omega)

/-! ## Choices -/

namespace DateChoice

/-- the number of the day that is meant on the reference day, in a calendar that does not end -/
def Means (reference : Day) : DateChoice → Nat → Prop
  | .today, n => n = reference.number
  | .tomorrow, n => n = reference.number + 1
  | .explicit day, n => n = day.number
  | .weekday wanted, n => IsLeast {m | reference.number ≤ m ∧ m % 7 = wanted.val} n

/-- the number of the day that a choice is resolved to, should the calendar go that far -/
def number (reference : Day) : DateChoice → Nat
  | .today => reference.number
  | .tomorrow => reference.number + 1
  | .explicit day => day.number
  | .weekday wanted => reference.number + daysUntil wanted reference

variable {choice : DateChoice} {reference : Day}

theorem resolve?_eq_ofNumber? (choice : DateChoice) (reference : Day) :
    choice.resolve? reference = Day.ofNumber? (choice.number reference) := by
  cases choice with
  | today => exact (Day.ofNumber?_eq_some.2 rfl).symm
  | tomorrow => rfl
  | explicit day => exact (Day.ofNumber?_eq_some.2 rfl).symm
  | weekday wanted => rfl

/-- The first day that is a given weekday comes within a week. -/
theorem isLeast_weekday (wanted : Fin 7) (reference : Day) :
    IsLeast {m | reference.number ≤ m ∧ m % 7 = wanted.val} (reference.number + daysUntil wanted reference) := by
  have hwanted := wanted.isLt
  have hdays : daysUntil wanted reference = (wanted.val + 7 - reference.number % 7) % 7 := rfl
  constructor
  · show reference.number ≤ _ ∧ _ % 7 = wanted.val
    omega
  · rintro m ⟨hle, hmod⟩
    omega

theorem means_number (choice : DateChoice) (reference : Day) : choice.Means reference (choice.number reference) := by
  cases choice with
  | today => rfl
  | tomorrow => rfl
  | explicit day => rfl
  | weekday wanted => exact isLeast_weekday wanted reference

theorem means_iff {n : Nat} : choice.Means reference n ↔ n = choice.number reference := by
  constructor
  · intro h
    cases choice with
    | today => exact h
    | tomorrow => exact h
    | explicit day => exact h
    | weekday wanted => exact h.unique (isLeast_weekday wanted reference)
  · rintro rfl
    exact means_number choice reference

theorem number_mono {earlier later : Day} (h : earlier ≤ later) : choice.number earlier ≤ choice.number later := by
  have hle : earlier.number ≤ later.number := h
  cases choice with
  | today => exact hle
  | tomorrow => exact Nat.add_le_add_right hle 1
  | explicit day => exact Nat.le_refl _
  | weekday wanted =>
    -- the first such weekday from the later day on is one from the earlier day on as well
    obtain ⟨hfrom, hmod⟩ := (isLeast_weekday wanted later).1
    exact (isLeast_weekday wanted earlier).2 ⟨Nat.le_trans hle hfrom, hmod⟩

theorem resolve_form_eq_ok {answer : Option Day} :
    choice.form.resolve reference = .ok answer ↔ ∃ day, answer = some day ∧ choice.Means reference day.number := by
  rw [resolve_form, resolve?_eq_ofNumber?]
  simp only [means_iff, ← Day.ofNumber?_eq_some]
  cases Day.ofNumber? (choice.number reference) with
  | none => simp
  | some day => simp [eq_comm]

theorem resolve_form_eq_error {error : ResolveError} :
    choice.form.resolve reference = .error error ↔
      error = .outOfRange ∧ ∃ n, choice.Means reference n ∧ lastNumber < n := by
  rw [resolve_form, resolve?_eq_ofNumber?]
  simp only [means_iff, exists_eq_left, ← Day.ofNumber?_eq_none]
  cases Day.ofNumber? (choice.number reference) with
  | none => simp [eq_comm]
  | some day => simp

end DateChoice

/-- The record of a choice is resolved, on every day, to the day that is meant. -/
structure ResolvesAsMeant (choice : DateChoice) : Prop where
  /-- There is a day, or the calendar ends before it; nothing else can be wrong with it, and it is not left open. -/
  total : ∀ reference, (∃ day, choice.form.resolve reference = .ok (some day)) ∨
    choice.form.resolve reference = .error .outOfRange
  means : ∀ reference day, choice.form.resolve reference = .ok (some day) ↔ choice.Means reference day.number
  beyond : ∀ reference, choice.form.resolve reference = .error .outOfRange ↔
    ∃ n, choice.Means reference n ∧ lastNumber < n
  /-- A day is followed by the one with the next date. -/
  tomorrow : choice = .tomorrow → ∀ (reference day : Day) (y m n : Nat), reference.date = (y, m, n) →
    choice.form.resolve reference = .ok (some day) → day.date = nextDate y m n
  /-- The first such weekday, the reference day counted, comes within six days, and on that day it is that day. -/
  weekday : ∀ wanted, choice = .weekday wanted → ∀ reference day, choice.form.resolve reference = .ok (some day) →
    day.weekday = wanted ∧ reference ≤ day ∧ day.number ≤ reference.number + 6 ∧
      (∀ other : Day, reference ≤ other → other.weekday = wanted → day ≤ other) ∧
      choice.form.resolve day = .ok (some day)
  /-- On a later day no earlier day is meant, nor one inside the calendar if the one meant before was outside of it. -/
  mono : ∀ earlier later, earlier ≤ later →
    (∀ day day', choice.form.resolve earlier = .ok (some day) → choice.form.resolve later = .ok (some day') → day ≤ day') ∧
    (choice.form.resolve earlier = .error .outOfRange → choice.form.resolve later = .error .outOfRange)

section Resolution

variable {choice : DateChoice} {reference : Day}

theorem resolve_form_eq_some {day : Day} :
    choice.form.resolve reference = .ok (some day) ↔ choice.Means reference day.number := by
  rw [DateChoice.resolve_form_eq_ok]
  constructor
  · rintro ⟨found, hfound, hmeans⟩
    cases hfound
    exact hmeans
  · intro hmeans
    exact ⟨day, rfl, hmeans⟩

theorem resolve_form_beyond :
    choice.form.resolve reference = .error .outOfRange ↔ lastNumber < choice.number reference := by
  simp only [DateChoice.resolve_form_eq_error, DateChoice.means_iff, exists_eq_left, true_and]

end Resolution

/-- **Every choice is resolved as it is meant.** -/
theorem resolvesAsMeant (choice : DateChoice) : ResolvesAsMeant choice where
  total := by
    intro reference
    by_cases hinside : choice.number reference ≤ lastNumber
    · exact .inl ⟨⟨_, hinside⟩, resolve_form_eq_some.2 (DateChoice.means_number choice reference)⟩
    · exact .inr (resolve_form_beyond.2 (Nat.lt_of_not_le hinside))
  means := fun _ _ => resolve_form_eq_some
  beyond := by
    intro reference
    simp only [resolve_form_beyond, DateChoice.means_iff, exists_eq_left]
  tomorrow := by
    rintro rfl reference day y m n hdate hday
    exact Day.date_next (resolve_form_eq_some.1 hday) hdate
  weekday := by
    rintro wanted rfl reference day hday
    have hmeans := resolve_form_eq_some.1 hday
    have hnumber := DateChoice.means_iff.1 hmeans
    obtain ⟨⟨hfrom, hmod⟩, hleast⟩ := hmeans
    have hdays := daysUntil_lt wanted reference
    refine ⟨Fin.ext hmod, hfrom, ?_, fun other hother hweekday => hleast ⟨hother, congrArg Fin.val hweekday⟩,
      resolve_form_eq_some.2 ⟨⟨Nat.le_refl _, hmod⟩, fun m hm => hm.1⟩⟩
    simp only [DateChoice.number] at hnumber
    omega
  mono := by
    intro earlier later hle
    have hnumbers : choice.number earlier ≤ choice.number later := DateChoice.number_mono hle
    constructor
    · intro day day' hday hday'
      have hfirst := DateChoice.means_iff.1 (resolve_form_eq_some.1 hday)
      have hsecond := DateChoice.means_iff.1 (resolve_form_eq_some.1 hday')
      show day.number ≤ day'.number
      rwa [hfirst, hsecond]
    · intro hbeyond
      exact resolve_form_beyond.2 (Nat.lt_of_lt_of_le (resolve_form_beyond.1 hbeyond) hnumbers)

end MenuBoard.Calendar

namespace MenuBoard

open Calendar Phrase

/-- **The day of a phrase is the day that it names.** A query's date is the first one that its phrase spells, and its record
is resolved as that date is meant. -/
theorem resolve_phrase {phrase : List Char} {query : Query} {notices : List Notice} {choice : DateChoice}
    (hphrase : Query.parse phrase = .ok (query, notices)) (hdate : query.date = some choice) :
    (∃ contents, SpellsPhrase contents phrase ∧ firstDate contents = some choice) ∧ ResolvesAsMeant choice := by
  refine ⟨?_, resolvesAsMeant choice⟩
  obtain ⟨clauses, hclauses, hquery⟩ := map_eq_ok.1 hphrase
  have hfirst : (Query.ofClauses clauses).1.date = firstDate (clauses.map (·.content)) := Query.date_ofClauses
  rw [hquery, hdate] at hfirst
  exact ⟨_, spellsPhrase_of_tokenize hclauses, hfirst.symm⟩

/-- The first day of two counts. Saturday comes after a leap day, and after the calendar's last day, a Friday, it does not
come at all. -/
theorem resolve_saturday :
    ∃ query notices, Query.parse "vegan on sat on tomorrow".toList = .ok (query, notices) ∧
      query.date = some (.weekday 5) ∧
      ((∃ contents, SpellsPhrase contents "vegan on sat on tomorrow".toList ∧ firstDate contents = some (.weekday 5)) ∧
        ResolvesAsMeant (.weekday 5)) ∧
      ∃ reference saturday last : Day, reference.text = "2024-02-28" ∧ saturday.text = "2024-03-02" ∧
        last.text = "9999-12-31" ∧ (DateChoice.weekday 5).form.resolve reference = .ok (some saturday) ∧
        (DateChoice.weekday 5).form.resolve last = .error .outOfRange := by
  have hclauses : tokenize "vegan on sat on tomorrow".toList =
      .ok [⟨.restriction .vegan, 0, 6⟩, ⟨.date (.weekday 5), 6, 13⟩, ⟨.date .tomorrow, 13, 24⟩] := by decide +kernel
  have hphrase := Query.parse_eq_ok hclauses
  refine ⟨_, _, hphrase, rfl, resolve_phrase hphrase rfl, ⟨738943, by decide⟩, ⟨738946, by decide⟩, ⟨3652058, by decide⟩, ?_⟩
  decide +kernel

end MenuBoard
