/-!
Days of the Gregorian calendar from 0001-01-01 to 9999-12-31, held as the number of days since the first of them. Order,
distance and weekday are arithmetic on that number; year, month and day are computed from it.
-/

namespace MenuBoard.Calendar

/-- the number of 9999-12-31 -/
def lastNumber : Nat := 3652058

/-- a day of the calendar, by the number of days since 0001-01-01 -/
structure Day where
  number : Nat
  le_last : number ≤ lastNumber
  deriving DecidableEq, Repr

/-- a year of 366 days -/
def isLeap (year : Nat) : Bool := year % 4 == 0 && (year % 100 != 0 || year % 400 == 0)

/-- the lengths of a year's months -/
def monthLengths (year : Nat) : List Nat :=
  [31, if isLeap year then 29 else 28, 31, 30, 31, 30, 31, 31, 30, 31, 30, 31]

/-- the days of all years before `year` -/
def daysBeforeYear (year : Nat) : Nat :=
  let y := year - 1
  y * 365 + y / 4 - y / 100 + y / 400

/-- the days of a year's months before `month` -/
def daysBeforeMonth (year month : Nat) : Nat := ((monthLengths year).take (month - 1)).foldl (· + ·) 0

/-- year, month and day name a day of the calendar -/
def isDate (year month day : Nat) : Bool :=
  1 ≤ year && year ≤ 9999 && 1 ≤ month && 1 ≤ day &&
    match (monthLengths year)[month - 1]? with
    | some length => day ≤ length
    | none => false

namespace Day

/-- the day with a number, if the calendar has it -/
def ofNumber? (n : Nat) : Option Day := if h : n ≤ lastNumber then some ⟨n, h⟩ else none

/-- the day with this date, if there is one -/
def ofDate? (year month day : Nat) : Option Day :=
  if isDate year month day then ofNumber? (daysBeforeYear year + daysBeforeMonth year month + (day - 1)) else none

/-- `n` days later, if the calendar goes that far -/
def addDays? (d : Day) (n : Nat) : Option Day := ofNumber? (d.number + n)

/-- 0 is Monday -/
def weekday (d : Day) : Fin 7 := ⟨d.number % 7, Nat.mod_lt _ (by decide)⟩

/-- month and day of the `n`-th day of a year, counted from 0 -/
def monthAndDay : (month : Nat) → (lengths : List Nat) → (n : Nat) → Nat × Nat
  | month, [], n => (month, n + 1)
  | month, length :: rest, n => if n < length then (month, n + 1) else monthAndDay (month + 1) rest (n - length)

/-- the year of a day: whole cycles of 400, 100, 4 and 1 years before it -/
def year (d : Day) : Nat :=
  let n := d.number
  let centuries := min 3 (n % 146097 / 36524)
  let inCentury := n % 146097 - centuries * 36524
  let years := min 3 (inCentury % 1461 / 365)
  n / 146097 * 400 + centuries * 100 + inCentury / 1461 * 4 + years + 1

/-- year, month and day -/
def date (d : Day) : Nat × Nat × Nat :=
  (d.year, monthAndDay 1 (monthLengths d.year) (d.number - daysBeforeYear d.year))

/-- a number in at least `width` digits -/
def padded (width n : Nat) : String :=
  let digits := (toString n).toList
  String.ofList (List.replicate (width - digits.length) '0' ++ digits)

/-- yyyy-mm-dd -/
def text (d : Day) : String :=
  let (y, m, n) := d.date
  s!"{padded 4 y}-{padded 2 m}-{padded 2 n}"

instance : LE Day := ⟨fun a b => a.number ≤ b.number⟩

instance (a b : Day) : Decidable (a ≤ b) := inferInstanceAs (Decidable (a.number ≤ b.number))

theorem ofNumber?_eq_some {n : Nat} {d : Day} : ofNumber? n = some d ↔ d.number = n := by
  unfold ofNumber?
  constructor
  · intro h
    split at h
    · obtain rfl := Option.some.inj h; rfl
    · cases h
  · rintro rfl
    simp [d.le_last]

theorem ofNumber?_eq_none {n : Nat} : ofNumber? n = none ↔ lastNumber < n := by
  unfold ofNumber?
  split <;> simp <;> omega

end Day

end MenuBoard.Calendar
