import MenuBoard.Calendar.Day

/-!
Days as a phrase names them. A `DateChoice` always names one day for a given reference day, unless that day lies beyond the
calendar. A `DateForm` is a date as a record gives it: its kind alone says which of its other fields counts, and that field
may be missing.
-/

namespace MenuBoard.Calendar

/-- a day named in a phrase -/
inductive DateChoice where
  | today
  | tomorrow
  | explicit (day : Day)
  | weekday (day : Fin 7)
  deriving DecidableEq, Repr

/-- the days from `reference` to the next `wanted`, the reference day counted -/
def daysUntil (wanted : Fin 7) (reference : Day) : Nat := (wanted.val + 7 - reference.weekday.val) % 7

/-- The day that is meant on the reference day; nothing if it is later than the last day of the calendar. -/
def DateChoice.resolve? (reference : Day) : DateChoice → Option Day
  | .today => some reference
  | .tomorrow => reference.addDays? 1
  | .explicit day => some day
  | .weekday wanted => reference.addDays? (daysUntil wanted reference)

inductive DateKind where
  | today | tomorrow | explicit | weekday
  deriving DecidableEq, Repr

def DateKind.name : DateKind → String
  | .today => "today"
  | .tomorrow => "tomorrow"
  | .explicit => "explicit"
  | .weekday => "weekday"

def DateKind.all : List DateKind := [.today, .tomorrow, .explicit, .weekday]

/-- a date as a record gives it -/
structure DateForm where
  kind : DateKind
  date : Option Day := none
  weekday : Option (Fin 7) := none
  deriving DecidableEq, Repr

/-- why a record names no day -/
inductive ResolveError where
  | outOfRange
  | noWeekday
  deriving DecidableEq, Repr

def ResolveError.message : ResolveError → String
  | .outOfRange => "date value out of range"
  | .noWeekday => "unsupported operand type(s) for -: 'NoneType' and 'int'"

/-- The day that a record means on the reference day. An explicit date may be left open. -/
def DateForm.resolve (reference : Day) (form : DateForm) : Except ResolveError (Option Day) :=
  let named (choice : DateChoice) : Except ResolveError (Option Day) :=
    match choice.resolve? reference with
    | some day => .ok (some day)
    | none => .error .outOfRange
  match form.kind with
  | .today => named .today
  | .tomorrow => named .tomorrow
  | .explicit => .ok form.date
  | .weekday =>
    match form.weekday with
    | some wanted => named (.weekday wanted)
    | none => .error .noWeekday

/-- a choice as a record -/
def DateChoice.form : DateChoice → DateForm
  | .today => { kind := .today }
  | .tomorrow => { kind := .tomorrow }
  | .explicit day => { kind := .explicit, date := some day }
  | .weekday wanted => { kind := .weekday, weekday := some wanted }

/-- A choice written as a record means the same day. -/
theorem DateChoice.resolve_form (reference : Day) (choice : DateChoice) :
    choice.form.resolve reference =
      match choice.resolve? reference with
      | some day => .ok (some day)
      | none => .error .outOfRange := by
  cases choice <;> rfl

theorem daysUntil_lt (wanted : Fin 7) (reference : Day) : daysUntil wanted reference < 7 := Nat.mod_lt _ (by decide)

end MenuBoard.Calendar
