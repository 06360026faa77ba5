import MenuBoard.Calendar.DateChoice
import MenuBoard.Form.Number

/-!
Dates in forms: a date, a moment at midnight, or the seconds since 1970-01-01 (milliseconds if there are more than twenty
thousand million of them).
-/

namespace MenuBoard.Form

open MenuBoard.Calendar MenuBoard.Json

/-- a number of exactly `count` ASCII digits, and the text after it -/
def fixedDigits? (count : Nat) (text : List Char) : Option (Nat × List Char) :=
  let digits := text.take count
  if digits.length = count ∧ digits.all isAsciiDigit then some (digitsValue digits, text.drop count) else none

/-- the text after one of some characters -/
def oneOf? (cs : List Char) : List Char → Option (List Char)
  | c :: text => if cs.contains c then some text else none
  | [] => none

/-- yyyy-mm-dd, and the text after it -/
def dateText? (text : List Char) : Option (Day × List Char) := do
  let (year, text) ← fixedDigits? 4 text
  let text ← oneOf? ['-'] text
  let (month, text) ← fixedDigits? 2 text
  let text ← oneOf? ['-'] text
  let (day, text) ← fixedDigits? 2 text
  return (← Day.ofDate? year month day, text)

/-- a time zone, which does not matter to what is midnight -/
def zoneText (text : List Char) : Bool :=
  match text with
  | [] | ['Z'] | ['z'] => true
  | text => ((do
    let text ← oneOf? ['+', '-'] text
    let (hours, text) ← fixedDigits? 2 text
    let (minutes, text) ← fixedDigits? 2 ((oneOf? [':'] text).getD text)
    if text.isEmpty ∧ hours < 24 ∧ minutes < 60 then some () else none) : Option Unit).isSome

/-- Seconds and their fraction; whether they are zero, and the text after them. -/
def secondsText? (text : List Char) : Option (Bool × List Char) :=
  match oneOf? [':'] text with
  | none => some (true, text)
  | some text => do
    let (seconds, text) ← fixedDigits? 2 text
    if 59 < seconds then none
    else match oneOf? ['.', ','] text with
      | none => return (seconds == 0, text)
      | some text =>
        let fraction := text.takeWhile isAsciiDigit
        if fraction.isEmpty then none
        else return (seconds == 0 && (fraction.take 6).all (· == '0'), text.dropWhile isAsciiDigit)

/-- the time after a date; whether it is midnight -/
def timeText? (text : List Char) : Option Bool := do
  let text ← oneOf? ['T', 't', ' ', '_'] text
  let (hours, text) ← fixedDigits? 2 text
  let text ← oneOf? [':'] text
  let (minutes, text) ← fixedDigits? 2 text
  let (zero, text) ← secondsText? text
  if hours < 24 ∧ minutes < 60 ∧ zoneText text then some (hours == 0 && minutes == 0 && zero) else none

/-- the number of 1970-01-01 -/
def epoch : Int := 719162

/-- the day that begins the given number of milliseconds after 1970 -/
def dayOfMilliseconds (ms : Int) : Checked Day :=
  let days := ms.fdiv 86400000
  let number := epoch + days
  match (if number < 0 then none else Day.ofNumber? number.toNat) with
  | none => Checked.fail .badDateText
  | some day => if ms.fmod 86400000 = 0 then .ok day else Checked.fail .notMidnight

/-- the day that begins a number of seconds after 1970, or of milliseconds if it is large -/
def dayOfTimestamp (n : Int) : Checked Day := dayOfMilliseconds (if n.natAbs ≤ 20000000000 then n * 1000 else n)

/-- the day that a number with a fraction means -/
def dayOfReal (x : Float) : Checked Day :=
  if x.isNaN || x.isInf then Checked.fail .badDateText
  else if x.floor != x then Checked.fail .notMidnight
  else match intOfReal x with
    | .ok n => dayOfTimestamp n
    | .error _ => Checked.fail .badDateText

/-- the day that begins a number of seconds or milliseconds given as a text, with or without a fraction -/
def timestampText (text : List Char) : Checked Day :=
  let (negative, unsigned) := splitSign text
  let whole := unsigned.takeWhile isAsciiDigit
  let tenths := unsigned.drop (whole.length + 1)
  let isPoint := (unsigned.drop whole.length).head?.all (· == '.')
  if whole.isEmpty || !isPoint || !tenths.all isAsciiDigit then Checked.fail .badDateText
  else if tenths.all (· == '0') then dayOfTimestamp (if negative then -(digitsValue whole : Int) else digitsValue whole)
  else Checked.fail .notMidnight

/-- the day that a text means -/
def dayText (text : List Char) : Checked Day :=
  match dateText? text with
  | some (day, []) => .ok day
  | some (day, rest) =>
    match timeText? rest with
    | some true => .ok day
    | some false => Checked.fail .notMidnight
    | none => Checked.fail .badDateText
  | none => timestampText text

def day : Json → Checked Day
  | .str s => dayText s.toList
  | .int n => dayOfTimestamp n
  | .real x => dayOfReal x
  | _ => Checked.fail .notDate

def weekday (v : Json) : Checked (Fin 7) := do
  let n ← within 0 6 (← int v)
  return Fin.ofNat 7 n.toNat

def dateKind : Json → Checked DateKind := member fun s => DateKind.all.find? (·.name == s)

/-- a date as a record gives it -/
def dateForm : Json → Checked DateForm := record fun fields =>
  Checked.both (Checked.both ((required "kind" dateKind fields).map DateForm.mk) (optional "date" day fields))
    (optional "weekday" weekday fields)

end MenuBoard.Form
