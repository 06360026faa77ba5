import MenuBoard.Decimal.Shortest

/-!
Numbers with a fraction as text. `showReal` writes the shortest decimal, positionally from 10⁻⁴ up to 10¹⁶ and with an
exponent of at least two digits elsewhere; a whole number keeps `.0`. `ofDecimal` reads one.
-/

namespace MenuBoard.Decimal

/-- How numbers are written: positional while the decimal point falls after position `lowPoint` and at most at
`highPoint`, counted from the first digit. -/
structure Layout where
  lowPoint : Int
  highPoint : Int
  infinity : String
  nan : String

/-- the layout of prices and settings -/
def layout : Layout := { lowPoint := -4, highPoint := 16, infinity := "inf", nan := "nan" }

/-- digits with a decimal point after the first `point` of them -/
def positional (digits : List Char) (point : Int) : List Char :=
  if point ≤ 0 then '0' :: '.' :: (List.replicate (-point).toNat '0' ++ digits)
  else
    let n := point.toNat
    let whole := digits.take n ++ List.replicate (n - digits.length) '0'
    let fraction := digits.drop n
    whole ++ '.' :: (if fraction.isEmpty then ['0'] else fraction)

/-- one digit before the point, and a power of ten -/
def scientific (digits : List Char) (point : Int) : List Char :=
  let e := point - 1
  let size := (toString e.natAbs).toList
  let head := digits.take 1
  let tail := digits.drop 1
  head ++ (if tail.isEmpty then [] else '.' :: tail) ++ ['e', if e < 0 then '-' else '+'] ++
    List.replicate (2 - size.length) '0' ++ size

/-- a positive decimal as text -/
def Scaled.text (s : Scaled) (l : Layout) : List Char :=
  let digits := (toString s.digits).toList
  let point := s.exponent + digits.length
  if l.lowPoint < point ∧ point ≤ l.highPoint then positional digits point else scientific digits point

/-- a number as text in a layout -/
def Layout.show (l : Layout) (x : Float) : String :=
  if x.isNaN then l.nan
  else
    let negative := x.toBits.toNat / Nat.pow 2 63 = 1
    let magnitude :=
      if x.isInf then l.infinity.toList
      else if x == 0 then "0.0".toList
      else (Binary.ofBits x.toBits).shortest.text l
    String.ofList ((if negative then ['-'] else []) ++ magnitude)

/-- a number with a fraction as messages show it -/
def showReal (x : Float) : String := layout.show x

/-- infinity -/
def infinity : Float := 1.0 / 0.0

/-- The double nearest to `digits · 10 ^ exponent`. A number far beyond the doubles is infinite, one far below them zero. -/
def ofDecimal (negative : Bool) (digits : Nat) (exponent : Int) : Float :=
  let size := exponent + (toString digits).length
  let magnitude :=
    if digits = 0 ∨ size < -400 then 0.0
    else if 400 < size then infinity
    else if 0 ≤ exponent then Float.ofScientific (digits * Nat.pow 10 exponent.toNat) false 0
    else Float.ofScientific digits true (-exponent).toNat
  if negative then -magnitude else magnitude

end MenuBoard.Decimal
