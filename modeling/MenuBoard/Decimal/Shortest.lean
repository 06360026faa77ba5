/-!
The shortest decimal of a double: of all decimals that read back as the number, those with the fewest digits, and of these
the nearest. Everything is exact arithmetic on natural numbers.
-/

namespace MenuBoard.Decimal

/-- The positive number `mantissa · 2 ^ exponent`. `narrow` says that the next smaller double is only half as far away as
the next larger one. -/
structure Binary where
  mantissa : Nat
  exponent : Int
  narrow : Bool

/-- the digits and the power of ten of `digits · 10 ^ exponent` -/
structure Scaled where
  digits : Nat
  exponent : Int
  deriving Repr, DecidableEq

/-- the parts of a finite double other than zero, its sign aside -/
def Binary.ofBits (bits : UInt64) : Binary :=
  let fraction : Nat := bits.toNat % Nat.pow 2 52
  let field : Nat := bits.toNat / Nat.pow 2 52 % Nat.pow 2 11
  if field = 0 then ⟨fraction, -1074, false⟩
  else ⟨fraction + Nat.pow 2 52, (field : Int) - 1075, fraction = 0 ∧ 1 < field⟩

/-- The interval of reals that round to a double, as numerators over a common denominator: lower end, value, upper end.
The ends belong to it if `closed`. -/
structure Interval where
  low : Nat
  value : Nat
  high : Nat
  denominator : Nat
  closed : Bool

/-- the reals that round to the number -/
def Binary.interval (b : Binary) : Interval :=
  let up := Nat.pow 2 (b.exponent - 2).toNat
  { low := (4 * b.mantissa - (if b.narrow then 1 else 2)) * up
    value := 4 * b.mantissa * up
    high := (4 * b.mantissa + 2) * up
    denominator := Nat.pow 2 (2 - b.exponent).toNat
    closed := b.mantissa % 2 = 0 }

/-- `n / denominator`, read over the interval's denominator, rounds to the number -/
def Interval.holds (i : Interval) (n : Nat) : Bool :=
  if i.closed then i.low ≤ n && n ≤ i.high else i.low < n && n < i.high

/-- The multiple of `10 ^ e` in the interval that is nearest to the value, if there is one; of two equally near the even
one. -/
def Interval.onGrid? (i : Interval) (e : Int) : Option Nat :=
  let scale := Nat.pow 10 (-e).toNat
  let i : Interval := { i with low := i.low * scale, value := i.value * scale, high := i.high * scale }
  let unit := i.denominator * Nat.pow 10 e.toNat
  let below := i.value / unit
  let above := below + 1
  match i.holds (below * unit) && 0 < below, i.holds (above * unit) with
  | true, false => some below
  | false, true => some above
  | false, false => none
  | true, true =>
    let down := i.value - below * unit
    let up := above * unit - i.value
    if down < up then some below else if up < down then some above
    else if below % 2 = 0 then some below else some above

/-- the coarsest grid of powers of ten from `e` downwards that meets the interval -/
def Interval.shortestFrom (i : Interval) : (grids : Nat) → (e : Int) → Scaled
  | 0, e => ⟨0, e⟩
  | grids + 1, e =>
    match i.onGrid? e with
    | some n => ⟨n, e⟩
    | none => i.shortestFrom grids (e - 1)

/-- a power of ten above the value -/
def Interval.magnitude (i : Interval) : Int :=
  ((Nat.log2 i.value : Int) - Nat.log2 i.denominator) * 30103 / 100000 + 2

/-- A double has a decimal of 17 digits, so that many grids below its magnitude are enough. -/
def Binary.shortest (b : Binary) : Scaled := b.interval.shortestFrom 24 b.interval.magnitude

end MenuBoard.Decimal
