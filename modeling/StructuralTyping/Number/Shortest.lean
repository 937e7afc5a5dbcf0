import StructuralTyping.Number.Binary64

/-! # Shortest decimals

Of all decimals that round to a given double, `shortest` takes one with the fewest digits, and
among those the one nearest to the double.

The reals that round to a magnitude form an interval around it, which includes its ends exactly
when the significand is even.  For ever finer grids of powers of ten, from one digit on, the two
grid points around the value are tested against that interval, in exact arithmetic on quarters of a
unit.  The first grid with a point inside wins; of two points inside the nearer one is taken, and a
`Tie` decides when both are equally near.
-/

namespace StructuralTyping

/-- The number `digits * 10 ^ exponent`. -/
structure Decimal where
  digits : Nat
  exponent : Int
deriving DecidableEq

/-- Which of two equally near decimals is taken. -/
inductive Tie where
  | toEven
  | up
deriving DecidableEq

namespace Decimal

/-- The same number without trailing zeros among its digits. -/
def strip (d : Decimal) : Decimal :=
  if d.digits ≠ 0 ∧ d.digits % 10 = 0 then strip ⟨d.digits / 10, d.exponent + 1⟩ else d
termination_by d.digits
decreasing_by omega

end Decimal

namespace Binary64

/-- The interval of the reals that round to a magnitude, over a common denominator. -/
structure Basin where
  low : Nat
  value : Nat
  high : Nat
  denominator : Nat
  closed : Bool

namespace Basin

/-- Quarters of a unit are fine enough: below a power of two the next magnitude is only half a
spacing away, so the interval ends a quarter of a spacing below. -/
def ofMagnitude (m : Nat) : Basin :=
  let value := 4 * units m
  let below := if m % Nat.pow 2 52 = 0 ∧ Nat.pow 2 53 ≤ m then spacing m else 2 * spacing m
  { low := value - below
    value
    high := value + 2 * spacing m
    denominator := 4 * unitsPerOne
    closed := significand m % 2 = 0 }

/-- The same interval measured in steps of `10 ^ grid`. -/
def inSteps (b : Basin) (grid : Int) : Basin :=
  match grid with
  | .ofNat k => { b with denominator := b.denominator * Nat.pow 10 k }
  | .negSucc k =>
    let factor := Nat.pow 10 (k + 1)
    { b with low := b.low * factor, value := b.value * factor, high := b.high * factor }

/-- Whether the interval contains this whole number of steps. -/
def contains (b : Basin) (point : Nat) : Bool :=
  let p := point * b.denominator
  if b.closed then decide (b.low ≤ p ∧ p ≤ b.high) else decide (b.low < p ∧ p < b.high)

/-- Of the two whole numbers around the value, the nearer one. -/
def nearer (b : Basin) (tie : Tie) : Nat :=
  let below := b.value / b.denominator
  let rest := b.value % b.denominator
  if 2 * rest < b.denominator then below
  else if b.denominator < 2 * rest then below + 1
  else match tie with
    | .toEven => below + below % 2
    | .up => below + 1

/-- A whole number of steps inside the interval, next to the value. -/
def point? (b : Basin) (tie : Tie) : Option Nat :=
  let below := b.value / b.denominator
  match b.contains below, b.contains (below + 1) with
  | true, true => some (b.nearer tie)
  | true, false => some below
  | false, true => some (below + 1)
  | false, false => none

/-- The position of the leading digit of the value. -/
def leading (b : Basin) : Int :=
  ((Nat.toDigits 10 (b.value * Nat.pow 10 330 / b.denominator)).length : Int) - 331

/-- Tries grids of up to `fuel` further digits, from the coarsest on. -/
def search (b : Basin) (tie : Tie) : Nat → Int → Decimal
  | 0, grid => ⟨(b.inSteps grid).nearer tie, grid⟩
  | fuel + 1, grid =>
    match (b.inSteps grid).point? tie with
    | some d => ⟨d, grid⟩
    | none => search b tie fuel (grid - 1)

end Basin

/-- The shortest decimal that rounds to a finite magnitude.  Seventeen digits always suffice. -/
def shortest (tie : Tie) (m : Nat) : Decimal :=
  if m = 0 then ⟨0, 0⟩
  else
    let b := Basin.ofMagnitude m
    (b.search tie 16 b.leading).strip

end Binary64

end StructuralTyping
