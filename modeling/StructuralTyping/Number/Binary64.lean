/-! # Double precision numbers

The numbers of the checked language are 64-bit floating point words.  Two number literals are one
type exactly when their words agree, so `Binary64` is the word itself and nothing here goes
through floating point hardware.

A word is a sign and a *magnitude*, the lower 63 bits.  Every finite magnitude is a whole number of
*units*, the least positive double `2 ^ (-1074)`, so the arithmetic below is exact arithmetic on
natural numbers:

* `units` counts the units in a magnitude, `spacing` the units between it and the next one;
* `nearest num den` is the magnitude closest to a quotient, ties going to the even word;
* `product` and `quotient` round the exact result once.
-/

namespace StructuralTyping

/-- A double precision number, kept as its word. -/
structure Binary64 where
  bits : UInt64
deriving DecidableEq, Inhabited

namespace Binary64

/-- The magnitude of the infinities; every finite magnitude is smaller. -/
def infiniteMagnitude : Nat := 2047 * Nat.pow 2 52

/-- The word without its sign bit.  Larger numbers have larger magnitudes. -/
def magnitude (x : Binary64) : Nat := x.bits.toNat % Nat.pow 2 63

/-- Whether the sign bit is set.  Zero and the NaNs carry a sign too. -/
def isNegative (x : Binary64) : Bool := decide (Nat.pow 2 63 ≤ x.bits.toNat)

/-- Whether a double is a number, neither infinite nor NaN. -/
def isFinite (x : Binary64) : Bool := decide (x.magnitude < infiniteMagnitude)

/-- Whether a double is one of the values that are not numbers. -/
def isNaN (x : Binary64) : Bool := decide (infiniteMagnitude < x.magnitude)

/-- The word with the given sign and magnitude. -/
def ofMagnitude (negative : Bool) (magnitude : Nat) : Binary64 :=
  ⟨UInt64.ofNat (magnitude % Nat.pow 2 63 + if negative then Nat.pow 2 63 else 0)⟩

/-- The infinity of either sign. -/
def infinity (negative : Bool) : Binary64 := ofMagnitude negative infiniteMagnitude

/-- The quiet NaN with no further bits set. -/
def nan (negative : Bool) : Binary64 := ofMagnitude negative (infiniteMagnitude + Nat.pow 2 51)

/-! ### Magnitudes as whole numbers of units -/

/-- The significand of a finite magnitude, with its leading bit unless the number is subnormal. -/
def significand (m : Nat) : Nat := if m < Nat.pow 2 52 then m else Nat.pow 2 52 + m % Nat.pow 2 52

/-- How many units apart `m` and the next magnitude are. -/
def spacing (m : Nat) : Nat := Nat.pow 2 (m / Nat.pow 2 52 - 1)

/-- The value of a finite magnitude, in units. -/
def units (m : Nat) : Nat := significand m * spacing m

/-- The number of units in one. -/
def unitsPerOne : Nat := Nat.pow 2 1074

/-- A quotient rounded to the nearest whole number, a tie to the even one. -/
def roundedQuotient (num den : Nat) : Nat :=
  let whole := num / den
  let rest := num % den
  if 2 * rest < den then whole
  else if den < 2 * rest then whole + 1
  else whole + whole % 2

/-- The magnitude nearest to `num / den`, a tie to the even word; infinite when that is beyond the
largest finite number by half a spacing or more.

The quotient is counted in units.  With its leading bit at position `52 + shift` the magnitudes
around it are `2 ^ shift` units apart, and the carry of a significand that rounds up to `2 ^ 53`
moves into the exponent by itself. -/
def nearest (num den : Nat) : Nat :=
  let scaled := num * unitsPerOne
  let shift := (scaled / den).log2 - 52
  min infiniteMagnitude (shift * Nat.pow 2 52 + roundedQuotient scaled (den * Nat.pow 2 shift))

/-- The magnitude nearest to the product of two finite magnitudes. -/
def product (m n : Nat) : Nat := nearest (units m * units n) (unitsPerOne * unitsPerOne)

/-- The magnitude nearest to the quotient of two finite magnitudes, the second not zero. -/
def quotient (m n : Nat) : Nat := nearest (units m) (units n)

end Binary64

end StructuralTyping
