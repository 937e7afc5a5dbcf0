import StructuralTyping.Number.Binary64
import StructuralTyping.Number.Numeral

/-! # The double that a numeral stands for

A numeral is read in a fixed number of roundings.  Its *significand* is the number formed by its
leading digits as long as that fits into 64 bits; whole digits beyond it only count towards the
exponent, digits of the fraction beyond it are dropped.  The significand is rounded to a double,
and the result is multiplied or divided by a power of ten, itself rounded to a double.

Numerals of at most fifteen digits and a small exponent are read exactly this way with a single
rounding, so what is written by `Layout.numeral` for such numbers is read back.
-/

namespace StructuralTyping

namespace Numeral

/-- Takes in digits while the number stays below `2 ^ 64`; returns it with the digits left. -/
def absorb (n : Nat) : List Char → Nat × List Char
  | [] => (n, [])
  | c :: rest =>
    let next := 10 * n + (c.toNat - '0'.toNat)
    if next < UInt64.size then absorb next rest else (n, c :: rest)

/-- The significand and the power of ten that it is to be multiplied with. -/
def scientific (n : Numeral) : Nat × Int :=
  let (head, dropped) := absorb 0 n.whole
  let (significand, unread) := absorb head n.fraction
  let read := n.fraction.length - unread.length
  (significand, (dropped.length : Int) - (read : Int) + n.exponent.getD 0)

end Numeral

namespace Binary64

/-- The greatest power of ten that is a finite double. -/
def greatestPower : Nat := 308

/-- The double nearest to a power of ten. -/
def tenPower (k : Nat) : Nat := nearest (Nat.pow 10 k) 1

/-- The magnitude `m * 10 ^ e`.  A product beyond the finite doubles is refused; a quotient by more
than the greatest power of ten is taken in two steps and vanishes beyond those. -/
def scaled? (m : Nat) : Int → Option Nat
  | .ofNat k =>
    if k ≤ greatestPower then
      let p := product m (tenPower k)
      if p < infiniteMagnitude then some p else none
    else if m = 0 then some 0 else none
  | .negSucc j =>
    let k := j + 1
    if k ≤ greatestPower then some (quotient m (tenPower k))
    else if k ≤ 2 * greatestPower then
      some (quotient (quotient m (tenPower greatestPower)) (tenPower (k - greatestPower)))
    else some 0

/-- The double that a numeral stands for; none when it is too large. -/
def ofNumeral? (n : Numeral) : Option Binary64 :=
  let (significand, exponent) := n.scientific
  (scaled? (nearest significand 1) exponent).map (ofMagnitude n.negative)

end Binary64

end StructuralTyping
