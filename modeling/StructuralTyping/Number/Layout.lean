import StructuralTyping.Number.Numeral
import StructuralTyping.Number.Shortest

/-! # Layouts of numbers

A `Layout` says how the shortest digits of a double are set out: for which sizes the point is
placed among the digits and for which an exponent is written, and whether a whole number shows a
fraction.  The digits themselves come from `Binary64.shortest`.
-/

namespace StructuralTyping

/-- How a finite number is set out in decimal. -/
structure Layout where
  tie : Tie
  /-- Whether a number whose leading digit stands at `10 ^ e` is written without an exponent. -/
  positional : Int → Bool
  /-- Whether a whole number written without an exponent ends in `.0`. -/
  showsFraction : Bool

namespace Layout

/-- The fraction of a whole number. -/
def wholeFraction (l : Layout) : List Char := if l.showsFraction then ['0'] else []

/-- Digits with the point placed among them or zeros added on either side; the leading digit
stands at `10 ^ e`. -/
def placed (l : Layout) (ds : List Char) (e : Int) : List Char × List Char :=
  match e with
  | .negSucc k => (['0'], List.replicate k '0' ++ ds)
  | .ofNat k =>
    if ds.length ≤ k + 1 then (ds ++ List.replicate (k + 1 - ds.length) '0', l.wholeFraction)
    else (ds.take (k + 1), ds.drop (k + 1))

/-- A decimal set out as the layout says; with an exponent, one digit stands before the point. -/
def ofDecimal (l : Layout) (negative : Bool) (d : Decimal) : Numeral :=
  let ds := Numeral.digits d.digits
  let e := d.exponent + (ds.length : Int) - 1
  if l.positional e then
    let (whole, fraction) := l.placed ds e
    { negative, whole, fraction }
  else { negative, whole := ds.take 1, fraction := ds.drop 1, exponent := some e }

/-- A finite number set out in decimal. -/
def numeral (l : Layout) (x : Binary64) : Numeral :=
  l.ofDecimal x.isNegative (Binary64.shortest l.tie x.magnitude)

end Layout

end StructuralTyping
