/-! # Decimal numerals

A `Numeral` is a decimal number as it is written: a sign, the digits before and after the point,
and an exponent.  It keeps what a reader may ask of the spelling, for instance whether there is a
fraction at all, and forgets the rest (the case of the exponent mark, a plus sign, leading zeros of
the exponent).

`ofChars?` reads the grammar of JSON numbers: no leading zeros, at least one digit on each side of
the point, at least one digit in an exponent.  `chars` writes a numeral back.
-/

namespace StructuralTyping

/-- A decimal number as written.  No fraction is the empty list, no exponent is `none`. -/
structure Numeral where
  negative : Bool := false
  whole : List Char
  fraction : List Char := []
  exponent : Option Int := none
deriving DecidableEq

namespace Numeral

/-- The decimal digits of a natural number. -/
def digits (n : Nat) : List Char := Nat.toDigits 10 n

/-- The number that a list of digits stands for, after the digits of `start`. -/
def valueFrom (start : Nat) (ds : List Char) : Nat :=
  ds.foldl (fun n c => 10 * n + (c.toNat - '0'.toNat)) start

/-- The number that a list of digits stands for. -/
def value (ds : List Char) : Nat := valueFrom 0 ds

/-- A natural number written with digits alone. -/
def ofNat (n : Nat) : Numeral := { whole := digits n }

/-! ### Writing -/

/-- An exponent is written with a sign in both directions. -/
def exponentChars : Option Int → List Char
  | none => []
  | some (.ofNat n) => 'e' :: '+' :: digits n
  | some (.negSucc n) => 'e' :: '-' :: digits (n + 1)

/-- The point and the digits after it, if there are any. -/
def fractionChars : List Char → List Char
  | [] => []
  | ds => '.' :: ds

/-- The characters of a numeral, sign first. -/
def chars (n : Numeral) : List Char :=
  (if n.negative then ['-'] else []) ++ n.whole ++ fractionChars n.fraction ++
    exponentChars n.exponent

/-- A numeral as a string. -/
def text (n : Numeral) : String := String.ofList n.chars

/-! ### Reading -/

/-- Either the single digit zero or digits that do not start with one. -/
def isWhole : List Char → Bool
  | [] => false
  | [_] => true
  | c :: _ => c != '0'

/-- What follows the exponent mark: an optional sign and at least one digit, nothing else. -/
def exponent? : List Char → Option Int
  | '-' :: ds => if ds.isEmpty || !ds.all Char.isDigit then none else some (-(value ds : Int))
  | '+' :: ds => if ds.isEmpty || !ds.all Char.isDigit then none else some (value ds)
  | ds => if ds.isEmpty || !ds.all Char.isDigit then none else some (value ds)

/-- Reads what follows the digits of the fraction. -/
def withExponent? (n : Numeral) : List Char → Option Numeral
  | [] => some n
  | c :: rest =>
    if c = 'e' ∨ c = 'E' then (exponent? rest).map fun e => { n with exponent := some e } else none

/-- Reads what follows the digits before the point. -/
def withFraction? (n : Numeral) : List Char → Option Numeral
  | '.' :: rest =>
    let ds := rest.takeWhile Char.isDigit
    if ds.isEmpty then none
    else withExponent? { n with fraction := ds } (rest.dropWhile Char.isDigit)
  | rest => withExponent? n rest

/-- Reads what follows the sign. -/
def unsigned? (negative : Bool) (cs : List Char) : Option Numeral :=
  let ds := cs.takeWhile Char.isDigit
  if isWhole ds then withFraction? { negative, whole := ds } (cs.dropWhile Char.isDigit) else none

/-- Reads a whole numeral, and refuses any text around it. -/
def ofChars? : List Char → Option Numeral
  | '-' :: rest => unsigned? true rest
  | cs => unsigned? false cs

/-- The natural number, when the numeral is written with digits alone. -/
def toNat? (n : Numeral) : Option Nat :=
  if n.negative || !n.fraction.isEmpty || n.exponent.isSome then none else some (value n.whole)

end Numeral

end StructuralTyping
