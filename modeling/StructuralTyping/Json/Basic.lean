import StructuralTyping.Number.Numeral

/-! # JSON documents

A document keeps what its text says and interprets as little as possible: numbers are numerals,
the members of an object stand in the order of the text and may repeat a name, and an escape for
half of a surrogate pair stays a half.  A part that nobody asks for is therefore never judged, and
`content?` and the readers of `Json.Decode` interpret a part when it is wanted.
-/

namespace StructuralTyping

namespace Json

/-- A unit of a JSON string. -/
inductive Piece where
  | char (c : Char)
  /-- Half of a surrogate pair, which only an escape can write. -/
  | half (code : Nat)
deriving DecidableEq

/-- The pieces of a text. -/
def pieces (s : String) : List Piece := s.toList.map .char

/-- The character that two halves make: the first must be a leading and the second a trailing
half. -/
def paired? (high low : Nat) : Option Char :=
  if 0xD800 ≤ high ∧ high < 0xDC00 ∧ 0xDC00 ≤ low ∧ low < 0xE000 then
    some (Char.ofNat (0x10000 + (high - 0xD800) * 0x400 + (low - 0xDC00)))
  else none

/-- The characters of a string; none when a half stands alone. -/
def characters? : List Piece → Option (List Char)
  | [] => some []
  | .char c :: rest => (characters? rest).map (c :: ·)
  | .half high :: .half low :: rest =>
    match paired? high low with
    | some c => (characters? rest).map (c :: ·)
    | none => none
  | .half _ :: _ => none

/-- The text of a string; none when a half stands alone. -/
def content? (s : List Piece) : Option String := (characters? s).map String.ofList

end Json

/-- A JSON document. -/
inductive Json where
  | null
  | bool (b : Bool)
  | number (n : Numeral)
  | string (s : List Json.Piece)
  | array (items : List Json)
  | object (members : List (List Json.Piece × Json))

namespace Json

/-- A string of characters alone, without lone surrogates. -/
def ofString (s : String) : Json := .string (pieces s)

/-- A natural number as a JSON number. -/
def ofNat (n : Nat) : Json := .number (.ofNat n)

/-- The object with these members, in this order. -/
def record (members : List (String × Json)) : Json :=
  .object (members.map fun m => (pieces m.1, m.2))

/-- An optional value, with `null` for a missing one. -/
def ofOption {α : Type} (f : α → Json) : Option α → Json
  | none => .null
  | some a => f a

/-- The encoded values in an array. -/
def ofList {α : Type} (f : α → Json) (xs : List α) : Json := .array (xs.map f)

end Json

end StructuralTyping
