import StructuralTyping.Json.Token

/-! # Reading JSON text

`Json.parse?` reads a whole text as one document.  It accepts exactly the grammar of the format: no
comments, no trailing commas, nothing but blanks around the document.

Reading is a machine over tokens.  `Building` holds the containers that are open, innermost first,
and what may come next, so a document may nest as deep as it likes.
-/

namespace StructuralTyping.Json

/-- A container part way through; items and members stand newest first. -/
inductive Partial where
  | array (items : List Json)
  /-- The key is that of the member whose value is still to come. -/
  | object (members : List (List Piece × Json)) (key : List Piece)

/-- What may come next. -/
inductive Expected where
  | value
  | valueOrClose
  | key
  | keyOrClose
  | colon
  | commaOrClose
deriving DecidableEq

/-- A document part way through. -/
inductive Building where
  | expecting (what : Expected) (opened : List Partial)
  | finished (document : Json)

namespace Building

/-- Puts a completed value where it belongs. -/
def put (value : Json) : List Partial → Building
  | [] => .finished value
  | .array items :: rest => .expecting .commaOrClose (.array (value :: items) :: rest)
  | .object members key :: rest =>
    .expecting .commaOrClose (.object ((key, value) :: members) [] :: rest)

/-- Takes the first token of a value. -/
def beginValue (opened : List Partial) : Token → Option Building
  | .scalar value => some (put value opened)
  | .string s => some (put (.string s) opened)
  | .openArray => some (.expecting .valueOrClose (.array [] :: opened))
  | .openObject => some (.expecting .keyOrClose (.object [] [] :: opened))
  | _ => none

/-- Takes the key of a member of the object that is open. -/
def beginMember : List Partial → Token → Option Building
  | .object members _ :: rest, .string key => some (.expecting .colon (.object members key :: rest))
  | _, _ => none

/-- Ends the innermost container with the token that belongs to it. -/
def close : List Partial → Token → Option Building
  | .array items :: rest, .closeArray => some (put (.array items.reverse) rest)
  | .object members _ :: rest, .closeObject => some (put (.object members.reverse) rest)
  | _, _ => none

/-- Goes on after a comma. -/
def afterComma : List Partial → Option Building
  | .array items :: rest => some (.expecting .value (.array items :: rest))
  | .object members key :: rest => some (.expecting .key (.object members key :: rest))
  | [] => none

/-- Takes one token. -/
def step (b : Building) (t : Token) : Option Building :=
  match b with
  | .finished _ => none
  | .expecting what opened =>
    match what, t with
    | .value, t => beginValue opened t
    | .valueOrClose, .closeArray => close opened t
    | .valueOrClose, t => beginValue opened t
    | .key, t => beginMember opened t
    | .keyOrClose, .closeObject => close opened t
    | .keyOrClose, t => beginMember opened t
    | .colon, .colon => some (.expecting .value opened)
    | .colon, _ => none
    | .commaOrClose, .comma => afterComma opened
    | .commaOrClose, t => close opened t

/-- The document, once it is complete. -/
def document? : Building → Option Json
  | .finished document => some document
  | .expecting _ _ => none

end Building

/-- The document that a list of tokens makes up. -/
def ofTokens? (ts : List Token) : Option Json :=
  (ts.foldlM Building.step (.expecting .value [])).bind Building.document?

/-- The document that a text makes up. -/
def parse? (text : String) : Option Json := (scan text.toList).bind ofTokens?

end StructuralTyping.Json
