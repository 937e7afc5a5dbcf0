import StructuralTyping.Json.Basic

/-! # Tokens of JSON text

`scan` cuts a text into tokens, one character at a time, with no look ahead.  The scanner keeps
the tokens found so far and what it is in the middle of: a word, a numeral, a string, an escape.
Strings must not hold control characters, escapes must be among those of the format, and numerals
must follow its grammar; whether the tokens make up a document is decided in `Json.Reader`.
-/

namespace StructuralTyping.Json

/-- A lexical unit of a JSON text. -/
inductive Token where
  | openObject
  | closeObject
  | openArray
  | closeArray
  | comma
  | colon
  | string (s : List Piece)
  /-- A word or a numeral. -/
  | scalar (value : Json)

/-- What the scanner is in the middle of.  Characters and pieces stand newest first. -/
inductive Scanning where
  | between
  | word (cs : List Char)
  | numeral (cs : List Char)
  | string (ps : List Piece)
  | escape (ps : List Piece)
  /-- Inside a hexadecimal escape: how many digits come after the next, and the value so far. -/
  | code (ps : List Piece) (left : Nat) (value : Nat)

/-- A text part way through being cut into tokens. -/
structure Scanner where
  mode : Scanning := .between
  /-- The tokens found so far, newest first. -/
  tokens : List Token := []

namespace Scanner

/-- The four characters that may stand between tokens. -/
def isBlank (c : Char) : Bool := c == ' ' || c == '\t' || c == '\n' || c == '\r'

/-- The characters of which numerals consist. -/
def isNumeralChar (c : Char) : Bool :=
  c.isDigit || c == '-' || c == '+' || c == '.' || c == 'e' || c == 'E'

/-- The value that a word stands for. -/
def word? : List Char → Option Json
  | ['n', 'u', 'l', 'l'] => some .null
  | ['t', 'r', 'u', 'e'] => some (.bool true)
  | ['f', 'a', 'l', 's', 'e'] => some (.bool false)
  | _ => none

/-- The value of a hexadecimal digit of either case. -/
def hexDigit? (c : Char) : Option Nat :=
  if c.isDigit then some (c.toNat - '0'.toNat)
  else if 'a' ≤ c ∧ c ≤ 'f' then some (c.toNat - 'a'.toNat + 10)
  else if 'A' ≤ c ∧ c ≤ 'F' then some (c.toNat - 'A'.toNat + 10)
  else none

/-- The piece that a hexadecimal escape writes. -/
def pieceOfCode (code : Nat) : Piece :=
  if 0xD800 ≤ code ∧ code < 0xE000 then .half code else .char (Char.ofNat code)

/-- The character that a short escape writes. -/
def shortEscape? : Char → Option Char
  | '"' => some '"'
  | '\\' => some '\\'
  | '/' => some '/'
  | 'b' => some '\x08'
  | 'f' => some '\x0c'
  | 'n' => some '\n'
  | 'r' => some '\r'
  | 't' => some '\t'
  | _ => none

/-- Ends the current token. -/
def found (s : Scanner) (t : Token) : Scanner := { mode := .between, tokens := t :: s.tokens }

/-- Ends a word or a numeral.  A string cannot end here. -/
def close (s : Scanner) : Option Scanner :=
  match s.mode with
  | .between => some s
  | .word cs => (word? cs.reverse).map fun j => s.found (.scalar j)
  | .numeral cs => (Numeral.ofChars? cs.reverse).map fun n => s.found (.scalar (.number n))
  | _ => none

/-- Takes the first character of a token. -/
def start (s : Scanner) (c : Char) : Option Scanner :=
  match c with
  | '\x7b' => some (s.found .openObject)
  | '\x7d' => some (s.found .closeObject)
  | '[' => some (s.found .openArray)
  | ']' => some (s.found .closeArray)
  | ',' => some (s.found .comma)
  | ':' => some (s.found .colon)
  | '"' => some { s with mode := .string [] }
  | c =>
    if isBlank c then some s
    else if c.isDigit || c == '-' then some { s with mode := .numeral [c] }
    else if c.isLower then some { s with mode := .word [c] }
    else none

/-- Takes one character. -/
def step (s : Scanner) (c : Char) : Option Scanner :=
  match s.mode with
  | .between => s.start c
  | .word cs =>
    if c.isLower then some { s with mode := .word (c :: cs) } else s.close.bind (·.start c)
  | .numeral cs =>
    if isNumeralChar c then some { s with mode := .numeral (c :: cs) } else s.close.bind (·.start c)
  | .string ps =>
    if c = '"' then some (s.found (.string ps.reverse))
    else if c = '\\' then some { s with mode := .escape ps }
    else if c < ' ' then none
    else some { s with mode := .string (.char c :: ps) }
  | .escape ps =>
    if c = 'u' then some { s with mode := .code ps 3 0 }
    else (shortEscape? c).map fun d => { s with mode := .string (.char d :: ps) }
  | .code ps left value =>
    (hexDigit? c).map fun d =>
      match left with
      | 0 => { s with mode := .string (pieceOfCode (16 * value + d) :: ps) }
      | left + 1 => { s with mode := .code ps left (16 * value + d) }

end Scanner

/-- The tokens of a text; none when a part of it is no token. -/
def scan (cs : List Char) : Option (List Token) :=
  (cs.foldlM Scanner.step {}).bind fun s => s.close.map fun s => s.tokens.reverse

end StructuralTyping.Json
