import StructuralTyping.Json.Basic

/-! # Writing JSON text

`compact` writes a document without any blanks, `pretty` with one member or item a line, indented by
two spaces a level, empty containers on one line.  Both write members in the order of the document.
-/

namespace StructuralTyping.Json

/-- A hexadecimal digit in lower case. -/
def hexDigit (n : Nat) : Char := Nat.digitChar (n % 16)

/-- A hexadecimal escape of four digits. -/
def codeEscape (code : Nat) : List Char :=
  ['\\', 'u', hexDigit (code / 4096), hexDigit (code / 256), hexDigit (code / 16), hexDigit code]

/-- A unit of a string as written: the quotation mark, the backslash and the control characters are
escaped, everything else stands for itself. -/
def pieceChars : Piece → List Char
  | .half code => codeEscape code
  | .char c =>
    match c with
    | '"' => ['\\', '"']
    | '\\' => ['\\', '\\']
    | '\x08' => ['\\', 'b']
    | '\x0c' => ['\\', 'f']
    | '\n' => ['\\', 'n']
    | '\r' => ['\\', 'r']
    | '\t' => ['\\', 't']
    | c => if c < ' ' then codeEscape c.toNat else [c]

/-- A string in quotation marks, with its escapes. -/
def stringChars (s : List Piece) : List Char := '"' :: s.flatMap pieceChars ++ ['"']

/-- A truth value as a word. -/
def boolChars (b : Bool) : List Char := if b then "true".toList else "false".toList

mutual

/-- A document without blanks. -/
def compactChars : Json → List Char
  | .null => "null".toList
  | .bool b => boolChars b
  | .number n => n.chars
  | .string s => stringChars s
  | .array items => '[' :: compactItems items ++ [']']
  | .object members => '\x7b' :: compactMembers members ++ ['\x7d']

/-- The items of an array with commas between them. -/
def compactItems : List Json → List Char
  | [] => []
  | [j] => compactChars j
  | j :: rest => compactChars j ++ ',' :: compactItems rest

/-- The members of an object with commas between them. -/
def compactMembers : List (List Piece × Json) → List Char
  | [] => []
  | [(k, j)] => stringChars k ++ ':' :: compactChars j
  | (k, j) :: rest => stringChars k ++ ':' :: compactChars j ++ ',' :: compactMembers rest

end

/-- A document on one line, without blanks. -/
def compact (j : Json) : String := String.ofList (compactChars j)

/-- A line break and the indentation of a level. -/
def newLine (level : Nat) : List Char := '\n' :: List.replicate (2 * level) ' '

mutual

/-- A document with one member or item a line; `level` is the indentation of the line that it starts
on. -/
def prettyChars (level : Nat) : Json → List Char
  | .null => "null".toList
  | .bool b => boolChars b
  | .number n => n.chars
  | .string s => stringChars s
  | .array [] => ['[', ']']
  | .array (j :: rest) => '[' :: prettyItems (level + 1) (j :: rest) ++ newLine level ++ [']']
  | .object [] => ['\x7b', '\x7d']
  | .object (m :: rest) =>
    '\x7b' :: prettyMembers (level + 1) (m :: rest) ++ newLine level ++ ['\x7d']

/-- The items of an array, each on a line of its own. -/
def prettyItems (level : Nat) : List Json → List Char
  | [] => []
  | [j] => newLine level ++ prettyChars level j
  | j :: rest => newLine level ++ prettyChars level j ++ ',' :: prettyItems level rest

/-- The members of an object, each on a line of its own. -/
def prettyMembers (level : Nat) : List (List Piece × Json) → List Char
  | [] => []
  | [(k, j)] => newLine level ++ stringChars k ++ ':' :: ' ' :: prettyChars level j
  | (k, j) :: rest =>
    newLine level ++ stringChars k ++ ':' :: ' ' :: prettyChars level j ++
      ',' :: prettyMembers level rest

end

/-- A document on several lines, indented by two blanks a level. -/
def pretty (j : Json) : String := String.ofList (prettyChars 0 j)

end StructuralTyping.Json
