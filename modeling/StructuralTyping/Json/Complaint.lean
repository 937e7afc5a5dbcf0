import StructuralTyping.Json.Reader

/-! # Why a text is no document

`Json.complaint?` finds the first place at which a text stops being the beginning of a JSON
document, and says what is wrong there.  It goes through the text one character at a time and keeps
an outline of the document: which containers are open and what the text is in the middle of, but no
values.

Columns count the bytes of a line, and the place of a complaint is the character that does not fit,
or the end of the text if that comes too early. -/

namespace StructuralTyping.Json

/-- What can be wrong with a text. -/
inductive Cause where
  | endInArray
  | endInObject
  | endInString
  | endInValue
  | expectedColon
  | expectedCommaOrEndOfArray
  | expectedCommaOrEndOfObject
  | expectedWord
  | expectedValue
  | invalidEscape
  | invalidNumber
  | controlCharacter
  | keyNotString
  | trailingComma
  | trailingCharacters
deriving DecidableEq

/-- The words that describe a cause. -/
def Cause.message : Cause → String
  | .endInArray => "EOF while parsing a list"
  | .endInObject => "EOF while parsing an object"
  | .endInString => "EOF while parsing a string"
  | .endInValue => "EOF while parsing a value"
  | .expectedColon => "expected `:`"
  | .expectedCommaOrEndOfArray => "expected `,` or `]`"
  | .expectedCommaOrEndOfObject => "expected `,` or `\x7d`"
  | .expectedWord => "expected ident"
  | .expectedValue => "expected value"
  | .invalidEscape => "invalid escape"
  | .invalidNumber => "invalid number"
  | .controlCharacter => "control character (\\u0000-\\u001F) found while parsing a string"
  | .keyNotString => "key must be a string"
  | .trailingComma => "trailing comma"
  | .trailingCharacters => "trailing characters"

/-- What is wrong with a text, and where. -/
structure Complaint where
  cause : Cause
  line : Nat
  column : Nat
deriving DecidableEq

/-- What is wrong, followed by the line and column. -/
def Complaint.message (c : Complaint) : String :=
  c.cause.message ++ " at line " ++ c.line.repr ++ " column " ++ c.column.repr

/-! ### Outlines -/

/-- The two kinds of brackets that a value may stand in. -/
inductive Container where
  | array
  | object
deriving DecidableEq

/-- The part of a numeral that was read last. -/
inductive NumeralPart where
  | sign
  | zero
  | whole
  | point
  | fraction
  | mark
  | markSign
  | exponent
deriving DecidableEq

namespace NumeralPart

/-- The part that a character belongs to when it continues the numeral. -/
def next? (p : NumeralPart) (c : Char) : Option NumeralPart :=
  let digit (q : NumeralPart) : Option NumeralPart := if c.isDigit then some q else none
  let marked (other : Option NumeralPart) : Option NumeralPart :=
    if c == 'e' || c == 'E' then some .mark else other
  match p with
  | .sign => if c == '0' then some .zero else digit .whole
  | .zero => marked (if c == '.' then some .point else none)
  | .whole => marked (if c == '.' then some .point else digit .whole)
  | .point => digit .fraction
  | .fraction => marked (digit .fraction)
  | .mark => if c == '+' || c == '-' then some .markSign else digit .exponent
  | .markSign => digit .exponent
  | .exponent => digit .exponent

/-- Whether a numeral may end with this part. -/
def isComplete : NumeralPart → Bool
  | .zero => true
  | .whole => true
  | .fraction => true
  | .exponent => true
  | _ => false

end NumeralPart

/-- What the text is in the middle of.  A string is a key or a value. -/
inductive Outlining where
  | awaiting (what : Expected)
  | finished
  /-- Inside a word: the letter that comes next and those after it. -/
  | word (next : Char) (left : List Char)
  | numeral (part : NumeralPart)
  | string (isKey : Bool)
  | escape (isKey : Bool)
  /-- Inside a hexadecimal escape: how many digits come after the next, and whether those before
  were digits. -/
  | code (isKey : Bool) (left : Nat) (valid : Bool)

/-- A document part way through, without its values. -/
structure Outline where
  mode : Outlining := .awaiting .value
  /-- The containers that are open, innermost first. -/
  opened : List Container := []

namespace Outline

/-- The outline after a value. -/
def completed (opened : List Container) : Outline :=
  { mode := if opened.isEmpty then .finished else .awaiting .commaOrClose, opened }

/-- The outline after a string. -/
def afterString (opened : List Container) (isKey : Bool) : Outline :=
  if isKey then { mode := .awaiting .colon, opened } else completed opened

/-- Takes the first character of a value. -/
def beginValue (opened : List Container) (c : Char) : Except Cause Outline :=
  match c with
  | '"' => .ok { mode := .string false, opened }
  | '[' => .ok { mode := .awaiting .valueOrClose, opened := .array :: opened }
  | '\x7b' => .ok { mode := .awaiting .keyOrClose, opened := .object :: opened }
  | 'n' => .ok { mode := .word 'u' ['l', 'l'], opened }
  | 't' => .ok { mode := .word 'r' ['u', 'e'], opened }
  | 'f' => .ok { mode := .word 'a' ['l', 's', 'e'], opened }
  | '-' => .ok { mode := .numeral .sign, opened }
  | c =>
    match NumeralPart.sign.next? c with
    | some part => .ok { mode := .numeral part, opened }
    | none => .error .expectedValue

/-- Takes the first character of a key, which is a quotation mark. -/
def beginKey (opened : List Container) (c : Char) : Except Cause Outline :=
  if c = '"' then .ok { mode := .string true, opened } else .error .keyNotString

/-- Takes a character after a value in a container. -/
def afterItem (opened : List Container) (c : Char) : Except Cause Outline :=
  match opened, c with
  | .array :: _, ',' => .ok { mode := .awaiting .value, opened }
  | .array :: rest, ']' => .ok (completed rest)
  | .array :: _, _ => .error .expectedCommaOrEndOfArray
  | .object :: _, ',' => .ok { mode := .awaiting .key, opened }
  | .object :: rest, '\x7d' => .ok (completed rest)
  | .object :: _, _ => .error .expectedCommaOrEndOfObject
  | [], _ => .error .trailingCharacters

/-- Takes a character between tokens that is no blank. -/
def start (what : Expected) (opened : List Container) (c : Char) : Except Cause Outline :=
  match what with
  | .value =>
    if c = ']' ∧ opened.head? = some .array then .error .trailingComma else beginValue opened c
  | .valueOrClose => if c = ']' then .ok (completed opened.tail) else beginValue opened c
  | .key => if c = '\x7d' then .error .trailingComma else beginKey opened c
  | .keyOrClose => if c = '\x7d' then .ok (completed opened.tail) else beginKey opened c
  | .colon => if c = ':' then .ok { mode := .awaiting .value, opened } else .error .expectedColon
  | .commaOrClose => afterItem opened c

/-- Takes a character between tokens. -/
def between (o : Outline) (c : Char) : Except Cause Outline :=
  if Scanner.isBlank c then .ok o
  else
    match o.mode with
    | .awaiting what => start what o.opened c
    | _ => .error .trailingCharacters

/-- Takes one character. -/
def step (o : Outline) (c : Char) : Except Cause Outline :=
  match o.mode with
  | .awaiting _ => o.between c
  | .finished => o.between c
  | .word next left =>
    if c = next then
      match left with
      | [] => .ok (completed o.opened)
      | d :: left => .ok { o with mode := .word d left }
    else .error .expectedWord
  | .numeral part =>
    match part.next? c with
    | some part => .ok { o with mode := .numeral part }
    | none =>
      if part.isComplete ∧ ¬(part = .zero ∧ c.isDigit) then (completed o.opened).between c
      else .error .invalidNumber
  | .string isKey =>
    if c = '"' then .ok (afterString o.opened isKey)
    else if c = '\\' then .ok { o with mode := .escape isKey }
    else if c < ' ' then .error .controlCharacter
    else .ok o
  | .escape isKey =>
    if c = 'u' then .ok { o with mode := .code isKey 3 true }
    else if (Scanner.shortEscape? c).isSome then .ok { o with mode := .string isKey }
    else .error .invalidEscape
  | .code isKey left valid =>
    let valid := valid && (Scanner.hexDigit? c).isSome
    match left with
    | left + 1 => .ok { o with mode := .code isKey left valid }
    | 0 => if valid then .ok { o with mode := .string isKey } else .error .invalidEscape

/-- What is wrong if the text ends after a value: the containers that are open are missing their
ends. -/
def unclosed? : List Container → Option Cause
  | [] => none
  | .array :: _ => some .endInArray
  | .object :: _ => some .endInObject

/-- What is wrong if the text ends here. -/
def atEnd? (o : Outline) : Option Cause :=
  match o.mode with
  | .awaiting .value => some .endInValue
  | .awaiting .key => some .endInValue
  | .awaiting _ => unclosed? o.opened
  | .finished => none
  | .word _ _ => some .endInValue
  | .numeral part =>
    if part.isComplete then unclosed? o.opened
    else if part = .sign then some .invalidNumber
    else some .endInValue
  | .string _ => some .endInString
  | .escape _ => some .endInString
  | .code _ _ _ => some .endInString

/-- Looks for the first complaint from a place of the text on; `column` bytes of the line are before
it. -/
def complaint? (o : Outline) (line column : Nat) : List Char → Option Complaint
  | [] => o.atEnd?.map fun cause => ⟨cause, line, column⟩
  | c :: rest =>
    match o.step c with
    | .error cause =>
      some (if c = '\n' then ⟨cause, line + 1, 0⟩ else ⟨cause, line, column + 1⟩)
    | .ok o =>
      if c = '\n' then complaint? o (line + 1) 0 rest
      else complaint? o line (column + c.utf8Size) rest

end Outline

/-- What is wrong with a text, if it is no document. -/
def complaint? (text : String) : Option Complaint := Outline.complaint? {} 1 0 text.toList

end StructuralTyping.Json
