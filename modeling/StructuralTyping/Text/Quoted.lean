import StructuralTyping.Text.ExtendingMarks
import StructuralTyping.Text.Unprintable

/-! # Quoted text

How a text is shown between double quotes.  The quotation mark, the backslash and four control
characters have short escapes; other characters without a visible form of their own are shown by
their code in hexadecimal; everything else stands for itself.  The classes of characters are those
of Unicode 17.
-/

namespace StructuralTyping.Text

/-- Whether a character stands for itself in a quotation. -/
def isPlain (c : Char) : Bool := !extendingMarks.contains c && !unprintable.contains c

/-- A character as written between the quotation marks. -/
def escaped (c : Char) : List Char :=
  match c with
  | '\x00' => ['\\', '0']
  | '\t' => ['\\', 't']
  | '\r' => ['\\', 'r']
  | '\n' => ['\\', 'n']
  | '"' => ['\\', '"']
  | '\\' => ['\\', '\\']
  | c =>
    if isPlain c then [c]
    else '\\' :: 'u' :: '\x7b' :: Nat.toDigits 16 c.toNat ++ ['\x7d']

/-- A text between double quotes. -/
def quoted (s : String) : String :=
  String.ofList ('"' :: s.toList.flatMap escaped ++ ['"'])

end StructuralTyping.Text
