import StructuralTyping.Number.Layout
import StructuralTyping.Text.Quoted
import StructuralTyping.Ty.Basic

/-! # The text of types

Types as they appear in messages and listings.  Inside an array, a union or an intersection a type
with an operator of its own stands in parentheses; parameters, results and fields never need any.
-/

namespace StructuralTyping

/-- Numbers are written without an exponent, whole numbers without a fraction; of two equally
short and near decimals the larger one is taken. -/
def LiteralValue.numberLayout : Layout :=
  { tie := .up, positional := fun _ => true, showsFraction := false }

/-- The text of a double. -/
def Binary64.display (x : Binary64) : String :=
  if x.isFinite then (LiteralValue.numberLayout.numeral x).text
  else if x.isNaN then "NaN"
  else if x.isNegative then "-inf"
  else "inf"

/-- A literal as it is written in a type. -/
def LiteralValue.display : LiteralValue → String
  | .number x => x.display
  | .string s => Text.quoted s
  | .boolean true => "true"
  | .boolean false => "false"
  | .null => "null"
  | .undefined => "undefined"

namespace Ty

/-- Whether a type is written with parentheses inside an array, a union or an intersection. -/
def isCompound : Ty → Bool
  | .union _ => true
  | .intersection _ => true
  | .function _ _ => true
  | _ => false

/-- Text in parentheses if what it shows is compound. -/
def parenthesized (compound : Bool) (text : String) : String :=
  if compound then "(" ++ text ++ ")" else text

mutual

/-- The text of a type. -/
def display : Ty → String
  | .number => "number"
  | .string => "string"
  | .boolean => "boolean"
  | .null => "null"
  | .undefined => "undefined"
  | .unknown => "unknown"
  | .literal v => v.display
  | .array t => parenthesized t.isCompound t.display ++ "[]"
  | .object [] => "\x7b\x7d"
  | .object (f :: fs) => "\x7b " ++ displayFields (f :: fs) ++ " \x7d"
  | .function ps r => "(" ++ displayParams ps ++ ") => " ++ r.display
  | .union ms => displayMembers " | " ms
  | .intersection ms => displayMembers " & " ms

/-- Fields as they stand between the braces of an object type. -/
def displayFields : List Field → String
  | [] => ""
  | [⟨n, t⟩] => n ++ ": " ++ t.display
  | ⟨n, t⟩ :: rest => n ++ ": " ++ t.display ++ ", " ++ displayFields rest

/-- Parameter types as they stand between the parentheses of a function type. -/
def displayParams : List Ty → String
  | [] => ""
  | [t] => t.display
  | t :: rest => t.display ++ ", " ++ displayParams rest

/-- The members of a union or an intersection; a compound one stands in parentheses. -/
def displayMembers (separator : String) : List Ty → String
  | [] => ""
  | [t] => parenthesized t.isCompound t.display
  | t :: rest =>
    parenthesized t.isCompound t.display ++ separator ++ displayMembers separator rest

end

end Ty

end StructuralTyping
