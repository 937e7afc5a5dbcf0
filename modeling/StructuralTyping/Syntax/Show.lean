import StructuralTyping.Syntax.Tree
import StructuralTyping.Ty.Show

/-! # The text of syntax

Names, symbols, literals and written types as they appear in messages. -/

namespace StructuralTyping

/-- A type's number after a hash sign. -/
def TypeId.display (id : TypeId) : String := "#" ++ id.index.toNat.repr

/-- A symbol as the log shows it. -/
def Symbol.display : Symbol → String
  | .resolved id => "$" ++ id.toNat.repr
  | .classSelf number => "self@class" ++ number.toNat.repr

/-- An identifier is shown by its name alone. -/
def Ident.display (i : Ident) : String := i.name

/-- The word of a binding form, with the star of its sequential kind. -/
def BindingKind.display : BindingKind → String
  | .letBinding => "let*"
  | .constBinding => "const*"

/-- A literal as it is written. -/
def Literal.display : Literal → String
  | .value v => v.display
  | .regex pattern => "/" ++ pattern ++ "/"

/-- The name of a built-in type. -/
def Keyword.display : Keyword → String
  | .number => "number"
  | .string => "string"
  | .boolean => "boolean"
  | .null => "null"
  | .undefined => "undefined"
  | .unknown => "unknown"

namespace TypeExpr

mutual

/-- A written type; nothing in it stands in parentheses of its own. -/
def display : TypeExpr → String
  | .keyword k => k.display
  | .named name => name
  | .literal v => v.display
  | .array ⟨_, t, _⟩ => "(Array " ++ t.display ++ ")"
  | .object fields => "\x7b" ++ displayFields fields ++ " \x7d"
  | .function params ⟨_, r, _⟩ => "(" ++ displayAll ", " params ++ ") => " ++ r.display
  | .union members => displayAll " | " members
  | .intersection members => displayAll " & " members
  | .apply ⟨_, base, _⟩ args => base.display ++ "<" ++ displayAll ", " args ++ ">"

/-- Fields as they stand between the braces of an object type. -/
def displayFields : List TypeField → String
  | [] => ""
  | [⟨name, ⟨_, t, _⟩⟩] => " " ++ name ++ ": " ++ t.display
  | ⟨name, ⟨_, t, _⟩⟩ :: rest => " " ++ name ++ ": " ++ t.display ++ "," ++ displayFields rest

/-- Annotations with a separator between them. -/
def displayAll (separator : String) : List (Node TypeExpr) → String
  | [] => ""
  | [⟨_, t, _⟩] => t.display
  | ⟨_, t, _⟩ :: rest => t.display ++ separator ++ displayAll separator rest

end

end TypeExpr

end StructuralTyping
