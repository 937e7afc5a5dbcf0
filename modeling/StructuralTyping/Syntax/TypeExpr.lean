import StructuralTyping.Syntax.Node
import StructuralTyping.Ty.Basic

/-! # Written types

A `TypeExpr` is a type as an annotation writes it.  What it stands for depends on the type
parameters and aliases in reach (`Scopes.resolve`). -/

namespace StructuralTyping

/-- The types that have a keyword. -/
inductive Keyword where
  | number
  | string
  | boolean
  | null
  | undefined
  | unknown
deriving DecidableEq

mutual

/-- A type annotation as it is written. -/
inductive TypeExpr where
  | keyword (k : Keyword)
  /-- A type parameter, an alias, or a keyword spelled as a name. -/
  | named (name : String)
  | literal (value : LiteralValue)
  | array (element : Node TypeExpr)
  | object (fields : List TypeField)
  | function (params : List (Node TypeExpr)) (returns : Node TypeExpr)
  | union (members : List (Node TypeExpr))
  | intersection (members : List (Node TypeExpr))
  /-- A type applied to arguments. -/
  | apply (base : Node TypeExpr) (args : List (Node TypeExpr))

/-- A field of a written object type. -/
structure TypeField where
  name : String
  ty : Node TypeExpr

end

instance : Inhabited TypeExpr := ⟨.keyword .unknown⟩

end StructuralTyping
