import StructuralTyping.Fault
import StructuralTyping.Scopes

/-! # What annotations stand for

`Scopes.resolve` gives a written type its meaning: a name is a keyword, else the innermost type
parameter of that name, else an alias.  The first name, from left to right, that is none of them
makes the whole annotation fail.  An application stands for its base; its arguments are not looked
at. -/

namespace StructuralTyping

/-- The built-in type that a keyword names. -/
def Keyword.toTy : Keyword → Ty
  | .number => .number
  | .string => .string
  | .boolean => .boolean
  | .null => .null
  | .undefined => .undefined
  | .unknown => .unknown

/-- The keyword that a name spells. -/
def Keyword.ofName? : String → Option Keyword
  | "number" => some .number
  | "string" => some .string
  | "boolean" => some .boolean
  | "null" => some .null
  | "undefined" => some .undefined
  | "void" => some .undefined
  | "unknown" => some .unknown
  | "any" => some .unknown
  | _ => none

namespace Scopes

/-- What a name stands for in a written type. -/
def typeNamed? (s : Scopes) (name : String) : Option Ty :=
  match Keyword.ofName? name with
  | some k => some k.toTy
  | none =>
    match s.typeParam? name with
    | some t => some t
    | none => s.alias? name

mutual

/-- The type that an annotation stands for. -/
def resolve (s : Scopes) : Node TypeExpr → Except Failure Ty
  | ⟨_, .keyword k, _⟩ => .ok k.toTy
  | ⟨span, .named name, _⟩ =>
    match s.typeNamed? name with
    | some t => .ok t
    | none => .error ⟨.unknownTypeName name, span⟩
  | ⟨_, .literal v, _⟩ => .ok (.literal v)
  | ⟨_, .array element, _⟩ => (resolve s element).map .array
  | ⟨_, .object fields, _⟩ => (resolveFields s fields).map .object
  | ⟨_, .function params returns, _⟩ => do
    let ps ← resolveAll s params
    let r ← resolve s returns
    .ok (.function ps r)
  | ⟨_, .union members, _⟩ => (resolveAll s members).map .union
  | ⟨_, .intersection members, _⟩ => (resolveAll s members).map .intersection
  | ⟨_, .apply base _, _⟩ => resolve s base

/-- Resolves annotations from left to right, up to the first that fails. -/
def resolveAll (s : Scopes) : List (Node TypeExpr) → Except Failure (List Ty)
  | [] => .ok []
  | t :: rest => do
    let ty ← resolve s t
    let tys ← resolveAll s rest
    .ok (ty :: tys)

/-- Resolves the annotations of an object's fields, in the order they are written. -/
def resolveFields (s : Scopes) : List TypeField → Except Failure (List Field)
  | [] => .ok []
  | ⟨name, t⟩ :: rest => do
    let ty ← resolve s t
    let fields ← resolveFields s rest
    .ok (⟨name, ty⟩ :: fields)

end

/-- The type of an annotation that may be absent. -/
def resolveOptional (s : Scopes) : Option (Node TypeExpr) → Except Failure (Option Ty)
  | none => .ok none
  | some t => (resolve s t).map some

end Scopes

end StructuralTyping
