import StructuralTyping.Syntax.TypeExpr

/-! # Program trees

Statements and expressions of the checked language.  Operators are calls of identifiers that refer
to nothing, and control flow is part of the expressions. -/

namespace StructuralTyping

/-- A literal in an expression: one that has a type of its own, or a regular expression. -/
inductive Literal where
  | value (v : LiteralValue)
  | regex (pattern : String)
deriving DecidableEq

/-- Whether the names of a binding form may be assigned again. -/
inductive BindingKind where
  | letBinding
  | constBinding
deriving DecidableEq

/-- The constructor of a class, or another of its methods. -/
inductive MethodKind where
  | constructor
  | method
deriving DecidableEq

/-- A parameter of a function or method. -/
structure Param where
  name : Node Ident
  declaredAs : Option (Node TypeExpr) := none

mutual

/-- An expression. -/
inductive Expr where
  | literal (value : Literal)
  | ident (ident : Ident)
  | call (callee : Node Expr) (args : List (Node Expr))
  | conditional (test : Node Expr) (consequent : Node Stmt) (alternate : Option (Node Stmt))
  | member (base : Node Expr) (property : Node Ident)
  | index (base : Node Expr) (position : Node Expr)
  | function (f : Function)
  | classDef (c : Class)
  | assertion (expr : Node Expr) (ty : Node TypeExpr)
  | throwing (value : Node Expr)
  | whileLoop (test : Node Expr) (body : List (Node Stmt))
  | forLoop (bindings : List Binding) (test : Option (Node Expr)) (update : Option (Node Expr))
      (body : List (Node Stmt))
  | returning (value : Option (Node Expr))
  | attempt (body : List (Node Stmt)) (handler : Option Handler)
      (cleanup : Option (List (Node Stmt)))
  | array (items : List (Node Expr))
  | object (properties : List Property)
  | assignment (target : Node Expr) (value : Node Expr)

/-- A statement. -/
inductive Stmt where
  | expr (e : Node Expr)
  | block (body : List (Node Stmt))
  | binding (kind : BindingKind) (bindings : List Binding) (body : List (Node Stmt))
  | typeAlias (name : Node Ident) (typeParams : List (Node Ident)) (ty : Node TypeExpr)

/-- A name with its initial value. -/
structure Binding where
  name : Node Ident
  declaredAs : Option (Node TypeExpr)
  init : Node Expr

/-- A function, with a name or without one. -/
structure Function where
  name : Option (Node Ident)
  typeParams : List (Node Ident)
  params : List Param
  returns : Option (Node TypeExpr)
  body : List (Node Stmt)

/-- A class, with a name or without one. -/
structure Class where
  name : Option (Node Ident)
  fields : List FieldDecl
  methods : List (Node Method)

/-- A declared field of a class. -/
structure FieldDecl where
  name : Node Ident
  declaredAs : Option (Node TypeExpr)
  init : Option (Node Expr)

/-- A method of a class. -/
structure Method where
  name : Node Ident
  kind : MethodKind
  typeParams : List (Node Ident)
  params : List Param
  returns : Option (Node TypeExpr)
  body : List (Node Stmt)

/-- What catches a thrown value. -/
structure Handler where
  param : Option (Node Ident)
  body : List (Node Stmt)

/-- A property of an object literal. -/
structure Property where
  key : Node Ident
  value : Node Expr

end

instance : Inhabited Expr := ⟨.returning none⟩

instance : Inhabited Stmt := ⟨.block []⟩

/-- A whole source file. -/
structure Program where
  file : String
  body : List (Node Stmt)
  span : Span := .zero

namespace BindingKind

/-- Whether names bound in this way may be assigned again. -/
def isMutable : BindingKind → Bool
  | .letBinding => true
  | .constBinding => false

end BindingKind

namespace Expr

/-- Functions and classes have returns and a `self` of their own. -/
def isBoundary : Expr → Bool
  | .function _ => true
  | .classDef _ => true
  | _ => false

/-- Whether an expression may be assigned to. -/
def isTarget : Expr → Bool
  | .ident _ => true
  | .member _ _ => true
  | .index _ _ => true
  | _ => false

/-- The name of a plain identifier. -/
def name? : Expr → Option String
  | .ident i => some i.name
  | _ => none

end Expr

end StructuralTyping
