import StructuralTyping.Syntax.Tree
import Mathlib.Data.List.ReduceOption

/-! # The type slots of a tree

Every node of a tree has a slot for the id of its type: statements, expressions, methods, names, and
the nodes of annotations.  `Slots` lists the slots of a part of a tree in the order of the source,
none left out; a name or a type parameter counts although nothing is ever recorded there.
`Program.slots` are those of a whole program and `Program.typeIds` the ids that stand in them.
-/
namespace StructuralTyping

namespace Slots

/-- The slots of declared names. -/
def names (ns : List (Node Ident)) : List (Option TypeId) := ns.map (·.ty)

/-- The slot of a declared name that may be absent. -/
def optionalName (n : Option (Node Ident)) : List (Option TypeId) := names n.toList

mutual

/-- The slots of an annotation, its own first. -/
def typeExpr : Node TypeExpr → List (Option TypeId)
  | ⟨_, t, ty⟩ => ty :: insideTypeExpr t

/-- The slots inside an annotation. -/
def insideTypeExpr : TypeExpr → List (Option TypeId)
  | .keyword _ => []
  | .named _ => []
  | .literal _ => []
  | .array element => typeExpr element
  | .object fields => typeFields fields
  | .function params returns => typeExprs params ++ typeExpr returns
  | .union members => typeExprs members
  | .intersection members => typeExprs members
  | .apply base args => typeExpr base ++ typeExprs args

/-- The slots of annotations in a list. -/
def typeExprs : List (Node TypeExpr) → List (Option TypeId)
  | [] => []
  | t :: rest => typeExpr t ++ typeExprs rest

/-- The slots of the annotations of fields, whose names have none. -/
def typeFields : List TypeField → List (Option TypeId)
  | [] => []
  | ⟨_, t⟩ :: rest => typeExpr t ++ typeFields rest

end

/-- The slots of an annotation that may be absent. -/
def optionalTypeExpr (t : Option (Node TypeExpr)) : List (Option TypeId) := typeExprs t.toList

/-- The slots of parameters: of each name and its annotation. -/
def params : List Param → List (Option TypeId)
  | [] => []
  | ⟨name, declaredAs⟩ :: rest => name.ty :: (optionalTypeExpr declaredAs ++ params rest)

mutual

/-- The slots of an expression, its own first. -/
def node : Node Expr → List (Option TypeId)
  | ⟨_, e, ty⟩ => ty :: inside e

/-- The slots inside an expression. -/
def inside : Expr → List (Option TypeId)
  | .literal _ => []
  | .ident _ => []
  | .call callee args => node callee ++ nodes args
  | .conditional test consequent alternate =>
    node test ++ (stmt consequent ++ optionalStmt alternate)
  | .member base property => node base ++ [property.ty]
  | .index base position => node base ++ node position
  | .function f => function f
  | .classDef c => classDef c
  | .assertion e ty => node e ++ typeExpr ty
  | .throwing value => node value
  | .whileLoop test body => node test ++ stmts body
  | .forLoop bs test update body =>
    bindings bs ++ (optional test ++ (optional update ++ stmts body))
  | .returning value => optional value
  | .attempt body handler cleanup =>
    stmts body ++ (optionalHandler handler ++ optionalBody cleanup)
  | .array items => nodes items
  | .object ps => properties ps
  | .assignment target value => node target ++ node value

/-- The slots of a function, from its name to its body. -/
def function : Function → List (Option TypeId)
  | ⟨name, typeParams, ps, returns, body⟩ =>
    optionalName name ++
      (names typeParams ++ (params ps ++ (optionalTypeExpr returns ++ stmts body)))

/-- The slots of a class, from its name to its methods. -/
def classDef : Class → List (Option TypeId)
  | ⟨name, fields, ms⟩ => optionalName name ++ (fieldDecls fields ++ methods ms)

/-- The slots of expressions in a list. -/
def nodes : List (Node Expr) → List (Option TypeId)
  | [] => []
  | e :: rest => node e ++ nodes rest

/-- The slots of an expression that may be absent. -/
def optional : Option (Node Expr) → List (Option TypeId)
  | none => []
  | some e => node e

/-- The slots of a statement, its own first. -/
def stmt : Node Stmt → List (Option TypeId)
  | ⟨_, s, ty⟩ => ty :: insideStmt s

/-- The slots inside a statement. -/
def insideStmt : Stmt → List (Option TypeId)
  | .expr e => node e
  | .block body => stmts body
  | .binding _ bs body => bindings bs ++ stmts body
  | .typeAlias name typeParams t => name.ty :: (names typeParams ++ typeExpr t)

/-- The slots of statements in a list. -/
def stmts : List (Node Stmt) → List (Option TypeId)
  | [] => []
  | s :: rest => stmt s ++ stmts rest

/-- The slots of a statement that may be absent. -/
def optionalStmt : Option (Node Stmt) → List (Option TypeId)
  | none => []
  | some s => stmt s

/-- The slots of a body that may be absent. -/
def optionalBody : Option (List (Node Stmt)) → List (Option TypeId)
  | none => []
  | some body => stmts body

/-- The slots of bindings: of each name, its annotation and its initial value. -/
def bindings : List Binding → List (Option TypeId)
  | [] => []
  | ⟨name, declaredAs, init⟩ :: rest =>
    name.ty :: (optionalTypeExpr declaredAs ++ (node init ++ bindings rest))

/-- The slots of declared fields: of each name, its annotation and its initial value. -/
def fieldDecls : List FieldDecl → List (Option TypeId)
  | [] => []
  | ⟨name, declaredAs, init⟩ :: rest =>
    name.ty :: (optionalTypeExpr declaredAs ++ (optional init ++ fieldDecls rest))

/-- The slots of a method, that of its node apart. -/
def method : Method → List (Option TypeId)
  | ⟨name, _, typeParams, ps, returns, body⟩ =>
    name.ty :: (names typeParams ++ (params ps ++ (optionalTypeExpr returns ++ stmts body)))

/-- The slots of methods, those of their nodes included. -/
def methods : List (Node Method) → List (Option TypeId)
  | [] => []
  | ⟨_, m, ty⟩ :: rest => ty :: (method m ++ methods rest)

/-- The slots of a handler that may be absent. -/
def optionalHandler : Option Handler → List (Option TypeId)
  | none => []
  | some ⟨param, body⟩ => optionalName param ++ stmts body

/-- The slots of properties: of each key and its value. -/
def properties : List Property → List (Option TypeId)
  | [] => []
  | ⟨key, value⟩ :: rest => key.ty :: (node value ++ properties rest)

end

theorem node_eq (n : Node Expr) : node n = n.ty :: inside n.value := by
  cases n; rfl

theorem stmt_eq (n : Node Stmt) : stmt n = n.ty :: insideStmt n.value := by
  cases n; rfl

end Slots

/-- The slots of all nodes of a program. -/
def Program.slots (p : Program) : List (Option TypeId) := Slots.stmts p.body

/-- The ids on the nodes of a program, one entry for each node that has one. -/
def Program.typeIds (p : Program) : List TypeId := p.slots.reduceOption

end StructuralTyping
