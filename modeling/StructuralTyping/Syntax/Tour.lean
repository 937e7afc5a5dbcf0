import StructuralTyping.Edit
import StructuralTyping.Syntax.Tree

/-! # Tours of the expressions of a tree

A tour calls a visitor on the expressions of a tree in the order of the source, an expression
before those inside it.  The visitor carries a state and answers with the slots that the node is
to have from now on, and says whether the tour goes on inside it or stops with an error.  Declared
types and the names of bindings, parameters and properties are not expressions and are passed
over. -/

namespace StructuralTyping

/-- What a visitor answers: the slots that the node is to have, and whether to go on inside it. -/
structure Reply where
  ty : Option TypeId
  /-- The symbol of an identifier; it has no meaning for other expressions. -/
  symbol : Option Symbol
  descend : Bool

/-- What a visitor answers to stop the tour: an error, and the slots that the node is to have. -/
structure Refusal (ε : Type) where
  ty : Option TypeId
  symbol : Option Symbol
  error : ε

/-- Visits one expression: the answer and the next state. -/
abbrev Visitor (σ ε : Type) := Node Expr → σ → Except (Refusal ε) Reply × σ

namespace Expr

/-- The symbol of an identifier. -/
def symbol? : Expr → Option Symbol
  | .ident i => i.symbol
  | _ => none

/-- The same expression; an identifier gets this symbol. -/
def withSymbol (symbol : Option Symbol) : Expr → Expr
  | .ident i => .ident { i with symbol }
  | e => e

end Expr

/-- The answer that leaves a node as it is. -/
def Reply.keep (node : Node Expr) (descend : Bool) : Reply :=
  ⟨node.ty, node.value.symbol?, descend⟩

/-- The answer that stops the tour and leaves a node as it is. -/
def Refusal.keep {ε : Type} (node : Node Expr) (error : ε) : Refusal ε :=
  ⟨node.ty, node.value.symbol?, error⟩

/-- A tour of a part of a tree. -/
abbrev Toured (σ ε τ : Type) := Edit σ ε τ Unit

namespace Tour

variable {σ ε : Type} (visit : Visitor σ ε)

mutual

/-- Visits an expression and, if the visitor says so, those inside it. -/
def node : Node Expr → σ → Toured σ ε (Node Expr)
  | ⟨span, e, ty⟩, s =>
    match visit ⟨span, e, ty⟩ s with
    -- a visitor that refuses may still have marked the node
    | (.error x, s) => .fail x.error ⟨span, e.withSymbol x.symbol, x.ty⟩ s
    | (.ok reply, s) =>
      if reply.descend then
        (inside e s).rebuild fun e => ⟨span, e.withSymbol reply.symbol, reply.ty⟩
      else .succeed () ⟨span, e.withSymbol reply.symbol, reply.ty⟩ s

/-- Visits the expressions inside an expression. -/
def inside : Expr → σ → Toured σ ε Expr
  | .literal v, s => .succeed () (.literal v) s
  | .ident i, s => .succeed () (.ident i) s
  | .call callee args, s => (node callee s).andThen args (fun _ => nodes args) .call
  | .conditional test consequent alternate, s =>
    (node test s).andThen (consequent, alternate)
      (fun _ s => (stmt consequent s).andThen alternate (fun _ => optionalStmt alternate) .mk)
      fun test p => .conditional test p.1 p.2
  | .member base property, s => (node base s).rebuild fun base => .member base property
  | .index base position, s => (node base s).andThen position (fun _ => node position) .index
  | .function ⟨name, typeParams, params, returns, body⟩, s =>
    (stmts body s).rebuild fun body => .function ⟨name, typeParams, params, returns, body⟩
  | .classDef ⟨name, fields, ms⟩, s =>
    (fieldDecls fields s).andThen ms (fun _ => methods ms)
      fun fields ms => .classDef ⟨name, fields, ms⟩
  | .assertion e ty, s => (node e s).rebuild fun e => .assertion e ty
  | .throwing value, s => (node value s).rebuild .throwing
  | .whileLoop test body, s => (node test s).andThen body (fun _ => stmts body) .whileLoop
  | .forLoop bs test update body, s =>
    (bindings bs s).andThen (test, update, body)
      (fun _ s =>
        (optional test s).andThen (update, body)
          (fun _ s => (optional update s).andThen body (fun _ => stmts body) .mk) .mk)
      fun bs p => .forLoop bs p.1 p.2.1 p.2.2
  | .returning value, s => (optional value s).rebuild .returning
  | .attempt body handler cleanup, s =>
    (stmts body s).andThen (handler, cleanup)
      (fun _ s => (optionalHandler handler s).andThen cleanup (fun _ => optionalBody cleanup) .mk)
      fun body p => .attempt body p.1 p.2
  | .array items, s => (nodes items s).rebuild .array
  | .object ps, s => (properties ps s).rebuild .object
  | .assignment target value, s =>
    (node target s).andThen value (fun _ => node value) .assignment

/-- Tours expressions from left to right. -/
def nodes : List (Node Expr) → σ → Toured σ ε (List (Node Expr))
  | [], s => .succeed () [] s
  | e :: rest, s => (node e s).andThen rest (fun _ => nodes rest) .cons

/-- Tours an expression that may be missing. -/
def optional : Option (Node Expr) → σ → Toured σ ε (Option (Node Expr))
  | none, s => .succeed () none s
  | some e, s => (node e s).rebuild some

/-- Tours the expressions of a statement. -/
def stmt : Node Stmt → σ → Toured σ ε (Node Stmt)
  | ⟨span, .expr e, ty⟩, s => (node e s).rebuild fun e => ⟨span, .expr e, ty⟩
  | ⟨span, .block body, ty⟩, s => (stmts body s).rebuild fun body => ⟨span, .block body, ty⟩
  | ⟨span, .binding kind bs body, ty⟩, s =>
    (bindings bs s).andThen body (fun _ => stmts body)
      fun bs body => ⟨span, .binding kind bs body, ty⟩
  | ⟨span, .typeAlias name typeParams t, ty⟩, s =>
    .succeed () ⟨span, .typeAlias name typeParams t, ty⟩ s

/-- Tours statements in order. -/
def stmts : List (Node Stmt) → σ → Toured σ ε (List (Node Stmt))
  | [], s => .succeed () [] s
  | x :: rest, s => (stmt x s).andThen rest (fun _ => stmts rest) .cons

/-- Tours a statement that may be missing. -/
def optionalStmt : Option (Node Stmt) → σ → Toured σ ε (Option (Node Stmt))
  | none, s => .succeed () none s
  | some x, s => (stmt x s).rebuild some

/-- Tours a body that may be missing. -/
def optionalBody : Option (List (Node Stmt)) → σ → Toured σ ε (Option (List (Node Stmt)))
  | none, s => .succeed () none s
  | some body, s => (stmts body s).rebuild some

/-- Tours what names are bound to, in order. -/
def bindings : List Binding → σ → Toured σ ε (List Binding)
  | [], s => .succeed () [] s
  | ⟨name, declaredAs, init⟩ :: rest, s =>
    (node init s).andThen rest (fun _ => bindings rest)
      fun init rest => ⟨name, declaredAs, init⟩ :: rest

/-- Tours the initial values of declared fields. -/
def fieldDecls : List FieldDecl → σ → Toured σ ε (List FieldDecl)
  | [], s => .succeed () [] s
  | ⟨name, declaredAs, init⟩ :: rest, s =>
    (optional init s).andThen rest (fun _ => fieldDecls rest)
      fun init rest => ⟨name, declaredAs, init⟩ :: rest

/-- Visits the expressions in the bodies of methods. -/
def methods : List (Node Method) → σ → Toured σ ε (List (Node Method))
  | [], s => .succeed () [] s
  | ⟨span, ⟨name, kind, typeParams, params, returns, body⟩, ty⟩ :: rest, s =>
    (stmts body s).andThen rest (fun _ => methods rest)
      fun body rest => ⟨span, ⟨name, kind, typeParams, params, returns, body⟩, ty⟩ :: rest

/-- Tours the body of a handler that may be missing. -/
def optionalHandler : Option Handler → σ → Toured σ ε (Option Handler)
  | none, s => .succeed () none s
  | some ⟨param, body⟩, s => (stmts body s).rebuild fun body => some ⟨param, body⟩

/-- Tours the values of properties, in order. -/
def properties : List Property → σ → Toured σ ε (List Property)
  | [], s => .succeed () [] s
  | ⟨key, value⟩ :: rest, s =>
    (node value s).andThen rest (fun _ => properties rest) fun value rest => ⟨key, value⟩ :: rest

end

end Tour

end StructuralTyping
