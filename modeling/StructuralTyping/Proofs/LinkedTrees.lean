import StructuralTyping.Journal
import StructuralTyping.Proofs.OwnExpressions
import StructuralTyping.Proofs.ProgramParts

/-! # Class numbers, events and linked trees

Classes are numbered in the order of the parts of a tree, each before those inside it.  This module
says what follows from the numbers alone, with no regard to a check:

* `Parts.events` are the events of the parts in their order: a binding form names its bindings, and
  a class the references to its instance;
* `Program.linked` is the program whose references to `self` point at the instance of their class.
  A reference belongs to the class whose method it stands in, unless a function or another class
  stands in between.
-/
namespace StructuralTyping

/-- What `self` stands for in the methods of the class with the number `k`. -/
def Symbol.ofClass (k : Nat) : Symbol := .classSelf (UInt32.ofNat k)

namespace Part

/-- Whether a part takes a class number. -/
def isClass : Part → Bool
  | .expr ⟨_, .classDef _, _⟩ => true
  | _ => false

/-- The events at the beginning of a part, where `k` is the number of the next class. -/
def events (k : Nat) : Part → List Event
  | .stmt ⟨span, .binding kind bs _, _⟩ =>
    [.bindings span kind (bs.map fun b => b.name.value.name)]
  | .expr ⟨_, .classDef c, _⟩ =>
    ((Own.methods c.methods).filterMap SelfReference.at?).map fun span =>
      .selfReference span (.ofClass k)
  | _ => []

end Part

namespace Parts

/-- The number of the next class behind the parts, if it is `k` in front of them. -/
def nextClass (k : Nat) (parts : List Part) : Nat := k + parts.countP Part.isClass

/-- The numbers go on from one row of parts to the next. -/
theorem nextClass_append (k : Nat) (parts parts' : List Part) :
    nextClass k (parts ++ parts') = nextClass (nextClass k parts) parts' := by
  simp only [nextClass, List.countP_append, Nat.add_assoc]

/-- The events of parts, each at its beginning. -/
def events (k : Nat) : List Part → List Event
  | [] => []
  | p :: rest => p.events k ++ events (nextClass k [p]) rest

/-- The events of a row come after those of the row before, with numbers that go on. -/
theorem events_append (k : Nat) (parts parts' : List Part) :
    events k (parts ++ parts') = events k parts ++ events (nextClass k parts) parts' := by
  induction parts generalizing k with
  | nil => rfl
  | cons p rest ih =>
    have split : nextClass k (p :: rest) = nextClass (nextClass k [p]) rest :=
      nextClass_append k [p] rest
    rw [List.cons_append, events, ih, events, split, List.append_assoc]

end Parts

/-! ## Linked trees -/

namespace Linked

open Parts (nextClass)

/-- A reference to `self` points at the instance of its owner, if it has one. -/
def ident (owner : Option Symbol) (i : Ident) : Ident :=
  match owner with
  | some self => if i.name = SelfReference.name then { i with symbol := some self } else i
  | none => i

-- `owner` is the instance that references to `self` belong to, `k` the number of the next class.
mutual

/-- An expression in the methods of the class with the instance `owner`, if any; `k` is the number
of its first class. -/
def node (owner : Option Symbol) (k : Nat) : Node Expr → Node Expr
  | ⟨span, e, ty⟩ => ⟨span, inside owner k e, ty⟩

/-- What the expression consists of; functions and classes inside have another owner. -/
def inside (owner : Option Symbol) (k : Nat) : Expr → Expr
  | .literal v => .literal v
  | .ident i => .ident (ident owner i)
  | .call callee args =>
    .call (node owner k callee) (nodes owner (nextClass k (Parts.node callee)) args)
  | .conditional test consequent alternate =>
    .conditional (node owner k test)
      (stmt owner (nextClass k (Parts.node test)) consequent)
      (optionalStmt owner (nextClass (nextClass k (Parts.node test)) (Parts.stmt consequent))
        alternate)
  | .member base property => .member (node owner k base) property
  | .index base position =>
    .index (node owner k base) (node owner (nextClass k (Parts.node base)) position)
  | .function f => .function (function k f)
  | .classDef c => .classDef (classDef k c)
  | .assertion e ty => .assertion (node owner k e) ty
  | .throwing value => .throwing (node owner k value)
  | .whileLoop test body =>
    .whileLoop (node owner k test) (stmts owner (nextClass k (Parts.node test)) body)
  | .forLoop bs test update body =>
    .forLoop (bindings owner k bs)
      (optional owner (nextClass k (Parts.bindings bs)) test)
      (optional owner (nextClass (nextClass k (Parts.bindings bs)) (Parts.optional test)) update)
      (stmts owner
        (nextClass (nextClass (nextClass k (Parts.bindings bs)) (Parts.optional test))
          (Parts.optional update))
        body)
  | .returning value => .returning (optional owner k value)
  | .attempt body handler cleanup =>
    .attempt (stmts owner k body)
      (optionalHandler owner (nextClass k (Parts.stmts body)) handler)
      (optionalBody owner
        (nextClass (nextClass k (Parts.stmts body)) (Parts.optionalHandler handler)) cleanup)
  | .array items => .array (nodes owner k items)
  | .object ps => .object (properties owner k ps)
  | .assignment target value =>
    .assignment (node owner k target) (node owner (nextClass k (Parts.node target)) value)

/-- A function has no instance. -/
def function (k : Nat) : Function → Function
  | ⟨name, typeParams, params, returns, body⟩ =>
    ⟨name, typeParams, params, returns, stmts none k body⟩

/-- A class takes the number `k`; its methods refer to its own instance. -/
def classDef (k : Nat) : Class → Class
  | ⟨name, fields, ms⟩ =>
    ⟨name, fieldDecls (k + 1) fields,
      methods (some (.ofClass k)) (nextClass (k + 1) (Parts.fieldDecls fields)) ms⟩

/-- Expressions in a row; the numbers go on from one to the next. -/
def nodes (owner : Option Symbol) (k : Nat) : List (Node Expr) → List (Node Expr)
  | [] => []
  | e :: rest => node owner k e :: nodes owner (nextClass k (Parts.node e)) rest

/-- An expression that may be absent. -/
def optional (owner : Option Symbol) (k : Nat) : Option (Node Expr) → Option (Node Expr)
  | none => none
  | some e => some (node owner k e)

/-- A statement. -/
def stmt (owner : Option Symbol) (k : Nat) : Node Stmt → Node Stmt
  | ⟨span, s, ty⟩ => ⟨span, insideStmt owner k s, ty⟩

/-- What the statement consists of. -/
def insideStmt (owner : Option Symbol) (k : Nat) : Stmt → Stmt
  | .expr e => .expr (node owner k e)
  | .block body => .block (stmts owner k body)
  | .binding kind bs body =>
    .binding kind (bindings owner k bs) (stmts owner (nextClass k (Parts.bindings bs)) body)
  | .typeAlias name typeParams t => .typeAlias name typeParams t

/-- Statements in a row; the numbers go on from one to the next. -/
def stmts (owner : Option Symbol) (k : Nat) : List (Node Stmt) → List (Node Stmt)
  | [] => []
  | n :: rest => stmt owner k n :: stmts owner (nextClass k (Parts.stmt n)) rest

/-- A statement that may be absent. -/
def optionalStmt (owner : Option Symbol) (k : Nat) : Option (Node Stmt) → Option (Node Stmt)
  | none => none
  | some n => some (stmt owner k n)

/-- A body that may be absent. -/
def optionalBody (owner : Option Symbol) (k : Nat) :
    Option (List (Node Stmt)) → Option (List (Node Stmt))
  | none => none
  | some body => some (stmts owner k body)

/-- The initial values of bindings in a row. -/
def bindings (owner : Option Symbol) (k : Nat) : List Binding → List Binding
  | [] => []
  | ⟨name, declaredAs, init⟩ :: rest =>
    ⟨name, declaredAs, node owner k init⟩ :: bindings owner (nextClass k (Parts.node init)) rest

/-- The initial values of fields, where `self` belongs to no class. -/
def fieldDecls (k : Nat) : List FieldDecl → List FieldDecl
  | [] => []
  | ⟨name, declaredAs, init⟩ :: rest =>
    ⟨name, declaredAs, optional none k init⟩ :: fieldDecls (nextClass k (Parts.optional init)) rest

/-- The body of a method, whose references to `self` belong to `owner`. -/
def method (owner : Option Symbol) (k : Nat) : Method → Method
  | ⟨name, kind, typeParams, params, returns, body⟩ =>
    ⟨name, kind, typeParams, params, returns, stmts owner k body⟩

/-- The methods of a class in a row. -/
def methods (owner : Option Symbol) (k : Nat) : List (Node Method) → List (Node Method)
  | [] => []
  | ⟨span, m, ty⟩ :: rest =>
    ⟨span, method owner k m, ty⟩ :: methods owner (nextClass k (Parts.stmts m.body)) rest

/-- A handler that may be absent. -/
def optionalHandler (owner : Option Symbol) (k : Nat) : Option Handler → Option Handler
  | none => none
  | some ⟨param, body⟩ => some ⟨param, stmts owner k body⟩

/-- The values of an object in a row. -/
def properties (owner : Option Symbol) (k : Nat) : List Property → List Property
  | [] => []
  | ⟨key, value⟩ :: rest =>
    ⟨key, node owner k value⟩ :: properties owner (nextClass k (Parts.node value)) rest

end

end Linked

/-- The program whose references to `self` point at the instances of their classes. -/
def Program.linked (p : Program) : Program := { p with body := Linked.stmts none 0 p.body }

end StructuralTyping
