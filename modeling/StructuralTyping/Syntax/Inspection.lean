import StructuralTyping.Syntax.Tour

/-! # Inspecting the expressions of a tree

An inspection numbers the expressions of a tree in the order of a tour, writes the number of each
into its type slot, and notes what it saw.  It can be told to leave out what is inside certain
forms, and to stop at a given number. -/

namespace StructuralTyping

/-- The name of the form of an expression. -/
def Expr.form : Expr → String
  | .literal _ => "literal"
  | .ident _ => "ident"
  | .call _ _ => "call"
  | .conditional _ _ _ => "if"
  | .member _ _ => "member"
  | .index _ _ => "index"
  | .function _ => "function"
  | .classDef _ => "class"
  | .assertion _ _ => "type_assert"
  | .throwing _ => "throw"
  | .whileLoop _ _ => "while"
  | .forLoop _ _ _ _ => "for"
  | .returning _ => "return"
  | .attempt _ _ _ => "try"
  | .array _ => "array"
  | .object _ => "object"
  | .assignment _ _ => "assign"

namespace Inspection

/-- How a tour of a tree is to be made. -/
structure Options where
  stopAtBoundaries : Bool := false
  /-- Forms that are seen but not entered. -/
  skip : List String := []
  /-- The number of the expression at which the inspection stops. -/
  stopAt : Option Nat := none

/-- What is noted of an expression. -/
structure Sighting where
  form : String
  start : UInt64
  isBoundary : Bool
  isTarget : Bool
  name : Option String

/-- The expressions seen so far, latest first. -/
abbrev State := List Sighting

/-- What is noted about a node. -/
def sighting (node : Node Expr) : Sighting :=
  ⟨node.value.form, node.span.start, node.value.isBoundary, node.value.isTarget, node.value.name?⟩

/-- Whether the inspection goes on inside an expression. -/
def Options.enters (o : Options) (e : Expr) : Bool :=
  !(o.skip.contains e.form || (o.stopAtBoundaries && e.isBoundary))

/-- Notes each node and goes on as the options say. -/
def visitor (o : Options) : Visitor State Nat := fun node seen =>
  let number := seen.length
  let seen := sighting node :: seen
  if o.stopAt = some number then (.error (.keep node number), seen)
  else
    (.ok ⟨some ⟨UInt32.ofNat number⟩, node.value.symbol?, o.enters node.value⟩, seen)

/-- Inspects the body of a program. -/
def run (o : Options) (p : Program) : Edit State Nat Program Unit :=
  (Tour.stmts (visitor o) p.body []).rebuild fun body => { p with body }

end Inspection

end StructuralTyping
