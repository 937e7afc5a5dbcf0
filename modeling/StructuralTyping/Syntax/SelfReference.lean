import StructuralTyping.Syntax.Tour

/-! # References to `self`

In the body of a method the identifier `self` stands for the instance of the class; functions and
classes inside the body have a `self` of their own. -/

namespace StructuralTyping.SelfReference

/-- The name of the instance inside methods. -/
def name : String := "self"

/-- Gives identifiers called `self` the symbol and notes where they stand, latest first.
Functions and classes are left alone. -/
def visitor (symbol : Symbol) : Visitor (List Span) Empty := fun node spans =>
  match node.value with
  | .ident i =>
    if i.name = name then (.ok ⟨node.ty, some symbol, true⟩, node.span :: spans)
    else (.ok (.keep node true), spans)
  | e => (.ok (.keep node (!e.isBoundary)), spans)

/-- Where the bodies of methods refer to the instance, in order. -/
def spans (symbol : Symbol) (methods : List (Node Method)) : List Span :=
  (Tour.methods (visitor symbol) methods []).state.reverse

/-- The methods with their references to the instance pointing at `symbol`. -/
def link (symbol : Symbol) (methods : List (Node Method)) : List (Node Method) :=
  (Tour.methods (visitor symbol) methods []).tree

end StructuralTyping.SelfReference
