/-! # Nodes of a program tree

Every piece of syntax is wrapped in a `Node`: where it stands in the source text, what it is, and a
slot for the id of its type, which is empty until the program is checked.  Names come resolved: an
identifier carries the symbol of the binding that it refers to.
-/

namespace StructuralTyping

/-- A stretch of source text: byte offsets of its first character and of the one after its last,
and the line and column where it starts. -/
structure Span where
  start : UInt64
  stop : UInt64
  line : UInt32
  column : UInt32
deriving DecidableEq, Inhabited

namespace Span

/-- The span of a program that gives none. -/
def zero : Span := ⟨0, 0, 0, 0⟩

/-- The least stretch that holds both; line and column are those of the earlier start. -/
def merge (a b : Span) : Span :=
  let first := if a.start ≤ b.start then a else b
  { start := if a.start ≤ b.start then a.start else b.start
    stop := if a.stop ≤ b.stop then b.stop else a.stop
    line := first.line
    column := first.column }

end Span

/-- The position of a type in the type table. -/
structure TypeId where
  index : UInt32
deriving DecidableEq, Inhabited

/-- What a resolved name refers to. -/
inductive Symbol where
  /-- A binding of the program. -/
  | resolved (id : UInt32)
  /-- The instance that `self` stands for in the methods of a class. -/
  | classSelf (number : UInt32)
deriving DecidableEq

/-- A part of a tree, with the place it was written at and a slot for its type. -/
structure Node (α : Type) where
  span : Span
  value : α
  ty : Option TypeId := none

/-- An identifier and what it refers to; the name of an operator refers to nothing. -/
structure Ident where
  name : String
  symbol : Option Symbol := none
deriving DecidableEq

end StructuralTyping
