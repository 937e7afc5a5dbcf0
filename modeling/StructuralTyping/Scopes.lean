import StructuralTyping.Syntax.Node
import StructuralTyping.Ty.Basic

/-! # Scopes

What names mean at a point of a program.  Symbols and type parameters live in scopes that open and
close together; a name means what the innermost scope that has it says.  Aliases are not scoped: the
latest definition counts wherever it was made.

There is always one scope open.  Closing the last one does nothing. -/

namespace StructuralTyping

/-- One scope; the newest entry of a name stands first. -/
structure Frame where
  symbols : List (Symbol × Ty) := []
  typeParams : List (String × Ty) := []

/-- The scopes that are open, the innermost apart from those around it, and the aliases. -/
structure Scopes where
  inner : Frame := {}
  outer : List Frame := []
  aliases : List (String × Ty) := []

namespace Scopes

/-- All open scopes, innermost first. -/
def frames (s : Scopes) : List Frame := s.inner :: s.outer

/-- The number of open scopes. -/
def depth (s : Scopes) : Nat := s.frames.length

/-- Opens an empty frame inside all others. -/
def push (s : Scopes) : Scopes := { s with inner := {}, outer := s.frames }

/-- Closes the innermost frame; the outermost one of all stays. -/
def pop (s : Scopes) : Scopes :=
  match s.outer with
  | [] => s
  | f :: rest => { s with inner := f, outer := rest }

/-- Gives a symbol a type in the innermost scope. -/
def bind (s : Scopes) (symbol : Symbol) (t : Ty) : Scopes :=
  { s with inner := { s.inner with symbols := (symbol, t) :: s.inner.symbols } }

/-- Gives a type parameter a meaning in the innermost scope. -/
def bindTypeParam (s : Scopes) (name : String) (t : Ty) : Scopes :=
  { s with inner := { s.inner with typeParams := (name, t) :: s.inner.typeParams } }

/-- Aliases are not scoped: a new one hides an older one of its name until the end. -/
def defineAlias (s : Scopes) (name : String) (t : Ty) : Scopes :=
  { s with aliases := (name, t) :: s.aliases }

/-- The type of a symbol in the innermost frame that knows it. -/
def symbol? (s : Scopes) (symbol : Symbol) : Option Ty :=
  s.frames.findSome? fun f => f.symbols.lookup symbol

/-- The type that a type parameter's name stands for, in the innermost frame that knows it. -/
def typeParam? (s : Scopes) (name : String) : Option Ty :=
  s.frames.findSome? fun f => f.typeParams.lookup name

/-- The type of the newest alias of this name. -/
def alias? (s : Scopes) (name : String) : Option Ty := s.aliases.lookup name

end Scopes

end StructuralTyping
