import StructuralTyping.Syntax.Show
import StructuralTyping.Ty.Assignable

/-! # Faults

What can be wrong with a program.  A `Fault` is the cause, `Fault.message` its wording, and a
`Failure` is a fault with the place where it shows. -/

namespace StructuralTyping

/-- What a program can do wrong. -/
inductive Fault where
  | unknownTypeName (name : String)
  /-- An operand of an operator, counted from one, has the wrong type. -/
  | operandMismatch (operator : String) (position : Nat) (expected found : Ty)
  | notATarget (operator : String)
  | nonBooleanCondition (found : Ty)
  | arityMismatch (expected found : Nat)
  /-- An argument of a call, counted from one, has the wrong type. -/
  | argumentMismatch (position : Nat) (expected found : Ty)
  | notCallable (found : Ty)
  | notAnObject (property : String) (found : Ty)
  | unknownProperty (property : String) (found : Ty)
  | notIndexable (found : Ty)
  | nonNumericIndex (found : Ty)
  | notAssignable (expected found : Ty)
  | returnMismatch (expected found : Ty)
  | valueFromVoid
  | annotatedConstructor
  | impossibleAssertion (asserted found : Ty)
  | notAConstructor (found : Ty)
  /-- A node carries the id of a type that is not in the table. -/
  | unissuedType (id : TypeId)

namespace Fault

/-- The sentence that describes a fault, with the names and types it is about. -/
def message : Fault → String
  | .unknownTypeName name => "unknown type reference '" ++ name ++ "'"
  | .operandMismatch operator position expected found =>
    "operand " ++ position.repr ++ " of '" ++ operator ++ "' must be " ++ expected.display ++
      ", found " ++ found.display
  | .notATarget operator =>
    "operand of '" ++ operator ++ "' must be an assignable identifier, property or index"
  | .nonBooleanCondition found => "condition must be boolean, found " ++ found.display
  | .arityMismatch expected found =>
    "argument count mismatch: expected " ++ expected.repr ++ ", found " ++ found.repr
  | .argumentMismatch position expected found =>
    "call argument type mismatch: argument " ++ position.repr ++ " expected " ++
      expected.display ++ ", found " ++ found.display
  | .notCallable found => "cannot call non-function of type " ++ found.display
  | .notAnObject property found =>
    "cannot read property '" ++ property ++ "' of non-object type " ++ found.display
  | .unknownProperty property found =>
    "unknown property '" ++ property ++ "' on type " ++ found.display
  | .notIndexable found => "cannot index value of type " ++ found.display
  | .nonNumericIndex found => "index must be numeric, found " ++ found.display
  | .notAssignable expected found =>
    "type " ++ found.display ++ " is not assignable to " ++ expected.display
  | .returnMismatch expected found =>
    "return type mismatch: expected " ++ expected.display ++ ", found " ++ found.display
  | .valueFromVoid => "cannot return a value from a function declared to return void"
  | .annotatedConstructor => "constructors cannot have a return type annotation"
  | .impossibleAssertion asserted found =>
    "type " ++ found.display ++ " cannot be asserted as " ++ asserted.display
  | .notAConstructor found =>
    "right side of 'instanceof' must be a function, found " ++ found.display
  | .unissuedType id => "type " ++ id.display ++ " was never issued"

end Fault

/-- A fault and the place where it shows. -/
structure Failure where
  fault : Fault
  span : Span

/-- Fails with `fault` at `span` unless a condition holds. -/
def Failure.unless (condition : Bool) (fault : Fault) (span : Span) : Except Failure Unit :=
  if condition then .ok () else .error ⟨fault, span⟩

/-- A value of type `found` must fit where `expected` is expected. -/
def Failure.unlessAssignable (found expected : Ty) (span : Span) : Except Failure Unit :=
  Failure.unless (found.assignable expected) (.notAssignable expected found) span

end StructuralTyping
