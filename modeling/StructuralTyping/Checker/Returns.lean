import StructuralTyping.Fault
import StructuralTyping.Syntax.Tour
import StructuralTyping.Ty.Combine
import StructuralTyping.TypeTable

/-! # Returns

The own returns of a body are the return expressions anywhere inside it, except in the functions
and classes inside it, in the order of a tour.  A body with a declared result type must return
values that fit it, and none at all when the declared type is undefined; otherwise the result type
is the type that all own returns share. -/

namespace StructuralTyping

/-- A return expression: where it stands, and the id of the type of its value. -/
structure OwnReturn where
  span : Span
  value : Option TypeId
deriving DecidableEq

namespace OwnReturn

/-- Notes return expressions, latest first, and stays out of functions and classes. -/
def visitor : Visitor (List OwnReturn) Empty := fun node sites =>
  match node.value with
  | .returning value =>
    (.ok (.keep node true), ⟨node.span, value.bind (·.ty)⟩ :: sites)
  | e => (.ok (.keep node (!e.isBoundary)), sites)

/-- The own returns of a checked body. -/
def ofBody (body : List (Node Stmt)) : List OwnReturn :=
  (Tour.stmts visitor body []).state.reverse

/-- The type of the value that is returned; returning nothing returns undefined. -/
def ty (table : TypeTable) (site : OwnReturn) : Except Failure Ty :=
  match site.value with
  | none => .ok .undefined
  | some id =>
    match table.get? id with
    | some t => .ok t
    | none => .error ⟨.unissuedType id, site.span⟩

/-- A return must fit the declared type; a value must not be returned where that is undefined. -/
def fits (table : TypeTable) (declared : Ty) (site : OwnReturn) : Except Failure Unit :=
  if declared = .undefined ∧ site.value.isSome then .error ⟨.valueFromVoid, site.span⟩
  else do
    let found ← site.ty table
    Failure.unless (found.assignable declared) (.returnMismatch declared found) site.span

end OwnReturn

namespace Rule

/-- The result type of a body with these own returns. -/
def result (table : TypeTable) (declared : Option Ty) (sites : List OwnReturn) :
    Except Failure Ty :=
  match declared with
  | none => do
    let found ← sites.mapM (·.ty table)
    .ok ((Ty.common? found).getD .unknown)
  | some d => do
    sites.forM (·.fits table d)
    .ok d

end Rule

end StructuralTyping
