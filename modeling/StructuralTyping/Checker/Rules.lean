import StructuralTyping.Fault
import StructuralTyping.Scopes
import StructuralTyping.Resolution
import StructuralTyping.Ty.Combine

/-! # The rules of single constructs

What type a construct has, given the types of its parts.  Nothing here looks inside the parts. -/

namespace StructuralTyping

/-- The type of a literal expression. -/
def Literal.ty : Literal → Ty
  | .value v => .literal v
  | .regex _ => .unknown

namespace Rule

/-- A condition must be boolean. -/
def condition (span : Span) (t : Ty) : Except Failure Ty :=
  if t.isBoolean then .ok t else .error ⟨.nonBooleanCondition t, span⟩

/-- A condition that may be absent. -/
def optionalCondition : Option (Node Expr) → Option Ty → Except Failure Unit
  | some e, some t => (condition e.span t).map fun _ => ()
  | _, _ => .ok ()

/-- Two branches of one type have that type, two others an unknown type. -/
def branches (consequent : Ty) : Option Ty → Ty
  | none => consequent
  | some alternate => if consequent = alternate then consequent else .unknown

/-- Reading a property.  Arrays have properties that are not tracked; an intersection has those of
its members, the first that has one counts. -/
def property (baseSpan propertySpan : Span) (base : Ty) (name : String) : Except Failure Ty :=
  let unknownProperty : Except Failure Ty := .error ⟨.unknownProperty name base, propertySpan⟩
  match base with
  | .object _ =>
    match base.field? name with
    | some t => .ok t
    | none => unknownProperty
  | .array _ => .ok .unknown
  | .unknown => .ok .unknown
  | .intersection members =>
    -- an unknown member may have any property, but a known one goes first
    match members.findSome? (·.field? name) with
    | some t => .ok t
    | none => if members.any Ty.isUnknown then .ok .unknown else unknownProperty
  | _ => .error ⟨.notAnObject name base, baseSpan⟩

/-- Reading at an index; the index is looked at first. -/
def index (baseSpan positionSpan : Span) (base position : Ty) : Except Failure Ty :=
  if position.isNumeric then
    match base with
    | .array element => .ok element
    | .unknown => .ok .unknown
    | _ => .error ⟨.notIndexable base, baseSpan⟩
  else .error ⟨.nonNumericIndex position, positionSpan⟩

/-- Asserting that a value has a type. -/
def assertion (span : Span) (found asserted : Ty) : Except Failure Ty :=
  if found.assignable asserted then .ok asserted
  else .error ⟨.impossibleAssertion asserted found, span⟩

/-- An array of items of one widened type has that element type, any other array an unknown one. -/
def array (items : List Ty) : Ty := .array ((Ty.common? (items.map Ty.widen)).getD .unknown)

/-- A binding has its annotated type, which the initial value must fit, or that of the initial
value, widened. -/
def binding (scopes : Scopes) (declaredAs : Option (Node TypeExpr)) (init : Ty) (initSpan : Span) :
    Except Failure Ty :=
  match declaredAs with
  | none => .ok init.widen
  | some a => do
    let declared ← scopes.resolve a
    Failure.unlessAssignable init declared initSpan
    .ok declared

/-- A declared field is like a binding; without annotation and initial value its type is unknown. -/
def field (scopes : Scopes) (declaredAs : Option (Node TypeExpr)) (init : Option (Node Expr))
    (initTy : Option Ty) : Except Failure Ty :=
  match init, initTy with
  | some e, some t => binding scopes declaredAs t e.span
  | _, _ =>
    match declaredAs with
    | some a => scopes.resolve a
    | none => .ok .unknown

/-- A parameter has its annotated type or an unknown one. -/
def param (scopes : Scopes) : Option (Node TypeExpr) → Except Failure Ty
  | none => .ok .unknown
  | some a => scopes.resolve a

/-- The types of parameters, in order. -/
def params (scopes : Scopes) : List Param → Except Failure (List Ty)
  | [] => .ok []
  | p :: rest => do
    let t ← param scopes p.declaredAs
    let ts ← params scopes rest
    .ok (t :: ts)

/-- The type that a function or method declares, without regard to its body; an undeclared result is
unknown. -/
def signature (scopes : Scopes) (typeParams : List (Node Ident)) (ps : List Param)
    (returns : Option (Node TypeExpr)) : Except Failure Ty := do
  -- nothing is bound in the scopes themselves: the frame is only for the lookups below
  let inner := typeParams.foldl (fun s n => s.bindTypeParam n.value.name .unknown) scopes.push
  let types ← params inner ps
  let result ← inner.resolveOptional returns
  .ok (.function types (result.getD .unknown))

/-- What a type alias stands for; its own parameters are unknown types. -/
def aliased (scopes : Scopes) (typeParams : List (Node Ident)) (t : Node TypeExpr) :
    Except Failure Ty :=
  (typeParams.foldl (fun s n => s.bindTypeParam n.value.name .unknown) scopes.push).resolve t

end Rule

end StructuralTyping
