import StructuralTyping.Fault
import StructuralTyping.Syntax.Tree
import StructuralTyping.Ty.Combine

/-! # Calls

A call of an identifier with the name of an operator and the right number of arguments is an
operator form and follows the rule of the operator.  Any other call follows the type of what is
called; an operator name with another number of arguments is nothing special. -/

namespace StructuralTyping

/-- An argument of a call. -/
structure Operand where
  span : Span
  isTarget : Bool
  ty : Ty

/-- The operators of one operand that have a rule of their own, by the rule they follow. -/
inductive UnaryOperator where
  | truth
  | typeName
  | step
  | negation
deriving DecidableEq

/-- The operators of two operands, grouped by the rule they follow. -/
inductive BinaryOperator where
  | comparison
  | equality
  | logical
  | bitwise
  | instanceTest
  | coalescing
  | compoundAssignment
deriving DecidableEq

/-- An operator with its operands. -/
inductive OperatorForm where
  | unary (op : UnaryOperator) (a : Operand)
  | binary (op : BinaryOperator) (a b : Operand)
  | choice (test a b : Operand)

namespace UnaryOperator

/-- The rule of a callee's name when it is applied to one operand. -/
def ofName? : String → Option UnaryOperator
  | "!!" => some .truth
  | "typeof" => some .typeName
  | "++" => some .step
  | "--" => some .step
  | "not" => some .negation
  | "!" => some .negation
  | _ => none

end UnaryOperator

namespace BinaryOperator

/-- The spellings of the operators that follow a rule. -/
def names : BinaryOperator → List String
  | .comparison => ["<", "<=", ">", ">="]
  | .equality => ["==", "===", "!=", "!=="]
  | .logical => ["and", "or", "&&", "||", "xor"]
  | .bitwise => ["&", "|", "^", "<<", ">>", ">>>"]
  | .instanceTest => ["instanceof"]
  | .coalescing => ["??"]
  | .compoundAssignment =>
    ["??=", "+=", "-=", "*=", "/=", "%=", "**=", "<<=", ">>=", ">>>=", "&=", "^=", "|=", "&&=",
      "||="]

/-- All groups, in the order in which a name is looked up. -/
def all : List BinaryOperator :=
  [.comparison, .equality, .logical, .bitwise, .instanceTest, .coalescing, .compoundAssignment]

/-- The rule of a callee's name when it is applied to two operands. -/
def ofName? (name : String) : Option BinaryOperator := all.find? fun op => op.names.contains name

end BinaryOperator

namespace OperatorForm

/-- The operator form that a name makes with its arguments. -/
def of? (name : String) : List Operand → Option OperatorForm
  | [a] => (UnaryOperator.ofName? name).map (.unary · a)
  | [a, b] => (BinaryOperator.ofName? name).map (.binary · a b)
  | [test, a, b] => if name = "ternary" ∨ name = "?:" then some (.choice test a b) else none
  | _ => none

/-- The operand at a position, counted from one, must fit the expected type. -/
def require (name : String) (position : Nat) (expected : Ty) (a : Operand) : Except Failure Unit :=
  Failure.unless (a.ty.assignable expected) (.operandMismatch name position expected a.ty) a.span

/-- The type of an operator applied to one operand. -/
def unaryTy (name : String) (a : Operand) : UnaryOperator → Except Failure Ty
  | .truth => .ok .boolean
  | .typeName => .ok .string
  | .step => do
    Failure.unless a.isTarget (.notATarget name) a.span
    require name 1 .number a
    .ok .number
  | .negation => do
    require name 1 .boolean a
    .ok .boolean

/-- Both operands must fit one type. -/
def requireBoth (name : String) (expected : Ty) (a b : Operand) : Except Failure Unit := do
  require name 1 expected a
  require name 2 expected b

/-- The type of an operator applied to two operands. -/
def binaryTy (name : String) (a b : Operand) : BinaryOperator → Except Failure Ty
  | .comparison => do
    requireBoth name .number a b
    .ok .boolean
  | .equality => .ok .boolean
  | .logical => do
    requireBoth name .boolean a b
    .ok .boolean
  | .bitwise => do
    requireBoth name .number a b
    .ok .number
  | .instanceTest =>
    match b.ty with
    | .unknown => .ok .boolean
    | .function _ _ => .ok .boolean
    | t => .error ⟨.notAConstructor t, b.span⟩
  | .coalescing => .ok (a.ty.coalesce b.ty)
  | .compoundAssignment =>
    if a.ty = .unknown then .ok b.ty
    else do
      Failure.unlessAssignable b.ty a.ty b.span
      .ok a.ty

/-- The type of an operator form. -/
def ty (name : String) : OperatorForm → Except Failure Ty
  | .unary op a => unaryTy name a op
  | .binary op a b => binaryTy name a b op
  | .choice test a b =>
    if test.ty.isBoolean then .ok (.unionOf [a.ty, b.ty])
    else .error ⟨.nonBooleanCondition test.ty, test.span⟩

end OperatorForm

namespace Rule

/-- Arguments must fit the parameters in their places; `position` is that of the first. -/
def arguments (position : Nat) : List Ty → List Operand → Except Failure Unit
  | p :: ps, a :: as =>
    if a.ty.assignable p then arguments (position + 1) ps as
    else .error ⟨.argumentMismatch position p a.ty, a.span⟩
  | _, _ => .ok ()

/-- A call that is no operator form. -/
def application (span calleeSpan : Span) (callee : Ty) (args : List Operand) : Except Failure Ty :=
  match callee with
  | .function params returns =>
    if args.length = params.length then (arguments 1 params args).map fun _ => returns
    else .error ⟨.arityMismatch params.length args.length, span⟩
  | .unknown => .ok .unknown
  | t => .error ⟨.notCallable t, calleeSpan⟩

/-- The type of a call, given the types of what is called and of the arguments. -/
def call (span : Span) (callee : Node Expr) (args : List (Node Expr)) (calleeTy : Ty)
    (argTys : List Ty) : Except Failure Ty :=
  let operands := args.zipWith (fun e t => ⟨e.span, e.value.isTarget, t⟩) argTys
  match callee.value.name?.bind fun name => (OperatorForm.of? name operands).map (·.ty name) with
  | some result => result
  | none => application span callee.span calleeTy operands

end Rule

end StructuralTyping
