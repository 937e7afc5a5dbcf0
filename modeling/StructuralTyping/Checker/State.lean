import StructuralTyping.Resolution
import StructuralTyping.Edit
import StructuralTyping.Journal
import StructuralTyping.Syntax.SelfReference

/-! # The state of a check

The table and the scopes as they grow, the number of the next class, the journal, and the *field
survey* of the class whose methods are being checked.

The fields of a class come from its declarations and from assignments to `self` in its methods, so
the methods are gone through twice: first to survey the fields, then to check the methods against
the finished type of `self`.  During the first pass the state is *surveying*: nothing is recorded
in the table and no event is emitted. -/

namespace StructuralTyping

/-- The fields found so far of the class whose instance is `self`. -/
structure FieldSurvey where
  self : Symbol
  fields : List Field
  /-- Whether this is the first pass, which leaves no trace in the table or the events. -/
  firstPass : Bool

namespace FieldSurvey

/-- Notes the type assigned to a field: a new field is added, an unknown one takes the type, any
other keeps the type that it has. -/
def note (name : String) (t : Ty) : List Field → List Field
  | [] => [⟨name, t⟩]
  | f :: rest =>
    if f.name = name then
      if f.ty = .unknown then ⟨name, t⟩ :: rest else f :: rest
    else f :: note name t rest

end FieldSurvey

namespace Checker

/-- All that a check reads and changes besides the tree itself. -/
structure State where
  table : TypeTable := {}
  scopes : Scopes := {}
  nextClass : UInt32 := 0
  survey : Option FieldSurvey := none
  journal : Array Entry := #[]

/-- A part of a tree that was checked, with what came of it. -/
abbrev Checked (τ α : Type) := Edit State Failure τ α

namespace State

/-- Whether the methods of a class are gone through for the first time. -/
def surveying (st : State) : Bool :=
  match st.survey with
  | some s => s.firstPass
  | none => false

/-- Adds an entry at the end of the journal. -/
def note (e : Entry) (st : State) : State := { st with journal := st.journal.push e }

/-- Adds an event to the journal, except while surveying. -/
def emit (e : Event) (st : State) : State := if st.surveying then st else st.note (.event e)

/-- Adds a type to the table and returns the slot that holds its id; while surveying the slot stays
as it was. -/
def record (slot : Option TypeId) (t : Ty) (st : State) : Option TypeId × State :=
  if st.surveying then (slot, st)
  else (some st.table.nextId, { st with table := st.table.add t })

/-- Records the type of a name. -/
def recordName (n : Node Ident) (t : Ty) (st : State) : Node Ident × State :=
  let (slot, st) := st.record n.ty t
  ({ n with ty := slot }, st)

/-- Gives a symbol a type in the innermost scope; a name without a symbol is left alone. -/
def bind (symbol : Option Symbol) (t : Ty) (st : State) : State :=
  match symbol with
  | some s => { st with scopes := st.scopes.bind s t }
  | none => st

/-- The type of a symbol, unknown when it has none. -/
def lookup (symbol : Option Symbol) (st : State) : Ty :=
  (symbol.bind st.scopes.symbol?).getD .unknown

/-- Type parameters stand for unknown types. -/
def bindTypeParams (names : List (Node Ident)) (st : State) : State :=
  { st with
    scopes := names.foldl (fun scopes n => scopes.bindTypeParam n.value.name .unknown) st.scopes }

/-- Defines an alias for the rest of the session. -/
def defineAlias (name : String) (t : Ty) (st : State) : State :=
  { st with scopes := st.scopes.defineAlias name t }

/-- Opens a scope. -/
def push (st : State) : State := { st with scopes := st.scopes.push }

/-- Closes the innermost scope. -/
def pop (st : State) : State := { st with scopes := st.scopes.pop }

end State

section Steps

variable {τ α : Type}

/-- Works in a scope of its own, which is closed again whether the work succeeds or not. -/
def inScope (work : State → Checked τ α) (st : State) : Checked τ α :=
  (work st.push).mapState State.pop

/-- Wraps a checked part into its node and records its type if the check succeeded. -/
def recorded (span : Span) (slot : Option TypeId) (e : Checked τ Ty) : Checked (Node τ) Ty :=
  match e.result with
  | .ok t =>
    let (slot, st) := e.state.record slot t
    ⟨.ok t, ⟨span, e.tree, slot⟩, st⟩
  | .error f => ⟨.error f, ⟨span, e.tree, slot⟩, e.state⟩

/-- Binds and records the name of a function or class, if it has one. -/
def named (name : Option (Node Ident)) (t : Ty) (st : State) : Checked (Option (Node Ident)) Ty :=
  match name with
  | none => .succeed t none st
  | some n =>
    let (n, st) := (st.bind n.value.symbol t).recordName n t
    .succeed t (some n) st

end Steps

/-- What `self` stands for in the body being checked; none outside of methods. -/
abbrev Receiver := Option Symbol

/-- What an identifier refers to. -/
def Receiver.symbolOf (receiver : Receiver) (i : Ident) : Option Symbol :=
  match receiver with
  | some self => if i.name = SelfReference.name then some self else i.symbol
  | none => i.symbol

/-- The field that an expression names when it is a field of `self`. -/
def Receiver.field? (receiver : Receiver) (self : Symbol) : Expr → Option String
  | .member ⟨_, .ident i, _⟩ property =>
    if receiver.symbolOf i = some self then some property.value.name else none
  | _ => none

namespace State

/-- Notes a value assigned to a field of the class being checked. -/
def noteAssignment (receiver : Receiver) (target : Expr) (value : Ty) (st : State) : State :=
  match st.survey with
  | none => st
  | some s =>
    match receiver.field? s.self target with
    | some name =>
      { st with survey := some { s with fields := FieldSurvey.note name value.widen s.fields } }
    | none => st

/-- Gives an identifier that is assigned to the type of its new value. -/
def rebind (receiver : Receiver) (target : Expr) (value : Ty) (st : State) : State :=
  match target with
  | .ident i => (st.note (.rebound i.name value.widen)).bind (receiver.symbolOf i) value.widen
  | _ => st

/-- The fields of the survey that is under way. -/
def surveyed (st : State) : List Field :=
  match st.survey with
  | some s => s.fields
  | none => []

end State

end Checker

end StructuralTyping
