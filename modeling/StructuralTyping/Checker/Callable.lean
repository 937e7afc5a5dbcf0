import StructuralTyping.Checker.Returns
import StructuralTyping.Checker.Rules
import StructuralTyping.Checker.State

/-! # Parameters and bodies

What functions and methods have in common: type parameters, parameters, a declared result and a body
whose returns settle the result type. -/

namespace StructuralTyping.Checker

/-- Binds parameters in the innermost scope and records their types. -/
def checkParams : List Param → State → Checked (List Param) (List Ty)
  | [], st => .succeed [] [] st
  | ⟨name, declaredAs⟩ :: rest, st =>
    match Rule.param st.scopes declaredAs with
    | .error f => .fail f (⟨name, declaredAs⟩ :: rest) st
    | .ok t =>
      let (name, st) := (st.bind name.value.symbol t).recordName name t
      ((checkParams rest st).conclude fun ts => .ok (t :: ts)).rebuild (⟨name, declaredAs⟩ :: ·)

/-- The type of a function or method, checked in a scope of its own.  `announce` is what is known
before the body is checked, from the types of the parameters and the declared result; `checkBody`
checks the body. -/
def checkCallable (typeParams : List (Node Ident)) (params : List Param)
    (returns : Option (Node TypeExpr)) (body : List (Node Stmt))
    (announce : List Ty → Option Ty → State → State)
    (checkBody : State → Checked (List (Node Stmt)) Ty) :
    State → Checked (List Param × List (Node Stmt)) Ty :=
  inScope fun st =>
    (checkParams params (st.bindTypeParams typeParams)).andThen body
      (fun types st =>
        match st.scopes.resolveOptional returns with
        | .error f => .fail f body st
        | .ok declared =>
          -- the returns are read off the checked body, so their ids are in the table
          (checkBody (announce types declared st)).whenDone fun _ body st =>
            ⟨(Rule.result st.table declared (OwnReturn.ofBody body)).map (.function types), body,
              st⟩)
      .mk

/-- A named function is known to its own body; an undeclared result is unknown there. -/
def announceFunction (name : Option (Node Ident)) (types : List Ty) (declared : Option Ty)
    (st : State) : State :=
  match name with
  | some n => st.bind n.value.symbol (.function types (declared.getD .unknown))
  | none => st

/-- Stands in for the check of a function while surveying: its signature, with no regard to its
body. -/
def surveyFunction (f : Function) (st : State) : Checked Function Ty :=
  match Rule.signature st.scopes f.typeParams f.params f.returns with
  | .error x => .fail x f st
  | .ok t => .succeed t f (st.bind (f.name.bind (·.value.symbol)) t)

end StructuralTyping.Checker
