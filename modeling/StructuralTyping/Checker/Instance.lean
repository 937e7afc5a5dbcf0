import StructuralTyping.Checker.State
import StructuralTyping.Checker.Rules

/-! # The instance of a class

The steps between the parts of a class: taking a number, surveying the fields, and fixing the type
of `self` before the methods are checked. -/

namespace StructuralTyping.Checker

/-- Whether a method is a member of the instance: constructors are not, and a field hides a method
of its name. -/
def isMember (fields : List Field) (m : Method) : Bool :=
  !(m.kind == .constructor || fields.any fun f => f.name == m.name.value.name)

/-- The declared types of the methods that are members of the instance. -/
def memberSignatures (scopes : Scopes) (fields : List Field) :
    List (Node Method) → Except Failure (List Field)
  | [] => .ok []
  | m :: rest =>
    if isMember fields m.value then do
      let t ← Rule.signature scopes m.value.typeParams m.value.params m.value.returns
      let members ← memberSignatures scopes fields rest
      .ok (⟨m.value.name.value.name, t⟩ :: members)
    else memberSignatures scopes fields rest

namespace State

/-- The symbol of the instance of the next class. -/
def nextSelf (st : State) : Symbol := .classSelf st.nextClass

/-- Takes the number of a class and reports the references to its instance.  The class is checked on
its own, without the survey of a class around it. -/
def enterClass (methods : List (Node Method)) (st : State) : State :=
  let self := st.nextSelf
  let st := { st with nextClass := st.nextClass + 1 }
  let st := (SelfReference.spans self methods).foldl
    (fun st span => st.emit (.selfReference span self)) st
  -- no class is entered in a first pass, so the events above are written down
  { st with survey := none }

/-- Begins the first pass over the methods, with the fields that are declared. -/
def beginSurvey (self : Symbol) (declared : List Field) (st : State) : State :=
  { st.bind (some self) .unknown with
    survey := some { self, fields := declared, firstPass := true } }

/-- Stops collecting the fields that are assigned through `self`. -/
def endSurvey (st : State) : State := { st with survey := none }

/-- Fixes the type of the instance and begins the second pass; the name of the class stands for an
instance too. -/
def beginMethods (self : Symbol) (name : Option (Node Ident)) (fields signatures : List Field)
    (st : State) : State :=
  let ty := Ty.object (fields ++ signatures)
  let st := ((st.note (.selfTyped self ty)).bind (some self) ty).bind
    (name.bind (·.value.symbol)) ty
  { st with survey := some { self, fields, firstPass := false } }

end State

end StructuralTyping.Checker
