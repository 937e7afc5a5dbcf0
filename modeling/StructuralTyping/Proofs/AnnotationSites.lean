import StructuralTyping.Proofs.ClassStages
import StructuralTyping.Session

/-! # Where annotations of bindings are resolved

What an annotation stands for depends on the scopes in which it is resolved: on the type parameters
around it, and on the aliases that have been defined until then.  `Sites` goes along with a check
and lists its bindings, each with the scopes in which the check resolves the annotation.  All states
are those of the check itself, and where the check stops there are no more sites.

The order is that of the parts of a tree: the bindings of a form come before those inside of it.
Of the two passes over the methods of a class only the second one counts.
-/
namespace StructuralTyping

/-- What is found on going on from an edit; nothing if the edit has failed. -/
def Edit.onward {σ ε τ α β : Type} (e : Edit σ ε τ α) (next : α → σ → List β) : List β :=
  match e.result with
  | .ok a => next a e.state
  | .error _ => []

/-- After a success the rest goes on from the state that it left. -/
theorem Edit.onward_of_ok {σ ε τ α β : Type} {e : Edit σ ε τ α} {a : α} (ok : e.result = .ok a)
    (next : α → σ → List β) : e.onward next = next a e.state := by
  rw [onward, ok]

/-- A binding and the scopes in which its annotation is resolved. -/
structure Site where
  binding : Binding
  scopes : Scopes

/-- Whether it is the identifier with this symbol that is bound. -/
def Site.binds (x : Symbol) (site : Site) : Bool := site.binding.name.value.symbol = some x

namespace Checker

/-- The name of a binding is bound and its type recorded. -/
def State.declare (name : Node Ident) (t : Ty) (st : State) : Node Ident × State :=
  ((st.note (.bound name.value.name t)).bind name.value.symbol t).recordName name t

namespace Sites

/-- The bindings in a row themselves.  An annotation is resolved after the initial value is checked,
and its name is bound before the next one. -/
def row (receiver : Receiver) : List Binding → State → List Site
  | [], _ => []
  | b :: rest, st =>
    (checkExpr receiver b.init st).onward fun initTy st =>
      ⟨b, st.scopes⟩ ::
        match Rule.binding st.scopes b.declaredAs initTy b.init.span with
        | .error _ => []
        | .ok t => row receiver rest (st.declare b.name t).2

/-- The body of a function or method, in the state that its parameters and its declared result lead
to. -/
def callable (typeParams : List (Node Ident)) (params : List Param)
    (returns : Option (Node TypeExpr)) (announce : List Ty → Option Ty → State → State)
    (body : State → List Site) (st : State) : List Site :=
  (checkParams params (st.push.bindTypeParams typeParams)).onward fun types st =>
    match st.scopes.resolveOptional returns with
    | .error _ => []
    | .ok declared => body (announce types declared st)

/-- The second pass over the methods of a class, in the state that the first one leads to. -/
def secondPass (self : Symbol) (name : Option (Node Ident)) (declared : List Field)
    (ms : List (Node Method)) (methods : State → List Site) (st : State) : List Site :=
  let st := surveyMethods self ms (st.beginSurvey self (Field.merge declared))
  match memberSignatures st.endSurvey.scopes st.surveyed ms with
  | .error _ => []
  | .ok signatures => methods (st.endSurvey.beginMethods self name st.surveyed signatures)

mutual

/-- The sites in an expression that is checked from a state. -/
def node (receiver : Receiver) : Node Expr → State → List Site
  | ⟨_, e, _⟩, st => inside receiver e st

/-- The sites in a form of expression. -/
def inside (receiver : Receiver) : Expr → State → List Site
  | .literal _, _ => []
  | .ident _, _ => []
  | .call callee args, st =>
    node receiver callee st ++
      (checkExpr receiver callee st).onward fun _ st => nodes receiver args st
  | .conditional test consequent alternate, st =>
    node receiver test st ++
      ((checkExpr receiver test st).conclude (Rule.condition test.span)).onward fun _ st =>
        stmt receiver consequent st ++
          (checkStmt receiver consequent st).onward fun _ st => optionalStmt receiver alternate st
  | .member base _, st => node receiver base st
  | .index base position, st =>
    node receiver base st ++
      (checkExpr receiver base st).onward fun _ st => node receiver position st
  | .function ⟨name, typeParams, params, returns, body⟩, st =>
    callable typeParams params returns (announceFunction name) (stmts none body) st
  | .classDef ⟨name, fields, ms⟩, st =>
    fieldDecls fields (st.enterClass ms).push ++
      (checkFields fields (st.enterClass ms).push).onward fun declared =>
        secondPass st.nextSelf name declared ms (methods st.nextSelf ms)
  | .assertion e _, st => node receiver e st
  | .throwing value, st => node receiver value st
  | .whileLoop test body, st =>
    node receiver test st ++
      ((checkExpr receiver test st).conclude (Rule.condition test.span)).onward fun _ st =>
        stmts receiver body st.push
  | .forLoop bs test update body, st =>
    row receiver bs st.push ++
      (bindings receiver bs st.push ++
        (checkBindings receiver bs st.push).onward fun _ st =>
          optional receiver test st ++
            ((checkOptional receiver test st).conclude (Rule.optionalCondition test)).onward
              fun _ st =>
                optional receiver update st ++
                  (checkOptional receiver update st).onward fun _ st => stmts receiver body st.push)
  | .returning value, st => optional receiver value st
  | .attempt body handler cleanup, st =>
    stmts receiver body st.push ++
      (inScope (checkStmts receiver .undefined body) st).onward fun _ st =>
        optionalHandler receiver handler st ++
          (checkHandler receiver handler st).onward fun _ st => optionalBody receiver cleanup st
  | .array items, st => nodes receiver items st
  | .object ps, st => properties receiver ps st
  | .assignment target value, st =>
    node receiver target st ++
      (checkExpr receiver target st).onward fun _ st => node receiver value st

/-- The sites in expressions that are checked one after the other. -/
def nodes (receiver : Receiver) : List (Node Expr) → State → List Site
  | [], _ => []
  | e :: rest, st =>
    node receiver e st ++ (checkExpr receiver e st).onward fun _ st => nodes receiver rest st

/-- The sites in an expression that may be absent. -/
def optional (receiver : Receiver) : Option (Node Expr) → State → List Site
  | none, _ => []
  | some e, st => node receiver e st

/-- The sites in a statement.  A binding form opens a scope for its bindings and its body. -/
def stmt (receiver : Receiver) : Node Stmt → State → List Site
  | ⟨_, .expr e, _⟩, st => node receiver e st
  | ⟨_, .block body, _⟩, st => stmts receiver body st.push
  | ⟨span, .binding kind bs body, _⟩, st =>
    let st := (st.emit (.bindings span kind (bs.map fun b => b.name.value.name))).push
    row receiver bs st ++
      (bindings receiver bs st ++
        (checkBindings receiver bs st).onward fun _ st => stmts receiver body st)
  | ⟨_, .typeAlias _ _ _, _⟩, _ => []

/-- The sites in a statement that may be absent. -/
def optionalStmt (receiver : Receiver) : Option (Node Stmt) → State → List Site
  | none, _ => []
  | some s, st => stmt receiver s st

/-- The sites in statements that are checked one after the other. -/
def stmts (receiver : Receiver) : List (Node Stmt) → State → List Site
  | [], _ => []
  | s :: rest, st =>
    stmt receiver s st ++ (checkStmt receiver s st).onward fun _ st => stmts receiver rest st

/-- The sites in what is done in any case after an attempt. -/
def optionalBody (receiver : Receiver) : Option (List (Node Stmt)) → State → List Site
  | none, _ => []
  | some body, st => stmts receiver body st.push

/-- The sites in the initial values of bindings in a row. -/
def bindings (receiver : Receiver) : List Binding → State → List Site
  | [], _ => []
  | ⟨name, declaredAs, init⟩ :: rest, st =>
    node receiver init st ++
      (checkExpr receiver init st).onward fun initTy st =>
        match Rule.binding st.scopes declaredAs initTy init.span with
        | .error _ => []
        | .ok t => bindings receiver rest (st.declare name t).2

/-- The sites in the initial values of declared fields. -/
def fieldDecls : List FieldDecl → State → List Site
  | [], _ => []
  | ⟨name, declaredAs, init⟩ :: rest, st =>
    optional none init st ++
      (checkOptional none init st).onward fun initTy st =>
        match Rule.field st.scopes declaredAs init initTy with
        | .error _ => []
        | .ok t => fieldDecls rest (st.recordName name t).2

/-- The sites in the bodies of methods. -/
def methods (self : Symbol) : List (Node Method) → State → List Site
  | [], _ => []
  | ⟨span, ⟨name, kind, typeParams, params, returns, body⟩, slot⟩ :: rest, st =>
    if kind = .constructor ∧ returns.isSome then []
    else
      callable typeParams params returns (fun _ _ st => st) (stmts (some self) body) st ++
        (checkMethod self ⟨span, ⟨name, kind, typeParams, params, returns, body⟩, slot⟩ st).onward
          fun _ st => methods self rest st

/-- The sites in a handler. -/
def optionalHandler (receiver : Receiver) : Option Handler → State → List Site
  | none, _ => []
  | some ⟨param, body⟩, st => stmts receiver body (named param .unknown st.push).state

/-- The sites in the values of properties. -/
def properties (receiver : Receiver) : List Property → State → List Site
  | [], _ => []
  | ⟨_, value⟩ :: rest, st =>
    node receiver value st ++
      (checkExpr receiver value st).onward fun _ st => properties receiver rest st

end

section

variable {receiver : Receiver} {name : Node Ident} {declaredAs : Option (Node TypeExpr)}
  {init : Node Expr} {st : State} {initTy t : Ty}

/-- A binding that is accepted is a site, and the row goes on behind it. -/
theorem row_cons (checked : (checkExpr receiver init st).result = .ok initTy)
    (accepted : Rule.binding (checkExpr receiver init st).state.scopes declaredAs initTy init.span =
      .ok t) (rest : List Binding) :
    row receiver (⟨name, declaredAs, init⟩ :: rest) st =
      ⟨⟨name, declaredAs, init⟩, (checkExpr receiver init st).state.scopes⟩ ::
        row receiver rest ((checkExpr receiver init st).state.declare name t).2 := by
  rw [row, Edit.onward_of_ok checked, accepted]

/-- The sites of an accepted binding come before those of the bindings behind it, which see its
name. -/
theorem bindings_cons (checked : (checkExpr receiver init st).result = .ok initTy)
    (accepted : Rule.binding (checkExpr receiver init st).state.scopes declaredAs initTy init.span =
      .ok t) (rest : List Binding) :
    bindings receiver (⟨name, declaredAs, init⟩ :: rest) st =
      node receiver init st ++
        bindings receiver rest ((checkExpr receiver init st).state.declare name t).2 := by
  rw [bindings, Edit.onward_of_ok checked, accepted]

end

end Sites

end Checker

/-- The sites in the statements of a file.  A statement that fails does not keep the next one from
being checked. -/
def Session.sites (file : String) : List (Node Stmt) → Session → List Site
  | [], _ => []
  | n :: rest, s => Checker.Sites.stmt none n s.state ++ sites file rest (s.checkStmt file n).2

/-- The sites in a program that is checked on its own. -/
def Program.sites (p : Program) : List Site := Session.sites p.file p.body {}

end StructuralTyping
