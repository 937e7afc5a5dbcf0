import StructuralTyping.Checker.Call
import StructuralTyping.Checker.Callable
import StructuralTyping.Checker.Instance

/-! # Checking statements and expressions

The traversal that gives every node its type.  A part is checked before what contains it, parts in
the order of the source; the first fault ends the check of the statement, and what was recorded
until then stays.  The types themselves come from the rules of the constructs.

`receiver` is what `self` stands for.  The symbols of references to `self` are written into the tree
when the class is done, so that every part of the tree is checked as it came. -/

namespace StructuralTyping.Checker

mutual

/-- Checks an expression and records its type. -/
def checkExpr (receiver : Receiver) : Node Expr → State → Checked (Node Expr) Ty
  | ⟨span, e, slot⟩, st => recorded span slot (checkForm receiver span e st)

/-- Checks the form of an expression that stands at `span`. -/
def checkForm (receiver : Receiver) (span : Span) : Expr → State → Checked Expr Ty
  | .literal v, st => .succeed v.ty (.literal v) st
  | .ident i, st => .succeed (st.lookup (receiver.symbolOf i)) (.ident i) st
  | .call callee args, st =>
    (checkExpr receiver callee st).andThen args
      (fun calleeTy st =>
        (checkExprs receiver args st).conclude (Rule.call span callee args calleeTy))
      .call
  | .conditional test consequent alternate, st =>
    ((checkExpr receiver test st).conclude (Rule.condition test.span)).andThen
      (consequent, alternate)
      (fun _ st =>
        (checkStmt receiver consequent st).andThen alternate
          (fun t st =>
            (checkOptionalStmt receiver alternate st).conclude fun u => .ok (Rule.branches t u))
          .mk)
      fun test p => .conditional test p.1 p.2
  | .member base property, st =>
    (checkExpr receiver base st).andThen property
      (fun t st =>
        -- the name has a slot of its own, which gets the type of the property
        recorded property.span property.ty
          ⟨Rule.property base.span property.span t property.value.name, property.value, st⟩)
      .member
  | .index base position, st =>
    (checkExpr receiver base st).andThen position
      (fun t st =>
        (checkExpr receiver position st).conclude (Rule.index base.span position.span t))
      .index
  | .function f, st => (checkFunction f st).rebuild .function
  | .classDef c, st => (checkClass c st).rebuild .classDef
  | .assertion e ty, st =>
    ((checkExpr receiver e st).concludeWith fun found st =>
      (st.scopes.resolve ty).bind (Rule.assertion span found)).rebuild (.assertion · ty)
  | .throwing value, st =>
    ((checkExpr receiver value st).conclude fun _ => .ok .undefined).rebuild .throwing
  | .whileLoop test body, st =>
    ((checkExpr receiver test st).conclude (Rule.condition test.span)).andThen body
      (fun _ st =>
        (inScope (checkStmts receiver .undefined body) st).conclude fun _ => .ok .undefined)
      .whileLoop
  | .forLoop bindings test update body, st =>
    -- the bindings of a loop are visible in its head and its body, and the body is a scope again
    inScope (fun st =>
      (checkBindings receiver bindings st).andThen (test, update, body)
        (fun _ st =>
          ((checkOptional receiver test st).conclude (Rule.optionalCondition test)).andThen
            (update, body)
            (fun _ st =>
              (checkOptional receiver update st).andThen body
                (fun _ st =>
                  (inScope (checkStmts receiver .undefined body) st).conclude fun _ =>
                    .ok .undefined)
                .mk)
            .mk)
        fun bindings p => .forLoop bindings p.1 p.2.1 p.2.2) st
  | .returning value, st =>
    ((checkOptional receiver value st).conclude fun t => .ok (t.getD .undefined)).rebuild .returning
  | .attempt body handler cleanup, st =>
    (inScope (checkStmts receiver .undefined body) st).andThen (handler, cleanup)
      (fun _ st =>
        (checkHandler receiver handler st).andThen cleanup (fun _ => checkCleanup receiver cleanup)
          .mk)
      fun body p => .attempt body p.1 p.2
  | .array items, st =>
    ((checkExprs receiver items st).conclude fun ts => .ok (Rule.array ts)).rebuild .array
  | .object properties, st =>
    ((checkProperties receiver properties st).conclude fun entries =>
      .ok (.object (Field.merge entries))).rebuild .object
  | .assignment target value, st =>
    if target.value.isTarget then
      (checkExpr receiver target st).andThen value
        (fun targetTy st =>
          (checkExpr receiver value st).whenDone fun t value st =>
            -- the target keeps the type it was checked with until the value is accepted
            match Failure.unlessAssignable t targetTy value.span with
            | .error f => .fail f value st
            | .ok _ =>
              .succeed t value
                ((st.noteAssignment receiver target.value t).rebind receiver target.value t))
        .assignment
    else .fail ⟨.notATarget ":=", target.span⟩ (.assignment target value) st

/-- Checks a function; while surveying only its signature counts. -/
def checkFunction : Function → State → Checked Function Ty
  | ⟨name, typeParams, params, returns, body⟩, st =>
    if st.surveying then surveyFunction ⟨name, typeParams, params, returns, body⟩ st
    else
      (checkCallable typeParams params returns body (announceFunction name)
        (checkStmts none .undefined body) st).andThen name (named name)
        fun p name => ⟨name, typeParams, p.1, returns, p.2⟩

/-- Checks a class: its declared fields, the survey of its methods, and its methods again with the
type of the instance fixed.  While surveying another class it is passed over. -/
def checkClass : Class → State → Checked Class Ty
  | ⟨name, fields, methods⟩, st =>
    if st.surveying then .succeed .unknown ⟨name, fields, methods⟩ st
    else
      let self := st.nextSelf
      let members : Checked (List FieldDecl × List (Node Method)) Ty :=
        inScope (fun st =>
          (checkFields fields st).andThen methods
            (fun declared st =>
              -- first pass: a method that fails is passed over, and what it assigned until then
              -- counts
              let st := surveyMethods self methods (st.beginSurvey self (Field.merge declared))
              let found := st.surveyed
              let st := st.endSurvey
              match memberSignatures st.scopes found methods with
              | .error f => .fail f methods st
              | .ok signatures =>
                -- second pass, against the fields and signatures found so far
                (checkMethods self found methods
                  (st.beginMethods self name found signatures)).whenDone
                  fun entries methods st => .succeed (.object (st.surveyed ++ entries)) methods st)
            Prod.mk)
          (st.enterClass methods)
      -- the survey of a class around this one goes on where it was
      (members.mapState fun after => { after with survey := st.survey }).andThen name (named name)
        fun p name => ⟨name, p.1, SelfReference.link self p.2⟩

/-- Checks expressions in order. -/
def checkExprs (receiver : Receiver) :
    List (Node Expr) → State → Checked (List (Node Expr)) (List Ty)
  | [], st => .succeed [] [] st
  | e :: rest, st =>
    (checkExpr receiver e st).andThen rest
      (fun t st => (checkExprs receiver rest st).conclude fun ts => .ok (t :: ts)) .cons

/-- Checks an expression that may be missing; a missing one has no type and changes nothing. -/
def checkOptional (receiver : Receiver) :
    Option (Node Expr) → State → Checked (Option (Node Expr)) (Option Ty)
  | none, st => .succeed none none st
  | some e, st => ((checkExpr receiver e st).conclude fun t => .ok (some t)).rebuild some

/-- Checks a statement and records its type; a type alias has no value and records nothing. -/
def checkStmt (receiver : Receiver) : Node Stmt → State → Checked (Node Stmt) Ty
  | ⟨span, .expr e, slot⟩, st =>
    recorded span slot ((checkExpr receiver e st).rebuild .expr)
  | ⟨span, .block body, slot⟩, st =>
    recorded span slot ((inScope (checkStmts receiver .undefined body) st).rebuild .block)
  | ⟨span, .binding kind bindings body, slot⟩, st =>
    recorded span slot
      (inScope
        (fun st =>
          (checkBindings receiver bindings st).andThen body
            (fun _ => checkStmts receiver .undefined body) (.binding kind))
        (st.emit (.bindings span kind (bindings.map fun b => b.name.value.name))))
  | ⟨span, .typeAlias name typeParams ty, slot⟩, st =>
    match Rule.aliased st.scopes typeParams ty with
    | .error f => .fail f ⟨span, .typeAlias name typeParams ty, slot⟩ st
    | .ok t =>
      .succeed .undefined ⟨span, .typeAlias name typeParams ty, slot⟩
        ((st.note (.aliased name.value.name t)).defineAlias name.value.name t)

/-- Checks a statement that may be missing, as `checkOptional` does an expression. -/
def checkOptionalStmt (receiver : Receiver) :
    Option (Node Stmt) → State → Checked (Option (Node Stmt)) (Option Ty)
  | none, st => .succeed none none st
  | some s, st => ((checkStmt receiver s st).conclude fun t => .ok (some t)).rebuild some

/-- Checks statements in order; the type is that of the last one, `last` if there is none. -/
def checkStmts (receiver : Receiver) (last : Ty) :
    List (Node Stmt) → State → Checked (List (Node Stmt)) Ty
  | [], st => .succeed last [] st
  | s :: rest, st =>
    (checkStmt receiver s st).andThen rest (fun t => checkStmts receiver t rest) .cons

/-- Checks what is done in any case after an attempt. -/
def checkCleanup (receiver : Receiver) :
    Option (List (Node Stmt)) → State → Checked (Option (List (Node Stmt))) Ty
  | none, st => .succeed .undefined none st
  | some body, st =>
    ((inScope (checkStmts receiver .undefined body) st).conclude fun _ =>
      .ok .undefined).rebuild some

/-- Checks a handler; what it catches is unknown. -/
def checkHandler (receiver : Receiver) : Option Handler → State → Checked (Option Handler) Ty
  | none, st => .succeed .undefined none st
  | some ⟨param, body⟩, st =>
    inScope (fun st =>
      (named param .unknown st).andThen body (fun _ => checkStmts receiver .undefined body)
        fun param body => some ⟨param, body⟩) st

/-- Checks bindings in order, each in reach of the next. -/
def checkBindings (receiver : Receiver) : List Binding → State → Checked (List Binding) Unit
  | [], st => .succeed () [] st
  | ⟨name, declaredAs, init⟩ :: rest, st =>
    (checkExpr receiver init st).andThen (name, rest)
      (fun initTy st =>
        match Rule.binding st.scopes declaredAs initTy init.span with
        | .error f => .fail f (name, rest) st
        | .ok t =>
          let (name, st) :=
            ((st.note (.bound name.value.name t)).bind name.value.symbol t).recordName name t
          (checkBindings receiver rest st).rebuild fun rest => (name, rest))
      fun init p => ⟨p.1, declaredAs, init⟩ :: p.2

/-- Checks declared fields in order; the result has an entry for each of them. -/
def checkFields : List FieldDecl → State → Checked (List FieldDecl) (List Field)
  | [], st => .succeed [] [] st
  | ⟨name, declaredAs, init⟩ :: rest, st =>
    (checkOptional none init st).andThen (name, rest)
      (fun initTy st =>
        match Rule.field st.scopes declaredAs init initTy with
        | .error f => .fail f (name, rest) st
        | .ok t =>
          let (recordedName, st) := st.recordName name t
          ((checkFields rest st).conclude fun entries =>
            .ok (⟨name.value.name, t⟩ :: entries)).rebuild fun rest => (recordedName, rest))
      fun init p => ⟨p.1, declaredAs, init⟩ :: p.2

/-- Goes through methods for the fields that they assign.  A fault ends the survey of a method; it
is only noted, since it shows again when the method is checked. -/
def surveyMethods (self : Symbol) : List (Node Method) → State → State
  | [], st => st
  | ⟨_, ⟨name, _, typeParams, params, _, body⟩, _⟩ :: rest, st =>
    let surveyed := inScope (fun st =>
      (checkParams params (st.bindTypeParams typeParams)).andThen body
        (fun _ => checkStmts (some self) .undefined body) Prod.mk) st
    surveyMethods self rest
      (match surveyed.result with
        | .ok _ => surveyed.state
        | .error f => surveyed.state.note (.surveyStopped name.value.name f.fault))

/-- Checks methods in order; the result has an entry for each that is a member of the instance. -/
def checkMethods (self : Symbol) (fields : List Field) :
    List (Node Method) → State → Checked (List (Node Method)) (List Field)
  | [], st => .succeed [] [] st
  | ⟨span, ⟨name, kind, typeParams, params, returns, body⟩, slot⟩ :: rest, st =>
    if kind = .constructor ∧ returns.isSome then
      .fail ⟨.annotatedConstructor, span⟩
        (⟨span, ⟨name, kind, typeParams, params, returns, body⟩, slot⟩ :: rest) st
    else
      (recorded span slot
        ((checkCallable typeParams params returns body (fun _ _ st => st)
          (checkStmts (some self) .undefined body) st).rebuild
          fun p => ⟨name, kind, typeParams, p.1, returns, p.2⟩)).andThen rest
        (fun t st =>
          (checkMethods self fields rest st).conclude fun entries =>
            .ok
              (if isMember fields ⟨name, kind, typeParams, params, returns, body⟩ then
                ⟨name.value.name, t⟩ :: entries
              else entries))
        .cons

/-- Checks properties in order; the result has an entry for each of them. -/
def checkProperties (receiver : Receiver) :
    List Property → State → Checked (List Property) (List Field)
  | [], st => .succeed [] [] st
  | ⟨key, value⟩ :: rest, st =>
    (checkExpr receiver value st).andThen rest
      (fun t st =>
        (checkProperties receiver rest st).conclude fun entries =>
          .ok (⟨key.value.name, t.widen⟩ :: entries))
      fun value rest => ⟨key, value⟩ :: rest

end

end StructuralTyping.Checker
