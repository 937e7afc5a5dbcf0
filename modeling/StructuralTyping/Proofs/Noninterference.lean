import StructuralTyping.Proofs.Mirroring
import StructuralTyping.Proofs.TableNumbering

/-! # Marks of the input do not influence a check

The check of every kind of part mirrors that of the bare part (`Mirrors.checkExpr`,
`Mirrors.checkStmt` and their companions).  So the type ids that a program comes with have no
influence on its check, and are either overwritten or kept
(`Session.check_independent_of_typeIds`).
-/
namespace StructuralTyping
namespace Checker

open Relabeling (bare)

/-! ## Every part of a program -/

namespace Mirrors

/-- Recording the type of a statement. -/
theorem recordedStmt {r pass : Bool} {span : Span} {s : Stmt} {e e₀ : Checked Stmt Ty}
    (slot : Option TypeId) (h : Mirrors (Kind.insideStmt r) pass s e e₀) :
    Mirrors (Kind.stmt r) pass ⟨span, s, slot⟩ (Checker.recorded span slot e)
      (Checker.recorded span none e₀) :=
  h.recorded slot (fun _ _ => rfl) (fun _ _ new h => Overwritten.cons slot new h)
    fun _ _ _ _ h => h

/-- Recording the type of a method. -/
theorem recordedMethod {r pass : Bool} {span : Span} {m : Method} {e e₀ : Checked Method Ty}
    (slot : Option TypeId) (h : Mirrors (Kind.method r) pass m e e₀) :
    Mirrors (Kind.methodNode r) pass ⟨span, m, slot⟩ (Checker.recorded span slot e)
      (Checker.recorded span none e₀) :=
  h.recorded slot (fun _ _ => rfl) (fun _ _ new h => Overwritten.cons slot new h)
    fun _ _ _ _ _ => rfl

/-- A return has the id of its value, which was recorded last in both trees. -/
theorem returned {receiver : Receiver} {value : Option (Node Expr)} {st : State} {span : Span}
    (h : Mirrors (Kind.optional receiver.isSome) st.surveying value
      (Checker.checkOptional receiver value st)
      (Checker.checkOptional receiver (bare.optional receiver.isSome value) st)) :
    Mirrors (Kind.returned receiver.isSome span) st.surveying value
      (Checker.checkOptional receiver value st)
      (Checker.checkOptional receiver (bare.optional receiver.isSome value) st) where
  result := h.result
  state := h.state
  surveying := h.surveying
  tree := ⟨h.tree.shape, h.tree.slots⟩
  returns real a ha := by
    have slot := checkOptional_ty ha (h.surveying.trans real)
    have slot₀ := checkOptional_ty (h.result ▸ ha) (h.state ▸ h.surveying.trans real)
    have same : (Checker.checkOptional receiver value st).tree.bind (·.ty) =
        (Checker.checkOptional receiver (bare.optional receiver.isSome value) st).tree.bind
          (·.ty) := by
      rw [slot, slot₀, h.state]
      cases value <;> rfl
    exact congrArg₂ (fun id sites => OwnReturn.mk span id :: sites) same (h.returns real a ha)

/-- A value is assigned; where it stands is the same in both trees. -/
theorem assigned {pass : Bool} {value : Node Expr} {span : Span} {e e₀ : Checked (Node Expr) Ty}
    (receiver : Receiver) (targetTy : Ty) (target : Expr)
    (h : Mirrors (Kind.expr receiver.isSome) pass value e e₀) (hspan : e.tree.span = span)
    (hspan₀ : e₀.tree.span = span) :
    Mirrors (Kind.expr receiver.isSome) pass value
      (e.whenDone fun t value st =>
        match Failure.unlessAssignable t targetTy value.span with
        | .error f => .fail f value st
        | .ok _ =>
          .succeed t value ((st.noteAssignment receiver target t).rebind receiver target t))
      (e₀.whenDone fun t value st =>
        match Failure.unlessAssignable t targetTy value.span with
        | .error f => .fail f value st
        | .ok _ =>
          .succeed t value
            ((st.noteAssignment receiver (bare.inside receiver.isSome target) t).rebind receiver
              (bare.inside receiver.isSome target) t)) := by
  have tree (target : Expr) (t : Ty) (value : Node Expr) (st : State) :
      (match Failure.unlessAssignable t targetTy value.span with
        | .error f => (.fail f value st : Checked (Node Expr) Ty)
        | .ok _ => .succeed t value
          ((st.noteAssignment receiver target t).rebind receiver target t)).tree = value := by
    split <;> rfl
  refine h.whenDone (tree target) (tree _) (fun t value st => ?_) fun t _ => ?_
  · split
    · rfl
    · exact (State.rebind_surveying _ _ _ _).trans (State.noteAssignment_surveying _ _ _ _)
  · rw [hspan, hspan₀, State.noteAssignment_relabeled, State.rebind_relabeled]
    split <;> exact ⟨rfl, rfl⟩

mutual

/-- An expression is checked like its bare form, whatever its marks are. -/
theorem checkExpr (receiver : Receiver) : ∀ (n : Node Expr) (st : State),
    Mirrors (Kind.expr receiver.isSome) st.surveying n (Checker.checkExpr receiver n st)
      (Checker.checkExpr receiver (bare.node receiver.isSome n) st)
  | ⟨span, e, slot⟩, st => by
    refine .recorded slot (checkForm receiver span e st) (fun _ _ => rfl)
      (fun _ _ new h => Overwritten.cons slot new h) fun x x₀ _ _ h => ?_
    cases x <;> cases x₀ <;> exact h

theorem checkForm (receiver : Receiver) (span : Span) : ∀ (e : Expr) (st : State),
    Mirrors (Kind.form receiver.isSome span) st.surveying e (Checker.checkForm receiver span e st)
      (Checker.checkForm receiver span (bare.inside receiver.isSome e) st)
  | .literal _, _ => .kept rfl fun _ _ => rfl
  | .ident i, st => by
    rw [Relabeling.inside, Checker.checkForm, Checker.checkForm, Receiver.symbolOf_relabeled]
    exact .kept rfl fun _ _ => rfl
  | .call callee args, st => by
    rw [Relabeling.inside, Checker.checkForm, Checker.checkForm, Rule.call_relabeled]
    exact (checkExpr receiver callee st).andThen
      (fun _ st _ => (checkExprs receiver args st).conclude rfl)
      (fun h h' => ⟨congrArg₂ Expr.call h.shape h'.shape, h.slots.append h'.slots⟩)
      SameReturns.append
  | .conditional test consequent alternate, st => by
    rw [Relabeling.inside, Checker.checkForm, Checker.checkForm, Relabeling.node_span]
    exact ((checkExpr receiver test st).conclude rfl).andThen
      (fun _ st _ => (checkStmt receiver consequent st).andThenPair
        fun _ st _ => (checkOptionalStmt receiver alternate st).conclude rfl)
      (fun h h' => ⟨congrArg₂ (fun t (p : _ × _) => Expr.conditional t p.1 p.2) h.shape h'.shape,
        h.slots.append (h'.slots.1.append h'.slots.2)⟩)
      SameReturns.append
  | .member base property, st => by
    rw [Relabeling.inside, Checker.checkForm, Checker.checkForm, Relabeling.node_span]
    -- the name of the property has a slot of its own, recorded apart from the whole
    have found (result : Except Failure Ty) (st : State) :
        Mirrors Kind.name st.surveying property
          (Checker.recorded property.span property.ty ⟨result, property.value, st⟩)
          (Checker.recorded property.span none ⟨result, property.value, st⟩) :=
      .recorded property.ty (K := .plain Ident) (.kept rfl fun _ _ => rfl) (fun _ _ => rfl)
        (fun _ _ _ _ => Overwritten.nil.cons _ _) fun _ _ _ _ _ => rfl
    exact (checkExpr receiver base st).andThen (fun t st _ => found _ st)
      (fun h h' => ⟨congrArg₂ Expr.member h.shape h'.shape, h.slots.append h'.slots⟩)
      fun h _ => h
  | .index base position, st => by
    rw [Relabeling.inside, Checker.checkForm, Checker.checkForm, Relabeling.node_span,
      Relabeling.node_span]
    exact (checkExpr receiver base st).andThen
      (fun _ st _ => (checkExpr receiver position st).conclude rfl)
      (fun h h' => ⟨congrArg₂ Expr.index h.shape h'.shape, h.slots.append h'.slots⟩)
      SameReturns.append
  | .function f, st => by
    exact (checkFunction f st).rebuild
      (fun h => ⟨congrArg Expr.function h.shape, h.slots⟩) fun _ => rfl
  | .classDef c, st => by
    exact (checkClass c st).rebuild
      (fun h => ⟨congrArg Expr.classDef h.shape, h.slots⟩) fun _ => rfl
  | .assertion e ty, st => by
    rw [Relabeling.inside, Checker.checkForm, Checker.checkForm]
    exact ((checkExpr receiver e st).concludeWith
      (funext fun found => funext fun st => by rw [Scopes.resolve_relabeled])).rebuild
      (fun h => ⟨congrArg (Expr.assertion · (bare.typeExpr ty)) h.shape,
        h.slots.append (Kind.typeExpr.kept ty)⟩)
      fun h => h
  | .throwing value, st =>
    ((checkExpr receiver value st).conclude rfl).rebuild
      (fun h => ⟨congrArg Expr.throwing h.shape, h.slots⟩) fun h => h
  | .whileLoop test body, st => by
    rw [Relabeling.inside, Checker.checkForm, Checker.checkForm, Relabeling.node_span]
    exact ((checkExpr receiver test st).conclude rfl).andThen
      (fun _ st _ => (inScope (checkStmts receiver _ body st.push)).conclude rfl)
      (fun h h' => ⟨congrArg₂ Expr.whileLoop h.shape h'.shape, h.slots.append h'.slots⟩)
      SameReturns.append
  | .forLoop bindings test update body, st => by
    rw [Relabeling.inside, Checker.checkForm, Checker.checkForm, Rule.optionalCondition_relabeled]
    exact inScope ((checkBindings receiver bindings st.push).andThen
      (fun _ st _ => ((checkOptional receiver test st).conclude rfl).andThenPair
        fun _ st _ => (checkOptional receiver update st).andThenPair
          fun _ st _ => (inScope (checkStmts receiver _ body st.push)).conclude rfl)
      (fun h h' => ⟨congrArg₂ (fun b (p : _ × _ × _) => Expr.forLoop b p.1 p.2.1 p.2.2) h.shape
        h'.shape, h.slots.append (h'.slots.1.append (h'.slots.2.1.append h'.slots.2.2))⟩)
      SameReturns.append)
  | .returning value, st =>
    -- the one place where a slot is read later, so `returned` keeps what was written
    ((returned (checkOptional receiver value st)).conclude rfl).rebuild
      (fun h => ⟨congrArg Expr.returning h.shape, h.slots⟩) fun h => h
  | .attempt body handler cleanup, st => by
    rw [Relabeling.inside, Checker.checkForm, Checker.checkForm]
    exact (inScope (checkStmts receiver _ body st.push)).andThen
      (fun _ st _ => (checkHandler receiver handler st).andThenPair
        fun _ st _ => checkCleanup receiver cleanup st)
      (fun h h' => ⟨congrArg₂ (fun b (p : _ × _) => Expr.attempt b p.1 p.2) h.shape h'.shape,
        h.slots.append (h'.slots.1.append h'.slots.2)⟩)
      SameReturns.append
  | .array items, st =>
    ((checkExprs receiver items st).conclude rfl).rebuild
      (fun h => ⟨congrArg Expr.array h.shape, h.slots⟩) fun h => h
  | .object properties, st =>
    ((checkProperties receiver properties st).conclude rfl).rebuild
      (fun h => ⟨congrArg Expr.object h.shape, h.slots⟩) fun h => h
  | .assignment target value, st => by
    rw [Relabeling.inside, Checker.checkForm, Checker.checkForm, Relabeling.node_value,
      Relabeling.inside_isTarget, Relabeling.node_span]
    split
    · exact (checkExpr receiver target st).andThen
        (fun targetTy st _ => assigned receiver targetTy target.value (checkExpr receiver value st)
          (checkExpr_span receiver value st)
          ((checkExpr_span receiver _ st).trans (bare.node_span _ value)))
        (fun h h' => ⟨congrArg₂ Expr.assignment h.shape h'.shape, h.slots.append h'.slots⟩)
        SameReturns.append
    · exact .failed rfl

theorem checkFunction : ∀ (f : Function) (st : State),
    Mirrors Kind.function st.surveying f (Checker.checkFunction f st)
      (Checker.checkFunction (bare.function f) st)
  | ⟨name, typeParams, params, returns, body⟩, st => by
    rw [Relabeling.function, Checker.checkFunction, Checker.checkFunction]
    split
    · unfold surveyFunction
      rw [Rule.signature_relabeled]
      cases Rule.signature st.scopes typeParams params returns with
      | error f => exact .failed rfl
      | ok t =>
        have symbol : (bare.optionalName name).bind (·.value.symbol) =
            name.bind (·.value.symbol) := by cases name <;> rfl
        dsimp only
        rw [symbol]
        exact .kept (State.bind_surveying _ _ _) fun _ _ => rfl
    · rename_i real
      have real : st.surveying = false := by simpa using real
      rw [announceFunction_relabeled, real]
      refine (checkCallable (announceFunction_surveying name)
        (fun st => checkStmts none .undefined body st) real).andThen
        (fun t st _ => named name t st) (fun h h' => ⟨?_, ?_⟩) fun _ _ => rfl
      · exact congrArg₂ (fun name (p : _ × _) => Function.mk name (bare.names typeParams) p.1
          (bare.optionalTypeExpr returns) p.2) h'.shape h.shape
      · exact h'.slots.append ((Kind.names.kept typeParams).append
          (h.slots.1.append ((Kind.annotation.kept returns).append h.slots.2)))

theorem checkClass : ∀ (c : Class) (st : State),
    Mirrors Kind.classDef st.surveying c (Checker.checkClass c st)
      (Checker.checkClass (bare.classDef c) st)
  | ⟨name, fields, methods⟩, outer => by
    rw [Relabeling.bare_classDef, Checker.checkClass, Checker.checkClass]
    split
    · exact .kept rfl fun _ _ => rfl
    · dsimp only
      rw [State.enterClass_relabeled]
      refine (leaveClass (inScope ((checkFields fields _).andThenPair fun declared st pass => ?_))
        outer).andThen (fun t st _ => named name t st) (fun {x x₀ _ _} h h' => ⟨?_, ?_⟩)
        fun _ _ => rfl
      · have real : st.surveying = false := pass
        rw [surveyMethods outer.nextSelf methods, memberSignatures_relabeled, real]
        split
        · exact .failed rfl
        · rw [State.beginMethods_relabeled]
          exact .whenDone (checkMethods _ _ methods _ rfl) (fun _ _ _ => rfl) (fun _ _ _ => rfl)
            (fun _ _ _ => rfl) fun _ _ => ⟨rfl, rfl⟩
      · -- linking writes only what a bare tree does not have
        show bare.classDef ⟨_, x.1, SelfReference.link outer.nextSelf x.2⟩ = _
        rw [Relabeling.bare_classDef, SelfReference.link_eq,
          Relabeling.methods_absorb (Relabeling.bare_absorbs_linking _) id]
        exact congrArg₂ (fun name (p : _ × _) => Class.mk name p.1 p.2) h'.shape h.shape
      · show Overwritten (_ ++ (_ ++ Slots.methods (SelfReference.link outer.nextSelf x₀.2))) _
          (_ ++ (_ ++ Slots.methods (SelfReference.link outer.nextSelf x.2)))
        rw [SelfReference.slots_link, SelfReference.slots_link]
        exact h'.slots.append (h.slots.1.append h.slots.2)

theorem checkExprs (receiver : Receiver) : ∀ (es : List (Node Expr)) (st : State),
    Mirrors (Kind.exprs receiver.isSome) st.surveying es (Checker.checkExprs receiver es st)
      (Checker.checkExprs receiver (bare.nodes receiver.isSome es) st)
  | [], _ => .kept rfl fun _ _ => rfl
  | e :: rest, st =>
    (checkExpr receiver e st).andThen (fun _ st _ => (checkExprs receiver rest st).conclude rfl)
      (fun h h' => ⟨congrArg₂ List.cons h.shape h'.shape, h.slots.append h'.slots⟩)
      SameReturns.append

theorem checkOptional (receiver : Receiver) : ∀ (e : Option (Node Expr)) (st : State),
    Mirrors (Kind.optional receiver.isSome) st.surveying e (Checker.checkOptional receiver e st)
      (Checker.checkOptional receiver (bare.optional receiver.isSome e) st)
  | none, _ => .kept rfl fun _ _ => rfl
  | some e, st =>
    ((checkExpr receiver e st).conclude rfl).rebuild
      (fun h => ⟨congrArg some h.shape, h.slots⟩) fun h => h

theorem checkStmt (receiver : Receiver) : ∀ (n : Node Stmt) (st : State),
    Mirrors (Kind.stmt receiver.isSome) st.surveying n (Checker.checkStmt receiver n st)
      (Checker.checkStmt receiver (bare.stmt receiver.isSome n) st)
  | ⟨span, .expr e, slot⟩, st =>
    recordedStmt slot ((checkExpr receiver e st).rebuild
      (fun h => ⟨congrArg Stmt.expr h.shape, h.slots⟩) fun h => h)
  | ⟨span, .block body, slot⟩, st =>
    recordedStmt slot ((inScope (checkStmts receiver _ body st.push)).rebuild
      (fun h => ⟨congrArg Stmt.block h.shape, h.slots⟩) fun h => h)
  | ⟨span, .binding kind bindings body, slot⟩, st => by
    rw [Relabeling.stmt, Relabeling.insideStmt, Checker.checkStmt, Checker.checkStmt,
      Relabeling.bindings_names,
      ← State.emit_surveying (.bindings span kind (bindings.map fun b => b.name.value.name)) st]
    exact recordedStmt slot (inScope ((checkBindings receiver bindings (State.push _)).andThen
      (fun _ st _ => checkStmts receiver _ body st)
      (fun h h' => ⟨congrArg₂ (Stmt.binding kind) h.shape h'.shape, h.slots.append h'.slots⟩)
      SameReturns.append))
  | ⟨span, .typeAlias name typeParams ty, slot⟩, st => by
    rw [Relabeling.stmt, Relabeling.insideStmt, Checker.checkStmt, Checker.checkStmt,
      Rule.aliased_relabeled]
    cases Rule.aliased st.scopes typeParams ty with
    | error f => exact .failed rfl
    | ok t => exact .kept rfl fun _ _ => rfl

theorem checkOptionalStmt (receiver : Receiver) : ∀ (n : Option (Node Stmt)) (st : State),
    Mirrors (Kind.optionalStmt receiver.isSome) st.surveying n
      (Checker.checkOptionalStmt receiver n st)
      (Checker.checkOptionalStmt receiver (bare.optionalStmt receiver.isSome n) st)
  | none, _ => .kept rfl fun _ _ => rfl
  | some n, st =>
    ((checkStmt receiver n st).conclude rfl).rebuild
      (fun h => ⟨congrArg some h.shape, h.slots⟩) fun h => h

theorem checkStmts (receiver : Receiver) (last : Ty) : ∀ (body : List (Node Stmt)) (st : State),
    Mirrors (Kind.stmts receiver.isSome) st.surveying body
      (Checker.checkStmts receiver last body st)
      (Checker.checkStmts receiver last (bare.stmts receiver.isSome body) st)
  | [], _ => .kept rfl fun _ _ => rfl
  | n :: rest, st =>
    (checkStmt receiver n st).andThen (fun t st _ => checkStmts receiver t rest st)
      (fun h h' => ⟨congrArg₂ List.cons h.shape h'.shape, h.slots.append h'.slots⟩)
      SameReturns.append

theorem checkCleanup (receiver : Receiver) : ∀ (body : Option (List (Node Stmt))) (st : State),
    Mirrors (Kind.optionalBody receiver.isSome) st.surveying body
      (Checker.checkCleanup receiver body st)
      (Checker.checkCleanup receiver (bare.optionalBody receiver.isSome body) st)
  | none, _ => .kept rfl fun _ _ => rfl
  | some body, st =>
    ((inScope (checkStmts receiver _ body st.push)).conclude rfl).rebuild
      (fun h => ⟨congrArg some h.shape, h.slots⟩) fun h => h

theorem checkHandler (receiver : Receiver) : ∀ (handler : Option Handler) (st : State),
    Mirrors (Kind.handler receiver.isSome) st.surveying handler
      (Checker.checkHandler receiver handler st)
      (Checker.checkHandler receiver (bare.optionalHandler receiver.isSome handler) st)
  | none, _ => .kept rfl fun _ _ => rfl
  | some ⟨param, body⟩, st => by
    rw [Relabeling.optionalHandler, Checker.checkHandler, Checker.checkHandler]
    exact inScope ((named param .unknown st.push).andThen
      (fun _ st _ => checkStmts receiver _ body st)
      (fun h h' => ⟨congrArg₂ (fun param body => some (Handler.mk param body)) h.shape h'.shape,
        h.slots.append h'.slots⟩)
      fun _ h => h)

theorem checkBindings (receiver : Receiver) : ∀ (bs : List Binding) (st : State),
    Mirrors (Kind.bindings receiver.isSome) st.surveying bs (Checker.checkBindings receiver bs st)
      (Checker.checkBindings receiver (bare.bindings receiver.isSome bs) st)
  | [], _ => .kept rfl fun _ _ => rfl
  | ⟨name, declaredAs, init⟩ :: rest, st => by
    rw [Relabeling.bindings, Checker.checkBindings, Checker.checkBindings, Relabeling.node_span]
    refine (checkExpr receiver init st).andThen
      (show ∀ _ st, _ → Mirrors (Kind.name.pair (Kind.bindings receiver.isSome))
        (State.surveying st) (name, rest) _ _ from fun initTy st _ => ?_)
      (fun h h' => ⟨?_, ?_⟩) SameReturns.append
    · rw [Rule.binding_relabeled]
      split
      · exact .failed rfl
      · rename_i t _
        have pass : ((st.note (.bound name.value.name t)).bind name.value.symbol t).surveying =
            st.surveying := State.bind_surveying _ _ _
        rw [← pass]
        exact afterName (Kind.name.pair (Kind.bindings receiver.isSome)) Prod.mk Prod.mk
          (fun st => checkBindings receiver rest st)
          (fun h h' => ⟨congrArg₂ Prod.mk h.shape h'.shape, h.slots, h'.slots⟩) fun h => h
    · exact congrArg₂ (fun init (p : _ × _) =>
        Binding.mk p.1 (bare.optionalTypeExpr declaredAs) init :: p.2) h.shape h'.shape
    · exact h'.slots.1.append
        ((Kind.annotation.kept declaredAs).append (h.slots.append h'.slots.2))

theorem checkFields : ∀ (fs : List FieldDecl) (st : State),
    Mirrors Kind.fields st.surveying fs (Checker.checkFields fs st)
      (Checker.checkFields (bare.fieldDecls fs) st)
  | [], _ => .kept rfl fun _ _ => rfl
  | ⟨name, declaredAs, init⟩ :: rest, st => by
    rw [Relabeling.fieldDecls, Checker.checkFields, Checker.checkFields]
    refine (checkOptional none init st).andThen
      (show ∀ _ st, _ → Mirrors (Kind.name.pair Kind.fields) (State.surveying st) (name, rest) _ _
        from fun initTy st _ => ?_)
      (fun h h' => ⟨?_, ?_⟩) fun _ _ => rfl
    · rw [Rule.field_relabeled]
      split
      · exact .failed rfl
      · exact afterName (Kind.name.pair Kind.fields) Prod.mk Prod.mk
          (fun st => (checkFields rest st).conclude rfl)
          (fun h h' => ⟨congrArg₂ Prod.mk h.shape h'.shape, h.slots, h'.slots⟩) fun h => h
    · exact congrArg₂ (fun init (p : _ × _) =>
        FieldDecl.mk p.1 (bare.optionalTypeExpr declaredAs) init :: p.2) h.shape h'.shape
    · exact h'.slots.1.append
        ((Kind.annotation.kept declaredAs).append (h.slots.append h'.slots.2))

theorem surveyMethods (self : Symbol) : ∀ (ms : List (Node Method)) (st : State),
    Checker.surveyMethods self (bare.methods true ms) st = Checker.surveyMethods self ms st
  | [], _ => rfl
  | ⟨_, ⟨name, _, typeParams, params, _, body⟩, _⟩ :: rest, st => by
    have method := (checkParams params (st.push.bindTypeParams typeParams)).andThenPair
      fun _ st _ => checkStmts (some self) .undefined body st
    rw [Relabeling.methods, Relabeling.method, Checker.surveyMethods, Checker.surveyMethods,
      surveyMethods self rest]
    dsimp only [Checker.inScope, Edit.mapState]
    rw [State.bindTypeParams_relabeled]
    have hresult := method.result
    have hstate := method.state
    dsimp only [Kind.stmts, Kind.ofSlots, Option.isSome] at hresult hstate
    rw [← hresult, ← hstate]
    rfl

theorem checkMethods (self : Symbol) (fields : List Field) :
    ∀ (ms : List (Node Method)) (st : State), st.surveying = false →
      Mirrors (Kind.methods true) false ms (Checker.checkMethods self fields ms st)
        (Checker.checkMethods self fields (bare.methods true ms) st)
  | [], _, real => .kept real fun _ _ => rfl
  | ⟨span, ⟨name, kind, typeParams, params, returns, body⟩, slot⟩ :: rest, st, real => by
    -- an annotated constructor is refused on both sides
    have annotated : (bare.optionalTypeExpr returns).isSome = returns.isSome := Option.isSome_map
    rw [Relabeling.methods, Relabeling.method, Checker.checkMethods, Checker.checkMethods,
      annotated]
    split
    · exact .failed real
    · have method : Mirrors (Kind.method true) false
          ⟨name, kind, typeParams, params, returns, body⟩
          ((Checker.checkCallable typeParams params returns body (fun _ _ st => st)
            (Checker.checkStmts (some self) .undefined body) st).rebuild
            fun p => ⟨name, kind, typeParams, p.1, returns, p.2⟩)
          ((Checker.checkCallable (bare.names typeParams) (bare.params params)
            (bare.optionalTypeExpr returns) (bare.stmts true body) (fun _ _ st => st)
            (Checker.checkStmts (some self) .undefined (bare.stmts true body)) st).rebuild
            fun p => ⟨bare.name name, kind, bare.names typeParams, p.1,
              bare.optionalTypeExpr returns, p.2⟩) := by
        refine .rebuild (checkCallable (fun _ _ _ => rfl)
          (fun st => checkStmts (some self) .undefined body st) real) (fun h => ⟨?_, ?_⟩)
          fun _ => rfl
        · exact congrArg (fun p : _ × _ => Method.mk (bare.name name) kind (bare.names typeParams)
            p.1 (bare.optionalTypeExpr returns) p.2) h.shape
        · exact (Kind.name.kept name).append ((Kind.names.kept typeParams).append
            (h.slots.1.append ((Kind.annotation.kept returns).append h.slots.2)))
      refine .andThen (recordedMethod slot method)
        (fun _ st real => real ▸ (checkMethods self fields rest st real).conclude rfl)
        (fun {x x₀ _ _} h h' => ?_) ?_
      · obtain ⟨_, _, _⟩ := x
        obtain ⟨_, _, _⟩ := x₀
        exact ⟨congrArg₂ List.cons h.shape h'.shape, h.slots.append h'.slots⟩
      · exact fun _ _ => rfl

theorem checkProperties (receiver : Receiver) : ∀ (ps : List Property) (st : State),
    Mirrors (Kind.properties receiver.isSome) st.surveying ps
      (Checker.checkProperties receiver ps st)
      (Checker.checkProperties receiver (bare.properties receiver.isSome ps) st)
  | [], _ => .kept rfl fun _ _ => rfl
  | ⟨key, value⟩ :: rest, st => by
    rw [Relabeling.properties, Checker.checkProperties, Checker.checkProperties]
    exact (checkExpr receiver value st).andThen
      (fun _ st _ => (checkProperties receiver rest st).conclude rfl)
      (fun h h' => ⟨congrArg₂ (fun value rest => Property.mk (bare.name key) value :: rest)
        h.shape h'.shape, (Kind.name.kept key).append (h.slots.append h'.slots)⟩)
      SameReturns.append

end

end Mirrors
end Checker

/-! ## Programs -/

namespace Program

/-- The program without type ids. -/
def untyped (p : Program) : Program := { p with body := Relabeling.untyped.stmts false p.body }

/-- The program without type ids and without symbols on references to `self` in methods. -/
def bare (p : Program) : Program := { p with body := Relabeling.bare.stmts false p.body }

/-- What a program is without its marks does not depend on its type ids. -/
theorem bare_untyped (p : Program) : p.untyped.bare = p.bare := by
  have absorbs : Relabeling.bare.Absorbs Relabeling.untyped :=
    ⟨fun _ => rfl, fun _ => rfl, fun h => nomatch h⟩
  exact congrArg (fun body => { p with body }) (Relabeling.stmts_absorb absorbs id p.body)

/-- The slots of a bare program are empty, and there are as many. -/
theorem slots_bare (p : Program) : p.bare.slots = p.slots.map fun _ => none :=
  Slots.stmts_relabeled Relabeling.bare false p.body

end Program

namespace Session

open Checker

/-- The outcomes of checking a part and its bare form: the sessions agree, and the tree `r.1` is the
part `t` with some slots written over, as they are in `r₀.1`. -/
structure Mirrored {τ : Type} (K : Kind τ) (t : τ) (s : Session) (r r₀ : τ × Session) : Prop where
  session : r.2 = r₀.2
  surveying : r.2.state.surveying = s.state.surveying
  tree : Overlaid K t r.1 r₀.1

/-- A statement of a program and its bare form are checked alike. -/
theorem mirrored_checkStmt (file : String) (n : Node Stmt) (s : Session) :
    Mirrored (Kind.stmt false) n s (s.checkStmt file n)
      (s.checkStmt file (Relabeling.bare.stmt false n)) := by
  have h : Mirrors (Kind.stmt false) s.state.surveying n (Checker.checkStmt none n s.state)
      (Checker.checkStmt none (Relabeling.bare.stmt false n) s.state) :=
    Mirrors.checkStmt none n s.state
  unfold Session.checkStmt
  dsimp only
  rw [← h.result, ← h.state]
  split <;> exact ⟨rfl, h.surveying, h.tree⟩

/-- A body and its bare form are checked alike, statement by statement. -/
theorem mirrored_checkBody (file : String) (body : List (Node Stmt)) (s : Session) :
    Mirrored (Kind.stmts false) body s (checkBody file body s)
      (checkBody file (Relabeling.bare.stmts false body) s) := by
  induction body generalizing s with
  | nil => exact ⟨rfl, rfl, .kept _ _⟩
  | cons n rest ih =>
    have h₁ := mirrored_checkStmt file n s
    have h₂ := ih (s.checkStmt file n).2
    rw [Relabeling.stmts, checkBody, checkBody]
    dsimp only
    rw [← h₁.session]
    exact ⟨h₂.session, h₂.surveying.trans h₁.surveying,
      congrArg₂ List.cons h₁.tree.shape h₂.tree.shape, h₁.tree.slots.append h₂.tree.slots⟩

/-- The events of a check are those of the statements and a last one. -/
theorem events_check (p : Program) :
    (({} : Session).check p).2.events = (checkBody p.file p.body {}).2.events ++
      [.finished (({} : Session).check p).1 (({} : Session).check p).2.table] := by
  have real : (checkBody p.file p.body {}).2.state.surveying = false :=
    (mirrored_checkBody p.file p.body {}).surveying
  have journal : (({} : Session).check p).2.state.journal =
      (checkBody p.file p.body {}).2.state.journal.push
        (.event (.finished (({} : Session).check p).1 (({} : Session).check p).2.table)) := by
    have table : (({} : Session).check p).2.table = (checkBody p.file p.body {}).2.state.table :=
      State.emit_table _ _
    rw [table]
    show (State.emit _ _).journal = _
    rw [State.emit, real]
    rfl
  rw [events, Session.journal, journal, Array.toList_push, List.filterMap_append]
  rfl

/-- A program and its bare form are checked alike. -/
theorem mirrored_check (p : Program) :
    (({} : Session).check p).2.table = (({} : Session).check p.bare).2.table ∧
    (({} : Session).check p).2.diagnostics = (({} : Session).check p.bare).2.diagnostics ∧
    (({} : Session).check p).1.bare = p.bare ∧
    Overwritten (({} : Session).check p.bare).1.slots p.slots (({} : Session).check p).1.slots := by
  have h := mirrored_checkBody p.file p.body {}
  have table (p : Program) :
      (({} : Session).check p).2.table = (checkBody p.file p.body {}).2.state.table :=
    State.emit_table _ _
  refine ⟨?_, (congrArg Session.diagnostics h.session :), ?_, h.tree.slots⟩
  · rw [table, table]
    exact congrArg (·.state.table) h.session
  · exact congrArg (fun body => { p with body }) h.tree.shape

/-- The ids on the nodes of a bare program are those given out by its check. -/
theorem typeIds_check_bare (p : Program) :
    (({} : Session).check p.bare).1.typeIds.Perm
      (TypeTable.idsFrom 0 (({} : Session).check p.bare).2.table.size) := by
  have blank : Blank p.bare.slots := by
    rw [p.slots_bare]
    intro slot h
    obtain ⟨_, _, rfl⟩ := List.mem_map.mp h
    rfl
  refine List.perm_iff_count.mpr fun id => ?_
  rw [Program.typeIds, count_reduceOption]
  exact (numbered_check {} rfl blank).ids id

/-- **Type ids of the input do not influence a check.**  Of two programs that differ only in their
type ids, diagnostics and table are the same, and so are the events, up to the tree in the last one.
The ids given out are written to the same slots of both; every other slot keeps what it held. -/
theorem check_independent_of_typeIds {p q : Program} (same : p.untyped = q.untyped) :
    (({} : Session).check p).2.table = (({} : Session).check q).2.table ∧
    (({} : Session).check p).2.diagnostics = (({} : Session).check q).2.diagnostics ∧
    (∃ events, (({} : Session).check p).2.events =
        events ++ [.finished (({} : Session).check p).1 (({} : Session).check p).2.table] ∧
      (({} : Session).check q).2.events =
        events ++ [.finished (({} : Session).check q).1 (({} : Session).check q).2.table]) ∧
    (({} : Session).check p).1.bare = p.bare ∧ (({} : Session).check q).1.bare = q.bare ∧
    ∃ written, written.reduceOption.Perm
        (TypeTable.idsFrom 0 (({} : Session).check p).2.table.size) ∧
      Overwritten written p.slots (({} : Session).check p).1.slots ∧
      Overwritten written q.slots (({} : Session).check q).1.slots := by
  -- both programs are compared with the bare program, which they share
  have alike : p.bare = q.bare := by rw [← p.bare_untyped, same, q.bare_untyped]
  obtain ⟨table, diagnostics, shape, slots⟩ := mirrored_check p
  obtain ⟨table', diagnostics', shape', slots'⟩ := mirrored_check q
  rw [← alike] at table' diagnostics' slots'
  refine ⟨table.trans table'.symm, diagnostics.trans diagnostics'.symm,
    ⟨(checkBody p.file p.body {}).2.events, events_check p, ?_⟩, shape, shape',
    (({} : Session).check p.bare).1.slots, ?_, slots, slots'⟩
  · -- the statements of both lead to the session that those of the bare program lead to
    have h := (mirrored_checkBody p.file p.body {}).session
    have h' := (mirrored_checkBody q.file q.body {}).session
    have hbody : (checkBody p.file p.body {}).2 = (checkBody q.file q.body {}).2 := by
      rw [h, h']
      exact congrArg (fun p : Program => (checkBody p.file p.body {}).2) alike
    rw [hbody]
    exact events_check q
  · rw [table]
    exact typeIds_check_bare p

/-- The program `faulty` with an id on every node. -/
def stale : Program :=
  { faulty with body := (⟨fun _ => some ⟨7⟩, id, false⟩ : Relabeling).stmts false faulty.body }

/-- Ids from an earlier check change neither the table nor the diagnostic. -/
theorem check_independent_of_typeIds_stale :
    faulty.untyped = stale.untyped ∧ faulty.slots ≠ stale.slots ∧
      (({} : Session).check stale).2.diagnostics.size = 1 ∧
      (({} : Session).check faulty).2.table = (({} : Session).check stale).2.table ∧
      ∃ written, written.reduceOption.length = 12 ∧
        Overwritten written faulty.slots (({} : Session).check faulty).1.slots ∧
        Overwritten written stale.slots (({} : Session).check stale).1.slots := by
  have same : faulty.untyped = stale.untyped := rfl
  have size : (({} : Session).check faulty).2.table.size = 12 := by decide +kernel
  obtain ⟨table, -, -, -, -, written, ids, slots, slots'⟩ := check_independent_of_typeIds same
  refine ⟨same, by decide +kernel, by decide +kernel, table, written, ?_, slots, slots'⟩
  rw [ids.length_eq, size]
  rfl

end Session
end StructuralTyping
