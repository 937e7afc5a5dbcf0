import StructuralTyping.Proofs.ConcurringChecks

/-! # Every part of a program concurs

By induction over the syntax: the check of an expression, a statement or any other part comes out
the same in two concordant states, if the states agree on the symbols that the identifiers of the
part stand for (`Sees`) and on the names of types that the part needs (`NameFlow`).  This holds in
both passes over the methods of a class.  In the first one functions and classes are not entered, so
the names that they need inside do not count.
-/
namespace StructuralTyping

/-- The identifier that an expression is. -/
def Part.ident? : Part → Option Ident
  | .expr ⟨_, .ident i, _⟩ => some i
  | _ => none

/-- The identifiers among parts. -/
def Parts.idents (parts : List Part) : List Ident := parts.filterMap Part.ident?

namespace Checker

/-- The symbols that the identifiers of a part stand for are all in `X`; the receiver counts where
it reaches, and further inside the identifiers stand for their own symbols. -/
def Sees (X : Symbol → Prop) (receiver : Receiver) (parts : List Part) : Prop :=
  ∀ i ∈ Parts.idents parts,
    (∀ s, i.symbol = some s → X s) ∧ ∀ s, receiver.symbolOf i = some s → X s

namespace Sees

variable {X : Symbol → Prop} {receiver : Receiver} {part : Part} {parts parts' : List Part}

/-- All symbols include those of any part. -/
theorem all (receiver : Receiver) (parts : List Part) : Sees (fun _ => True) receiver parts :=
  fun _ _ => ⟨fun _ _ => trivial, fun _ _ => trivial⟩

theorem left (h : Sees X receiver (parts ++ parts')) : Sees X receiver parts := by
  intro i hi
  refine h i ?_
  rw [Parts.idents, List.filterMap_append]
  exact List.mem_append_left _ hi

theorem right (h : Sees X receiver (parts ++ parts')) : Sees X receiver parts' := by
  intro i hi
  refine h i ?_
  rw [Parts.idents, List.filterMap_append]
  exact List.mem_append_right _ hi

theorem tail (h : Sees X receiver (part :: parts)) : Sees X receiver parts :=
  right (show Sees X receiver ([part] ++ parts) from h)

/-- Inside of a function there is no receiver. -/
theorem inFunction (h : Sees X receiver parts) : Sees X none parts :=
  fun i hi => ⟨(h i hi).1, (h i hi).1⟩

/-- Inside of a method the instance is the receiver. -/
theorem inMethod (h : Sees X receiver parts) (self : Symbol) :
    Sees (fun s => X s ∨ s = self) (some self) parts := by
  intro i hi
  refine ⟨fun s hs => .inl ((h i hi).1 s hs), fun s hs => ?_⟩
  unfold Receiver.symbolOf at hs
  dsimp only at hs
  split at hs
  · exact .inr (Option.some.inj hs).symm
  · exact .inl ((h i hi).1 s hs)

end Sees

namespace Concurs

variable {base : TypeTable × TypeTable}

/-- The slot of an expression says nothing about returns. -/
theorem own_node (span : Span) (e : Expr) (slot slot' : Option TypeId) :
    (Own.node ⟨span, e, slot'⟩).filterMap OwnReturn.of? =
      (Own.node ⟨span, e, slot⟩).filterMap OwnReturn.of? := by
  cases e <;> rfl

mutual

/-- An expression whose symbols are among those agreed on is checked alike in concordant states. -/
theorem checkExpr (X : Symbol → Prop) (pass : Bool) (receiver : Receiver) :
    ∀ e : Node Expr, Sees X receiver (Parts.node e) →
      Concurs X base pass (NameFlow.expr (!pass) e) Own.node (Checker.checkExpr receiver e)
  | ⟨span, e, slot⟩, h =>
    recorded span slot (checkForm X pass receiver span slot e h) fun e slot' =>
      own_node span e slot slot'

theorem checkForm (X : Symbol → Prop) (pass : Bool) (receiver : Receiver) (span : Span)
    (slot : Option TypeId) :
    ∀ e : Expr, Sees X receiver (Parts.node ⟨span, e, slot⟩) →
      Concurs X base pass (NameFlow.form (!pass) e) (fun e => Own.node ⟨span, e, slot⟩)
        (Checker.checkForm receiver span e)
  | .literal v, _ => succeed v.ty rfl
  | .ident i, h => looking (receiver.symbolOf i) (h i List.mem_cons_self).2 rfl
  | .call callee args, h =>
    (checkExpr X pass receiver callee h.tail.left).andThen args
      (fun t => (checkExprs X pass receiver args h.tail.right).conclude
        (Rule.call span callee args t))
      Expr.call fun _ _ => rfl
  | .conditional test consequent alternate, h =>
    ((checkExpr X pass receiver test h.tail.left).conclude (Rule.condition test.span)).andThen
      (consequent, alternate)
      (fun _ => (checkStmt X pass receiver consequent h.tail.right.left).pair alternate fun t =>
        (checkOptionalStmt X pass receiver alternate h.tail.right.right).conclude fun u =>
          .ok (Rule.branches t u))
      (fun test p => Expr.conditional test p.1 p.2) fun _ _ => rfl
  | .member object property, h => by
    -- the property is found in the type alone, whatever the state
    have found (t : Ty) : Concurs X base pass {} (fun _ => []) fun st =>
        ⟨Rule.property object.span property.span t property.value.name, property.value, st⟩ :=
      settled _ rfl
    have named (t : Ty) : Concurs X base pass {} (fun _ => []) _ :=
      (found t).recorded property.span property.ty fun _ _ => rfl
    have whole : Concurs X base pass _ (fun e => Own.node ⟨span, e, slot⟩) _ :=
      (checkExpr X pass receiver object h.tail).andThen property named Expr.member fun _ _ => by
        rw [List.append_nil]
        rfl
    rwa [NameFlow.andThen_nothing] at whole
  | .index object position, h =>
    (checkExpr X pass receiver object h.tail.left).andThen position
      (fun t => (checkExpr X pass receiver position h.tail.right).conclude
        (Rule.index object.span position.span t))
      Expr.index fun _ _ => rfl
  | .function f, h =>
    -- the receiver does not reach into functions and classes
    (checkFunction X pass f h.tail.inFunction).rebuild (fun _ => Expr.function) fun _ _ => rfl
  | .classDef c, h =>
    (checkClassDef X pass c h.tail.inFunction).rebuild (fun _ => Expr.classDef) fun _ _ => rfl
  | .assertion e t, h =>
    ((checkExpr X pass receiver e h.tail).concludeWith (g := NameFlow.ofType t)
      (k := fun found st => (st.scopes.resolve t).bind (Rule.assertion span found)) rfl
      fun _ _ _ same _ => by rw [Scopes.resolve_congr_of_needs same]).rebuild
      (fun _ => (Expr.assertion · t)) fun _ _ => rfl
  | .throwing value, h =>
    ((checkExpr X pass receiver value h.tail).conclude fun _ => .ok Ty.undefined).rebuild
      (fun _ => Expr.throwing) fun _ _ => rfl
  | .whileLoop test body, h =>
    ((checkExpr X pass receiver test h.tail.left).conclude (Rule.condition test.span)).andThen body
      (fun _ => (checkStmts X pass receiver .undefined body h.tail.right).inScope.conclude fun _ =>
        .ok Ty.undefined)
      Expr.whileLoop fun _ _ => rfl
  | .forLoop bindings test update body, h =>
    inScope <| (checkBindings X pass receiver bindings h.tail.left).andThen (test, update, body)
      (fun _ => ((checkOptional X pass receiver test h.tail.right.left).conclude
        (Rule.optionalCondition test)).pair (update, body) fun _ =>
          (checkOptional X pass receiver update h.tail.right.right.left).pair body fun _ =>
            (checkStmts X pass receiver .undefined body
              h.tail.right.right.right).inScope.conclude fun _ => .ok Ty.undefined)
      (fun bindings p => Expr.forLoop bindings p.1 p.2.1 p.2.2) fun _ _ => rfl
  | .returning value, h => returning span slot (checkOptional X pass receiver value h.tail)
  | .attempt body handler cleanup, h =>
    (checkStmts X pass receiver .undefined body h.tail.left).inScope.andThen (handler, cleanup)
      (fun _ => (checkHandler X pass receiver handler h.tail.right.left).pair cleanup fun _ =>
        checkCleanup X pass receiver cleanup h.tail.right.right)
      (fun body p => Expr.attempt body p.1 p.2) fun _ _ => rfl
  | .array items, h =>
    ((checkExprs X pass receiver items h.tail).conclude fun ts => .ok (Rule.array ts)).rebuild
      (fun _ => Expr.array) fun _ _ => rfl
  | .object properties, h =>
    ((checkProperties X pass receiver properties h.tail).conclude fun entries =>
      .ok (Ty.object (Field.merge entries))).rebuild (fun _ => Expr.object) fun _ _ => rfl
  | .assignment target value, h => by
    by_cases settable : target.value.isTarget
    · have both : Concurs X base pass _ (fun e => Own.node ⟨span, e, slot⟩) _ :=
        (checkExpr X pass receiver target h.tail.left).andThen value
          (fun t => (checkExpr X pass receiver value h.tail.right).assigning receiver target.value t
            fun st => checkExpr_span receiver value st)
          Expr.assignment fun _ _ => rfl
      refine both.of_pass fun st _ => ?_
      rw [Checker.checkForm, if_pos settable]
      rfl
    · refine (failing ⟨.notATarget ":=", target.span⟩ (.assignment target value)).of_pass
        fun st _ => ?_
      rw [Checker.checkForm, if_neg settable]

theorem checkFunction (X : Symbol → Prop) (pass : Bool) :
    ∀ f : Function, Sees X none (Parts.inside (.function f)) →
      Concurs X base pass (NameFlow.form (!pass) (.function f)) (fun _ => [])
        (Checker.checkFunction f)
  | ⟨name, typeParams, params, returns, body⟩, h => by
    cases pass with
    | true =>
      refine (surveyFunction ⟨name, typeParams, params, returns, body⟩).of_pass fun st hst => ?_
      rw [Checker.checkFunction, hst]
      rfl
    | false =>
      have callable : Concurs X base false _ (fun _ => []) _ :=
        checkCallable typeParams params returns body fun types declared =>
          (checkStmts X false none .undefined body h).announceFunction name types declared
      have bound : Concurs X base false _ (fun _ => []) _ :=
        callable.andThen name (named name)
          (fun p name => (⟨name, typeParams, p.1, returns, p.2⟩ : Function)) fun _ _ => rfl
      rw [NameFlow.andThen_nothing] at bound
      refine bound.of_pass fun st hst => ?_
      rw [Checker.checkFunction, hst]
      rfl

theorem checkClassDef (X : Symbol → Prop) (pass : Bool) :
    ∀ c : Class, Sees X none (Parts.inside (.classDef c)) →
      Concurs X base pass (NameFlow.form (!pass) (.classDef c)) (fun _ => [])
        (Checker.checkClass c)
  | ⟨name, fields, methods⟩, h => by
    cases pass with
    | true =>
      refine (succeed .unknown (t := ⟨name, fields, methods⟩) rfl).of_pass fun st hst => ?_
      rw [Checker.checkClass, hst]
      rfl
    | false =>
      exact checkClass (checkFields X fields h.left)
        (fun self => surveyMethods _ self methods (h.right.inMethod self))
        fun self found => checkMethods _ self found methods (h.right.inMethod self)

theorem checkExprs (X : Symbol → Prop) (pass : Bool) (receiver : Receiver) :
    ∀ es : List (Node Expr), Sees X receiver (Parts.nodes es) →
      Concurs X base pass (NameFlow.exprs (!pass) es) Own.nodes (Checker.checkExprs receiver es)
  | [], _ => succeed [] rfl
  | e :: rest, h =>
    (checkExpr X pass receiver e h.left).andThen rest
      (fun t => (checkExprs X pass receiver rest h.right).conclude fun ts => .ok (t :: ts))
      List.cons fun _ _ => rfl

theorem checkOptional (X : Symbol → Prop) (pass : Bool) (receiver : Receiver) :
    ∀ e : Option (Node Expr), Sees X receiver (Parts.optional e) →
      Concurs X base pass (NameFlow.optional (!pass) e) Own.optional
        (Checker.checkOptional receiver e)
  | none, _ => succeed none rfl
  | some e, h =>
    ((checkExpr X pass receiver e h).conclude fun t => .ok (some t)).rebuild (fun _ => some)
      fun _ _ => rfl

theorem checkStmt (X : Symbol → Prop) (pass : Bool) (receiver : Receiver) :
    ∀ s : Node Stmt, Sees X receiver (Parts.stmt s) →
      Concurs X base pass (NameFlow.stmt (!pass) s) Own.stmt (Checker.checkStmt receiver s)
  | ⟨span, .expr e, slot⟩, h => by
    have inner : Concurs X base pass _ Own.insideStmt _ :=
      (checkExpr X pass receiver e h.tail).rebuild (fun _ => Stmt.expr) fun _ _ => rfl
    exact inner.recorded span slot fun _ _ => rfl
  | ⟨span, .block body, slot⟩, h => by
    have inner : Concurs X base pass _ Own.insideStmt _ :=
      (checkStmts X pass receiver .undefined body h.tail).inScope.rebuild (fun _ => Stmt.block)
        fun _ _ => rfl
    exact inner.recorded span slot fun _ _ => rfl
  | ⟨span, .binding kind bindings body, slot⟩, h => by
    have inner : Concurs X base pass _ Own.insideStmt _ :=
      (checkBindings X pass receiver bindings h.tail.left).andThen body
        (fun _ => checkStmts X pass receiver .undefined body h.tail.right) (Stmt.binding kind)
        fun _ _ => rfl
    have emitted := inner.inScope.after
      (later_stepClosed.emit (.bindings span kind (bindings.map fun b => b.name.value.name)))
      fun _ _ h => .emit h _
    exact emitted.recorded span slot fun _ _ => rfl
  | ⟨span, .typeAlias name typeParams ty, slot⟩, _ => by
    refine deciding (fun st => Rule.aliased st.scopes typeParams ty)
      ⟨span, .typeAlias name typeParams ty, slot⟩ rfl
      (fun _ _ same => Rule.aliased_congr_of_needs same)
      (fun t => aliasing name.value.name t Ty.undefined ⟨span, .typeAlias name typeParams ty, slot⟩
        rfl)
      (fun st e hk => ?_) fun st t hk => ?_
    · rw [Checker.checkStmt, hk]
    · rw [Checker.checkStmt, hk]

theorem checkOptionalStmt (X : Symbol → Prop) (pass : Bool) (receiver : Receiver) :
    ∀ s : Option (Node Stmt), Sees X receiver (Parts.optionalStmt s) →
      Concurs X base pass (NameFlow.optionalStmt (!pass) s) Own.optionalStmt
        (Checker.checkOptionalStmt receiver s)
  | none, _ => succeed none rfl
  | some s, h =>
    ((checkStmt X pass receiver s h).conclude fun t => .ok (some t)).rebuild (fun _ => some)
      fun _ _ => rfl

theorem checkStmts (X : Symbol → Prop) (pass : Bool) (receiver : Receiver) (last : Ty) :
    ∀ body : List (Node Stmt), Sees X receiver (Parts.stmts body) →
      Concurs X base pass (NameFlow.stmts (!pass) body) Own.stmts
        (Checker.checkStmts receiver last body)
  | [], _ => succeed last rfl
  | s :: rest, h =>
    (checkStmt X pass receiver s h.left).andThen rest
      (fun t => checkStmts X pass receiver t rest h.right) List.cons fun _ _ => rfl

theorem checkCleanup (X : Symbol → Prop) (pass : Bool) (receiver : Receiver) :
    ∀ body : Option (List (Node Stmt)), Sees X receiver (Parts.optionalBody body) →
      Concurs X base pass (NameFlow.cleanup (!pass) body) Own.optionalBody
        (Checker.checkCleanup receiver body)
  | none, _ => succeed Ty.undefined rfl
  | some body, h =>
    ((checkStmts X pass receiver .undefined body h).inScope.conclude fun _ =>
      .ok Ty.undefined).rebuild (fun _ => some) fun _ _ => rfl

theorem checkHandler (X : Symbol → Prop) (pass : Bool) (receiver : Receiver) :
    ∀ handler : Option Handler, Sees X receiver (Parts.optionalHandler handler) →
      Concurs X base pass (NameFlow.handler (!pass) handler) Own.optionalHandler
        (Checker.checkHandler receiver handler)
  | none, _ => succeed Ty.undefined rfl
  | some ⟨param, body⟩, h => by
    have caught : Concurs X base pass _ Own.optionalHandler _ :=
      (named param .unknown).andThen body
        (fun _ => checkStmts X pass receiver .undefined body h)
        (fun param body => some (⟨param, body⟩ : Handler)) fun _ _ => rfl
    rw [NameFlow.nothing_andThen] at caught
    exact caught.inScope

theorem checkBindings (X : Symbol → Prop) (pass : Bool) (receiver : Receiver) :
    ∀ bs : List Binding, Sees X receiver (Parts.bindings bs) →
      Concurs X base pass (NameFlow.bindings (!pass) bs) Own.bindings
        (Checker.checkBindings receiver bs)
  | [], _ => succeed () rfl
  | ⟨name, declaredAs, init⟩ :: rest, h => by
    have bound (t : Ty) := (checkBindings X pass receiver rest h.right).after
      (fun st => later_stepClosed.trans
        (later_stepClosed.note (.bound name.value.name t) st trivial)
        (later_stepClosed.trans (later_stepClosed.bind name.value.symbol t _)
          (later_stepClosed.recordName name t _)))
      fun p q h => (Proceeds.note h (.bound name.value.name t) trivial).trans
        (.bindName (Proceeds.note h (.bound name.value.name t) trivial).states name t)
    refine (checkExpr X pass receiver init h.left).andThen (name, rest) (fun initTy => ?_)
      (fun init p => (⟨p.1, declaredAs, init⟩ : Binding) :: p.2) fun _ _ => rfl
    refine deciding (fun st => Rule.binding st.scopes declaredAs initTy init.span) (name, rest)
      (NameFlow.defines_ofOptionalType _)
      (fun _ _ same => Rule.binding_congr_of_needs same initTy init.span)
      (fun t => (bound t).rebuild (fun st rest => ((((st.note (.bound name.value.name t)).bind
        name.value.symbol t).recordName name t).1, rest)) fun _ _ => rfl)
      (fun st e hk => ?_) fun st t hk => ?_
    · simp only [hk]
    · simp only [hk]

theorem checkFields (X : Symbol → Prop) :
    ∀ fs : List FieldDecl, Sees X none (Parts.fieldDecls fs) →
      Concurs X base false (NameFlow.fields fs) (fun _ => []) (Checker.checkFields fs)
  | [], _ => succeed [] rfl
  | ⟨name, declaredAs, init⟩ :: rest, h => by
    have named (t : Ty) := ((checkFields X rest h.right).conclude fun entries =>
        .ok (⟨name.value.name, t⟩ :: entries)).after (later_stepClosed.recordName name t)
      fun p q h => .record h name.ty name.ty t
    refine (checkOptional X false none init h.left).unread.andThen (name, rest) (fun initTy => ?_)
      (fun init p => (⟨p.1, declaredAs, init⟩ : FieldDecl) :: p.2) fun _ _ => rfl
    refine deciding (fun st => Rule.field st.scopes declaredAs init initTy) (name, rest)
      (NameFlow.defines_ofOptionalType _)
      (fun _ _ same => Rule.field_congr_of_needs same init initTy)
      (fun t => (named t).rebuild (fun st rest => ((st.recordName name t).1, rest))
        fun _ _ => rfl)
      (fun st e hk => ?_) fun st t hk => ?_
    · simp only [hk]
    · simp only [hk]

theorem surveyMethods (X : Symbol → Prop) (self : Symbol) :
    ∀ ms : List (Node Method), Sees X (some self) (Parts.methods ms) → SurveysConcur X base self ms
  | [], _ => .nil self
  | ⟨_, ⟨name, kind, typeParams, params, returns, body⟩, _⟩ :: rest, h => by
    have surveyed := ((checkParams params).pair body fun _ =>
      checkStmts X true (some self) .undefined body h.left).typeScope typeParams
    exact .cons surveyed (surveyMethods X self rest h.right) rfl rfl

theorem checkMethods (X : Symbol → Prop) (self : Symbol) (fields : List Field) :
    ∀ ms : List (Node Method), Sees X (some self) (Parts.methods ms) →
      Concurs X base false (NameFlow.methods ms) (fun _ => []) (Checker.checkMethods self fields ms)
  | [], _ => succeed [] rfl
  | ⟨span, ⟨name, kind, typeParams, params, returns, body⟩, slot⟩ :: rest, h => by
    by_cases annotated : kind = .constructor ∧ returns.isSome
    · refine (failing ⟨.annotatedConstructor, span⟩
        (⟨span, ⟨name, kind, typeParams, params, returns, body⟩, slot⟩ :: rest)).of_pass
        fun st _ => ?_
      rw [Checker.checkMethods, if_pos annotated]
    · have callable : Concurs X base false _ (fun _ => []) _ :=
        checkCallable typeParams params returns body fun _ _ =>
          checkStmts X false (some self) .undefined body h.left
      have method : Concurs X base false _ (fun _ => []) _ :=
        callable.rebuild (fun _ p => (⟨name, kind, typeParams, p.1, returns, p.2⟩ : Method))
          fun _ _ => rfl
      have here : Concurs X base false _ (fun _ => []) _ :=
        method.recorded span slot fun _ _ => rfl
      have whole : Concurs X base false _ (fun _ => []) _ :=
        here.andThen rest
          (fun t => (checkMethods X self fields rest h.right).conclude fun entries =>
            .ok
              (if isMember fields ⟨name, kind, typeParams, params, returns, body⟩ then
                ⟨name.value.name, t⟩ :: entries
              else entries))
          List.cons fun _ _ => rfl
      refine whole.of_pass fun st _ => ?_
      rw [Checker.checkMethods, if_neg annotated]

theorem checkProperties (X : Symbol → Prop) (pass : Bool) (receiver : Receiver) :
    ∀ ps : List Property, Sees X receiver (Parts.properties ps) →
      Concurs X base pass (NameFlow.properties (!pass) ps) Own.properties
        (Checker.checkProperties receiver ps)
  | [], _ => succeed [] rfl
  | ⟨key, value⟩ :: rest, h =>
    (checkExpr X pass receiver value h.left).andThen rest
      (fun t => (checkProperties X pass receiver rest h.right).conclude fun entries =>
        .ok ((⟨key.value.name, t.widen⟩ : Field) :: entries))
      (fun value rest => (⟨key, value⟩ : Property) :: rest) fun _ _ => rfl

end

end Concurs
end Checker
end StructuralTyping
