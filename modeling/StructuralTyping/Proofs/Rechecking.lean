import StructuralTyping.Proofs.ClassStages
import StructuralTyping.Proofs.Noninterference

/-! # Checking a checked program

A check writes type ids into the tree and points the references to `self` at their classes.  Checked
once more from the same state, the tree that it leaves behind gives the same result, leads to the
same state and stays as it is; so a program that was checked can be checked again
(`Session.check_check`).

Inside a method the references to `self` are linked only when the class is done.  What a second
check finds there is therefore the tree that the first one left, with its references linked; the
theorems of this module say that checking *that* tree again does the same as before
(`again_checkExpr`, `again_checkStmt` and their companions).  That the second survey of a class goes
through the same states as the first is noninterference.
-/
namespace StructuralTyping

namespace Edit

variable {σ ε τ υ ω α β : Type} {f : τ → τ}

/-- A conclusion is drawn again in the same way. -/
theorem again_conclude {e e' : Edit σ ε τ α} {g g' : α → Except ε β} (h : e' = e.rebuild f)
    (hg : g' = g) : e'.conclude g' = (e.conclude g).rebuild f := by
  rw [h, hg]
  rfl

theorem again_concludeWith {e e' : Edit σ ε τ α} {g : α → σ → Except ε β} (h : e' = e.rebuild f) :
    e'.concludeWith g = (e.concludeWith g).rebuild f := by
  rw [h]
  rfl

/-- What is put together again is put together from the same parts. -/
theorem again_rebuild {e e' : Edit σ ε τ α} (build : τ → ω) {f' : ω → ω} (h : e' = e.rebuild f)
    (hbuild : ∀ t, f' (build t) = build (f t)) :
    e'.rebuild build = (e.rebuild build).rebuild f' := by
  rw [h]
  exact congrArg (Edit.mk e.result · e.state) (hbuild e.tree).symm

/-- Working once more on a whole of which only the first part may have been reached. -/
theorem again_andThen (work : ω → Edit σ ε ω β) (f' : ω → ω) (f₂ : υ → υ)
    {first first' : Edit σ ε τ α} {rest : υ} {next : α → σ → Edit σ ε υ β} {build : τ → υ → ω}
    {next' : υ → α → σ → Edit σ ε υ β}
    (unfold : ∀ u, work (f' (build first.tree u)) = first'.andThen (f₂ u) (next' u) build)
    (hbuild : ∀ u, f' (build first.tree u) = build (f first.tree) (f₂ u))
    (h₁ : first' = first.rebuild f)
    (h₂ : ∀ a, next' (next a first.state).tree a first.state = (next a first.state).rebuild f₂) :
    work (f' (first.andThen rest next build).tree) =
      (first.andThen rest next build).rebuild f' := by
  cases hr : first.result with
  | error x =>
    simp only [andThen, hr, unfold, h₁]
    simp only [rebuild, hr, hbuild]
  | ok a =>
    simp only [andThen, hr, unfold, h₁]
    simp only [rebuild, hr, h₂, hbuild]

/-- A whole that is put together from two parts is their pair, rebuilt. -/
theorem andThen_eq_rebuild (first : Edit σ ε τ α) (rest : υ) (next : α → σ → Edit σ ε υ β)
    (build : τ → υ → ω) :
    first.andThen rest next build =
      (first.andThen rest next Prod.mk).rebuild fun p => build p.1 p.2 := by
  unfold andThen
  split <;> rfl

theorem andThen_fst (first : Edit σ ε τ α) (rest : υ) (next : α → σ → Edit σ ε υ β) :
    (first.andThen rest next Prod.mk).tree.1 = first.tree := by
  unfold andThen
  split <;> rfl

/-- Working once more on a pair. -/
theorem again_andThenPair (next' : υ → α → σ → Edit σ ε υ β) {first first' : Edit σ ε τ α}
    {rest : υ} {next : α → σ → Edit σ ε υ β} {g : υ → υ} {u : υ}
    (hu : u = (first.andThen rest next Prod.mk).tree.2) (h₁ : first' = first.rebuild f)
    (h₂ : ∀ a, next' (g (next a first.state).tree) a first.state =
      (next a first.state).rebuild g) :
    first'.andThen (g u) (next' (g u)) Prod.mk =
      (first.andThen rest next Prod.mk).rebuild fun p => (f p.1, g p.2) := by
  subst hu
  refine again_andThen (fun p => first'.andThen p.2 (next' p.2) Prod.mk)
    (fun p => (f p.1, g p.2)) g (fun _ => rfl) (fun _ => rfl) h₁ fun a => ?_
  exact h₂ a

/-- Working once more when a last step follows that leaves the tree alone. -/
theorem again_whenDone {e e' : Edit σ ε τ α} {next next' : α → τ → σ → Edit σ ε τ β}
    (h : e' = e.rebuild f) (hnext : ∀ a s, next' a (f e.tree) s = (next a e.tree s).rebuild f) :
    e'.whenDone next' = (e.whenDone next).rebuild f := by
  rw [h]
  cases hr : e.result with
  | error x => simp only [whenDone, rebuild, hr]
  | ok a => simp only [whenDone, rebuild, hr, hnext]

theorem rebuild_eq {e : Edit σ ε τ α} (h : ∀ t, f t = t) : e.rebuild f = e :=
  congrArg (Edit.mk e.result · e.state) (h e.tree)

/-- A last step that keeps the tree does so for the whole. -/
theorem whenDone_tree {e : Edit σ ε τ α} {next : α → τ → σ → Edit σ ε τ β}
    (h : ∀ a x s, (next a x s).tree = x) : (e.whenDone next).tree = e.tree := by
  unfold whenDone
  split
  · exact h _ _ _
  · rfl

end Edit

namespace Checker

open Relabeling (bare linking)

/-- Checking once more: the tree that the check of `t` leaves behind, linked by `f`, is checked with
the same result, leads to the same state and stays as it is. -/
def Again {τ α : Type} (f : τ → τ) (work : τ → State → Checked τ α) (t : τ) : Prop :=
  ∀ st, work (f (work t st).tree) st = (work t st).rebuild f

theorem inScope_tree {τ α : Type} (work : State → Checked τ α) (st : State) :
    (inScope work st).tree = (work st.push).tree := rfl

/-- A scope is opened again around the same work. -/
theorem again_inScope {τ α : Type} {f : τ → τ} {work work' : State → Checked τ α} {st : State}
    (h : work' st.push = (work st.push).rebuild f) :
    inScope work' st = (inScope work st).rebuild f := by
  unfold inScope
  rw [h]
  rfl

/-- The id written last time is written over with the same id. -/
theorem State.record_record (slot : Option TypeId) (t : Ty) (st : State) :
    st.record (st.record slot t).1 t = st.record slot t := by
  unfold State.record
  split <;> rfl

/-- A part whose type is recorded again gets the id that it has. -/
theorem again_recorded {τ : Type} {f : τ → τ} (work : Node τ → Checked (Node τ) Ty)
    (f' : Node τ → Node τ) {span : Span} {slot : Option TypeId} {e e' : Checked τ Ty}
    (unfold : ∀ s, work (f' ⟨span, e.tree, s⟩) = recorded span s e')
    (hf : ∀ t s, f' ⟨span, t, s⟩ = ⟨span, f t, s⟩) (h : e' = e.rebuild f) :
    work (f' (recorded span slot e).tree) = (recorded span slot e).rebuild f' := by
  cases hr : e.result with
  | error x =>
    simp only [recorded, hr, unfold, h]
    simp only [Edit.rebuild, hr, hf]
  | ok t =>
    simp only [recorded, hr, unfold, h]
    simp only [Edit.rebuild, hr, State.record_record, hf]

/-! ## Names, parameters and returns -/

theorem State.recordName_value (n : Node Ident) (t : Ty) (st : State) :
    (st.recordName n t).1.value = n.value := rfl

/-- A name that was recorded is recorded again with the same id. -/
theorem again_recordName (n : Node Ident) (t : Ty) (st : State) :
    st.recordName (st.recordName n t).1 t = st.recordName n t := by
  unfold State.recordName
  dsimp only
  rw [State.record_record]

/-- A name is recorded again before the rest of the part is checked. -/
theorem again_afterName {υ β : Type} {f : υ → υ} (n : Node Ident) (t : Ty) (st : State)
    (tail : υ → State → Checked υ β) {u : υ}
    (h : ∀ st, tail (f (tail u st).tree) st = (tail u st).rebuild f) :
    (tail (f (tail u (st.recordName n t).2).tree) (st.recordName (st.recordName n t).1 t).2).rebuild
        (fun u => ((st.recordName (st.recordName n t).1 t).1, u)) =
      ((tail u (st.recordName n t).2).rebuild fun u => ((st.recordName n t).1, u)).rebuild
        fun p => (p.1, f p.2) := by
  rw [again_recordName, h]
  rfl

theorem again_named (name : Option (Node Ident)) (t : Ty) (st : State) :
    named (named name t st).tree t st = named name t st := by
  cases name with
  | none => rfl
  | some n =>
    exact congrArg (fun r : Node Ident × State => Edit.succeed t (some r.1) r.2)
      (again_recordName n t (st.bind n.value.symbol t))

/-- Checked parameters are checked again with the same outcome. -/
theorem again_checkParams (params : List Param) (st : State) :
    checkParams (checkParams params st).tree st = checkParams params st := by
  induction params generalizing st with
  | nil => rfl
  | cons p rest ih =>
    obtain ⟨name, declaredAs⟩ := p
    cases hparam : Rule.param st.scopes declaredAs with
    | error f => simp only [checkParams, hparam, Edit.fail]
    | ok t =>
      have hname := again_recordName name t (st.bind name.value.symbol t)
      simp only [checkParams, hparam, Edit.rebuild, Edit.conclude, State.recordName_value, hname,
        ih]

/-- Linking does not change which returns a body has. -/
theorem ofBody_linking (receiver : Receiver) (r : Bool) (body : List (Node Stmt)) :
    OwnReturn.ofBody ((linking receiver).stmts r body) = OwnReturn.ofBody body := by
  have of? (n : Node Expr) : OwnReturn.of? ((linking receiver).node r n) = OwnReturn.of? n := by
    obtain ⟨span, e, ty⟩ := n
    cases e with
    | returning value =>
      cases value with
      | none => rfl
      | some v => cases v; rfl
    | _ => rfl
  rw [OwnReturn.ofBody_eq, OwnReturn.ofBody_eq, Own.stmts_relabeled, List.filterMap_map]
  exact congrArg (List.filterMap · _) (funext of?)

/-- Parameters and body of a function or method, as they are checked together. -/
theorem again_checkCallable {typeParams : List (Node Ident)} {params : List Param}
    {returns : Option (Node TypeExpr)} {body : List (Node Stmt)}
    {announce : List Ty → Option Ty → State → State} {f : List (Node Stmt) → List (Node Stmt)}
    {checkBody : List (Node Stmt) → State → Checked (List (Node Stmt)) Ty}
    (hbody : Again f checkBody body)
    (hreturns : ∀ body, OwnReturn.ofBody (f body) = OwnReturn.ofBody body) (st : State)
    {e : Checked (List Param × List (Node Stmt)) Ty}
    (he : e = checkCallable typeParams params returns body announce (checkBody body) st) :
    checkCallable typeParams e.tree.1 returns (f e.tree.2) announce (checkBody (f e.tree.2)) st =
      e.rebuild fun p => (p.1, f p.2) := by
  subst he
  have hparams := again_checkParams params (st.push.bindTypeParams typeParams)
  cases hr : (checkParams params (st.push.bindTypeParams typeParams)).result with
  | error x =>
    simp only [checkCallable, inScope, Edit.andThen, Edit.mapState, Edit.rebuild, hr, hparams]
  | ok types =>
    simp only [checkCallable, inScope, Edit.andThen, Edit.mapState, Edit.rebuild, hr, hparams]
    generalize (checkParams params (st.push.bindTypeParams typeParams)).state = st
    cases st.scopes.resolveOptional returns with
    | error x => rfl
    | ok declared =>
      dsimp only
      rw [Edit.whenDone_tree fun _ _ _ => rfl, hbody]
      cases hb : (checkBody body (announce types declared st)).result with
      | error x => simp only [Edit.whenDone, Edit.rebuild, hb]
      | ok a => simp only [Edit.whenDone, Edit.rebuild, hb, hreturns]

theorem surveyFunction_tree (f : Function) (st : State) : (surveyFunction f st).tree = f := by
  unfold surveyFunction
  split <;> rfl

/-- Only the symbol of the name is announced, and it is not changed. -/
theorem announceFunction_named (name : Option (Node Ident)) (t : Ty) (st : State) :
    announceFunction (named name t st).tree = announceFunction name := by
  cases name <;> rfl

/-! ## What is checked in one scope, in pairs -/

section Pairs

variable (receiver : Receiver) (span : Span) (st : State)

/-- What follows the bindings of a loop: its test, its update and its body. -/
def checkTurns (p : Option (Node Expr) × Option (Node Expr) × List (Node Stmt)) (st : State) :
    Checked (Option (Node Expr) × Option (Node Expr) × List (Node Stmt)) Ty :=
  ((checkOptional receiver p.1 st).conclude (Rule.optionalCondition p.1)).andThen p.2
    (fun _ st =>
      (checkOptional receiver p.2.1 st).andThen p.2.2
        (fun _ st =>
          (inScope (checkStmts receiver .undefined p.2.2) st).conclude fun _ => .ok .undefined)
        Prod.mk)
    Prod.mk

/-- A `for` loop: its bindings, and then what happens at every turn. -/
theorem checkForm_forLoop (bs : List Binding) (test update : Option (Node Expr))
    (body : List (Node Stmt)) :
    checkForm receiver span (.forLoop bs test update body) st =
      (inScope (fun st => (checkBindings receiver bs st).andThen (test, update, body)
        (fun _ => checkTurns receiver (test, update, body)) Prod.mk) st).rebuild
        fun p => .forLoop p.1 p.2.1 p.2.2.1 p.2.2.2 := by
  rw [checkForm]
  dsimp only [inScope]
  rw [Edit.andThen_eq_rebuild]
  rfl

/-- A binding form: its event, its bindings and its body in a scope, and the record. -/
theorem checkStmt_binding (kind : BindingKind) (bs : List Binding) (body : List (Node Stmt))
    (slot : Option TypeId) :
    checkStmt receiver ⟨span, .binding kind bs body, slot⟩ st =
      recorded span slot ((inScope (fun st => (checkBindings receiver bs st).andThen body
        (fun _ => checkStmts receiver .undefined body) Prod.mk)
        (st.emit (.bindings span kind (bs.map fun b => b.name.value.name)))).rebuild
        fun p => .binding kind p.1 p.2) := by
  rw [checkStmt]
  dsimp only [inScope]
  rw [Edit.andThen_eq_rebuild]
  rfl

/-- A handler: its parameter of unknown type, and its body. -/
theorem checkHandler_some (param : Option (Node Ident)) (body : List (Node Stmt)) :
    checkHandler receiver (some ⟨param, body⟩) st =
      (inScope (fun st => (named param .unknown st).andThen body
        (fun _ => checkStmts receiver .undefined body) Prod.mk) st).rebuild
        fun p => some ⟨p.1, p.2⟩ := by
  rw [checkHandler]
  dsimp only [inScope]
  rw [Edit.andThen_eq_rebuild]
  rfl

end Pairs

/-! ## What a second check reads off the tree -/

/-- The rule for calls reads nothing that a check writes. -/
theorem Rule.call_congr {r : Bool} {callee callee' : Node Expr} {args args' : List (Node Expr)}
    (span : Span) (h : bare.node r callee' = bare.node r callee)
    (h' : bare.nodes r args' = bare.nodes r args) :
    Rule.call span callee' args' = Rule.call span callee args := by
  rw [← Rule.call_relabeled bare r, h, h', Rule.call_relabeled]

section Congr

variable {receiver : Receiver} {target target' : Node Expr}

/-- Whether something can be assigned to does not depend on marks. -/
theorem isTarget_congr {r : Bool} (h : bare.node r target' = bare.node r target) :
    target'.value.isTarget = target.value.isTarget := by
  rw [← bare.inside_isTarget r, ← bare.node_value r, h, bare.node_value, bare.inside_isTarget]

/-- Which field is assigned does not depend on marks. -/
theorem State.noteAssignment_congr {t : Ty} {st : State}
    (h : bare.node receiver.isSome target' = bare.node receiver.isSome target) :
    st.noteAssignment receiver target'.value t = st.noteAssignment receiver target.value t := by
  rw [← State.noteAssignment_relabeled bare, ← bare.node_value, h, bare.node_value,
    State.noteAssignment_relabeled]

/-- Which symbol is assigned does not depend on marks. -/
theorem State.rebind_congr {t : Ty} {st : State}
    (h : bare.node receiver.isSome target' = bare.node receiver.isSome target) :
    st.rebind receiver target'.value t = st.rebind receiver target.value t := by
  rw [← State.rebind_relabeled bare, ← bare.node_value, h, bare.node_value, State.rebind_relabeled]

end Congr

section Bare

variable (receiver : Receiver) (st : State)

/-- A checked and linked expression has the same bare form as before. -/
theorem bare_checkExpr (n : Node Expr) :
    bare.node receiver.isSome
      ((linking receiver).node receiver.isSome (checkExpr receiver n st).tree) =
      bare.node receiver.isSome n := by
  rw [Relabeling.node_absorb (Relabeling.bare_absorbs_linking _) id]
  exact (Mirrors.checkExpr receiver n st).tree.shape

theorem bare_checkExprs (es : List (Node Expr)) :
    bare.nodes receiver.isSome
      ((linking receiver).nodes receiver.isSome (checkExprs receiver es st).tree) =
      bare.nodes receiver.isSome es := by
  rw [Relabeling.nodes_absorb (Relabeling.bare_absorbs_linking _) id]
  exact (Mirrors.checkExprs receiver es st).tree.shape

theorem bare_checkOptional (e : Option (Node Expr)) :
    bare.optional receiver.isSome
      ((linking receiver).optional receiver.isSome (checkOptional receiver e st).tree) =
      bare.optional receiver.isSome e := by
  rw [Relabeling.optional_absorb (Relabeling.bare_absorbs_linking _) id]
  exact (Mirrors.checkOptional receiver e st).tree.shape

theorem bare_checkBindings (bs : List Binding) :
    bare.bindings receiver.isSome
      ((linking receiver).bindings receiver.isSome (checkBindings receiver bs st).tree) =
      bare.bindings receiver.isSome bs := by
  rw [Relabeling.bindings_absorb (Relabeling.bare_absorbs_linking _) id]
  exact (Mirrors.checkBindings receiver bs st).tree.shape

/-- A checked and linked expression stands where it stood. -/
theorem again_span (n : Node Expr) :
    ((linking receiver).node receiver.isSome (checkExpr receiver n st).tree).span = n.span := by
  rw [Relabeling.node_span, checkExpr_span]

end Bare

/-- What follows the bindings of a loop, with its references to `self` linked. -/
def linkedTurns (receiver : Receiver)
    (p : Option (Node Expr) × Option (Node Expr) × List (Node Stmt)) :
    Option (Node Expr) × Option (Node Expr) × List (Node Stmt) :=
  ((linking receiver).optional receiver.isSome p.1,
    (linking receiver).optional receiver.isSome p.2.1,
    (linking receiver).stmts receiver.isSome p.2.2)

/-- The turns of a loop are checked again with the same outcome. -/
theorem again_checkTurns {receiver : Receiver} {test update : Option (Node Expr)}
    {body : List (Node Stmt)}
    (htest : Again ((linking receiver).optional receiver.isSome) (checkOptional receiver) test)
    (hupdate : Again ((linking receiver).optional receiver.isSome) (checkOptional receiver) update)
    (hbody :
      Again ((linking receiver).stmts receiver.isSome) (checkStmts receiver .undefined) body) :
    Again (linkedTurns receiver) (checkTurns receiver) (test, update, body) := by
  intro st
  have condition : Rule.optionalCondition
      ((linking receiver).optional receiver.isSome (checkOptional receiver test st).tree) =
      Rule.optionalCondition test := by
    rw [← Rule.optionalCondition_relabeled bare, bare_checkOptional,
      Rule.optionalCondition_relabeled]
  have tree : (checkTurns receiver (test, update, body) st).tree.1 =
      (checkOptional receiver test st).tree := Edit.andThen_fst _ _ _
  refine Edit.again_andThenPair
    (fun p _ st => (checkOptional receiver p.1 st).andThen p.2
      (fun _ st =>
        (inScope (checkStmts receiver .undefined p.2) st).conclude fun _ => .ok Ty.undefined)
      Prod.mk)
    (g := fun p => ((linking receiver).optional receiver.isSome p.1,
      (linking receiver).stmts receiver.isSome p.2)) rfl ?_ fun _ => ?_
  · rw [linkedTurns, tree, condition]
    exact Edit.again_conclude (htest st) rfl
  · refine Edit.again_andThenPair
      (fun body _ st =>
        (inScope (checkStmts receiver .undefined body) st).conclude fun _ => .ok Ty.undefined)
      rfl ?_ fun _ => Edit.again_conclude (again_inScope (hbody _)) rfl
    rw [Edit.andThen_fst]
    exact hupdate _

/-! ## Methods and classes -/

/-- Linking changes nothing in a method but its body. -/
theorem method_linking (self : Option Symbol) (r : Bool) (m : Method) :
    (linking self).method r m = { m with body := (linking self).stmts r m.body } := by
  obtain ⟨_, _, _, _, _, _⟩ := m
  have links := Relabeling.linking_onlyLinks self
  rw [Relabeling.method, Relabeling.name_eq links, Relabeling.names_eq links,
    Relabeling.params_eq links, Relabeling.optionalTypeExpr_eq links]

/-- A method with its references to `self` linked. -/
def linkedMethod (self : Symbol) (n : Node Method) : Node Method :=
  { n with value := { n.value with body := (linking (some self)).stmts true n.value.body } }

theorem methods_linking (self : Symbol) (n : Node Method) (rest : List (Node Method)) :
    (linking (some self)).methods true (n :: rest) =
      linkedMethod self n :: (linking (some self)).methods true rest := by
  obtain ⟨_, _, _⟩ := n
  rw [Relabeling.methods, method_linking]
  rfl

/-- A method is checked again with the same outcome if its body is. -/
theorem again_checkMethod {self : Symbol} {n : Node Method}
    (hbody : Again ((linking (some self)).stmts true) (checkStmts (some self) .undefined)
      n.value.body) :
    Again (linkedMethod self) (checkMethod self) n := fun st =>
  again_recorded (checkMethod self · st) (linkedMethod self)
    (f := fun m => { m with body := (linking (some self)).stmts true m.body })
    (fun _ => rfl) (fun _ _ => rfl)
    (Edit.again_rebuild (fun p => { n.value with params := p.1, body := p.2 })
      (again_checkCallable hbody (ofBody_linking (some self) true) st rfl) fun _ => rfl)

/-- Methods are checked again one by one. -/
theorem again_checkMethods_cons {self : Symbol} {fields : List Field} {n : Node Method}
    {rest : List (Node Method)}
    (hbody : Again ((linking (some self)).stmts true) (checkStmts (some self) .undefined)
      n.value.body)
    (hrest : Again ((linking (some self)).methods true) (checkMethods self fields) rest) :
    Again ((linking (some self)).methods true) (checkMethods self fields) (n :: rest) := by
  intro st
  by_cases annotated : n.value.kind = .constructor ∧ n.value.returns.isSome
  · rw [checkMethods_cons, if_pos annotated]
    dsimp only [Edit.fail, Edit.rebuild]
    rw [methods_linking]
    exact (checkMethods_cons ..).trans (if_pos annotated)
  · obtain ⟨params, body, ty, tree⟩ := checkMethod_tree self n st
    rw [checkMethods_cons, if_neg annotated]
    refine Edit.again_andThen (checkMethods self fields · st) _ ((linking (some self)).methods true)
      (f := linkedMethod self)
      (fun _ => by
        rw [tree, methods_linking]
        exact (checkMethods_cons ..).trans (if_neg annotated))
      (fun _ => methods_linking ..) ?_ fun t => ?_
    · rw [← again_checkMethod hbody st, tree]
    · exact Edit.again_conclude (hrest _) rfl

/-- Linking twice is linking once. -/
theorem link_link (self : Symbol) (ms : List (Node Method)) :
    SelfReference.link self (SelfReference.link self ms) = SelfReference.link self ms := by
  simp only [SelfReference.link_eq]
  refine Relabeling.methods_absorb ⟨fun _ => rfl, fun _ => rfl, id⟩ id ms

section Class

variable {self : Symbol} {name : Option (Node Ident)} {ms : List (Node Method)}

/-- The check of an instance leaves the bare forms of the methods. -/
theorem bare_checkInstance (declared : List Field) (st : State) :
    bare.methods true (SelfReference.link self (checkInstance self name declared ms st).tree) =
      bare.methods true ms := by
  rw [SelfReference.link_eq, Relabeling.methods_absorb (Relabeling.bare_absorbs_linking _) id]
  unfold checkInstance
  dsimp only
  split
  · rfl
  · rw [Edit.whenDone_tree fun _ _ _ => rfl]
    exact (Mirrors.checkMethods self _ ms _ rfl).tree.shape

/-- The check of the members leaves the bare forms of the methods. -/
theorem bare_checkMembers (fields : List FieldDecl) (st : State) :
    bare.methods true (SelfReference.link self (checkMembers self name fields ms st).tree.2) =
      bare.methods true ms := by
  unfold checkMembers Edit.andThen
  split
  · exact bare_checkInstance _ _
  · rw [SelfReference.link_eq, Relabeling.methods_absorb (Relabeling.bare_absorbs_linking _) id]

/-- The fields of the instance are found again, and then the methods are checked again. -/
theorem again_checkInstance {name' : Option (Node Ident)}
    (hname : bare.optionalName name' = bare.optionalName name)
    (hms : ∀ found, Again ((linking (some self)).methods true) (checkMethods self found) ms)
    (declared : List Field) (st : State) :
    checkInstance self name' declared
        (SelfReference.link self (checkInstance self name declared ms st).tree) st =
      (checkInstance self name declared ms st).rebuild (SelfReference.link self) := by
  have shape : bare.methods true
      (SelfReference.link self (checkInstance self name declared ms st).tree) =
      bare.methods true ms := bare_checkInstance declared st
  generalize hms' : SelfReference.link self (checkInstance self name declared ms st).tree = ms' at *
  -- surveys, signatures and the beginning of the methods only depend on bare trees
  have survey (s : State) : surveyMethods self ms' s = surveyMethods self ms s := by
    rw [← Mirrors.surveyMethods, shape, Mirrors.surveyMethods]
  have signatures (scopes : Scopes) (found : List Field) :
      memberSignatures scopes found ms' = memberSignatures scopes found ms := by
    rw [← memberSignatures_relabeled bare true, shape, memberSignatures_relabeled]
  have beginning (found signatures : List Field) (s : State) :
      s.beginMethods self name' found signatures = s.beginMethods self name found signatures := by
    rw [← State.beginMethods_relabeled bare, hname, State.beginMethods_relabeled]
  unfold checkInstance at hms' ⊢
  dsimp only at hms' ⊢
  rw [survey, signatures]
  generalize surveyMethods self ms (st.beginSurvey self (Field.merge declared)) = s at hms' ⊢
  cases h : memberSignatures s.endSurvey.scopes s.surveyed ms with
  | error f =>
    rw [h] at hms'
    exact congrArg (Edit.fail f · s.endSurvey) hms'.symm
  | ok signatures =>
    rw [h] at hms'
    dsimp only at hms' ⊢
    rw [Edit.whenDone_tree fun _ _ _ => rfl] at hms'
    rw [beginning, ← hms']
    refine Edit.again_whenDone ?_ fun _ _ => rfl
    rw [SelfReference.link_eq, funext (SelfReference.link_eq self)]
    exact hms _ _

/-- A class is checked again with the same outcome, since both checks give it the same number. -/
theorem again_class {fields : List FieldDecl} {st : State} (real : st.surveying = false)
    (hfields : ∀ s, checkFields (checkFields fields s).tree s = checkFields fields s)
    (hms : ∀ found,
      Again ((linking (some st.nextSelf)).methods true) (checkMethods st.nextSelf found) ms) :
    checkClass (checkClass ⟨name, fields, ms⟩ st).tree st = checkClass ⟨name, fields, ms⟩ st := by
  -- `M` is the first check of the members; the second starts from its tree, linked
  generalize hM : inScope (checkMembers st.nextSelf name fields ms) (st.enterClass ms) = M
  have again (name' : Option (Node Ident))
      (hname : bare.optionalName name' = bare.optionalName name) :
      inScope (checkMembers st.nextSelf name' M.tree.1 (SelfReference.link st.nextSelf M.tree.2))
        (st.enterClass (SelfReference.link st.nextSelf M.tree.2)) =
        M.rebuild fun p => (p.1, SelfReference.link st.nextSelf p.2) := by
    have shape : bare.methods true (SelfReference.link st.nextSelf M.tree.2) =
        bare.methods true ms := hM ▸ bare_checkMembers fields (st.enterClass ms).push
    -- the class is entered with the same events, which only depend on the bare methods
    have entering : st.enterClass (SelfReference.link st.nextSelf M.tree.2) = st.enterClass ms := by
      rw [← State.enterClass_relabeled bare true, shape, State.enterClass_relabeled]
    rw [entering, ← hM]
    refine again_inScope (Edit.again_andThenPair
      (fun ms declared => checkInstance st.nextSelf name' declared ms) (f := id) rfl ?_
      fun declared => again_checkInstance hname hms declared _)
    rw [inScope_tree, checkMembers, Edit.andThen_fst]
    exact hfields _
  rw [checkClass_of_real name fields ms real, hM]
  cases hr : M.result with
  | error f =>
    dsimp only [Edit.andThen, Edit.mapState]
    rw [hr]
    dsimp only
    rw [checkClass_of_real name _ _ real, again name rfl]
    simp only [Edit.andThen, Edit.mapState, Edit.rebuild, hr, link_link]
  | ok t =>
    dsimp only [Edit.andThen, Edit.mapState]
    rw [hr]
    dsimp only
    rw [checkClass_of_real _ _ _ real, again _ (Mirrors.named name t _).tree.shape]
    simp only [Edit.andThen, Edit.mapState, Edit.rebuild, hr, link_link, again_named]

end Class

mutual

/-- A checked expression is checked again with the same outcome, after its references are linked. -/
theorem again_checkExpr (receiver : Receiver) : ∀ n : Node Expr,
    Again ((linking receiver).node receiver.isSome) (checkExpr receiver) n
  | ⟨span, e, _⟩, st =>
    again_recorded (checkExpr receiver · st) _ (fun _ => rfl) (fun _ _ => rfl)
      (again_checkForm receiver span e st)

theorem again_checkForm (receiver : Receiver) (span : Span) : ∀ e : Expr,
    Again ((linking receiver).inside receiver.isSome) (checkForm receiver span) e
  | .literal _, _ => rfl
  | .ident i, st => by
    -- a linked `self` stands for the symbol that it stood for by its name
    have symbol := receiver.symbolOf_relabeled (linking receiver) i
    exact congrArg (fun s => Edit.succeed (st.lookup s)
      (Expr.ident ((linking receiver).ident receiver.isSome i)) st) symbol
  | .call callee args, st => by
    rw [checkForm]
    refine Edit.again_andThen (checkForm receiver span · st) _
      ((linking receiver).nodes receiver.isSome)
      (fun _ => by rw [Relabeling.inside, checkForm]) (fun _ => rfl)
      (again_checkExpr receiver callee st) fun t => ?_
    exact Edit.again_conclude (again_checkExprs receiver args _) (congrFun
      (Rule.call_congr span (bare_checkExpr receiver _ callee) (bare_checkExprs receiver _ args)) t)
  | .conditional test consequent alternate, st => by
    rw [checkForm]
    refine Edit.again_andThen (checkForm receiver span · st) _
      (fun p => ((linking receiver).stmt receiver.isSome p.1,
        (linking receiver).optionalStmt receiver.isSome p.2))
      (fun _ => by rw [Relabeling.inside, checkForm, Edit.conclude_tree]) (fun _ => rfl)
      (Edit.again_conclude (again_checkExpr receiver test st)
        (congrArg Rule.condition (again_span receiver st test))) fun _ => ?_
    refine Edit.again_andThenPair
      (fun alternate t st =>
        (checkOptionalStmt receiver alternate st).conclude fun u => .ok (Rule.branches t u)) rfl ?_
      fun t => Edit.again_conclude (again_checkOptionalStmt receiver alternate _) rfl
    rw [Edit.andThen_fst]
    exact again_checkStmt receiver consequent _
  | .member base property, st => by
    rw [checkForm]
    refine Edit.again_andThen (checkForm receiver span · st) _ (linking receiver).name
      (fun _ => by rw [Relabeling.inside, checkForm]) (fun _ => rfl)
      (again_checkExpr receiver base st) fun t => ?_
    rw [again_span]
    generalize (checkExpr receiver base st).state = s
    exact again_recorded
      (fun n : Node Ident => recorded n.span n.ty
        ⟨Rule.property base.span n.span t n.value.name, n.value, s⟩)
      (linking receiver).name (f := id) (fun _ => rfl) (fun _ _ => rfl) rfl
  | .index base position, st => by
    rw [checkForm]
    refine Edit.again_andThen (checkForm receiver span · st) _
      ((linking receiver).node receiver.isSome)
      (fun _ => by rw [Relabeling.inside, checkForm]) (fun _ => rfl)
      (again_checkExpr receiver base st) fun t => ?_
    exact Edit.again_conclude (again_checkExpr receiver position _)
      (congrArg₂ (Rule.index · · t) (again_span receiver _ base) (again_span receiver _ position))
  | .function f, st => by
    rw [checkForm]
    refine Edit.again_rebuild Expr.function (f := (linking receiver).function) ?_ fun _ => rfl
    -- nothing in a function is in reach, so linking is the identity here
    rw [Edit.rebuild_eq (Relabeling.function_eq (Relabeling.linking_onlyLinks receiver)),
      Relabeling.function_eq (Relabeling.linking_onlyLinks receiver)]
    exact again_checkFunction f st
  | .classDef c, st => by
    rw [checkForm]
    refine Edit.again_rebuild Expr.classDef (f := (linking receiver).classDef) ?_ fun _ => rfl
    rw [Edit.rebuild_eq (Relabeling.classDef_eq (Relabeling.linking_onlyLinks receiver)),
      Relabeling.classDef_eq (Relabeling.linking_onlyLinks receiver)]
    exact again_checkClass c st
  | .assertion e ty, st => by
    rw [checkForm]
    have same (t : Node Expr) : (linking receiver).inside receiver.isSome (.assertion t ty) =
        .assertion ((linking receiver).node receiver.isSome t) ty := by
      rw [Relabeling.inside, Relabeling.typeExpr_eq (Relabeling.linking_onlyLinks receiver)]
    show checkForm receiver span ((linking receiver).inside receiver.isSome
      (.assertion (checkExpr receiver e st).tree ty)) st = _
    rw [same, checkForm]
    exact Edit.again_rebuild (Expr.assertion · ty)
      (Edit.again_concludeWith (again_checkExpr receiver e st)) same
  | .throwing value, st => by
    rw [checkForm]
    exact Edit.again_rebuild Expr.throwing
      (Edit.again_conclude (again_checkExpr receiver value st) rfl) fun _ => rfl
  | .whileLoop test body, st => by
    rw [checkForm]
    refine Edit.again_andThen (checkForm receiver span · st) _
      ((linking receiver).stmts receiver.isSome)
      (fun _ => by rw [Relabeling.inside, checkForm, Edit.conclude_tree]) (fun _ => rfl)
      (Edit.again_conclude (again_checkExpr receiver test st)
        (congrArg Rule.condition (again_span receiver st test))) fun _ => ?_
    exact Edit.again_conclude (again_inScope (again_checkStmts receiver .undefined body _)) rfl
  | .forLoop bindings test update body, st => by
    rw [checkForm_forLoop, Edit.rebuild_tree, Relabeling.inside, checkForm_forLoop]
    refine Edit.again_rebuild (fun p => Expr.forLoop p.1 p.2.1 p.2.2.1 p.2.2.2)
      (f := fun p => ((linking receiver).bindings receiver.isSome p.1, linkedTurns receiver p.2))
      (again_inScope ?_) fun _ => rfl
    rw [inScope_tree, Edit.andThen_fst]
    exact Edit.again_andThenPair (fun p _ => checkTurns receiver p) (g := linkedTurns receiver) rfl
      (again_checkBindings receiver bindings _) fun _ => again_checkTurns
        (again_checkOptional receiver test) (again_checkOptional receiver update)
        (again_checkStmts receiver .undefined body) _
  | .returning value, st => by
    rw [checkForm]
    exact Edit.again_rebuild Expr.returning
      (Edit.again_conclude (again_checkOptional receiver value st) rfl) fun _ => rfl
  | .attempt body handler cleanup, st => by
    rw [checkForm]
    refine Edit.again_andThen (checkForm receiver span · st) _
      (fun p => ((linking receiver).optionalHandler receiver.isSome p.1,
        (linking receiver).optionalBody receiver.isSome p.2))
      (fun _ => by rw [Relabeling.inside, checkForm, inScope_tree]) (fun _ => rfl)
      (again_inScope (again_checkStmts receiver .undefined body _)) fun _ => ?_
    refine Edit.again_andThenPair (fun cleanup _ => checkCleanup receiver cleanup) rfl ?_
      fun _ => again_checkCleanup receiver cleanup _
    rw [Edit.andThen_fst]
    exact again_checkHandler receiver handler _
  | .array items, st => by
    rw [checkForm]
    exact Edit.again_rebuild Expr.array
      (Edit.again_conclude (again_checkExprs receiver items st) rfl) fun _ => rfl
  | .object properties, st => by
    rw [checkForm]
    exact Edit.again_rebuild Expr.object
      (Edit.again_conclude (again_checkProperties receiver properties st) rfl) fun _ => rfl
  | .assignment target value, st => by
    rw [checkForm]
    split
    · rename_i isTarget
      have again := bare_checkExpr receiver st target
      refine Edit.again_andThen (checkForm receiver span · st) _
        ((linking receiver).node receiver.isSome)
        (fun _ => by rw [Relabeling.inside, checkForm, isTarget_congr again, if_pos isTarget])
        (fun _ => rfl) (again_checkExpr receiver target st) fun targetTy => ?_
      rw [Edit.whenDone_tree ?_]
      refine Edit.again_whenDone (again_checkExpr receiver value _) fun t s => ?_
      · -- the second check compares the same types and so takes the same branch
        rw [Relabeling.node_span, State.noteAssignment_congr again, State.rebind_congr again]
        split <;> rfl
      · intro t value s
        split <;> rfl
    · rename_i isNot
      show checkForm receiver span (.assignment ((linking receiver).node receiver.isSome target)
        ((linking receiver).node receiver.isSome value)) st = _
      rw [checkForm, Relabeling.node_value, Relabeling.inside_isTarget, if_neg isNot,
        Relabeling.node_span]
      rfl

theorem again_checkFunction : ∀ (f : Function) (st : State),
    checkFunction (checkFunction f st).tree st = checkFunction f st
  | ⟨name, typeParams, params, returns, body⟩, st => by
    have hbody (st : State) :
        checkStmts none .undefined (checkStmts none .undefined body st).tree st =
          checkStmts none .undefined body st := by
      have links := Relabeling.stmts_eq (Relabeling.linking_onlyLinks none)
      have h := again_checkStmts none .undefined body st
      rwa [Option.isSome_none, Edit.rebuild_eq links, links] at h
    have callable : checkCallable typeParams _ returns _ (announceFunction name) _ st =
        checkCallable typeParams params returns body (announceFunction name) _ st :=
      again_checkCallable (f := id) hbody (fun _ => rfl) st rfl
    dsimp only [id] at callable
    rw [checkFunction]
    split
    · rename_i surveying
      rw [surveyFunction_tree, checkFunction, if_pos surveying]
    · rename_i real
      cases hr : (checkCallable typeParams params returns body (announceFunction name)
        (checkStmts none .undefined body) st).result with
      | error x =>
        simp only [Edit.andThen, hr]
        rw [checkFunction, if_neg real, callable]
        simp only [Edit.andThen, hr]
      | ok t =>
        simp only [Edit.andThen, hr]
        rw [checkFunction, if_neg real, announceFunction_named, callable]
        simp only [Edit.andThen, hr, again_named]

theorem again_checkClass : ∀ (c : Class) (st : State),
    checkClass (checkClass c st).tree st = checkClass c st
  | ⟨name, fields, methods⟩, st => by
    cases surveying : st.surveying with
    | true =>
      rw [checkClass, if_pos surveying]
      exact (checkClass.eq_1 ..).trans (if_pos surveying)
    | false =>
      exact again_class surveying (again_checkFields fields)
        fun found s => again_checkMethods st.nextSelf found methods s

theorem again_checkExprs (receiver : Receiver) : ∀ es : List (Node Expr),
    Again ((linking receiver).nodes receiver.isSome) (checkExprs receiver) es
  | [], _ => rfl
  | e :: rest, st => by
    rw [checkExprs]
    refine Edit.again_andThen (checkExprs receiver · st) _
      ((linking receiver).nodes receiver.isSome)
      (fun _ => by rw [Relabeling.nodes, checkExprs]) (fun _ => rfl)
      (again_checkExpr receiver e st) fun t => ?_
    exact Edit.again_conclude (again_checkExprs receiver rest _) rfl

theorem again_checkOptional (receiver : Receiver) : ∀ e : Option (Node Expr),
    Again ((linking receiver).optional receiver.isSome) (checkOptional receiver) e
  | none, _ => rfl
  | some e, st =>
    Edit.again_rebuild some (Edit.again_conclude (again_checkExpr receiver e st) rfl) fun _ => rfl

theorem again_checkStmt (receiver : Receiver) : ∀ n : Node Stmt,
    Again ((linking receiver).stmt receiver.isSome) (checkStmt receiver) n
  | ⟨span, .expr e, slot⟩, st => by
    rw [checkStmt]
    exact again_recorded (checkStmt receiver · st) _ (fun _ => rfl) (fun _ _ => rfl)
      (Edit.again_rebuild Stmt.expr (again_checkExpr receiver e st) fun _ => rfl)
  | ⟨span, .block body, slot⟩, st => by
    rw [checkStmt]
    exact again_recorded (checkStmt receiver · st) _ (fun _ => rfl) (fun _ _ => rfl)
      (Edit.again_rebuild Stmt.block (again_inScope (again_checkStmts receiver .undefined body _))
        fun _ => rfl)
  | ⟨span, .binding kind bindings body, slot⟩, st => by
    rw [checkStmt_binding]
    refine again_recorded (checkStmt receiver · st) ((linking receiver).stmt receiver.isSome)
      (fun _ => by rw [Edit.rebuild_tree, Relabeling.stmt, Relabeling.insideStmt,
        (Relabeling.linking_onlyLinks receiver).ty, checkStmt_binding])
      (fun _ _ => rfl) (Edit.again_rebuild (fun p => Stmt.binding kind p.1 p.2)
        (f := fun p => ((linking receiver).bindings receiver.isSome p.1,
          (linking receiver).stmts receiver.isSome p.2)) ?_ fun _ => rfl)
    have names (st : State) : (((linking receiver).bindings receiver.isSome
        (checkBindings receiver bindings st).tree).map fun b => b.name.value.name) =
        bindings.map fun b => b.name.value.name := by
      rw [← bare.bindings_names receiver.isSome, bare_checkBindings, bare.bindings_names]
    rw [inScope_tree, Edit.andThen_fst, names]
    refine again_inScope (Edit.again_andThenPair
      (fun body _ => checkStmts receiver .undefined body) rfl ?_
      fun _ => again_checkStmts receiver .undefined body _)
    exact again_checkBindings receiver bindings _
  | ⟨span, .typeAlias name typeParams ty, slot⟩, st => by
    have same :
        (linking receiver).stmt receiver.isSome ⟨span, .typeAlias name typeParams ty, slot⟩ =
          ⟨span, .typeAlias name typeParams ty, slot⟩ := by
      have links := Relabeling.linking_onlyLinks receiver
      rw [Relabeling.stmt, Relabeling.insideStmt, Relabeling.name_eq links,
        Relabeling.names_eq links, Relabeling.typeExpr_eq links, links.ty]
    rw [checkStmt]
    cases h : Rule.aliased st.scopes typeParams ty with
    | error f => simp only [Edit.fail, Edit.rebuild, same, checkStmt, h]
    | ok t => simp only [Edit.succeed, Edit.rebuild, same, checkStmt, h]

theorem again_checkOptionalStmt (receiver : Receiver) : ∀ n : Option (Node Stmt),
    Again ((linking receiver).optionalStmt receiver.isSome) (checkOptionalStmt receiver) n
  | none, _ => rfl
  | some n, st =>
    Edit.again_rebuild some (Edit.again_conclude (again_checkStmt receiver n st) rfl) fun _ => rfl

theorem again_checkStmts (receiver : Receiver) (last : Ty) :
    ∀ body : List (Node Stmt),
    Again ((linking receiver).stmts receiver.isSome) (checkStmts receiver last) body
  | [], _ => rfl
  | n :: rest, st => by
    rw [checkStmts]
    refine Edit.again_andThen (checkStmts receiver last · st) _
      ((linking receiver).stmts receiver.isSome)
      (fun _ => by rw [Relabeling.stmts, checkStmts]) (fun _ => rfl)
      (again_checkStmt receiver n st) fun t => ?_
    exact again_checkStmts receiver t rest _

theorem again_checkCleanup (receiver : Receiver) :
    ∀ body : Option (List (Node Stmt)),
    Again ((linking receiver).optionalBody receiver.isSome) (checkCleanup receiver) body
  | none, _ => rfl
  | some body, _ =>
    Edit.again_rebuild some
      (Edit.again_conclude (again_inScope (again_checkStmts receiver .undefined body _)) rfl)
      fun _ => rfl

theorem again_checkHandler (receiver : Receiver) : ∀ handler : Option Handler,
    Again ((linking receiver).optionalHandler receiver.isSome) (checkHandler receiver) handler
  | none, _ => rfl
  | some ⟨param, body⟩, st => by
    rw [checkHandler_some, Edit.rebuild_tree, Relabeling.optionalHandler, checkHandler_some]
    refine Edit.again_rebuild (fun p => some (Handler.mk p.1 p.2))
      (f := fun p => ((linking receiver).optionalName p.1,
        (linking receiver).stmts receiver.isSome p.2)) (again_inScope ?_) fun _ => rfl
    refine Edit.again_andThenPair (fun body _ => checkStmts receiver .undefined body) rfl ?_
      fun _ => again_checkStmts receiver .undefined body _
    rw [Edit.rebuild_eq (Relabeling.optionalName_eq (Relabeling.linking_onlyLinks receiver)),
      Relabeling.optionalName_eq (Relabeling.linking_onlyLinks receiver)]
    rw [inScope_tree, Edit.andThen_fst]
    exact again_named param .unknown _

theorem again_checkBindings (receiver : Receiver) : ∀ bs : List Binding,
    Again ((linking receiver).bindings receiver.isSome) (checkBindings receiver) bs
  | [], _ => rfl
  | ⟨name, declaredAs, init⟩ :: rest, st => by
    have links := Relabeling.linking_onlyLinks receiver
    have annotation := Relabeling.optionalTypeExpr_eq links declaredAs
    rw [checkBindings]
    refine Edit.again_andThen (checkBindings receiver · st) _
      (fun p => ((linking receiver).name p.1, (linking receiver).bindings receiver.isSome p.2))
      (fun _ => by rw [Relabeling.bindings, annotation, checkBindings])
      (fun _ => by rw [Relabeling.bindings, annotation])
      (again_checkExpr receiver init st) fun initTy => ?_
    generalize hs : (checkExpr receiver init st).state = s
    rw [again_span]
    cases Rule.binding s.scopes declaredAs initTy init.span with
    | error f => rfl
    | ok t =>
      exact again_afterName name t _ (checkBindings receiver)
        fun st => again_checkBindings receiver rest st

theorem again_checkFields : ∀ (fs : List FieldDecl) (st : State),
    checkFields (checkFields fs st).tree st = checkFields fs st
  | [], _ => rfl
  | ⟨name, declaredAs, init⟩ :: rest, st => by
    have hinit : checkOptional none (checkOptional none init st).tree st =
        checkOptional none init st := by
      have links := Relabeling.optional_eq (Relabeling.linking_onlyLinks none)
      have h := again_checkOptional none init st
      rwa [Option.isSome_none, Edit.rebuild_eq links, links] at h
    have field (s : State) (initTy : Option Ty) :
        Rule.field s.scopes declaredAs (checkOptional none init st).tree initTy =
          Rule.field s.scopes declaredAs init initTy := by
      have shape := (Mirrors.checkOptional none init st).tree.shape
      rw [← Rule.field_relabeled bare false,
        ← Rule.field_relabeled bare false s.scopes declaredAs init]
      exact congrArg (Rule.field s.scopes (bare.optionalTypeExpr declaredAs) · initTy) shape
    rw [checkFields]
    show checkFields (id (Edit.andThen _ _ _ _).tree) st = Edit.rebuild id _
    refine Edit.again_andThen (checkFields · st) id id (f := id)
      (fun _ => by rw [id_eq, checkFields]; rfl) (fun _ => rfl) hinit fun initTy => ?_
    generalize (checkOptional none init st).state = s at *
    rw [field]
    cases Rule.field s.scopes declaredAs init initTy with
    | error f => rfl
    | ok t =>
      exact again_afterName name t _ (fun rest st => (checkFields rest st).conclude fun entries =>
        .ok (⟨name.value.name, t⟩ :: entries))
        (f := id) fun st => Edit.again_conclude (f := id) (again_checkFields rest st) rfl

theorem again_checkMethods (self : Symbol) (fields : List Field) :
    ∀ ms : List (Node Method),
    Again ((linking (some self)).methods true) (checkMethods self fields) ms
  | [], _ => rfl
  | ⟨span, ⟨name, kind, typeParams, params, returns, body⟩, slot⟩ :: rest, st => by
    exact again_checkMethods_cons (again_checkStmts (some self) .undefined body)
      (again_checkMethods self fields rest) st

theorem again_checkProperties (receiver : Receiver) : ∀ ps : List Property,
    Again ((linking receiver).properties receiver.isSome) (checkProperties receiver) ps
  | [], _ => rfl
  | ⟨key, value⟩ :: rest, st => by
    rw [checkProperties]
    refine Edit.again_andThen (checkProperties receiver · st) _
      ((linking receiver).properties receiver.isSome)
      (fun _ => by rw [Relabeling.properties, checkProperties,
        Relabeling.name_eq (Relabeling.linking_onlyLinks receiver)]) (fun _ => rfl)
      (again_checkExpr receiver value st) fun t => ?_
    exact Edit.again_conclude (again_checkProperties receiver rest _) rfl

end

end Checker

namespace Session

/-- A checked statement of a program is checked again with the same outcome. -/
theorem again_checkStmt (file : String) (n : Node Stmt) (s : Session) :
    s.checkStmt file (s.checkStmt file n).1 = s.checkStmt file n := by
  -- outside of methods nothing is linked
  have links := Relabeling.stmt_eq (Relabeling.linking_onlyLinks none)
  have h := Checker.again_checkStmt none n s.state
  rw [Option.isSome_none, Edit.rebuild_eq links, links] at h
  have tree : (s.checkStmt file n).1 = (Checker.checkStmt none n s.state).tree := by
    unfold Session.checkStmt
    dsimp only
    split <;> rfl
  rw [tree]
  unfold Session.checkStmt
  rw [h]

/-- A checked body is checked again with the same outcome. -/
theorem again_checkBody (file : String) (body : List (Node Stmt)) (s : Session) :
    checkBody file (checkBody file body s).1 s = checkBody file body s := by
  induction body generalizing s with
  | nil => rfl
  | cons n rest ih =>
    simp only [checkBody, again_checkStmt, ih]

/-- **A check of a checked program changes nothing.**  From the session that a program was checked
in, the program that the check leaves behind leads to the same session, with its table, its
diagnostics and its journal, and stays as it is. -/
theorem check_check (p : Program) (s : Session) : s.check (s.check p).1 = s.check p := by
  unfold check
  dsimp only
  rw [again_checkBody]

end Session
end StructuralTyping
