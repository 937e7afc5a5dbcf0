import StructuralTyping.Session
import StructuralTyping.Proofs.ClassStages
import StructuralTyping.Proofs.ProgramParts
import StructuralTyping.Proofs.TypeTableGrowth

/-! # What a check does to the state

A check of any part of a program is a sequence of a few steps on the state: a type is recorded, a
symbol bound, an entry noted, a scope opened and closed, a class entered and left.
`StepClosedFor aliases R` says that the relation `R` between an earlier and a later state holds
across each of them, if the aliases that are defined are among `aliases`, and the theorems of this
module carry `R` over to the check of every kind of part, whether it succeeds or not
(`StepClosedFor.checkExpr`, `StepClosedFor.checkStmt` and their companions).  `StepClosed R` does
not look at the names of aliases.

A class is the one place where a relation may fail for a while: between entering and leaving it the
survey is replaced.  `StepClosedFor` therefore asks for the three ways of leaving a class as a
whole: after its fields, after the survey of its methods, and after its methods.
-/
namespace StructuralTyping
namespace Checker

/-- The aliases that are defined among the parts are all in `aliases`. -/
def AliasesIn (aliases : String → Prop) (parts : List Part) : Prop :=
  ∀ name ∈ Parts.aliases parts, aliases name

namespace AliasesIn

variable {aliases : String → Prop} {p : Part} {parts parts' : List Part}

theorem left (h : AliasesIn aliases (parts ++ parts')) : AliasesIn aliases parts := by
  intro name hname
  refine h name ?_
  rw [Parts.aliases, List.filterMap_append]
  exact List.mem_append_left _ hname

theorem right (h : AliasesIn aliases (parts ++ parts')) : AliasesIn aliases parts' := by
  intro name hname
  refine h name ?_
  rw [Parts.aliases, List.filterMap_append]
  exact List.mem_append_right _ hname

theorem tail (h : AliasesIn aliases (p :: parts)) : AliasesIn aliases parts :=
  right (show AliasesIn aliases ([p] ++ parts) from h)

end AliasesIn

/-- An entry that a check makes on the way.  Events are emitted and not just noted, the failure of a
statement is noted by the session, and the survey of a method stops for a fault of that method. -/
def Noted : Entry → Prop
  | .event _ => False
  | .failed _ => False
  | .surveyStopped _ fault =>
    ∃ self m st f, (surveyMethod self m st).result = .error f ∧ f.fault = fault
  | _ => True

/-- A relation between an earlier and a later state that every step of a check keeps which defines
no aliases but those in `aliases`. -/
structure StepClosedFor (aliases : String → Prop) (R : State → State → Prop) : Prop where
  refl (st : State) : R st st
  trans {a b c : State} : R a b → R b c → R a c
  record (slot : Option TypeId) (t : Ty) (st : State) : R st (st.record slot t).2
  bind (symbol : Option Symbol) (t : Ty) (st : State) : R st (st.bind symbol t)
  note (e : Entry) (st : State) : Noted e → R st (st.note e)
  emit (e : Event) (st : State) : R st (st.emit e)
  defineAlias (name : String) (t : Ty) (st : State) : aliases name → R st (st.defineAlias name t)
  noteAssignment (receiver : Receiver) (target : Expr) (t : Ty) (st : State) :
    R st (st.noteAssignment receiver target t)
  /-- A scope is opened, may get type parameters, is worked in and closed. -/
  scope (names : List (Node Ident)) {st after : State} :
    R (st.push.bindTypeParams names) after → R st after.pop
  /-- A class is left after its fields. -/
  classFields {ms : List (Node Method)} {st s₁ : State} : st.surveying = false →
    R (st.enterClass ms).push s₁ → R st { s₁.pop with survey := st.survey }
  /-- A class is left after the survey. -/
  classSurvey {ms : List (Node Method)} {self : Symbol} {declared : List Field}
      {st s₁ s₂ : State} : st.surveying = false →
    R (st.enterClass ms).push s₁ → R (s₁.beginSurvey self declared) s₂ →
    R st { s₂.endSurvey.pop with survey := st.survey }
  /-- A class is left after its methods. -/
  classMethods {ms : List (Node Method)} {self : Symbol} {name : Option (Node Ident)}
      {declared fields signatures : List Field} {st s₁ s₂ s₃ : State} : st.surveying = false →
    R (st.enterClass ms).push s₁ → R (s₁.beginSurvey self declared) s₂ →
    R (s₂.endSurvey.beginMethods self name fields signatures) s₃ →
    R st { s₃.pop with survey := st.survey }

/-- A relation between an earlier and a later state that every step of a check keeps. -/
abbrev StepClosed (R : State → State → Prop) : Prop := StepClosedFor (fun _ => True) R

namespace StepClosedFor

variable {aliases : String → Prop} {R : State → State → Prop} {τ υ ω α β : Type}

/-! ## Sequences of steps -/

section Sequences

variable (closed : StepClosedFor aliases R)

include closed

/-- Two checks in a row, the second of which runs only if the first succeeds. -/
theorem andThen {st : State} {first : Checked τ α} {rest : υ} {next : α → State → Checked υ β}
    {build : τ → υ → ω} (h₁ : R st first.state)
    (h₂ : ∀ a, R first.state (next a first.state).state) :
    R st (first.andThen rest next build).state := by
  unfold Edit.andThen
  split
  · exact closed.trans h₁ (h₂ _)
  · exact h₁

/-- A step that follows a success. -/
theorem whenDone {st : State} {e : Checked τ α} {next : α → τ → State → Checked τ β}
    (h₁ : R st e.state) (h₂ : ∀ a, R e.state (next a e.tree e.state).state) :
    R st (e.whenDone next).state := by
  unfold Edit.whenDone
  split
  · exact closed.trans h₁ (h₂ _)
  · exact h₁

/-- The two steps around a scope are steps of the relation as well. -/
theorem inScope {work : State → Checked τ α} {st : State} (h : R st.push (work st.push).state) :
    R st (Checker.inScope work st).state :=
  closed.scope [] h

/-- Recording a result is a step, and a failed check records nothing. -/
theorem recorded {st : State} {span : Span} {slot : Option TypeId} {e : Checked τ Ty}
    (h : R st e.state) : R st (Checker.recorded span slot e).state := by
  unfold Checker.recorded
  split
  · exact closed.trans h (closed.record _ _ _)
  · exact h

theorem recordName (n : Node Ident) (t : Ty) (st : State) : R st (st.recordName n t).2 :=
  closed.record n.ty t st

/-- A name is bound and recorded, if there is one. -/
theorem named (name : Option (Node Ident)) (t : Ty) (st : State) :
    R st (Checker.named name t st).state := by
  cases name with
  | none => exact closed.refl st
  | some n => exact closed.trans (closed.bind _ _ _) (closed.recordName _ _ _)

/-- A target that is no identifier changes nothing. -/
theorem rebind (receiver : Receiver) (target : Expr) (t : Ty) (st : State) :
    R st (st.rebind receiver target t) := by
  unfold State.rebind
  split
  · rename_i i
    exact closed.trans (closed.note (.rebound i.name t.widen) st trivial) (closed.bind _ _ _)
  · exact closed.refl st

theorem announceFunction (name : Option (Node Ident)) (types : List Ty) (declared : Option Ty)
    (st : State) : R st (Checker.announceFunction name types declared st) := by
  cases name with
  | none => exact closed.refl st
  | some n => exact closed.bind _ _ _

theorem surveyFunction (f : Function) (st : State) :
    R st (Checker.surveyFunction f st).state := by
  unfold Checker.surveyFunction
  split
  · exact closed.refl st
  · exact closed.bind _ _ _

/-- Parameters are bound one after the other. -/
theorem checkParams (params : List Param) (st : State) :
    R st (Checker.checkParams params st).state := by
  induction params generalizing st with
  | nil => exact closed.refl st
  | cons p rest ih =>
    obtain ⟨name, declaredAs⟩ := p
    unfold Checker.checkParams
    split
    · exact closed.refl st
    · exact closed.trans (closed.trans (closed.bind _ _ _) (closed.recordName _ _ _)) (ih _)

/-- Functions and methods: all that their checks differ in are the announcement and the body. -/
theorem checkCallable {typeParams : List (Node Ident)} {params : List Param}
    {returns : Option (Node TypeExpr)} {body : List (Node Stmt)}
    {announce : List Ty → Option Ty → State → State}
    {checkBody : State → Checked (List (Node Stmt)) Ty}
    (hannounce : ∀ types declared st, R st (announce types declared st))
    (hbody : ∀ st, R st (checkBody st).state) (st : State) :
    R st (Checker.checkCallable typeParams params returns body announce checkBody st).state := by
  refine closed.scope typeParams (closed.andThen (closed.checkParams _ _) fun types => ?_)
  split
  · exact closed.refl _
  · refine closed.whenDone ?_ fun _ => closed.refl _
    exact closed.trans (hannounce _ _ _) (hbody _)

end Sequences

/-! ## Every part of a program -/

mutual

/-- Every check is made of the steps, so a relation that these keep is kept by the whole. -/
theorem checkExpr (closed : StepClosedFor aliases R) (receiver : Receiver) :
    ∀ (e : Node Expr) (st : State), AliasesIn aliases (Parts.node e) →
      R st (Checker.checkExpr receiver e st).state
  | ⟨span, e, _⟩, st, h => closed.recorded (checkForm closed receiver span e st h.tail)

theorem checkForm (closed : StepClosedFor aliases R) (receiver : Receiver) (span : Span) :
    ∀ (e : Expr) (st : State), AliasesIn aliases (Parts.inside e) →
      R st (Checker.checkForm receiver span e st).state
  | .literal _, st, _ => closed.refl st
  | .ident _, st, _ => closed.refl st
  | .call callee args, st, h =>
    closed.andThen (checkExpr closed receiver callee st h.left) fun _ =>
      checkExprs closed receiver args _ h.right
  | .conditional test consequent alternate, st, h =>
    closed.andThen (checkExpr closed receiver test st h.left) fun _ =>
      closed.andThen (checkStmt closed receiver consequent _ h.right.left) fun _ =>
        checkOptionalStmt closed receiver alternate _ h.right.right
  | .member base _, st, h =>
    closed.andThen (checkExpr closed receiver base st h) fun _ => closed.recorded (closed.refl _)
  | .index base position, st, h =>
    closed.andThen (checkExpr closed receiver base st h.left) fun _ =>
      checkExpr closed receiver position _ h.right
  | .function f, st, h => checkFunction closed f st h
  | .classDef c, st, h => checkClass closed c st h
  | .assertion e _, st, h => checkExpr closed receiver e st h
  | .throwing value, st, h => checkExpr closed receiver value st h
  | .whileLoop test body, st, h =>
    closed.andThen (checkExpr closed receiver test st h.left) fun _ =>
      closed.inScope (checkStmts closed receiver _ body _ h.right)
  | .forLoop bindings test update body, st, h =>
    closed.inScope <| closed.andThen (checkBindings closed receiver bindings _ h.left) fun _ =>
      closed.andThen (checkOptional closed receiver test _ h.right.left) fun _ =>
        closed.andThen (checkOptional closed receiver update _ h.right.right.left) fun _ =>
          closed.inScope (checkStmts closed receiver _ body _ h.right.right.right)
  | .returning value, st, h => checkOptional closed receiver value st h
  | .attempt body handler cleanup, st, h =>
    closed.andThen (closed.inScope (checkStmts closed receiver _ body _ h.left)) fun _ =>
      closed.andThen (checkHandler closed receiver handler _ h.right.left) fun _ =>
        checkCleanup closed receiver cleanup _ h.right.right
  | .array items, st, h => checkExprs closed receiver items st h
  | .object properties, st, h => checkProperties closed receiver properties st h
  | .assignment target value, st, h => by
    unfold Checker.checkForm
    split
    · refine closed.andThen (checkExpr closed receiver target st h.left) fun targetTy => ?_
      refine closed.whenDone (checkExpr closed receiver value _ h.right) fun t => ?_
      split
      · exact closed.refl _
      · exact closed.trans (closed.noteAssignment _ _ _ _) (closed.rebind _ _ _ _)
    · exact closed.refl st

theorem checkFunction (closed : StepClosedFor aliases R) :
    ∀ (f : Function) (st : State), AliasesIn aliases (Parts.inside (.function f)) →
      R st (Checker.checkFunction f st).state
  | ⟨name, typeParams, params, returns, body⟩, st, h => by
    unfold Checker.checkFunction
    split
    · exact closed.surveyFunction _ st
    · refine closed.andThen ?_ fun _ => closed.named _ _ _
      exact closed.checkCallable (closed.announceFunction name)
        (fun st => checkStmts closed none .undefined body st h) st

theorem checkClass (closed : StepClosedFor aliases R) :
    ∀ (c : Class) (st : State), AliasesIn aliases (Parts.inside (.classDef c)) →
      R st (Checker.checkClass c st).state
  | ⟨name, fields, methods⟩, st, h => by
    unfold Checker.checkClass
    split
    · exact closed.refl st
    · rename_i real
      have real : st.surveying = false := by simpa using real
      refine closed.andThen ?_ fun _ => closed.named _ _ _
      have hfields := checkFields closed fields (st.enterClass methods).push h.left
      simp only [Checker.inScope, Edit.mapState, Edit.andThen]
      split
      · rename_i declared _
        have hsurvey := surveyMethods closed st.nextSelf methods
          ((Checker.checkFields fields (st.enterClass methods).push).state.beginSurvey st.nextSelf
            (Field.merge declared)) h.right
        dsimp only
        split
        · exact closed.classSurvey real hfields hsurvey
        · exact closed.classMethods real hfields hsurvey
            (closed.whenDone (checkMethods closed _ _ methods _ h.right) fun _ => closed.refl _)
      · exact closed.classFields real hfields

theorem checkExprs (closed : StepClosedFor aliases R) (receiver : Receiver) :
    ∀ (es : List (Node Expr)) (st : State), AliasesIn aliases (Parts.nodes es) →
      R st (Checker.checkExprs receiver es st).state
  | [], st, _ => closed.refl st
  | e :: rest, st, h =>
    closed.andThen (checkExpr closed receiver e st h.left) fun _ =>
      checkExprs closed receiver rest _ h.right

theorem checkOptional (closed : StepClosedFor aliases R) (receiver : Receiver) :
    ∀ (e : Option (Node Expr)) (st : State), AliasesIn aliases (Parts.optional e) →
      R st (Checker.checkOptional receiver e st).state
  | none, st, _ => closed.refl st
  | some e, st, h => checkExpr closed receiver e st h

theorem checkStmt (closed : StepClosedFor aliases R) (receiver : Receiver) :
    ∀ (s : Node Stmt) (st : State), AliasesIn aliases (Parts.stmt s) →
      R st (Checker.checkStmt receiver s st).state
  | ⟨_, .expr e, _⟩, st, h => closed.recorded (checkExpr closed receiver e st h.tail)
  | ⟨_, .block body, _⟩, st, h =>
    closed.recorded (closed.inScope (checkStmts closed receiver _ body _ h.tail))
  | ⟨_, .binding _ bindings body, _⟩, st, h =>
    closed.recorded <| closed.trans (closed.emit _ st) <| closed.inScope <|
      closed.andThen (checkBindings closed receiver bindings _ h.tail.left) fun _ =>
        checkStmts closed receiver _ body _ h.tail.right
  | ⟨_, .typeAlias name _ _, _⟩, st, h => by
    have allowed : aliases name.value.name := h _ List.mem_cons_self
    unfold Checker.checkStmt
    split
    · exact closed.refl st
    · rename_i t _
      exact closed.trans (closed.note (.aliased name.value.name t) st trivial)
        (closed.defineAlias _ _ _ allowed)

theorem checkOptionalStmt (closed : StepClosedFor aliases R) (receiver : Receiver) :
    ∀ (s : Option (Node Stmt)) (st : State), AliasesIn aliases (Parts.optionalStmt s) →
      R st (Checker.checkOptionalStmt receiver s st).state
  | none, st, _ => closed.refl st
  | some s, st, h => checkStmt closed receiver s st h

theorem checkStmts (closed : StepClosedFor aliases R) (receiver : Receiver) (last : Ty) :
    ∀ (body : List (Node Stmt)) (st : State), AliasesIn aliases (Parts.stmts body) →
      R st (Checker.checkStmts receiver last body st).state
  | [], st, _ => closed.refl st
  | s :: rest, st, h =>
    closed.andThen (checkStmt closed receiver s st h.left) fun t =>
      checkStmts closed receiver t rest _ h.right

theorem checkCleanup (closed : StepClosedFor aliases R) (receiver : Receiver) :
    ∀ (body : Option (List (Node Stmt))) (st : State), AliasesIn aliases (Parts.optionalBody body) →
      R st (Checker.checkCleanup receiver body st).state
  | none, st, _ => closed.refl st
  | some body, _, h => closed.inScope (checkStmts closed receiver _ body _ h)

theorem checkHandler (closed : StepClosedFor aliases R) (receiver : Receiver) :
    ∀ (handler : Option Handler) (st : State),
      AliasesIn aliases (Parts.optionalHandler handler) →
      R st (Checker.checkHandler receiver handler st).state
  | none, st, _ => closed.refl st
  | some ⟨_, body⟩, _, h =>
    closed.inScope <| closed.andThen (closed.named _ _ _) fun _ =>
      checkStmts closed receiver _ body _ h

theorem checkBindings (closed : StepClosedFor aliases R) (receiver : Receiver) :
    ∀ (bs : List Binding) (st : State), AliasesIn aliases (Parts.bindings bs) →
      R st (Checker.checkBindings receiver bs st).state
  | [], st, _ => closed.refl st
  | ⟨name, declaredAs, init⟩ :: rest, st, h => by
    refine closed.andThen (checkExpr closed receiver init st h.left) fun initTy => ?_
    split
    · exact closed.refl _
    · rename_i t _
      have bound (st : State) :=
        closed.trans (closed.note (.bound name.value.name t) st trivial)
          (closed.bind name.value.symbol t _)
      exact closed.trans (closed.trans (bound _) (closed.recordName name t _))
        (checkBindings closed receiver rest _ h.right)

theorem checkFields (closed : StepClosedFor aliases R) :
    ∀ (fs : List FieldDecl) (st : State), AliasesIn aliases (Parts.fieldDecls fs) →
      R st (Checker.checkFields fs st).state
  | [], st, _ => closed.refl st
  | ⟨name, declaredAs, init⟩ :: rest, st, h => by
    refine closed.andThen (checkOptional closed none init st h.left) fun initTy => ?_
    split
    · exact closed.refl _
    · exact closed.trans (closed.recordName _ _ _) (checkFields closed rest _ h.right)

theorem surveyMethods (closed : StepClosedFor aliases R) (self : Symbol) :
    ∀ (ms : List (Node Method)) (st : State), AliasesIn aliases (Parts.methods ms) →
      R st (Checker.surveyMethods self ms st)
  | [], st, _ => closed.refl st
  | ⟨_, ⟨name, kind, typeParams, params, returns, body⟩, _⟩ :: rest, st, h => by
    rw [surveyMethods_cons]
    refine closed.trans ?_ (surveyMethods closed self rest _ h.right)
    have surveyed :
        R st (surveyMethod self ⟨name, kind, typeParams, params, returns, body⟩ st).state :=
      closed.scope typeParams <| closed.andThen (closed.checkParams params _) fun _ =>
        checkStmts closed (some self) .undefined body _ h.left
    split
    · exact surveyed
    · rename_i f stopped
      exact closed.trans surveyed (closed.note _ _ ⟨self, _, st, f, stopped, rfl⟩)

theorem checkMethods (closed : StepClosedFor aliases R) (self : Symbol) (fields : List Field) :
    ∀ (ms : List (Node Method)) (st : State), AliasesIn aliases (Parts.methods ms) →
      R st (Checker.checkMethods self fields ms st).state
  | [], st, _ => closed.refl st
  | ⟨_, ⟨_, _, _, _, _, body⟩, _⟩ :: rest, st, h => by
    unfold Checker.checkMethods
    split
    · exact closed.refl st
    · refine closed.andThen (closed.recorded ?_) fun _ =>
        checkMethods closed self fields rest _ h.right
      exact closed.checkCallable (fun _ _ => closed.refl)
        (fun st => checkStmts closed (some self) .undefined body st h.left) st

theorem checkProperties (closed : StepClosedFor aliases R) (receiver : Receiver) :
    ∀ (ps : List Property) (st : State), AliasesIn aliases (Parts.properties ps) →
      R st (Checker.checkProperties receiver ps st).state
  | [], st, _ => closed.refl st
  | ⟨_, value⟩ :: rest, st, h =>
    closed.andThen (checkExpr closed receiver value st h.left) fun _ =>
      checkProperties closed receiver rest _ h.right

end

end StepClosedFor

/-- A survey that stops in a method leaves a note and goes on with the next. -/
theorem StepClosed.surveyMethods {R : State → State → Prop} (closed : StepClosed R) (self : Symbol)
    (ms : List (Node Method)) (st : State) : R st (Checker.surveyMethods self ms st) :=
  StepClosedFor.surveyMethods closed self ms st fun _ _ => trivial

/-- The body of a method, surveyed in a scope that is open already. -/
theorem StepClosed.surveyBody {R : State → State → Prop} (closed : StepClosed R) (self : Symbol)
    (m : Method) (st : State) :
    R (st.bindTypeParams m.typeParams) (Checker.surveyBody self m st).state :=
  closed.andThen (closed.checkParams m.params _) fun _ =>
    closed.checkStmts (some self) .undefined m.body _ fun _ _ => trivial

/-! ## The table only grows, and not at all while surveying -/

/-- What is known of a later state of a check. -/
structure Continues (st later : State) : Prop where
  table : later.table.Extends st.table
  /-- A first pass over methods stays one, and any other pass does not become one. -/
  surveying : later.surveying = st.surveying
  /-- Nothing is recorded while surveying. -/
  silent : st.surveying = true → later.table = st.table

/-- A step that changes neither the table nor the pass. -/
theorem Continues.of_eq {st later : State} (table : later.table = st.table)
    (surveying : later.surveying = st.surveying) : Continues st later where
  table := table ▸ .refl _
  surveying := surveying
  silent _ := table

theorem Continues.trans {a b c : State} (h₁ : Continues a b) (h₂ : Continues b c) :
    Continues a c where
  table := h₂.table.trans h₁.table
  surveying := h₂.surveying.trans h₁.surveying
  silent h := (h₂.silent (h₁.surveying.trans h)).trans (h₁.silent h)

/-- A record is the one step that makes the table grow. -/
theorem Continues.record (slot : Option TypeId) (t : Ty) (st : State) :
    Continues st (st.record slot t).2 := by
  unfold State.record
  split
  · exact .of_eq rfl rfl
  · rename_i real
    exact { table := .add _ _, surveying := rfl, silent := fun h => absurd h real }

/-- Events have no part in the table. -/
theorem State.emit_table (e : Event) (st : State) : (st.emit e).table = st.table := by
  unfold State.emit
  split <;> rfl

theorem State.emit_surveying (e : Event) (st : State) :
    (st.emit e).surveying = st.surveying := by
  unfold State.emit
  split <;> rfl

/-- Bindings have no part in the table. -/
theorem State.bind_table (symbol : Option Symbol) (t : Ty) (st : State) :
    (st.bind symbol t).table = st.table := by
  cases symbol <;> rfl

theorem State.bind_surveying (symbol : Option Symbol) (t : Ty) (st : State) :
    (st.bind symbol t).surveying = st.surveying := by
  cases symbol <;> rfl

theorem State.noteAssignment_table (receiver : Receiver) (target : Expr) (t : Ty) (st : State) :
    (st.noteAssignment receiver target t).table = st.table := by
  unfold State.noteAssignment
  split
  · rfl
  · split <;> rfl

theorem State.noteAssignment_surveying (receiver : Receiver) (target : Expr) (t : Ty)
    (st : State) : (st.noteAssignment receiver target t).surveying = st.surveying := by
  unfold State.noteAssignment
  split
  · rfl
  · rename_i s h
    split <;> simp [State.surveying, h]

/-- An assignment changes scopes, not the table. -/
theorem State.rebind_table (receiver : Receiver) (target : Expr) (t : Ty) (st : State) :
    (st.rebind receiver target t).table = st.table := by
  unfold State.rebind
  split
  · exact State.bind_table _ _ _
  · rfl

theorem State.rebind_surveying (receiver : Receiver) (target : Expr) (t : Ty) (st : State) :
    (st.rebind receiver target t).surveying = st.surveying := by
  unfold State.rebind
  split
  · exact State.bind_surveying _ _ _
  · rfl

/-- The announcement of a function changes scopes, not the table. -/
theorem announceFunction_table (name : Option (Node Ident)) (types : List Ty)
    (declared : Option Ty) (st : State) :
    (announceFunction name types declared st).table = st.table := by
  cases name with
  | none => rfl
  | some n => exact State.bind_table _ _ _

theorem announceFunction_surveying (name : Option (Node Ident)) (types : List Ty)
    (declared : Option Ty) (st : State) :
    (announceFunction name types declared st).surveying = st.surveying := by
  cases name with
  | none => rfl
  | some n => exact State.bind_surveying _ _ _

/-- Reporting references adds them to the journal, except while surveying, and changes nothing
else. -/
theorem State.foldl_emit_selfReference (self : Symbol) (spans : List Span) (st : State) :
    spans.foldl (fun st span => st.emit (.selfReference span self)) st =
      { st with
        journal := st.journal ++ if st.surveying then [] else
          spans.map fun span => Entry.event (.selfReference span self) } := by
  induction spans generalizing st with
  | nil => simp
  | cons span spans ih =>
    rw [List.foldl_cons, ih, State.emit_surveying]
    by_cases surveying : st.surveying = true
    · simp [State.emit, surveying]
    · simp [State.emit, State.note, surveying]

/-- What entering a class does to the state, field by field. -/
theorem State.enterClass_eq (ms : List (Node Method)) (st : State) :
    st.enterClass ms =
      { st with
        nextClass := st.nextClass + 1
        survey := none
        journal := st.journal ++ if st.surveying then [] else
          (SelfReference.spans st.nextSelf ms).map fun span =>
            Entry.event (.selfReference span st.nextSelf) } := by
  rw [State.enterClass, State.foldl_emit_selfReference]
  rfl

theorem State.enterClass_table (ms : List (Node Method)) (st : State) :
    (st.enterClass ms).table = st.table := by
  rw [State.enterClass_eq]

/-- Every class takes one number. -/
theorem State.enterClass_nextClass (ms : List (Node Method)) (st : State) :
    (st.enterClass ms).nextClass = st.nextClass + 1 := by
  rw [State.enterClass_eq]

theorem State.beginMethods_table (self : Symbol) (name : Option (Node Ident))
    (fields signatures : List Field) (st : State) :
    (st.beginMethods self name fields signatures).table = st.table :=
  State.bind_table _ _ _

/-- Outside of a survey, a record adds its type to the table and hands out its number. -/
theorem State.record_of_real {st : State} (real : st.surveying = false) (slot : Option TypeId)
    (t : Ty) :
    st.record slot t = (some st.table.nextId, { st with table := st.table.add t }) := by
  simp [State.record, real]

/-- A last step that leaves the tree, the table and the pass as they are. -/
structure Quiet {τ α β : Type} (e : Checked τ α) (e' : Checked τ β) : Prop where
  tree : e'.tree = e.tree
  table : e'.state.table = e.state.table
  surveying : e'.state.surveying = e.state.surveying

/-- Leaving a class, whatever was recorded in it. -/
theorem Continues.leaveClass {st inner : State} (real : st.surveying = false)
    (h : inner.table.Extends st.table) : Continues st { inner.pop with survey := st.survey } where
  table := h
  surveying := rfl
  silent h := absurd (real.symm.trans h) Bool.false_ne_true

/-- **Every check continues the state**, whether it succeeds or not. -/
theorem continues_stepClosed : StepClosed Continues where
  refl _ := .of_eq rfl rfl
  trans := Continues.trans
  record := Continues.record
  bind symbol t st := .of_eq (State.bind_table symbol t st) (State.bind_surveying symbol t st)
  note _ _ _ := .of_eq rfl rfl
  emit e st := .of_eq (State.emit_table e st) (State.emit_surveying e st)
  defineAlias _ _ _ _ := .of_eq rfl rfl
  noteAssignment receiver target t st :=
    .of_eq (State.noteAssignment_table receiver target t st)
      (State.noteAssignment_surveying receiver target t st)
  scope _ _ _ h := ⟨h.table, h.surveying, h.silent⟩
  classFields {ms st s₁} real h := by
    refine .leaveClass real ?_
    rw [← State.enterClass_table ms st]
    exact h.table
  classSurvey {ms self declared st s₁ s₂} real h₁ h₂ := by
    -- the survey of a class ends with the class, whatever pass is on outside
    have table : s₂.endSurvey.table.Extends st.table := by
      rw [← State.enterClass_table ms st]
      exact h₂.table.trans h₁.table
    exact .leaveClass real table
  classMethods {ms self name declared fields signatures st s₁ s₂ s₃} real h₁ h₂ h₃ := by
    refine .leaveClass real ?_
    rw [← State.enterClass_table ms st]
    have h₃ := h₃.table
    rw [State.beginMethods_table] at h₃
    exact h₃.trans (h₂.table.trans h₁.table)

end Checker

/-- What a session did to a part, as a check that has no result of its own. -/
def Session.outcome {τ : Type} (r : τ × Session) : Checker.Checked τ Unit :=
  .succeed () r.1 r.2.state

end StructuralTyping
