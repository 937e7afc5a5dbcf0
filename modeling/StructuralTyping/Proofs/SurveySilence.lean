import StructuralTyping.Proofs.ScopeDiscipline

/-! # The first pass over methods leaves no trace

The survey of a class runs the same checker over the bodies of its methods as the pass that counts.
This module proves that nothing of it stays (`survey_silent`): as long as a class is surveyed, a
check of a statement or expression, whether it succeeds or stops, leaves the part, the table, the
class numbers and the events as they were, and notes no failure of a statement.  What does stay of a
whole survey are the fields that it found, the aliases that it met, and the type of `self` in the
scope of the class, which is unknown until the second pass.

The state is taken care of by `Hushed`, which every step of a check keeps.  The tree needs an
induction of its own (`Untouched`); it does not enter functions and classes, since a survey does not
either.
-/
namespace StructuralTyping

/-- The failure of a statement that an entry tells of. -/
def Entry.failure? : Entry → Option Failure
  | .failed f => some f
  | _ => none

namespace Checker

/-! ## What outlives a survey -/

namespace State

/-- The events that were emitted. -/
def events (st : State) : List Event := st.journal.toList.filterMap Entry.event?

/-- The failures of statements that were noted; a session adds a diagnostic for each of them. -/
def failures (st : State) : List Failure := st.journal.toList.filterMap Entry.failure?

theorem bind_nextClass (symbol : Option Symbol) (t : Ty) (st : State) :
    (st.bind symbol t).nextClass = st.nextClass := by
  cases symbol <;> rfl

theorem bind_journal (symbol : Option Symbol) (t : Ty) (st : State) :
    (st.bind symbol t).journal = st.journal := by
  cases symbol <;> rfl

theorem noteAssignment_nextClass (receiver : Receiver) (target : Expr) (t : Ty) (st : State) :
    (st.noteAssignment receiver target t).nextClass = st.nextClass := by
  unfold noteAssignment
  split
  · rfl
  · split <;> rfl

theorem noteAssignment_journal (receiver : Receiver) (target : Expr) (t : Ty) (st : State) :
    (st.noteAssignment receiver target t).journal = st.journal := by
  unfold noteAssignment
  split
  · rfl
  · split <;> rfl

/-- A survey records nothing and leaves slots as they are. -/
theorem record_of_surveying {st : State} (surveying : st.surveying = true) (slot : Option TypeId)
    (t : Ty) : st.record slot t = (slot, st) := by
  simp [record, surveying]

/-- A survey emits nothing. -/
theorem emit_of_surveying {st : State} (surveying : st.surveying = true) (e : Event) :
    st.emit e = st := by
  simp [emit, surveying]

end State

/-- Notes are no events. -/
theorem Noted.event? {e : Entry} (h : Noted e) : e.event? = none := by
  cases e with
  | event _ => exact h.elim
  | _ => rfl

theorem Noted.failure? {e : Entry} (h : Noted e) : e.failure? = none := by
  cases e with
  | failed _ => exact h.elim
  | _ => rfl

/-- A later state of the same survey: nothing was recorded, no class was given a number, and what
was added to the journal are notes. -/
structure Hushed (st later : State) : Prop where
  surveying : later.surveying = true
  table : later.table = st.table
  nextClass : later.nextClass = st.nextClass
  journal : ∃ notes, later.journal.toList = st.journal.toList ++ notes ∧ ∀ e ∈ notes, Noted e

namespace Hushed

variable {st later : State}

/-- A step that changes no more than the scopes and the fields found so far. -/
theorem of_eq (surveying : later.surveying = true) (table : later.table = st.table)
    (nextClass : later.nextClass = st.nextClass) (journal : later.journal = st.journal) :
    Hushed st later :=
  ⟨surveying, table, nextClass, [], by rw [journal, List.append_nil], List.forall_mem_nil _⟩

theorem trans {a b c : State} (h₁ : Hushed a b) (h₂ : Hushed b c) : Hushed a c := by
  obtain ⟨notes₁, hjournal₁, hnotes₁⟩ := h₁.journal
  obtain ⟨notes₂, hjournal₂, hnotes₂⟩ := h₂.journal
  refine ⟨h₂.surveying, h₂.table.trans h₁.table, h₂.nextClass.trans h₁.nextClass,
    notes₁ ++ notes₂, ?_, List.forall_mem_append.mpr ⟨hnotes₁, hnotes₂⟩⟩
  rw [hjournal₂, hjournal₁, List.append_assoc]

/-- A note of a survey is neither an event nor a failure. -/
theorem note {e : Entry} (he : Noted e) (surveying : st.surveying = true) :
    Hushed st (st.note e) :=
  ⟨surveying, rfl, rfl, [e], Array.toList_push, List.forall_mem_singleton.mpr he⟩

/-- Hushed steps add no events. -/
theorem events (h : Hushed st later) : later.events = st.events := by
  obtain ⟨notes, hjournal, hnotes⟩ := h.journal
  have none_added : notes.filterMap Entry.event? = [] :=
    List.filterMap_eq_nil_iff.mpr fun e he => (hnotes e he).event?
  rw [State.events, hjournal, List.filterMap_append, none_added, List.append_nil, State.events]

/-- Hushed steps add no failures. -/
theorem failures (h : Hushed st later) : later.failures = st.failures := by
  obtain ⟨notes, hjournal, hnotes⟩ := h.journal
  have none_added : notes.filterMap Entry.failure? = [] :=
    List.filterMap_eq_nil_iff.mpr fun e he => (hnotes e he).failure?
  rw [State.failures, hjournal, List.filterMap_append, none_added, List.append_nil, State.failures]

end Hushed

/-- **Every check of a survey is hushed**, whether it succeeds or not. -/
theorem hushed_stepClosed : StepClosed fun st later => st.surveying = true → Hushed st later where
  refl _ surveying := .of_eq surveying rfl rfl rfl
  trans hab hbc surveying := (hab surveying).trans (hbc (hab surveying).surveying)
  record slot t st surveying := by
    rw [State.record_of_surveying surveying]
    exact .of_eq surveying rfl rfl rfl
  bind symbol t st surveying :=
    .of_eq ((State.bind_surveying symbol t st).trans surveying) (State.bind_table symbol t st)
      (State.bind_nextClass symbol t st) (State.bind_journal symbol t st)
  note _ _ he surveying := .note he surveying
  emit e st surveying := by
    rw [State.emit_of_surveying surveying]
    exact .of_eq surveying rfl rfl rfl
  defineAlias _ _ _ _ surveying := .of_eq surveying rfl rfl rfl
  noteAssignment receiver target t st surveying :=
    .of_eq ((State.noteAssignment_surveying receiver target t st).trans surveying)
      (State.noteAssignment_table receiver target t st)
      (State.noteAssignment_nextClass receiver target t st)
      (State.noteAssignment_journal receiver target t st)
  scope _ _ _ inside surveying :=
    ⟨(inside surveying).surveying, (inside surveying).table, (inside surveying).nextClass,
      (inside surveying).journal⟩
  -- a class is passed over while another one is surveyed, so it is never left in a survey
  classFields real _ surveying := absurd (real.symm.trans surveying) Bool.false_ne_true
  classSurvey real _ _ surveying := absurd (real.symm.trans surveying) Bool.false_ne_true
  classMethods real _ _ _ surveying := absurd (real.symm.trans surveying) Bool.false_ne_true

/-! ## Trees that a survey goes through -/

/-- The check left the part `t` as it was, and the survey goes on. -/
structure Untouched {τ α : Type} (t : τ) (e : Checked τ α) : Prop where
  tree : e.tree = t
  surveying : e.state.surveying = true

namespace Untouched

variable {τ υ ω α β : Type} {t : τ} {e : Checked τ α}

/-- A step that leaves the tree. -/
theorem stays {result : Except Failure α} {st : State} (surveying : st.surveying = true) :
    Untouched t (⟨result, t, st⟩ : Checked τ α) :=
  ⟨rfl, surveying⟩

theorem conclude (h : Untouched t e) (f : α → Except Failure β) : Untouched t (e.conclude f) :=
  ⟨h.tree, h.surveying⟩

theorem concludeWith (h : Untouched t e) (f : α → State → Except Failure β) :
    Untouched t (e.concludeWith f) :=
  ⟨h.tree, h.surveying⟩

theorem rebuild (h : Untouched t e) (build : τ → ω) : Untouched (build t) (e.rebuild build) :=
  ⟨congrArg build h.tree, h.surveying⟩

theorem inScope {work : State → Checked τ α} {st : State} (h : Untouched t (work st.push)) :
    Untouched t (Checker.inScope work st) :=
  ⟨h.tree, h.surveying⟩

/-- Two steps that leave their trees, put together as they were. -/
theorem andThen {rest : υ} {next : α → State → Checked υ β} {build : τ → υ → ω} {whole : ω}
    (h₁ : Untouched t e) (hwhole : build t rest = whole)
    (h₂ : ∀ a st, st.surveying = true → Untouched rest (next a st)) :
    Untouched whole (e.andThen rest next build) := by
  subst hwhole
  unfold Edit.andThen
  split
  · rename_i a _
    have h₂ := h₂ a e.state h₁.surveying
    exact ⟨congrArg₂ build h₁.tree h₂.tree, h₂.surveying⟩
  · exact ⟨congrArg (build · rest) h₁.tree, h₁.surveying⟩

theorem whenDone {next : α → τ → State → Checked τ β} (h : Untouched t e)
    (hnext : ∀ a st, st.surveying = true → Untouched t (next a t st)) :
    Untouched t (e.whenDone next) := by
  unfold Edit.whenDone
  split
  · rename_i a _
    rw [h.tree]
    exact hnext a e.state h.surveying
  · exact ⟨h.tree, h.surveying⟩

/-- A slot is left as it is. -/
theorem recorded {e : Checked τ Ty} {span : Span} {slot : Option TypeId} (h : Untouched t e) :
    Untouched ⟨span, t, slot⟩ (Checker.recorded span slot e) := by
  unfold Checker.recorded
  split
  · rw [State.record_of_surveying h.surveying]
    exact ⟨congrArg (Node.mk span · slot) h.tree, h.surveying⟩
  · exact ⟨congrArg (Node.mk span · slot) h.tree, h.surveying⟩

variable {st : State}

theorem recordName (n : Node Ident) (u : Ty) (surveying : st.surveying = true) :
    st.recordName n u = (n, st) := by
  rw [State.recordName, State.record_of_surveying surveying]

theorem named (name : Option (Node Ident)) (u : Ty) (surveying : st.surveying = true) :
    Untouched name (Checker.named name u st) := by
  cases name with
  | none => exact stays surveying
  | some n =>
    have bound := (State.bind_surveying n.value.symbol u st).trans surveying
    rw [Checker.named, recordName n u bound]
    exact stays bound

theorem surveyFunction (f : Function) (surveying : st.surveying = true) :
    Untouched f (Checker.surveyFunction f st) := by
  unfold Checker.surveyFunction
  split
  · exact stays surveying
  · exact stays ((State.bind_surveying _ _ _).trans surveying)

/-- A value was assigned. -/
theorem assigned {value : Node Expr} {e : Checked (Node Expr) Ty} (receiver : Receiver)
    (target : Expr) (targetTy : Ty) (h : Untouched value e) :
    Untouched value (e.whenDone fun u value st =>
      match Failure.unlessAssignable u targetTy value.span with
      | .error f => .fail f value st
      | .ok _ =>
        .succeed u value ((st.noteAssignment receiver target u).rebind receiver target u)) := by
  refine h.whenDone fun u st surveying => ?_
  split
  · exact stays surveying
  · refine stays ?_
    rw [State.rebind_surveying, State.noteAssignment_surveying]
    exact surveying

mutual

/-- A survey leaves the tree as it is, even where it fails. -/
theorem checkExpr (receiver : Receiver) : ∀ (n : Node Expr) (st : State), st.surveying = true →
    Untouched n (Checker.checkExpr receiver n st)
  | ⟨span, e, _⟩, st, surveying => (checkForm receiver span e st surveying).recorded

theorem checkForm (receiver : Receiver) (span : Span) : ∀ (e : Expr) (st : State),
    st.surveying = true → Untouched e (Checker.checkForm receiver span e st)
  | .literal _, _, surveying => stays surveying
  | .ident _, _, surveying => stays surveying
  | .call callee args, st, surveying =>
    (checkExpr receiver callee st surveying).andThen rfl fun _ st surveying =>
      (checkExprs receiver args st surveying).conclude _
  | .conditional test consequent alternate, st, surveying => by
    unfold Checker.checkForm
    refine ((checkExpr receiver test st surveying).conclude _).andThen rfl fun _ st surveying => ?_
    exact (checkStmt receiver consequent st surveying).andThen rfl fun _ st surveying =>
      (checkOptionalStmt receiver alternate st surveying).conclude _
  | .member base property, st, surveying => by
    unfold Checker.checkForm
    refine (checkExpr receiver base st surveying).andThen rfl fun _ st surveying => ?_
    exact (stays surveying).recorded
  | .index base position, st, surveying =>
    (checkExpr receiver base st surveying).andThen rfl fun _ st surveying =>
      (checkExpr receiver position st surveying).conclude _
  | .function f, st, surveying => by
    obtain ⟨name, typeParams, params, returns, body⟩ := f
    -- a survey takes the signature of a function, and a class is unknown to it
    rw [Checker.checkForm, Checker.checkFunction, if_pos surveying]
    exact (surveyFunction _ surveying).rebuild Expr.function
  | .classDef c, st, surveying => by
    obtain ⟨name, fields, methods⟩ := c
    rw [Checker.checkForm, Checker.checkClass, if_pos surveying]
    exact stays surveying
  | .assertion e ty, st, surveying =>
    ((checkExpr receiver e st surveying).concludeWith _).rebuild (Expr.assertion · ty)
  | .throwing value, st, surveying =>
    ((checkExpr receiver value st surveying).conclude _).rebuild Expr.throwing
  | .whileLoop test body, st, surveying =>
    ((checkExpr receiver test st surveying).conclude _).andThen rfl fun _ st surveying =>
      (inScope (checkStmts receiver _ body st.push surveying)).conclude _
  | .forLoop bindings test update body, st, surveying => by
    unfold Checker.checkForm
    refine inScope ((checkBindings receiver bindings st.push surveying).andThen rfl
      fun _ st surveying => ?_)
    refine ((checkOptional receiver test st surveying).conclude _).andThen rfl
      fun _ st surveying => ?_
    exact (checkOptional receiver update st surveying).andThen rfl fun _ st surveying =>
      (inScope (checkStmts receiver _ body st.push surveying)).conclude _
  | .returning value, st, surveying =>
    ((checkOptional receiver value st surveying).conclude _).rebuild Expr.returning
  | .attempt body handler cleanup, st, surveying => by
    unfold Checker.checkForm
    refine (inScope (checkStmts receiver _ body st.push surveying)).andThen rfl
      fun _ st surveying => ?_
    exact (checkHandler receiver handler st surveying).andThen rfl fun _ st surveying =>
      checkCleanup receiver cleanup st surveying
  | .array items, st, surveying =>
    ((checkExprs receiver items st surveying).conclude _).rebuild Expr.array
  | .object properties, st, surveying =>
    ((checkProperties receiver properties st surveying).conclude _).rebuild Expr.object
  | .assignment target value, st, surveying => by
    unfold Checker.checkForm
    split
    · refine (checkExpr receiver target st surveying).andThen rfl fun targetTy st surveying => ?_
      exact (checkExpr receiver value st surveying).assigned receiver target.value targetTy
    · exact stays surveying

theorem checkExprs (receiver : Receiver) : ∀ (es : List (Node Expr)) (st : State),
    st.surveying = true → Untouched es (Checker.checkExprs receiver es st)
  | [], _, surveying => stays surveying
  | e :: rest, st, surveying =>
    (checkExpr receiver e st surveying).andThen rfl fun _ st surveying =>
      (checkExprs receiver rest st surveying).conclude _

theorem checkOptional (receiver : Receiver) : ∀ (e : Option (Node Expr)) (st : State),
    st.surveying = true → Untouched e (Checker.checkOptional receiver e st)
  | none, _, surveying => stays surveying
  | some e, st, surveying => ((checkExpr receiver e st surveying).conclude _).rebuild some

theorem checkStmt (receiver : Receiver) : ∀ (n : Node Stmt) (st : State), st.surveying = true →
    Untouched n (Checker.checkStmt receiver n st)
  | ⟨_, .expr e, _⟩, st, surveying =>
    ((checkExpr receiver e st surveying).rebuild Stmt.expr).recorded
  | ⟨_, .block body, _⟩, st, surveying =>
    ((inScope (checkStmts receiver _ body st.push surveying)).rebuild Stmt.block).recorded
  | ⟨span, .binding kind bindings body, _⟩, st, surveying => by
    unfold Checker.checkStmt
    rw [State.emit_of_surveying surveying]
    refine recorded (inScope ?_)
    exact (checkBindings receiver bindings st.push surveying).andThen rfl fun _ st surveying =>
      checkStmts receiver _ body st surveying
  | ⟨_, .typeAlias _ _ _, _⟩, st, surveying => by
    unfold Checker.checkStmt
    split
    · exact stays surveying
    · exact stays surveying

theorem checkOptionalStmt (receiver : Receiver) : ∀ (n : Option (Node Stmt)) (st : State),
    st.surveying = true → Untouched n (Checker.checkOptionalStmt receiver n st)
  | none, _, surveying => stays surveying
  | some n, st, surveying => ((checkStmt receiver n st surveying).conclude _).rebuild some

theorem checkStmts (receiver : Receiver) (last : Ty) : ∀ (body : List (Node Stmt)) (st : State),
    st.surveying = true → Untouched body (Checker.checkStmts receiver last body st)
  | [], _, surveying => stays surveying
  | n :: rest, st, surveying =>
    (checkStmt receiver n st surveying).andThen rfl fun t st surveying =>
      checkStmts receiver t rest st surveying

theorem checkCleanup (receiver : Receiver) : ∀ (body : Option (List (Node Stmt))) (st : State),
    st.surveying = true → Untouched body (Checker.checkCleanup receiver body st)
  | none, _, surveying => stays surveying
  | some body, st, surveying =>
    ((inScope (checkStmts receiver _ body st.push surveying)).conclude _).rebuild some

theorem checkHandler (receiver : Receiver) : ∀ (handler : Option Handler) (st : State),
    st.surveying = true → Untouched handler (Checker.checkHandler receiver handler st)
  | none, _, surveying => stays surveying
  | some ⟨param, body⟩, st, surveying => by
    have pushed : st.push.surveying = true := surveying
    unfold Checker.checkHandler
    exact inScope ((named param _ pushed).andThen rfl fun _ st surveying =>
      checkStmts receiver _ body st surveying)

theorem checkBindings (receiver : Receiver) : ∀ (bs : List Binding) (st : State),
    st.surveying = true → Untouched bs (Checker.checkBindings receiver bs st)
  | [], _, surveying => stays surveying
  | ⟨name, declaredAs, init⟩ :: rest, st, surveying => by
    unfold Checker.checkBindings
    refine (checkExpr receiver init st surveying).andThen rfl fun initTy st surveying => ?_
    split
    · exact stays surveying
    · rename_i t _
      have bound : ((st.note (.bound name.value.name t)).bind name.value.symbol t).surveying =
          true := (State.bind_surveying _ _ _).trans surveying
      rw [recordName name t bound]
      exact (checkBindings receiver rest _ bound).rebuild (Prod.mk name)

theorem checkProperties (receiver : Receiver) : ∀ (ps : List Property) (st : State),
    st.surveying = true → Untouched ps (Checker.checkProperties receiver ps st)
  | [], _, surveying => stays surveying
  | ⟨_, value⟩ :: rest, st, surveying => by
    unfold Checker.checkProperties
    exact (checkExpr receiver value st surveying).andThen rfl fun _ st surveying =>
      (checkProperties receiver rest st surveying).conclude _

end

end Untouched

/-! ## Between the two passes -/

/-- A method is surveyed in a scope of its own, so the scopes of the class stay as they are. -/
theorem surveyMethod_scopes (self : Symbol) (m : Method) (st : State) :
    (surveyMethod self m st).state.scopes =
      { st.scopes with aliases := (surveyMethod self m st).state.scopes.aliases } := by
  have framed := StepClosed.surveyBody (framed_stepClosed fun _ => True) self m st.push
  have outer : (surveyBody self m st.push).state.scopes.outer = st.scopes.frames :=
    framed.outer.trans (Scopes.outer_bindTypeParams m.typeParams st.push.scopes)
  have popped : (surveyMethod self m st).state.scopes =
      (surveyBody self m st.push).state.scopes.pop := rfl
  rw [popped, Scopes.pop_of_outer outer]

/-- After a survey the scopes are as before, aliases apart. -/
theorem surveyMethods_scopes (self : Symbol) (ms : List (Node Method)) (st : State) :
    (surveyMethods self ms st).scopes =
      { st.scopes with aliases := (surveyMethods self ms st).scopes.aliases } := by
  induction ms generalizing st with
  | nil => rfl
  | cons n rest ih =>
    rw [surveyMethods_cons]
    split
    · rw [ih, surveyMethod_scopes]
    · -- the fault is noted, which no scope notices
      have noted (e : Entry) : ((surveyMethod self n.value st).state.note e).scopes =
          (surveyMethod self n.value st).state.scopes := rfl
      rw [ih, noted, surveyMethod_scopes]

namespace State

/-- The state in which the first pass over the methods of a class starts, once its fields were
checked. -/
def atSurvey (c : Class) (st : State) : State :=
  (checkFields c.fields (st.enterClass c.methods).push).state

/-- The state at the end of the first pass; `declared` are the fields that the class declares. -/
def surveyedClass (c : Class) (declared : List Field) (st : State) : State :=
  surveyMethods st.nextSelf c.methods
    ((st.atSurvey c).beginSurvey st.nextSelf (Field.merge declared))

/-- The state in which the second pass starts. -/
def atMethods (c : Class) (declared : List Field) (st : State) : State :=
  (st.surveyedClass c declared).endSurvey

end State

/-- The second pass over the methods of a class with the fields `found`. -/
def checkAgainst (self : Symbol) (name : Option (Node Ident)) (found : List Field)
    (ms : List (Node Method)) (st : State) : Checked (List (Node Method)) Ty :=
  match memberSignatures st.scopes found ms with
  | .error f => .fail f ms st
  | .ok signatures =>
    (checkMethods self found ms (st.beginMethods self name found signatures)).whenDone
      fun entries ms st => .succeed (.object (st.surveyed ++ entries)) ms st

/-- Once the fields of a class are accepted, its check goes on with the second pass in the state
`State.atMethods`. -/
theorem checkMembers_of_fields {c : Class} {declared : List Field} {st : State}
    (fields : (checkFields c.fields (st.enterClass c.methods).push).result = .ok declared) :
    checkMembers st.nextSelf c.name c.fields c.methods (st.enterClass c.methods).push =
      (checkAgainst st.nextSelf c.name (st.surveyedClass c declared).surveyed c.methods
        (st.atMethods c declared)).rebuild
        (Prod.mk (checkFields c.fields (st.enterClass c.methods).push).tree) := by
  unfold checkMembers Edit.andThen
  rw [fields]
  rfl

/-- No survey is under way while the fields of a class are checked. -/
theorem State.atSurvey_survey (c : Class) (st : State) : (st.atSurvey c).survey = none := by
  have framed : Framed (fun _ => True) (st.enterClass c.methods).push (st.atSurvey c) :=
    (framed_stepClosed fun _ => True).checkFields c.fields _ fun _ _ => trivial
  have survey : (st.atSurvey c).survey.map FieldSurvey.subject = none := framed.survey
  exact Option.map_eq_none_iff.mp survey

/-- The check of the part `t` left the part and whatever outlives a survey as they were. -/
structure Silent {τ α : Type} (t : τ) (st : State) (e : Checked τ α) : Prop where
  tree : e.tree = t
  table : e.state.table = st.table
  nextClass : e.state.nextClass = st.nextClass
  events : e.state.events = st.events
  failures : e.state.failures = st.failures

/-- A hushed step that leaves its tree is silent. -/
theorem Silent.of_hushed {τ α : Type} {t : τ} {st : State} {e : Checked τ α} (h : Untouched t e)
    (hushed : Hushed st e.state) : Silent t st e :=
  ⟨h.tree, hushed.table, hushed.nextClass, hushed.events, hushed.failures⟩

/-- **Surveys are silent.**  While a class is surveyed, the check of a statement or an expression
leaves the part, the table, the class numbers, the events and the failures of statements as they
were, whether it succeeds or not.  So the second pass over the methods of a class starts where the
first one did, but for the fields found, the type of `self` in the scope of the class, the aliases,
and the notes in the journal. -/
theorem survey_silent :
    (∀ (receiver : Receiver) (n : Node Stmt) (st : State), st.surveying = true →
      Silent n st (checkStmt receiver n st)) ∧
    (∀ (receiver : Receiver) (e : Node Expr) (st : State), st.surveying = true →
      Silent e st (checkExpr receiver e st)) ∧
    ∀ (c : Class) (declared : List Field) (st : State),
      (checkFields c.fields (st.enterClass c.methods).push).result = .ok declared →
      checkMembers st.nextSelf c.name c.fields c.methods (st.enterClass c.methods).push =
        (checkAgainst st.nextSelf c.name (st.surveyedClass c declared).surveyed c.methods
          (st.atMethods c declared)).rebuild
          (Prod.mk (checkFields c.fields (st.enterClass c.methods).push).tree) ∧
      st.atMethods c declared =
        { st.atSurvey c with
          scopes :=
            { (st.atSurvey c).scopes.bind st.nextSelf .unknown with
              aliases := (st.atMethods c declared).scopes.aliases }
          journal := (st.atMethods c declared).journal } ∧
      (st.atMethods c declared).events = (st.atSurvey c).events ∧
      (st.atMethods c declared).failures = (st.atSurvey c).failures := by
  refine ⟨fun receiver n st surveying => ?_, fun receiver e st surveying => ?_,
    fun c declared st fields => ?_⟩
  · exact .of_hushed (Untouched.checkStmt receiver n st surveying)
      (hushed_stepClosed.checkStmt receiver n st (fun _ _ => trivial) surveying)
  · exact .of_hushed (Untouched.checkExpr receiver e st surveying)
      (hushed_stepClosed.checkExpr receiver e st (fun _ _ => trivial) surveying)
  · -- a class begins and ends its survey by itself; only aliases and notes are left of it
    have hushed := hushed_stepClosed.surveyMethods st.nextSelf c.methods
      ((st.atSurvey c).beginSurvey st.nextSelf (Field.merge declared)) rfl
    have scopes := surveyMethods_scopes st.nextSelf c.methods
      ((st.atSurvey c).beginSurvey st.nextSelf (Field.merge declared))
    have survey := st.atSurvey_survey c
    refine ⟨checkMembers_of_fields fields, ?_, hushed.events, hushed.failures⟩
    unfold State.atMethods State.endSurvey
    rw [State.mk.injEq]
    exact ⟨hushed.table, scopes, hushed.nextClass, survey.symm, rfl⟩

/-- A binding whose initial value is a class with a `self` of its own; its body assigns a field of
`self` and then calls what is no function. -/
def surveyedStmt : Node Stmt :=
  ⟨.zero, .binding .letBinding
    [⟨⟨.zero, ⟨"part", some (.resolved 0)⟩, some ⟨3⟩⟩, none,
      ⟨.zero, .classDef ⟨none, [],
        [⟨.zero, ⟨⟨.zero, ⟨"m", none⟩, none⟩, .method, [], [], none,
          [⟨.zero, .expr ⟨.zero, .ident ⟨"self", none⟩, none⟩, none⟩]⟩, none⟩]⟩, some ⟨7⟩⟩⟩]
    [⟨.zero, .expr ⟨.zero, .assignment
        ⟨.zero, .member ⟨.zero, .ident ⟨"self", none⟩, none⟩ ⟨.zero, ⟨"size", none⟩, none⟩, none⟩
        ⟨.zero, .literal (.value (.boolean true)), none⟩, none⟩, none⟩,
      ⟨.zero, .expr ⟨.zero, .call ⟨.zero, .literal (.value .null), none⟩ [], none⟩, none⟩], none⟩

/-- The state in which the first method of a class without declared fields is surveyed. -/
def surveyStart : State := ({} : State).beginSurvey (.classSelf 0) []

/-- A survey that fails and still has found a field. -/
theorem survey_silent_surveyedStmt :
    surveyStart.surveying = true ∧
      (checkStmt (some (.classSelf 0)) surveyedStmt surveyStart).result.isOk = false ∧
      (checkStmt (some (.classSelf 0)) surveyedStmt surveyStart).state.surveyed.map
        (fun f => (f.name, f.ty)) = [("size", .boolean)] ∧
      Silent surveyedStmt surveyStart
        (checkStmt (some (.classSelf 0)) surveyedStmt surveyStart) :=
  ⟨rfl, by decide +kernel, by decide +kernel, survey_silent.1 _ _ _ rfl⟩

end Checker
end StructuralTyping
