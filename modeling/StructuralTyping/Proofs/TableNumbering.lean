import StructuralTyping.Proofs.CheckerSteps
import StructuralTyping.Proofs.SelfLinking

/-! # Entries of the table and nodes of the tree

Recording a type adds one entry to the table and writes its id on one node.  A check of a tree
without ids therefore leaves the entries of the table and the nodes with an id in one-to-one
correspondence, also where it stopped half way (`Session.typeIds_check_perm`).

The invariant of the induction is `Numbered`: every id stands on as many nodes of a part, after its
check, as it was given out during the check.  It needs the pass to be a real one; the first pass
over the methods of a class records nothing, which is known from `Continues`.
-/
namespace StructuralTyping
namespace Checker

open TypeTable (idsFrom)

/-! ## Slots without ids -/

/-- No slot of the list holds an id. -/
def Blank (slots : List (Option TypeId)) : Prop := ∀ slot ∈ slots, slot = none

theorem blank_cons {slot : Option TypeId} {slots : List (Option TypeId)} :
    Blank (slot :: slots) ↔ slot = none ∧ Blank slots :=
  List.forall_mem_cons

theorem blank_append {a b : List (Option TypeId)} : Blank (a ++ b) ↔ Blank a ∧ Blank b :=
  List.forall_mem_append

/-- A blank slot holds no id. -/
theorem Blank.count {slots : List (Option TypeId)} (h : Blank slots) (id : TypeId) :
    slots.count (some id) = 0 :=
  List.count_eq_zero.mpr fun mem => Option.some_ne_none id (h _ mem)

theorem count_reduceOption (slots : List (Option TypeId)) (id : TypeId) :
    slots.reduceOption.count id = slots.count (some id) := by
  induction slots with
  | nil => rfl
  | cons slot slots ih =>
    cases slot with
    | none => simpa using ih
    | some id' => simpa [List.count_cons] using ih

/-! ## Parts that are numbered -/

variable {τ υ ω α β : Type}

/-- Every id stands in as many slots of a part as it was given out since `st`. -/
structure Numbered (slots : τ → List (Option TypeId)) (st : State) (e : Checked τ α) : Prop where
  real : e.state.surveying = false
  size_le : st.table.size ≤ e.state.table.size
  ids : ∀ id, (slots e.tree).count (some id) =
    (idsFrom st.table.size e.state.table.size).count id

namespace Numbered

variable {slots : τ → List (Option TypeId)} {whole : ω → List (Option TypeId)} {st : State}

/-- A part without ids on which nothing was recorded. -/
theorem untouched {e : Checked τ α} (real : e.state.surveying = false)
    (table : e.state.table = st.table) (blank : Blank (slots e.tree)) : Numbered slots st e where
  real := real
  size_le := Nat.le_of_eq (congrArg TypeTable.size table.symm)
  ids id := by rw [table, blank.count, TypeTable.idsFrom_self, List.count_nil]

/-- Only the table of the first state counts. -/
theorem of_table {st₁ : State} {e : Checked τ α} (h : Numbered slots st₁ e)
    (table : st₁.table = st.table) : Numbered slots st e where
  real := h.real
  size_le := table ▸ h.size_le
  ids := table ▸ h.ids

theorem conclude {e : Checked τ α} (h : Numbered slots st e) (f : α → Except Failure β) :
    Numbered slots st (e.conclude f) :=
  ⟨h.real, h.size_le, h.ids⟩

theorem concludeWith {e : Checked τ α} (h : Numbered slots st e)
    (f : α → State → Except Failure β) : Numbered slots st (e.concludeWith f) :=
  ⟨h.real, h.size_le, h.ids⟩

/-- How the tree is put together has no part in it, as long as it has the same slots. -/
theorem rebuild {e : Checked τ α} (h : Numbered slots st e) {build : τ → ω}
    (hbuild : ∀ t id, (whole (build t)).count (some id) = (slots t).count (some id)) :
    Numbered whole st (e.rebuild build) :=
  ⟨h.real, h.size_le, fun id => (hbuild _ id).trans (h.ids id)⟩

theorem inScope {work : State → Checked τ α} (h : Numbered slots st.push (work st.push)) :
    Numbered slots st (Checker.inScope work st) :=
  ⟨h.real, h.size_le, h.ids⟩

/-- Two checks in a row; the ids of the second follow those of the first, and a part not reached is
blank. -/
theorem andThen (slots₂ : υ → List (Option TypeId)) {first : Checked τ α} {rest : υ}
    {next : α → State → Checked υ β} {build : τ → υ → ω} (h₁ : Numbered slots st first)
    (blank : Blank (slots₂ rest))
    (h₂ : ∀ a st, st.surveying = false → Numbered slots₂ st (next a st))
    (hbuild : ∀ t u id, (whole (build t u)).count (some id) =
      (slots t).count (some id) + (slots₂ u).count (some id)) :
    Numbered whole st (first.andThen rest next build) := by
  unfold Edit.andThen
  split
  · rename_i a _
    have h₂ := h₂ a first.state h₁.real
    refine ⟨h₂.real, Nat.le_trans h₁.size_le h₂.size_le, fun id => ?_⟩
    rw [hbuild, h₁.ids, h₂.ids, ← TypeTable.idsFrom_append h₁.size_le h₂.size_le,
      List.count_append]
  · -- the second part was not reached and is as blank as it came
    refine ⟨h₁.real, h₁.size_le, fun id => ?_⟩
    rw [hbuild, blank.count, Nat.add_zero]
    exact h₁.ids id

/-- A last step without records. -/
theorem whenDone {e : Checked τ α} {next : α → τ → State → Checked τ β}
    (h : Numbered slots st e) (quiet : ∀ a, Quiet e (next a e.tree e.state)) :
    Numbered slots st (e.whenDone next) := by
  unfold Edit.whenDone
  split
  · rename_i a _
    have quiet := quiet a
    refine ⟨quiet.surveying.trans h.real, quiet.table ▸ h.size_le, ?_⟩
    rw [quiet.tree, quiet.table]
    exact h.ids
  · exact ⟨h.real, h.size_le, h.ids⟩

/-- Recording the type of a part gives out one id and writes it on the node of the part. -/
theorem recorded {e : Checked τ Ty} {outer : Node τ → List (Option TypeId)} {span : Span}
    (h : Numbered slots st e) (houter : ∀ n, outer n = n.ty :: slots n.value) :
    Numbered outer st (Checker.recorded span none e) := by
  unfold Checker.recorded
  split
  · rename_i t _
    rw [State.record_of_real h.real]
    refine ⟨h.real, Nat.le_trans h.size_le (TypeTable.Extends.add _ t).size_le, fun id => ?_⟩
    rw [houter, TypeTable.idsFrom_add h.size_le, List.count_append, List.count_cons, h.ids]
    simp [List.count_singleton]
  · refine ⟨h.real, h.size_le, fun id => ?_⟩
    rw [houter, List.count_cons_of_ne (by simp)]
    exact h.ids id

/-- A name is recorded before the rest of the part is checked. -/
theorem afterName {name : Node Ident} {t : Ty} {slots₂ : υ → List (Option TypeId)}
    (tail : State → Checked υ β) (build : Node Ident → υ → ω) (real : st.surveying = false)
    (blank : name.ty = none)
    (h : ∀ st, st.surveying = false → Numbered slots₂ st (tail st))
    (hbuild : ∀ n u id, (whole (build n u)).count (some id) =
      (n.ty :: slots₂ u).count (some id)) :
    Numbered whole st
      ((tail (st.recordName name t).2).rebuild (build (st.recordName name t).1)) := by
  obtain ⟨span, i, slot⟩ := name
  obtain rfl : slot = none := blank
  simp only [State.recordName, State.record_of_real real]
  have h := h { st with table := st.table.add t } real
  have hadd := (TypeTable.Extends.add st.table t).size_le
  refine ⟨h.real, Nat.le_trans hadd h.size_le, fun id => (hbuild _ _ id).trans ?_⟩
  rw [Edit.rebuild_state, ← TypeTable.idsFrom_append hadd h.size_le,
    TypeTable.idsFrom_add (Nat.le_refl _), TypeTable.idsFrom_self, List.count_append,
    List.count_cons, h.ids]
  simp [List.count_singleton, Nat.add_comm]

/-- A name takes one id, if there is one. -/
theorem named (real : st.surveying = false) {name : Option (Node Ident)} {t : Ty}
    (blank : Blank (Slots.optionalName name)) :
    Numbered Slots.optionalName st (Checker.named name t st) := by
  cases name with
  | none => exact .untouched real rfl blank
  | some n =>
    have real : (st.bind n.value.symbol t).surveying = false :=
      (State.bind_surveying _ _ _).trans real
    have nothing (st : State) (real : st.surveying = false) :
        Numbered (fun _ => []) st (Edit.succeed t () st : Checked Unit Ty) :=
      .untouched real rfl (List.forall_mem_nil _)
    exact (Numbered.afterName _ (fun n _ => some n) real (blank_cons.mp blank).1 nothing
      fun _ _ _ => rfl).of_table (State.bind_table _ _ _)

/-- Each parameter takes one id. -/
theorem checkParams {params : List Param} (blank : Blank (Slots.params params))
    (real : st.surveying = false) : Numbered Slots.params st (Checker.checkParams params st) := by
  induction params generalizing st with
  | nil => exact .untouched real rfl blank
  | cons p rest ih =>
    obtain ⟨name, declaredAs⟩ := p
    unfold Checker.checkParams
    split
    · exact .untouched real rfl blank
    · rename_i t _
      obtain ⟨hname, blank⟩ := blank_cons.mp blank
      obtain ⟨hdeclared, hrest⟩ := blank_append.mp blank
      have real : (st.bind name.value.symbol t).surveying = false :=
        (State.bind_surveying _ _ _).trans real
      refine (Numbered.afterName
        (fun st => (Checker.checkParams rest st).conclude fun ts => .ok (t :: ts))
        (fun n rest => ⟨n, declaredAs⟩ :: rest) real hname
        (fun st real => (ih hrest real).conclude _) fun n u id => ?_).of_table
          (State.bind_table _ _ _)
      simp [Slots.params, List.count_cons, List.count_append, hdeclared.count]

/-- Parameters and body of a function or method, as they are checked together. -/
theorem checkCallable {typeParams : List (Node Ident)} {params : List Param}
    {returns : Option (Node TypeExpr)} {body : List (Node Stmt)}
    {announce : List Ty → Option Ty → State → State}
    {checkBody : State → Checked (List (Node Stmt)) Ty}
    (hparams : Blank (Slots.params params)) (hbody : Blank (Slots.stmts body))
    (hannounce : ∀ types declared st, (announce types declared st).table = st.table ∧
      (announce types declared st).surveying = st.surveying)
    (hcheck : ∀ st, st.surveying = false → Numbered Slots.stmts st (checkBody st))
    (real : st.surveying = false) :
    Numbered (fun p => Slots.params p.1 ++ Slots.stmts p.2) st
      (Checker.checkCallable typeParams params returns body announce checkBody st) := by
  have hp : Numbered Slots.params (st.push.bindTypeParams typeParams)
      (Checker.checkParams params (st.push.bindTypeParams typeParams)) :=
    Numbered.checkParams hparams real
  refine .inScope (.andThen Slots.stmts (hp.of_table rfl) hbody (fun types st real => ?_)
    fun _ _ _ => List.count_append)
  split
  · exact .untouched real rfl hbody
  · rename_i declared _
    obtain ⟨table, surveying⟩ := hannounce types declared st
    exact .whenDone ((hcheck _ (surveying.trans real)).of_table table) fun _ => ⟨rfl, rfl, rfl⟩

/-! ## Every part of a program -/

/-- What is checked inside of a class, which is left with the survey that was under way before. -/
theorem leaveClass {e : Checked (List FieldDecl × List (Node Method)) α}
    (methods : List (Node Method)) (real : st.surveying = false)
    (h : Numbered (fun p => Slots.fieldDecls p.1 ++ Slots.methods p.2) (st.enterClass methods) e) :
    Numbered (fun p => Slots.fieldDecls p.1 ++ Slots.methods p.2) st
      (e.mapState fun after => { after with survey := st.survey }) :=
  ⟨real, State.enterClass_table methods st ▸ h.size_le, State.enterClass_table methods st ▸ h.ids⟩

mutual

/-- The ids that a check writes into an expression are the ones it has taken, each once. -/
theorem checkExpr (receiver : Receiver) : ∀ (e : Node Expr) (st : State),
    st.surveying = false → Blank (Slots.node e) →
      Numbered Slots.node st (Checker.checkExpr receiver e st)
  | ⟨span, e, slot⟩, st, real, blank => by
    obtain ⟨rfl, hinside⟩ := blank_cons.mp blank
    exact .recorded (checkForm receiver span e st real hinside) Slots.node_eq

theorem checkForm (receiver : Receiver) (span : Span) : ∀ (e : Expr) (st : State),
    st.surveying = false → Blank (Slots.inside e) →
      Numbered Slots.inside st (Checker.checkForm receiver span e st)
  | .literal _, _, real, blank => .untouched real rfl blank
  | .ident _, _, real, blank => .untouched real rfl blank
  | .call callee args, st, real, blank => by
    obtain ⟨hcallee, hargs⟩ := blank_append.mp blank
    exact .andThen Slots.nodes (checkExpr receiver callee st real hcallee) hargs
      (fun _ st real => (checkExprs receiver args st real hargs).conclude _)
      fun _ _ _ => List.count_append
  | .conditional test consequent alternate, st, real, blank => by
    obtain ⟨htest, hbranches⟩ := blank_append.mp blank
    obtain ⟨hconsequent, halternate⟩ := blank_append.mp hbranches
    unfold Checker.checkForm
    refine .andThen
      (fun p : Node Stmt × Option (Node Stmt) => Slots.stmt p.1 ++ Slots.optionalStmt p.2)
      ((checkExpr receiver test st real htest).conclude _) hbranches (fun _ st real => ?_)
      fun _ _ _ => List.count_append
    exact .andThen Slots.optionalStmt (checkStmt receiver consequent st real hconsequent) halternate
      (fun _ st real => (checkOptionalStmt receiver alternate st real halternate).conclude _)
      fun _ _ _ => List.count_append
  | .member base property, st, real, blank => by
    obtain ⟨hbase, hproperty⟩ := blank_append.mp blank
    obtain ⟨hslot, -⟩ := blank_cons.mp hproperty
    unfold Checker.checkForm
    refine .andThen (fun n : Node Ident => [n.ty]) (checkExpr receiver base st real hbase) hproperty
      (fun t st real => ?_) fun _ _ _ => List.count_append
    -- the slot of the name is blank, so whether it gets an id is up to this record alone
    rw [hslot]
    have nothing : Numbered (fun _ => []) st
        (⟨Rule.property base.span property.span t property.value.name, property.value, st⟩ :
          Checked Ident Ty) :=
      .untouched real rfl (List.forall_mem_nil _)
    exact .recorded nothing fun _ => rfl
  | .index base position, st, real, blank => by
    obtain ⟨hbase, hposition⟩ := blank_append.mp blank
    exact .andThen Slots.node (checkExpr receiver base st real hbase) hposition
      (fun _ st real => (checkExpr receiver position st real hposition).conclude _)
      fun _ _ _ => List.count_append
  | .function f, st, real, blank => (checkFunction f st real blank).rebuild fun _ _ => rfl
  | .classDef c, st, real, blank => (checkClass c st real blank).rebuild fun _ _ => rfl
  | .assertion e ty, st, real, blank => by
    obtain ⟨he, hty⟩ := blank_append.mp blank
    unfold Checker.checkForm
    refine ((checkExpr receiver e st real he).concludeWith _).rebuild fun e id => ?_
    -- an annotation is never written to: its slots stay blank
    rw [Slots.inside, List.count_append, hty.count, Nat.add_zero]
  | .throwing value, st, real, blank =>
    ((checkExpr receiver value st real blank).conclude _).rebuild fun _ _ => rfl
  | .whileLoop test body, st, real, blank => by
    obtain ⟨htest, hbody⟩ := blank_append.mp blank
    exact .andThen Slots.stmts ((checkExpr receiver test st real htest).conclude _) hbody
      (fun _ st real => (inScope (checkStmts receiver _ body st.push real hbody)).conclude _)
      fun _ _ _ => List.count_append
  | .forLoop bindings test update body, st, real, blank => by
    obtain ⟨hbindings, htail⟩ := blank_append.mp blank
    obtain ⟨htest, htail'⟩ := blank_append.mp htail
    obtain ⟨hupdate, hbody⟩ := blank_append.mp htail'
    unfold Checker.checkForm
    refine .inScope ?_
    refine .andThen
      (fun p : Option (Node Expr) × Option (Node Expr) × List (Node Stmt) =>
        Slots.optional p.1 ++ (Slots.optional p.2.1 ++ Slots.stmts p.2.2))
      (checkBindings receiver bindings st.push real hbindings) htail (fun _ st real => ?_)
      fun _ _ _ => List.count_append
    refine .andThen
      (fun p : Option (Node Expr) × List (Node Stmt) => Slots.optional p.1 ++ Slots.stmts p.2)
      ((checkOptional receiver test st real htest).conclude _) htail' (fun _ st real => ?_)
      fun _ _ _ => List.count_append
    exact .andThen Slots.stmts (checkOptional receiver update st real hupdate) hbody
      (fun _ st real => (inScope (checkStmts receiver _ body st.push real hbody)).conclude _)
      fun _ _ _ => List.count_append
  | .returning value, st, real, blank =>
    ((checkOptional receiver value st real blank).conclude _).rebuild fun _ _ => rfl
  | .attempt body handler cleanup, st, real, blank => by
    obtain ⟨hbody, htail⟩ := blank_append.mp blank
    obtain ⟨hhandler, hcleanup⟩ := blank_append.mp htail
    unfold Checker.checkForm
    refine .andThen
      (fun p : Option Handler × Option (List (Node Stmt)) =>
        Slots.optionalHandler p.1 ++ Slots.optionalBody p.2)
      (inScope (checkStmts receiver _ body st.push real hbody)) htail (fun _ st real => ?_)
      fun _ _ _ => List.count_append
    exact .andThen Slots.optionalBody (checkHandler receiver handler st real hhandler) hcleanup
      (fun _ st real => checkCleanup receiver cleanup st real hcleanup)
      fun _ _ _ => List.count_append
  | .array items, st, real, blank =>
    ((checkExprs receiver items st real blank).conclude _).rebuild fun _ _ => rfl
  | .object properties, st, real, blank =>
    ((checkProperties receiver properties st real blank).conclude _).rebuild fun _ _ => rfl
  | .assignment target value, st, real, blank => by
    unfold Checker.checkForm
    split
    · obtain ⟨htarget, hvalue⟩ := blank_append.mp blank
      refine .andThen Slots.node (checkExpr receiver target st real htarget) hvalue
        (fun targetTy st real => ?_) fun _ _ _ => List.count_append
      refine .whenDone (checkExpr receiver value st real hvalue) fun t => ?_
      split
      · exact ⟨rfl, rfl, rfl⟩
      · exact ⟨rfl, (State.rebind_table _ _ _ _).trans (State.noteAssignment_table _ _ _ _),
          (State.rebind_surveying _ _ _ _).trans (State.noteAssignment_surveying _ _ _ _)⟩
    · exact .untouched real rfl blank

theorem checkFunction : ∀ (f : Function) (st : State),
    st.surveying = false → Blank (Slots.function f) →
      Numbered Slots.function st (Checker.checkFunction f st)
  | ⟨name, typeParams, params, returns, body⟩, st, real, blank => by
    obtain ⟨hname, htail⟩ := blank_append.mp blank
    obtain ⟨htypeParams, htail⟩ := blank_append.mp htail
    obtain ⟨hparams, htail⟩ := blank_append.mp htail
    obtain ⟨hreturns, hbody⟩ := blank_append.mp htail
    unfold Checker.checkFunction
    rw [if_neg (by simp [real])]
    refine .andThen Slots.optionalName
      (checkCallable hparams hbody
        (fun _ _ _ => ⟨announceFunction_table _ _ _ _, announceFunction_surveying _ _ _ _⟩)
        (fun st real => checkStmts none _ body st real hbody) real)
      hname (fun _ st real => Numbered.named real hname) fun p n id => ?_
    simp only [Slots.function, List.count_append, htypeParams.count, hreturns.count]
    omega

theorem checkClass : ∀ (c : Class) (st : State),
    st.surveying = false → Blank (Slots.classDef c) →
      Numbered Slots.classDef st (Checker.checkClass c st)
  | ⟨name, fields, methods⟩, outer, real, blank => by
    obtain ⟨hname, htail⟩ := blank_append.mp blank
    obtain ⟨hfields, hmethods⟩ := blank_append.mp htail
    unfold Checker.checkClass
    rw [if_neg (by simp [real])]
    dsimp only
    refine .andThen Slots.optionalName (leaveClass methods real (inScope ?_)) hname
      (fun _ st real => Numbered.named real hname) fun p n id => ?_
    · refine .andThen Slots.methods (checkFields fields _ rfl hfields) hmethods
        (fun declared st _ => ?_) fun _ _ _ => List.count_append
      -- the survey is a pass of its own that records nothing, so the methods go on from the table
      -- that the fields left
      have survey := continues_stepClosed.surveyMethods outer.nextSelf methods
        (st.beginSurvey outer.nextSelf (Field.merge declared))
      have table := survey.silent rfl
      split
      · exact .untouched rfl table hmethods
      · exact .whenDone ((checkMethods _ _ methods _ rfl hmethods).of_table
          ((State.beginMethods_table _ _ _ _ _).trans table)) fun _ => ⟨rfl, rfl, rfl⟩
    · -- the methods are linked when they are put back, which no slot notices
      rw [Slots.classDef, SelfReference.slots_link, List.count_append, Nat.add_comm]

theorem checkExprs (receiver : Receiver) : ∀ (es : List (Node Expr)) (st : State),
    st.surveying = false → Blank (Slots.nodes es) →
      Numbered Slots.nodes st (Checker.checkExprs receiver es st)
  | [], st, real, blank => .untouched real rfl blank
  | e :: rest, st, real, blank => by
    obtain ⟨he, hrest⟩ := blank_append.mp blank
    exact .andThen Slots.nodes (checkExpr receiver e st real he) hrest
      (fun _ st real => (checkExprs receiver rest st real hrest).conclude _)
      fun _ _ _ => List.count_append

theorem checkOptional (receiver : Receiver) : ∀ (e : Option (Node Expr)) (st : State),
    st.surveying = false → Blank (Slots.optional e) →
      Numbered Slots.optional st (Checker.checkOptional receiver e st)
  | none, _, real, blank => .untouched real rfl blank
  | some e, st, real, blank =>
    ((checkExpr receiver e st real blank).conclude _).rebuild fun _ _ => rfl

theorem checkStmt (receiver : Receiver) : ∀ (n : Node Stmt) (st : State),
    st.surveying = false → Blank (Slots.stmt n) →
      Numbered Slots.stmt st (Checker.checkStmt receiver n st)
  | ⟨span, .expr e, slot⟩, st, real, blank => by
    obtain ⟨rfl, hinside⟩ := blank_cons.mp blank
    exact .recorded ((checkExpr receiver e st real hinside).rebuild fun _ _ => rfl) Slots.stmt_eq
  | ⟨span, .block body, slot⟩, st, real, blank => by
    obtain ⟨rfl, hinside⟩ := blank_cons.mp blank
    exact .recorded ((inScope (checkStmts receiver _ body st.push real hinside)).rebuild
      fun _ _ => rfl) Slots.stmt_eq
  | ⟨span, .binding kind bindings body, slot⟩, st, real, blank => by
    obtain ⟨rfl, hinside⟩ := blank_cons.mp blank
    obtain ⟨hbindings, hbody⟩ := blank_append.mp hinside
    have real : (st.emit (.bindings span kind (bindings.map fun b => b.name.value.name))).surveying
        = false := (State.emit_surveying _ _).trans real
    refine .recorded (Numbered.of_table (inScope ?_) (State.emit_table _ _)) Slots.stmt_eq
    exact .andThen Slots.stmts (checkBindings receiver bindings _ real hbindings) hbody
      (fun _ st real => checkStmts receiver _ body st real hbody) fun _ _ _ => List.count_append
  | ⟨span, .typeAlias name typeParams ty, slot⟩, st, real, blank => by
    unfold Checker.checkStmt
    split <;> exact .untouched real rfl blank

theorem checkOptionalStmt (receiver : Receiver) : ∀ (n : Option (Node Stmt)) (st : State),
    st.surveying = false → Blank (Slots.optionalStmt n) →
      Numbered Slots.optionalStmt st (Checker.checkOptionalStmt receiver n st)
  | none, _, real, blank => .untouched real rfl blank
  | some n, st, real, blank =>
    ((checkStmt receiver n st real blank).conclude _).rebuild fun _ _ => rfl

theorem checkStmts (receiver : Receiver) (last : Ty) : ∀ (body : List (Node Stmt)) (st : State),
    st.surveying = false → Blank (Slots.stmts body) →
      Numbered Slots.stmts st (Checker.checkStmts receiver last body st)
  | [], st, real, blank => .untouched real rfl blank
  | n :: rest, st, real, blank => by
    obtain ⟨hn, hrest⟩ := blank_append.mp blank
    exact .andThen Slots.stmts (checkStmt receiver n st real hn) hrest
      (fun t st real => checkStmts receiver t rest st real hrest) fun _ _ _ => List.count_append

theorem checkCleanup (receiver : Receiver) : ∀ (body : Option (List (Node Stmt))) (st : State),
    st.surveying = false → Blank (Slots.optionalBody body) →
      Numbered Slots.optionalBody st (Checker.checkCleanup receiver body st)
  | none, _, real, blank => .untouched real rfl blank
  | some body, st, real, blank =>
    ((inScope (checkStmts receiver _ body st.push real blank)).conclude _).rebuild fun _ _ => rfl

theorem checkHandler (receiver : Receiver) : ∀ (h : Option Handler) (st : State),
    st.surveying = false → Blank (Slots.optionalHandler h) →
      Numbered Slots.optionalHandler st (Checker.checkHandler receiver h st)
  | none, _, real, blank => .untouched real rfl blank
  | some ⟨param, body⟩, st, real, blank => by
    obtain ⟨hparam, hbody⟩ := blank_append.mp blank
    unfold Checker.checkHandler
    refine .inScope ?_
    have real : st.push.surveying = false := real
    exact .andThen Slots.stmts (Numbered.named real hparam) hbody
      (fun _ st real => checkStmts receiver _ body st real hbody) fun _ _ _ => List.count_append

theorem checkBindings (receiver : Receiver) : ∀ (bs : List Binding) (st : State),
    st.surveying = false → Blank (Slots.bindings bs) →
      Numbered Slots.bindings st (Checker.checkBindings receiver bs st)
  | [], _, real, blank => .untouched real rfl blank
  | ⟨name, declaredAs, init⟩ :: rest, st, real, blank => by
    obtain ⟨hname, htail⟩ := blank_cons.mp blank
    obtain ⟨hdeclared, htail⟩ := blank_append.mp htail
    obtain ⟨hinit, hrest⟩ := blank_append.mp htail
    refine .andThen (fun p : Node Ident × List Binding => p.1.ty :: Slots.bindings p.2)
      (checkExpr receiver init st real hinit) (blank_cons.mpr ⟨hname, hrest⟩)
      (fun initTy st real => ?_) fun init p id => ?_
    · split
      · exact .untouched real rfl (blank_cons.mpr ⟨hname, hrest⟩)
      · rename_i t _
        refine Numbered.of_table (Numbered.afterName (Checker.checkBindings receiver rest) Prod.mk
          ((State.bind_surveying _ _ _).trans real) hname
          (fun st real => checkBindings receiver rest st real hrest) ?_) (State.bind_table _ _ _)
        exact fun _ _ _ => rfl
    · simp only [Slots.bindings, List.count_cons, List.count_append, hdeclared.count]
      omega

theorem checkFields : ∀ (fs : List FieldDecl) (st : State),
    st.surveying = false → Blank (Slots.fieldDecls fs) →
      Numbered Slots.fieldDecls st (Checker.checkFields fs st)
  | [], _, real, blank => .untouched real rfl blank
  | ⟨name, declaredAs, init⟩ :: rest, st, real, blank => by
    obtain ⟨hname, htail⟩ := blank_cons.mp blank
    obtain ⟨hdeclared, htail⟩ := blank_append.mp htail
    obtain ⟨hinit, hrest⟩ := blank_append.mp htail
    refine .andThen (fun p : Node Ident × List FieldDecl => p.1.ty :: Slots.fieldDecls p.2)
      (checkOptional none init st real hinit) (blank_cons.mpr ⟨hname, hrest⟩)
      (fun initTy st real => ?_) fun init p id => ?_
    · split
      · exact .untouched real rfl (blank_cons.mpr ⟨hname, hrest⟩)
      · rename_i t _
        refine .afterName
          (fun st => (Checker.checkFields rest st).conclude fun entries =>
            .ok (⟨name.value.name, t⟩ :: entries)) Prod.mk real hname
          (fun st real => (checkFields rest st real hrest).conclude _) ?_
        exact fun _ _ _ => rfl
    · simp only [Slots.fieldDecls, List.count_cons, List.count_append, hdeclared.count]
      omega

theorem checkMethods (self : Symbol) (fields : List Field) :
    ∀ (ms : List (Node Method)) (st : State),
    st.surveying = false → Blank (Slots.methods ms) →
      Numbered Slots.methods st (Checker.checkMethods self fields ms st)
  | [], _, real, blank => .untouched real rfl blank
  | ⟨span, ⟨name, kind, typeParams, params, returns, body⟩, slot⟩ :: rest, st, real, blank => by
    unfold Checker.checkMethods
    split
    · exact .untouched real rfl blank
    · obtain ⟨rfl, htail⟩ := blank_cons.mp blank
      obtain ⟨hmethod, hrest⟩ := blank_append.mp htail
      obtain ⟨hname, htail⟩ := blank_cons.mp hmethod
      obtain ⟨htypeParams, htail⟩ := blank_append.mp htail
      obtain ⟨hparams, htail⟩ := blank_append.mp htail
      obtain ⟨hreturns, hbody⟩ := blank_append.mp htail
      have method : Numbered Slots.method st
          ((Checker.checkCallable typeParams params returns body (fun _ _ st => st)
            (Checker.checkStmts (some self) .undefined body) st).rebuild
            fun p => ⟨name, kind, typeParams, p.1, returns, p.2⟩) := by
        refine Numbered.rebuild (checkCallable hparams hbody (fun _ _ _ => ⟨rfl, rfl⟩)
          (fun st real => checkStmts (some self) _ body st real hbody) real) fun p id => ?_
        simp [Slots.method, List.count_append, htypeParams.count, hreturns.count, hname]
      refine .andThen Slots.methods (.recorded method (fun _ => rfl)) hrest
        (fun _ st real => (checkMethods self fields rest st real hrest).conclude _)
        fun n rest id => ?_
      obtain ⟨_, _, _⟩ := n
      simp only [Slots.methods, List.count_cons, List.count_append]
      omega

theorem checkProperties (receiver : Receiver) : ∀ (ps : List Property) (st : State),
    st.surveying = false → Blank (Slots.properties ps) →
      Numbered Slots.properties st (Checker.checkProperties receiver ps st)
  | [], _, real, blank => .untouched real rfl blank
  | ⟨key, value⟩ :: rest, st, real, blank => by
    obtain ⟨hkey, htail⟩ := blank_cons.mp blank
    obtain ⟨hvalue, hrest⟩ := blank_append.mp htail
    refine .andThen Slots.properties (checkExpr receiver value st real hvalue) hrest
      (fun _ st real => (checkProperties receiver rest st real hrest).conclude _)
      fun value rest id => ?_
    simp [Slots.properties, List.count_append, hkey]

end

end Numbered
end Checker

/-! ## Sessions -/

namespace Session

open Checker

/-- A statement is numbered whether it has a diagnostic or not. -/
theorem numbered_checkStmt (file : String) {n : Node Stmt} {s : Session}
    (real : s.state.surveying = false) (blank : Blank (Slots.stmt n)) :
    Numbered Slots.stmt s.state (outcome (s.checkStmt file n)) := by
  have h := Numbered.checkStmt none n s.state real blank
  unfold Session.checkStmt
  dsimp only
  split <;> exact ⟨h.real, h.size_le, h.ids⟩

/-- The ids of a body are those between the sizes of the table before and after. -/
theorem numbered_checkBody (file : String) {body : List (Node Stmt)} (s : Session)
    (real : s.state.surveying = false) (blank : Blank (Slots.stmts body)) :
    Numbered Slots.stmts s.state (outcome (checkBody file body s)) := by
  induction body generalizing s with
  | nil => exact .untouched real rfl blank
  | cons n rest ih =>
    obtain ⟨hn, hrest⟩ := blank_append.mp blank
    -- the rest is checked from the state reached, with the diagnostics so far
    let next (_ : Unit) (st : State) :=
      outcome (checkBody file rest ⟨st, (s.checkStmt file n).2.diagnostics⟩)
    have h : Numbered Slots.stmts s.state
        ((outcome (s.checkStmt file n)).andThen rest next List.cons) :=
      .andThen Slots.stmts (numbered_checkStmt file real hn) hrest
        (fun _ st real => ih ⟨st, _⟩ real hrest) fun _ _ _ => List.count_append
    exact h

/-- The ids of a program are those between the sizes of the table before and after. -/
theorem numbered_check {p : Program} (s : Session) (real : s.state.surveying = false)
    (blank : Blank p.slots) : Numbered Program.slots s.state (outcome (s.check p)) := by
  have h : Numbered Slots.stmts { s.state with journal := #[] }
      (outcome (checkBody p.file p.body { s with state := { s.state with journal := #[] } })) :=
    numbered_checkBody p.file ⟨_, _⟩ real blank
  have table : (s.check p).2.state.table = _ := State.emit_table _ _
  exact ⟨(State.emit_surveying _ _).trans h.real, table ▸ h.size_le, table ▸ h.ids⟩

/-- **Entries of the table and nodes with an id correspond one to one.**  After the check of a
program without ids, diagnostics or not, the ids on its nodes are the positions of the table, each
on one node, unless the table has outgrown its ids. -/
theorem typeIds_check_perm {p : Program} (blank : ∀ slot ∈ p.slots, slot = none)
    (room : (({} : Session).check p).2.table.size ≤ TypeTable.capacity) :
    ((({} : Session).check p).1.typeIds.map fun id => id.index.toNat).Perm
      (List.range (({} : Session).check p).2.table.size) := by
  have h := numbered_check {} rfl blank
  rw [← TypeTable.map_toNat_idsFrom room]
  refine List.Perm.map _ (List.perm_iff_count.mpr fun id => ?_)
  rw [Program.typeIds, count_reduceOption]
  exact h.ids id

/-- A class whose field is found where its method assigns it, and a statement that fails after its
condition was recorded. -/
def faulty : Program where
  file := "faulty"
  body :=
    [⟨.zero, .expr ⟨.zero, .classDef
        { name := some ⟨.zero, ⟨"Counter", some (.resolved 0)⟩, none⟩
          fields := []
          methods :=
            [⟨.zero,
              { name := ⟨.zero, ⟨"start", none⟩, none⟩
                kind := .constructor
                typeParams := []
                params := [⟨⟨.zero, ⟨"first", some (.resolved 1)⟩, none⟩, none⟩]
                returns := none
                body :=
                  [⟨.zero, .expr ⟨.zero, .assignment
                    ⟨.zero, .member ⟨.zero, .ident ⟨"self", none⟩, none⟩
                      ⟨.zero, ⟨"count", none⟩, none⟩, none⟩
                    ⟨.zero, .ident ⟨"first", some (.resolved 1)⟩, none⟩, none⟩, none⟩] },
              none⟩] },
        none⟩, none⟩,
      ⟨.zero, .expr ⟨.zero, .whileLoop ⟨.zero, .literal (.value .null), none⟩ [], none⟩, none⟩]

/-- A program with a fault still carries the ids from zero to eleven, each once. -/
theorem typeIds_check_faulty :
    (∀ slot ∈ faulty.slots, slot = none) ∧
      (({} : Session).check faulty).2.diagnostics.size = 1 ∧
      ((({} : Session).check faulty).1.typeIds.map fun id => id.index.toNat).Perm
        (List.range 12) := by
  have size : (({} : Session).check faulty).2.table.size = 12 := by decide +kernel
  refine ⟨by decide +kernel, by decide +kernel, ?_⟩
  rw [← size]
  exact typeIds_check_perm (by decide +kernel) (by rw [size]; decide)

end Session
end StructuralTyping
