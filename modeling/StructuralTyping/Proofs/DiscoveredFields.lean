import Mathlib.Data.List.Induction
import Mathlib.Data.List.Nodup
import StructuralTyping.Proofs.FieldAgreement
import StructuralTyping.Proofs.NodeSpans
import StructuralTyping.Proofs.SurveySilence

/-! # The fields that a survey finds

The fields of a class are collected while its methods are gone through.  This module proves what
comes of it (`Checker.fields_discovered`).

* A survey that no method stops finds exactly the declared fields and those that the methods assign
  themselves, outside of the functions and classes in them: the declared ones first, in the order of
  their first declaration, and no name twice.  `Discovers` says it of the check of a part: the names
  afterwards are those from before and those that the own expressions of the part assign.
* In both passes, and whether a check succeeds or not, the list of fields only grows: a field keeps
  its place, and its type too once that is known.  `Grown` says it of two lists of fields, and
  `grown_stepClosed` of every step.
-/
namespace StructuralTyping

/-! ## Growing lists of fields -/

/-- The second list has the fields of the first one in the same places, with their types as far as
these were known, and perhaps more fields behind them. -/
inductive Grown : List Field → List Field → Prop
  | nil (fs : List Field) : Grown [] fs
  | cons {f g : Field} {fs gs : List Field} (name : g.name = f.name)
      (known : f.ty ≠ .unknown → g.ty = f.ty) (rest : Grown fs gs) : Grown (f :: fs) (g :: gs)

namespace Grown

theorem refl (fs : List Field) : Grown fs fs := by
  induction fs with
  | nil => exact .nil _
  | cons f fs ih => exact .cons rfl (fun _ => rfl) ih

theorem trans {fs gs hs : List Field} (h₁ : Grown fs gs) (h₂ : Grown gs hs) : Grown fs hs := by
  induction h₁ generalizing hs with
  | nil => exact .nil _
  | @cons f g _ _ name known _ ih =>
    cases h₂ with
    | cons name' known' rest =>
      refine .cons (name'.trans name) (fun hf => ?_) (ih rest)
      have same := known hf
      rw [known' (same ▸ hf), same]

/-- The names stay in front. -/
theorem names_prefix {fs gs : List Field} (h : Grown fs gs) :
    fs.map Field.name <+: gs.map Field.name := by
  induction h with
  | nil => exact List.nil_prefix
  | cons name _ _ ih =>
    rw [List.map_cons, List.map_cons, name]
    exact (List.cons_prefix_cons).mpr ⟨rfl, ih⟩

/-- A note adds a field or changes the type of one. -/
theorem note (name : String) (t : Ty) (fs : List Field) :
    Grown fs (FieldSurvey.note name t fs) := by
  induction fs with
  | nil => exact .nil _
  | cons f fs ih =>
    unfold FieldSurvey.note
    split
    · rename_i hname
      split
      · rename_i unknown
        exact .cons hname.symm (fun known => absurd unknown known) (.refl fs)
      · exact .refl _
    · exact .cons rfl (fun _ => rfl) ih

end Grown

/-! ## Names of fields -/

namespace Field

/-- A list of names with one more at its end, unless that is there already. -/
def addName (name : String) (names : List String) : List String :=
  if name ∈ names then names else names ++ [name]

/-- A name is there once it is added, and no other is. -/
theorem mem_addName {name other : String} {names : List String} :
    other ∈ addName name names ↔ other ∈ names ∨ other = name := by
  unfold addName
  split
  · exact ⟨.inl, fun h => h.elim id fun same => same ▸ ‹_›⟩
  · simp

/-- A name that is there is not added again. -/
theorem nodup_addName {name : String} {names : List String} (h : names.Nodup) :
    (addName name names).Nodup := by
  unfold addName
  split
  · exact h
  · rename_i missing
    exact List.concat_eq_append ▸ h.concat missing

theorem addName_cons_of_ne {name other : String} (h : other ≠ name) (names : List String) :
    addName name (other :: names) = other :: addName name names := by
  unfold addName
  by_cases there : name ∈ names <;> simp [there, h.symm]

/-- A field that is put in place of another keeps its position. -/
theorem names_put (name : String) (t : Ty) (fs : List Field) :
    (put name t fs).map Field.name = addName name (fs.map Field.name) := by
  induction fs with
  | nil => rfl
  | cons f fs ih =>
    unfold put
    split
    · rename_i same
      simp [addName, same]
    · rename_i other
      rw [List.map_cons, ih, List.map_cons, addName_cons_of_ne other]

/-- Declarations are merged from left to right. -/
theorem merge_concat (entries : List Field) (e : Field) :
    merge (entries ++ [e]) = put e.name e.ty (merge entries) := by
  simp [merge, List.foldl_append]

/-- The names of merged entries, in the order in which they first occur. -/
theorem names_merge (entries : List Field) :
    (merge entries).map Field.name = (entries.map Field.name).eraseDups := by
  induction entries using List.reverseRecOn with
  | nil => rfl
  | append_singleton entries e ih =>
    rw [merge_concat, names_put, ih, List.map_append, List.eraseDups_append, addName]
    by_cases there : e.name ∈ entries.map Field.name <;>
      simp_all [List.removeAll, List.eraseDups_cons]

/-- After merging, every field is there once. -/
theorem nodup_merge (entries : List Field) : ((merge entries).map Field.name).Nodup := by
  induction entries using List.reverseRecOn with
  | nil => exact List.nodup_nil
  | append_singleton entries e ih =>
    rw [merge_concat, names_put]
    exact nodup_addName ih

end Field

/-- A survey notes names as declarations do. -/
theorem FieldSurvey.names_note (name : String) (t : Ty) (fs : List Field) :
    (note name t fs).map Field.name = Field.addName name (fs.map Field.name) := by
  induction fs with
  | nil => rfl
  | cons f fs ih =>
    unfold note
    split
    · rename_i same
      split <;> simp [Field.addName, same]
    · rename_i other
      rw [List.map_cons, ih, List.map_cons, Field.addName_cons_of_ne other]

namespace Checker

/-! ## Every step keeps the fields -/

/-- Assignments make a survey grow. -/
theorem State.noteAssignment_surveyed (receiver : Receiver) (target : Expr) (t : Ty) (st : State) :
    Grown st.surveyed (st.noteAssignment receiver target t).surveyed := by
  unfold noteAssignment
  split
  · exact .refl _
  · rename_i s hs
    split
    · rename_i name _
      simp only [surveyed, hs]
      exact .note name t.widen s.fields
    · exact .refl _

/-- **Every check only adds to the fields**, whether it succeeds or not. -/
theorem grown_stepClosed : StepClosed fun st later => Grown st.surveyed later.surveyed where
  refl _ := .refl _
  trans := Grown.trans
  record slot t st := State.surveyed_congr (State.record_survey slot t st) ▸ .refl _
  bind symbol t st := State.surveyed_congr (State.bind_survey symbol t st) ▸ .refl _
  note _ _ _ := .refl _
  emit e st := State.surveyed_congr (State.emit_survey e st) ▸ .refl _
  defineAlias _ _ _ _ := .refl _
  noteAssignment := State.noteAssignment_surveyed
  scope _ _ _ h := h
  -- the survey around a class goes on where it was left
  classFields _ _ := .refl _
  classSurvey _ _ _ := .refl _
  classMethods _ _ _ _ := .refl _

theorem State.rebind_survey (receiver : Receiver) (target : Expr) (t : Ty) (st : State) :
    (st.rebind receiver target t).survey = st.survey := by
  unfold rebind
  split
  · exact bind_survey _ _ _
  · rfl

/-! ## What a part of a method adds -/

/-- The names of the fields found so far. -/
def State.fieldNames (st : State) : List String := st.surveyed.map Field.name

/-- One of the own expressions assigns to that field of `self`. -/
def Assigns (own : List (Node Expr)) (field : String) : Prop :=
  ∃ a ∈ FieldAssignment.among own, a.field = field

/-- A field is assigned in a row if it is in one of the parts. -/
theorem assigns_append {xs ys : List (Node Expr)} {field : String} :
    Assigns (xs ++ ys) field ↔ Assigns xs field ∨ Assigns ys field := by
  simp only [Assigns, FieldAssignment.among_append, List.mem_append, or_and_right, exists_or]

theorem not_assigns_nil (field : String) : ¬Assigns [] field := by
  rintro ⟨_, h, -⟩
  cases h

/-- The first pass over the methods of the class of `self` is under way. -/
def Scanning (self : Symbol) (st : State) : Prop :=
  st.survey.map FieldSurvey.subject = some (self, true)

/-- A scan has a survey in its first pass to write to. -/
theorem Scanning.exists_survey {self : Symbol} {st : State} (h : Scanning self st) :
    ∃ fields, st.survey = some { self, fields, firstPass := true } := by
  obtain ⟨⟨_, fields, _⟩, survey, subject⟩ := Option.map_eq_some_iff.mp h
  cases subject
  exact ⟨fields, survey⟩

theorem Scanning.surveying {self : Symbol} {st : State} (h : Scanning self st) :
    st.surveying = true := by
  obtain ⟨fields, survey⟩ := h.exists_survey
  rw [State.surveying, survey]

/-- None of the expressions refers to `self` by its symbol. -/
def ByName (self : Symbol) (own : List (Node Expr)) : Prop :=
  ∀ n ∈ own, ∀ i ∈ n.value.idents, i.symbol ≠ some self

namespace ByName

variable {self : Symbol} {n : Node Expr} {own own' : List (Node Expr)}

theorem left (h : ByName self (own ++ own')) : ByName self own :=
  fun n hn => h n (List.mem_append_left _ hn)

theorem right (h : ByName self (own ++ own')) : ByName self own' :=
  fun n hn => h n (List.mem_append_right _ hn)

theorem tail (h : ByName self (n :: own)) : ByName self own :=
  fun n hn => h n (List.mem_cons_of_mem _ hn)

/-- A field of `self` is assigned by name. -/
theorem field? (h : ByName self (Own.node n)) :
    Receiver.field? (some self) self n.value = n.value.selfField? := by
  obtain ⟨span, e, slot⟩ := n
  cases e with
  | member base property =>
    obtain ⟨baseSpan, base, baseSlot⟩ := base
    cases base with
    | ident i =>
      have symbol : i.symbol ≠ some self :=
        h ⟨baseSpan, .ident i, baseSlot⟩ (List.mem_cons_of_mem _ List.mem_cons_self) i
          (List.mem_singleton_self i)
      simp [Receiver.field?, Receiver.symbolOf_eq_self symbol, Expr.selfField?, Expr.name?]
    | _ => simp [Receiver.field?, Expr.selfField?, Expr.name?]
  | _ => rfl

end ByName

/-- Noting an assignment adds the field of `self` that it assigns, if it does. -/
theorem Scanning.mem_noteAssignment {self : Symbol} {st : State} (h : Scanning self st)
    {target : Node Expr} (byName : ByName self (Own.node target)) {t : Ty} {field : String} :
    field ∈ (st.noteAssignment (some self) target.value t).fieldNames ↔
      field ∈ st.fieldNames ∨ target.value.selfField? = some field := by
  obtain ⟨fields, survey⟩ := h.exists_survey
  simp only [State.noteAssignment, survey, byName.field?]
  cases target.value.selfField? with
  | none => simp
  | some name =>
    simp only [State.fieldNames, State.surveyed, survey, FieldSurvey.names_note, Field.mem_addName,
      Option.some.injEq]
    exact or_congr_right eq_comm

/-- An assignment assigns the field that its target is, if it is one. -/
theorem assigns_assignment {span : Span} {target value : Node Expr} {slot : Option TypeId}
    {own : List (Node Expr)} {field : String} :
    Assigns (⟨span, .assignment target value, slot⟩ :: own) field ↔
      target.value.selfField? = some field ∨ Assigns own field := by
  simp only [Assigns, FieldAssignment.among, List.filterMap_cons, FieldAssignment.of?]
  cases target.value.selfField? <;> simp

/-- A check in the first pass goes on with the pass; and if it succeeds, the fields have the names
from before and those that the own expressions of the part assign. -/
structure Discovers {τ α : Type} (inst : Symbol) (own : List (Node Expr)) (st : State)
    (e : Checked τ α) : Prop where
  scanning : Scanning inst e.state
  names : ∀ a, e.result = .ok a → ∀ field, field ∈ e.state.fieldNames ↔
    field ∈ st.fieldNames ∨ Assigns own field

namespace Discovers

variable {τ υ ω α β : Type} {self : Symbol} {own own' : List (Node Expr)} {st : State}
  {e : Checked τ α}

/-- A check that leaves the survey as it is, of a part without own expressions. -/
theorem quiet (scanning : Scanning self st) (survey : e.state.survey = st.survey) :
    Discovers self [] st e where
  scanning := by
    unfold Scanning
    rw [survey]
    exact scanning
  names _ _ field := by
    unfold State.fieldNames
    rw [State.surveyed_congr survey]
    exact ⟨.inl, fun h => h.resolve_right (not_assigns_nil field)⟩

/-- A step that leaves the survey alone discovers nothing. -/
theorem kept (scanning : Scanning self st) {result : Except Failure α} {tree : τ} :
    Discovers self [] st (⟨result, tree, st⟩ : Checked τ α) :=
  .quiet scanning rfl

/-- A failed scan owes nothing. -/
theorem failed (scanning : Scanning self st) {f : Failure} {tree : τ} :
    Discovers self own st (.fail f tree st : Checked τ α) where
  scanning := scanning
  names _ h := nomatch h

/-- The check stops where another one arrived. -/
theorem stopped (h : Discovers self own st e) {e' : Checked υ β} {f : Failure}
    (result : e'.result = .error f) (state : e'.state = e.state) :
    Discovers self own' st e' where
  scanning := state ▸ h.scanning
  names _ ok := by
    rw [result] at ok
    cases ok

/-- Only the survey of the state before matters. -/
theorem of_survey {st₁ : State} (h : Discovers self own st₁ e) (survey : st₁.survey = st.survey) :
    Discovers self own st e where
  scanning := h.scanning
  names a ha field := by
    have names := h.names a ha field
    unfold State.fieldNames at names ⊢
    rwa [State.surveyed_congr survey] at names

theorem concludeWith (h : Discovers self own st e) (f : α → State → Except Failure β) :
    Discovers self own st (e.concludeWith f) where
  scanning := h.scanning
  names _ hb := by
    obtain ⟨a, ha, -⟩ := exists_of_bind_eq_ok hb
    exact h.names a ha

theorem conclude (h : Discovers self own st e) (f : α → Except Failure β) :
    Discovers self own st (e.conclude f) :=
  h.concludeWith fun a _ => f a

theorem rebuild (h : Discovers self own st e) (build : τ → ω) :
    Discovers self own st (e.rebuild build) :=
  ⟨h.scanning, h.names⟩

theorem inScope {work : State → Checked τ α} (h : Discovers self own st.push (work st.push)) :
    Discovers self own st (Checker.inScope work st) :=
  ⟨h.scanning, h.names⟩

/-- Two steps in a row discover what either of them does; the second runs in a scan as well. -/
theorem andThen {rest : υ} {next : α → State → Checked υ β} {build : τ → υ → ω}
    (h₁ : Discovers self own st e)
    (h₂ : ∀ a st, Scanning self st → Discovers self own' st (next a st)) :
    Discovers self (own ++ own') st (e.andThen rest next build) := by
  unfold Edit.andThen
  split
  · rename_i a ha
    have h₂ := h₂ a e.state h₁.scanning
    refine ⟨h₂.scanning, fun b hb field => ?_⟩
    rw [assigns_append, ← or_assoc, ← h₁.names a ha field]
    exact h₂.names b hb field
  · exact h₁.stopped rfl rfl

theorem recorded {e : Checked τ Ty} {span : Span} {slot : Option TypeId}
    (h : Discovers self own st e) : Discovers self own st (Checker.recorded span slot e) := by
  unfold Checker.recorded
  split
  · rename_i t ht
    rw [State.record_of_surveying h.scanning.surveying]
    exact ⟨h.scanning, fun _ _ => h.names t ht⟩
  · exact h.stopped rfl rfl

/-- Other expressions that assign the same fields will do. -/
theorem of_iff (h : Discovers self own st e)
    (same : ∀ field, Assigns own' field ↔ Assigns own field) : Discovers self own' st e where
  scanning := h.scanning
  names a ha field := by
    rw [same]
    exact h.names a ha field

/-- The expression itself does not assign a field of `self`. -/
theorem ofInside {span : Span} {form : Expr} {slot : Option TypeId}
    (h : Discovers self (Own.inside form) st e) (without : FieldAssignment.of? form = none) :
    Discovers self (Own.node ⟨span, form, slot⟩) st e := by
  refine h.of_iff fun field => ?_
  simp [Assigns, Own.node, FieldAssignment.among, without]

theorem named (scanning : Scanning self st) (name : Option (Node Ident)) (t : Ty) :
    Discovers self [] st (Checker.named name t st) :=
  .quiet scanning (named_survey name t st)

/-- An assignment is noted after its value was checked. -/
theorem assigned {target value : Node Expr} {e : Checked (Node Expr) Ty} (targetTy : Ty)
    (byName : ByName self (Own.node target)) (h : Discovers self (Own.node value) st e)
    (span : Span) (slot : Option TypeId) :
    Discovers self (⟨span, .assignment target value, slot⟩ :: Own.node value) st
      (e.whenDone fun t value st =>
        match Failure.unlessAssignable t targetTy value.span with
        | .error f => .fail f value st
        | .ok _ =>
          .succeed t value
            ((st.noteAssignment (some self) target.value t).rebind (some self) target.value
              t)) := by
  unfold Edit.whenDone
  split
  · rename_i t ht
    dsimp only
    split
    · exact h.stopped rfl rfl
    · have survey := State.rebind_survey (some self) target.value t
        (e.state.noteAssignment (some self) target.value t)
      refine ⟨?_, fun _ _ field => ?_⟩
      · show Option.map _ _ = _
        rw [Edit.succeed, survey, State.noteAssignment_subject]
        exact h.scanning
      · -- the field of the target comes after those that the value has added
        rw [Edit.succeed, State.fieldNames, State.surveyed_congr survey, ← State.fieldNames,
          h.scanning.mem_noteAssignment byName, assigns_assignment, h.names t ht field,
          or_right_comm, or_assoc]
  · exact h.stopped rfl rfl

/-- A function in a survey assigns nothing. -/
theorem surveyFunction (scanning : Scanning self st) (f : Function) :
    Discovers self [] st (Checker.surveyFunction f st) := by
  refine .quiet scanning ?_
  unfold Checker.surveyFunction
  split
  · rfl
  · exact State.bind_survey _ _ _

mutual

/-- A scan discovers the fields that the own expressions assign, if it gets to the end. -/
theorem checkExpr : ∀ (n : Node Expr) (st : State), ByName self (Own.node n) → Scanning self st →
    Discovers self (Own.node n) st (Checker.checkExpr (some self) n st)
  | ⟨span, e, slot⟩, st, byName, scanning =>
    .recorded (checkForm span e slot st byName scanning)

theorem checkForm (span : Span) : ∀ (e : Expr) (slot : Option TypeId) (st : State),
    ByName self (Own.node ⟨span, e, slot⟩) → Scanning self st →
      Discovers self (Own.node ⟨span, e, slot⟩) st (Checker.checkForm (some self) span e st)
  | .literal _, _, _, _, scanning => .ofInside (.kept scanning) rfl
  | .ident _, _, _, _, scanning => .ofInside (.kept scanning) rfl
  | .call callee args, _, st, byName, scanning =>
    .ofInside ((checkExpr callee st byName.tail.left scanning).andThen fun _ st scanning =>
      (checkExprs args st byName.tail.right scanning).conclude _) rfl
  | .conditional test consequent alternate, _, st, byName, scanning => by
    refine .ofInside ?_ rfl
    rw [Checker.checkForm]
    refine ((checkExpr test st byName.tail.left scanning).conclude _).andThen
      fun _ st scanning => ?_
    exact (checkStmt consequent st byName.tail.right.left scanning).andThen fun _ st scanning =>
      (checkOptionalStmt alternate st byName.tail.right.right scanning).conclude _
  | .member base property, _, st, byName, scanning => by
    refine .ofInside ?_ rfl
    rw [Own.inside, ← List.append_nil (Own.node base)]
    exact (checkExpr base st byName.tail scanning).andThen fun _ st scanning =>
      .recorded (.kept scanning)
  | .index base position, _, st, byName, scanning =>
    .ofInside ((checkExpr base st byName.tail.left scanning).andThen fun _ st scanning =>
      (checkExpr position st byName.tail.right scanning).conclude _) rfl
  | .function f, _, st, _, scanning => by
    refine .ofInside ?_ rfl
    obtain ⟨name, typeParams, params, returns, body⟩ := f
    -- a scan takes the signature of a function and does not enter it
    rw [Checker.checkForm, Checker.checkFunction, if_pos scanning.surveying]
    exact (surveyFunction scanning _).rebuild Expr.function
  | .classDef c, _, st, _, scanning => by
    refine .ofInside ?_ rfl
    obtain ⟨name, fields, methods⟩ := c
    -- nor does it enter a class
    rw [Checker.checkForm, Checker.checkClass, if_pos scanning.surveying]
    exact .kept scanning
  | .assertion e ty, _, st, byName, scanning => by
    refine .ofInside ?_ rfl
    rw [Checker.checkForm]
    exact ((checkExpr e st byName.tail scanning).concludeWith _).rebuild _
  | .throwing value, _, st, byName, scanning =>
    .ofInside (((checkExpr value st byName.tail scanning).conclude _).rebuild Expr.throwing) rfl
  | .whileLoop test body, _, st, byName, scanning =>
    .ofInside (((checkExpr test st byName.tail.left scanning).conclude _).andThen
      fun _ st scanning =>
        (inScope (checkStmts _ body st.push byName.tail.right scanning)).conclude _) rfl
  | .forLoop bindings test update body, _, st, byName, scanning => by
    refine .ofInside ?_ rfl
    rw [Checker.checkForm]
    refine inScope ((checkBindings bindings st.push byName.tail.left scanning).andThen
      fun _ st scanning => ?_)
    refine ((checkOptional test st byName.tail.right.left scanning).conclude _).andThen
      fun _ st scanning => ?_
    exact (checkOptional update st byName.tail.right.right.left scanning).andThen
      fun _ st scanning =>
        (inScope (checkStmts _ body st.push byName.tail.right.right.right scanning)).conclude _
  | .returning value, _, st, byName, scanning =>
    .ofInside (((checkOptional value st byName.tail scanning).conclude _).rebuild Expr.returning)
      rfl
  | .attempt body handler cleanup, _, st, byName, scanning => by
    refine .ofInside ?_ rfl
    rw [Checker.checkForm]
    refine (inScope (checkStmts _ body st.push byName.tail.left scanning)).andThen
      fun _ st scanning => ?_
    exact (checkHandler handler st byName.tail.right.left scanning).andThen fun _ st scanning =>
      checkCleanup cleanup st byName.tail.right.right scanning
  | .array items, _, st, byName, scanning =>
    .ofInside (((checkExprs items st byName.tail scanning).conclude _).rebuild Expr.array) rfl
  | .object properties, _, st, byName, scanning =>
    .ofInside (((checkProperties properties st byName.tail scanning).conclude _).rebuild
      Expr.object) rfl
  | .assignment target value, slot, st, byName, scanning => by
    rw [Checker.checkForm]
    split
    · -- the assignment stands before its target in the tree, but is noted after its value
      refine .of_iff ((checkExpr target st byName.tail.left scanning).andThen
        fun targetTy st scanning =>
          (checkExpr value st byName.tail.right scanning).assigned targetTy byName.tail.left span
            slot)
        fun field => ?_
      rw [Own.node, Own.inside, assigns_append, assigns_assignment, assigns_assignment,
        assigns_append, or_left_comm]
    · exact .failed scanning

theorem checkExprs : ∀ (es : List (Node Expr)) (st : State), ByName self (Own.nodes es) →
    Scanning self st → Discovers self (Own.nodes es) st (Checker.checkExprs (some self) es st)
  | [], _, _, scanning => .kept scanning
  | e :: rest, st, byName, scanning =>
    (checkExpr e st byName.left scanning).andThen fun _ st scanning =>
      (checkExprs rest st byName.right scanning).conclude _

theorem checkOptional : ∀ (e : Option (Node Expr)) (st : State), ByName self (Own.optional e) →
    Scanning self st → Discovers self (Own.optional e) st (Checker.checkOptional (some self) e st)
  | none, _, _, scanning => .kept scanning
  | some e, st, byName, scanning => ((checkExpr e st byName scanning).conclude _).rebuild some

theorem checkStmt : ∀ (n : Node Stmt) (st : State), ByName self (Own.stmt n) → Scanning self st →
    Discovers self (Own.stmt n) st (Checker.checkStmt (some self) n st)
  | ⟨_, .expr e, _⟩, st, byName, scanning =>
    .recorded ((checkExpr e st byName scanning).rebuild Stmt.expr)
  | ⟨_, .block body, _⟩, st, byName, scanning =>
    .recorded ((inScope (checkStmts _ body st.push byName scanning)).rebuild Stmt.block)
  | ⟨_, .binding _ bindings body, _⟩, st, byName, scanning => by
    rw [Checker.checkStmt, State.emit_of_surveying scanning.surveying]
    refine .recorded (inScope ?_)
    exact (checkBindings bindings st.push byName.left scanning).andThen fun _ st scanning =>
      checkStmts _ body st byName.right scanning
  | ⟨_, .typeAlias _ _ _, _⟩, st, _, scanning => by
    unfold Checker.checkStmt
    split
    · exact .failed scanning
    · exact .quiet scanning rfl

theorem checkOptionalStmt : ∀ (n : Option (Node Stmt)) (st : State),
    ByName self (Own.optionalStmt n) → Scanning self st →
      Discovers self (Own.optionalStmt n) st (Checker.checkOptionalStmt (some self) n st)
  | none, _, _, scanning => .kept scanning
  | some n, st, byName, scanning => ((checkStmt n st byName scanning).conclude _).rebuild some

theorem checkStmts (last : Ty) : ∀ (body : List (Node Stmt)) (st : State),
    ByName self (Own.stmts body) → Scanning self st →
      Discovers self (Own.stmts body) st (Checker.checkStmts (some self) last body st)
  | [], _, _, scanning => .kept scanning
  | n :: rest, st, byName, scanning =>
    (checkStmt n st byName.left scanning).andThen fun t st scanning =>
      checkStmts t rest st byName.right scanning

theorem checkCleanup : ∀ (body : Option (List (Node Stmt))) (st : State),
    ByName self (Own.optionalBody body) → Scanning self st →
      Discovers self (Own.optionalBody body) st (Checker.checkCleanup (some self) body st)
  | none, _, _, scanning => .kept scanning
  | some body, st, byName, scanning =>
    ((inScope (checkStmts _ body st.push byName scanning)).conclude _).rebuild some

theorem checkHandler : ∀ (handler : Option Handler) (st : State),
    ByName self (Own.optionalHandler handler) → Scanning self st →
      Discovers self (Own.optionalHandler handler) st (Checker.checkHandler (some self) handler st)
  | none, _, _, scanning => .kept scanning
  | some ⟨param, body⟩, st, byName, scanning => by
    have pushed : Scanning self st.push := scanning
    rw [Checker.checkHandler]
    exact inScope ((named pushed param .unknown).andThen fun _ st scanning =>
      checkStmts _ body st byName scanning)

theorem checkBindings : ∀ (bs : List Binding) (st : State), ByName self (Own.bindings bs) →
    Scanning self st → Discovers self (Own.bindings bs) st (Checker.checkBindings (some self) bs st)
  | [], _, _, scanning => .kept scanning
  | ⟨name, declaredAs, init⟩ :: rest, st, byName, scanning => by
    refine (checkExpr init st byName.left scanning).andThen fun initTy st scanning => ?_
    split
    · exact .failed scanning
    · rename_i t _
      have survey := (State.record_survey name.ty t _).trans
        (State.bind_survey name.value.symbol t (st.note (.bound name.value.name t)))
      have bound : Scanning self _ :=
        (congrArg (Option.map FieldSurvey.subject) survey).trans scanning
      exact ((checkBindings rest _ byName.right bound).rebuild _).of_survey survey

theorem checkProperties : ∀ (ps : List Property) (st : State), ByName self (Own.properties ps) →
    Scanning self st →
      Discovers self (Own.properties ps) st (Checker.checkProperties (some self) ps st)
  | [], _, _, scanning => .kept scanning
  | ⟨_, value⟩ :: rest, st, byName, scanning =>
    (checkExpr value st byName.left scanning).andThen fun _ st scanning =>
      (checkProperties rest st byName.right scanning).conclude _

end

end Discovers

/-! ## The methods of a class -/

/-- Parameters have no part in a survey. -/
theorem checkParams_survey (params : List Param) (st : State) :
    (checkParams params st).state.survey = st.survey := by
  induction params generalizing st with
  | nil => rfl
  | cons p rest ih =>
    obtain ⟨name, declaredAs⟩ := p
    unfold checkParams
    split
    · rfl
    · exact (ih _).trans ((State.record_survey _ _ _).trans (State.bind_survey _ _ _))

/-- A method discovers what its body assigns. -/
theorem Discovers.surveyMethod {self : Symbol} {m : Method} {st : State}
    (byName : ByName self (Own.stmts m.body)) (scanning : Scanning self st) :
    Discovers self (Own.stmts m.body) st (Checker.surveyMethod self m st) := by
  refine .inScope ?_
  have entered : Scanning self (st.push.bindTypeParams m.typeParams) := scanning
  have params : Discovers self [] st.push
      (Checker.checkParams m.params (st.push.bindTypeParams m.typeParams)) :=
    (Discovers.quiet entered (checkParams_survey m.params _)).of_survey rfl
  exact params.andThen fun _ st scanning => .checkStmts _ m.body st byName scanning

/-- Methods are surveyed from left to right. -/
theorem surveyMethods_append (self : Symbol) (before after : List (Node Method)) (st : State) :
    surveyMethods self (before ++ after) st =
      surveyMethods self after (surveyMethods self before st) := by
  induction before generalizing st with
  | nil => rw [List.nil_append, surveyMethods]
  | cons n before ih => rw [List.cons_append, surveyMethods_cons, surveyMethods_cons, ih]

/-- No method stops its survey. -/
def ScansSucceed (self : Symbol) (ms : List (Node Method)) (st : State) : Prop :=
  ∀ before m after, ms = before ++ m :: after →
    (surveyMethod self m.value (surveyMethods self before st)).result.isOk = true

namespace ScansSucceed

variable {self : Symbol} {n : Node Method} {rest : List (Node Method)} {st : State}

/-- The survey goes on where the first method leaves it. -/
theorem step (h : ScansSucceed self (n :: rest) st) :
    ∃ t, (surveyMethod self n.value st).result = .ok t ∧
      ∀ ms, surveyMethods self (n :: ms) st =
        surveyMethods self ms (surveyMethod self n.value st).state := by
  have first := h [] n rest rfl
  rw [surveyMethods] at first
  cases hr : (surveyMethod self n.value st).result with
  | error f => simp [hr, Except.isOk, Except.toBool] at first
  | ok t => exact ⟨t, rfl, fun ms => by rw [surveyMethods_cons, hr]⟩

theorem tail (h : ScansSucceed self (n :: rest) st) :
    ScansSucceed self rest (surveyMethod self n.value st).state := by
  intro before m after split
  obtain ⟨_, _, goesOn⟩ := h.step
  rw [← goesOn]
  exact h (n :: before) m after (congrArg (n :: ·) split)

end ScansSucceed

/-- A survey that no method stops finds what the methods assign. -/
theorem names_surveyMethods {self : Symbol} {ms : List (Node Method)} {st : State}
    (byName : ByName self (Own.methods ms)) (scans : ScansSucceed self ms st)
    (scanning : Scanning self st) (field : String) :
    field ∈ (surveyMethods self ms st).fieldNames ↔
      field ∈ st.fieldNames ∨ Assigns (Own.methods ms) field := by
  induction ms generalizing st with
  | nil =>
    rw [surveyMethods]
    exact ⟨.inl, fun h => h.resolve_right (not_assigns_nil field)⟩
  | cons n rest ih =>
    obtain ⟨t, ht, goesOn⟩ := scans.step
    have surveyed : Discovers self (Own.stmts n.value.body) st (surveyMethod self n.value st) :=
      .surveyMethod byName.left scanning
    rw [goesOn, ih byName.right scans.tail surveyed.scanning, surveyed.names t ht, Own.methods,
      assigns_append, or_assoc]

/-- No field is found twice. -/
theorem nodup_stepClosed :
    StepClosed fun st later => st.fieldNames.Nodup → later.fieldNames.Nodup where
  refl _ h := h
  trans h₁ h₂ h := h₂ (h₁ h)
  record slot t st h := by
    rwa [State.fieldNames, State.surveyed_congr (State.record_survey slot t st)]
  bind symbol t st h := by
    rwa [State.fieldNames, State.surveyed_congr (State.bind_survey symbol t st)]
  note _ _ _ h := h
  emit e st h := by rwa [State.fieldNames, State.surveyed_congr (State.emit_survey e st)]
  defineAlias _ _ _ _ h := h
  noteAssignment receiver target t st h := by
    unfold State.noteAssignment
    split
    · exact h
    · rename_i s hs
      simp only [State.fieldNames, State.surveyed, hs] at h
      split
      · simp only [State.fieldNames, State.surveyed, FieldSurvey.names_note]
        exact Field.nodup_addName h
      · simpa only [State.fieldNames, State.surveyed, hs] using h
  scope _ _ _ inside h := inside h
  classFields _ _ h := h
  classSurvey _ _ _ h := h
  classMethods _ _ _ _ h := h

/-- The first methods are checked without regard to the others, and these only add fields. -/
theorem grown_checkMethods (self : Symbol) (fields : List Field) (before after : List (Node Method))
    (st : State) :
    Grown (checkMethods self fields before st).state.surveyed
      (checkMethods self fields (before ++ after) st).state.surveyed := by
  induction before generalizing st with
  | nil =>
    rw [checkMethods]
    exact grown_stepClosed.checkMethods self fields after st fun _ _ => trivial
  | cons n before ih =>
    rw [List.cons_append, checkMethods_cons, checkMethods_cons]
    -- a method that fails ends both runs in the same state
    split
    · exact .refl _
    · unfold Edit.andThen
      split
      · exact ih _
      · exact .refl _

/-! ## A whole class -/

/-- Accepted fields have the names they were declared with. -/
theorem names_checkFields {fs : List FieldDecl} {st : State} {declared : List Field}
    (ok : (checkFields fs st).result = .ok declared) :
    declared.map Field.name = fs.map fun f => f.name.value.name := by
  rw [checkFields_eq_checkEach] at ok
  exact names_checkEach name_checkField ok

/-- Without symbols of instances in the tree, `self` is recognised by its name alone. -/
theorem byName_methods {c : Class} {self : Symbol}
    (unlinked : ∀ i ∈ c.idents, i.symbol ≠ some self) : ByName self (Own.methods c.methods) := by
  intro n hn i hi
  have part : .expr n ∈ Parts.methods c.methods := by
    revert hn
    generalize c.methods = ms
    intro hn
    induction ms with
    | nil => cases hn
    | cons m rest ih =>
      obtain ⟨_, ⟨_, _, _, _, _, body⟩, _⟩ := m
      rcases List.mem_append.mp hn with hn | hn
      · exact List.mem_append_left _ (Own.within_stmts body n hn).part
      · exact List.mem_append_right _ (ih hn)
  exact unlinked i (Class.mem_idents_part part hi)

/-- The fields are exactly those that a class declares and those that its methods assign. -/
structure Surveyed (c : Class) (found : List Field) : Prop where
  distinct : (found.map Field.name).Nodup
  /-- The declared fields come first, in the order in which they are first declared. -/
  declaredFirst : (c.fields.map fun f => f.name.value.name).eraseDups <+: found.map Field.name
  names : ∀ name, name ∈ found.map Field.name ↔
    name ∈ (c.fields.map fun f => f.name.value.name) ∨ Assigns (Own.methods c.methods) name

namespace State

/-- The state in which the methods `ms` of a class leave the first pass. -/
def scanned (c : Class) (declared : List Field) (ms : List (Node Method)) (st : State) : State :=
  surveyMethods st.nextSelf ms ((st.atSurvey c).beginSurvey st.nextSelf (Field.merge declared))

/-- The state in which the methods `ms` of a class leave the second pass; `signatures` are the
declared types of the methods. -/
def rechecked (c : Class) (declared signatures : List Field) (ms : List (Node Method))
    (st : State) : State :=
  let found := (st.surveyedClass c declared).surveyed
  (checkMethods st.nextSelf found ms
    ((st.atMethods c declared).beginMethods st.nextSelf c.name found signatures)).state

end State

section Class

variable (c : Class) (declared : List Field) (st : State)

theorem scanned_nil :
    st.scanned c declared [] =
      (st.atSurvey c).beginSurvey st.nextSelf (Field.merge declared) := by
  rw [State.scanned, surveyMethods]

theorem surveyedClass_eq : st.surveyedClass c declared =
    surveyMethods st.nextSelf c.methods (st.scanned c declared []) := by
  rw [scanned_nil, State.surveyedClass]

variable {c declared st}

/-- Scans that succeed find the declared fields and all that are assigned. -/
theorem surveyed_of_scans
    (unlinked : ∀ i ∈ c.idents, ∀ k, i.symbol ≠ some (.classSelf k))
    (fields : (checkFields c.fields (st.enterClass c.methods).push).result = .ok declared)
    (scans : ScansSucceed st.nextSelf c.methods (st.scanned c declared [])) :
    Surveyed c (st.surveyedClass c declared).surveyed := by
  have merged : (st.scanned c declared []).fieldNames = (Field.merge declared).map Field.name := by
    rw [scanned_nil]
    rfl
  -- the survey starts from the declared names, each once
  have start := merged.trans (Field.names_merge declared)
  rw [names_checkFields fields] at start
  have scanning : Scanning st.nextSelf (st.scanned c declared []) := by
    rw [scanned_nil]
    rfl
  have byName : ByName st.nextSelf (Own.methods c.methods) :=
    byName_methods fun i hi => unlinked i hi _
  have grown := grown_stepClosed.surveyMethods st.nextSelf c.methods (st.scanned c declared [])
  have distinct := nodup_stepClosed.surveyMethods st.nextSelf c.methods (st.scanned c declared [])
  rw [surveyedClass_eq]
  refine ⟨distinct (merged ▸ Field.nodup_merge declared), start ▸ grown.names_prefix,
    fun name => ?_⟩
  have names := names_surveyMethods byName scans scanning name
  rwa [start, List.mem_eraseDups] at names

/-- The fields of a class only grow, from its declarations through both passes to its type. -/
structure KeepsFields (c : Class) (declared : List Field) (st : State) : Prop where
  /-- Between any two methods of the first pass. -/
  first : ∀ before after, c.methods = before ++ after →
    Grown (Field.merge declared) (st.scanned c declared before).surveyed ∧
      Grown (st.scanned c declared before).surveyed (st.surveyedClass c declared).surveyed
  /-- Between any two methods of the second pass. -/
  second : ∀ signatures before after, c.methods = before ++ after →
    Grown (st.surveyedClass c declared).surveyed
        (st.rechecked c declared signatures before).surveyed ∧
      Grown (st.rechecked c declared signatures before).surveyed
        (st.rechecked c declared signatures c.methods).surveyed
  /-- The type of the class has the fields of the second pass in front of the methods. -/
  accepted : ∀ t, st.surveying = false → (checkClass c st).result = .ok t →
    ∃ signatures entries,
      t = .object ((st.rechecked c declared signatures c.methods).surveyed ++ entries)

/-- An accepted class went through all its stages, and its type is the surveyed fields followed by
the methods. -/
theorem exists_of_accepted {t : Ty}
    (fields : (checkFields c.fields (st.enterClass c.methods).push).result = .ok declared)
    (real : st.surveying = false) (ok : (checkClass c st).result = .ok t) :
    ∃ signatures entries,
      memberSignatures (st.atMethods c declared).scopes (st.surveyedClass c declared).surveyed
        c.methods = .ok signatures ∧
      (checkMethods st.nextSelf (st.surveyedClass c declared).surveyed c.methods
        ((st.atMethods c declared).beginMethods st.nextSelf c.name
          (st.surveyedClass c declared).surveyed signatures)).result = .ok entries ∧
      t = .object ((st.rechecked c declared signatures c.methods).surveyed ++ entries) := by
  obtain ⟨name, fs, ms⟩ := c
  rw [checkClass_of_real name fs ms real] at ok
  obtain ⟨u, members, bound, -⟩ := Edit.exists_of_andThen_ok ok
  obtain rfl := Except.ok.inj ((named_result name u _).symm.trans bound)
  have members : (checkMembers st.nextSelf name fs ms (st.enterClass ms).push).result = .ok u :=
    members
  rw [checkMembers_of_fields fields] at members
  unfold checkAgainst Edit.whenDone at members
  split at members
  · cases members
  · rename_i signatures hsignatures
    dsimp only [Edit.rebuild_result] at members
    split at members
    · rename_i entries hentries
      exact ⟨signatures, entries, hsignatures, hentries, (Except.ok.inj members).symm⟩
    · cases members

/-- What the survey has found stays a field through the second pass. -/
theorem keepsFields
    (fields : (checkFields c.fields (st.enterClass c.methods).push).result = .ok declared) :
    KeepsFields c declared st where
  first before after split := by
    have start : ((st.atSurvey c).beginSurvey st.nextSelf (Field.merge declared)).surveyed =
        Field.merge declared := rfl
    refine ⟨start ▸ grown_stepClosed.surveyMethods st.nextSelf before _, ?_⟩
    rw [State.surveyedClass, split, surveyMethods_append]
    exact grown_stepClosed.surveyMethods st.nextSelf after _
  second signatures before after split := by
    have start : ((st.atMethods c declared).beginMethods st.nextSelf c.name
        (st.surveyedClass c declared).surveyed signatures).surveyed =
        (st.surveyedClass c declared).surveyed := rfl
    refine ⟨start ▸ grown_stepClosed.checkMethods st.nextSelf _ before _ fun _ _ => trivial, ?_⟩
    have grown := grown_checkMethods st.nextSelf (st.surveyedClass c declared).surveyed before after
      ((st.atMethods c declared).beginMethods st.nextSelf c.name
        (st.surveyedClass c declared).surveyed signatures)
    rwa [← split] at grown
  accepted t real ok := by
    obtain ⟨signatures, entries, -, -, whole⟩ := exists_of_accepted fields real ok
    exact ⟨signatures, entries, whole⟩

end Class

/-- **Surveys find the fields of a class, and no field is lost.**  If no identifier of a class
refers to an instance by symbol and no method stops its survey, the fields found are exactly the
declared ones and those that the methods assign themselves, in whatever order the methods stand.
And in every check of a statement or an expression, in both passes over any class and whether they
succeed or not, a field keeps its place, and its type as soon as that is known. -/
theorem fields_discovered :
    (∀ (c : Class) (declared : List Field) (st : State),
      (∀ i ∈ c.idents, ∀ k, i.symbol ≠ some (.classSelf k)) →
      (checkFields c.fields (st.enterClass c.methods).push).result = .ok declared →
      ScansSucceed st.nextSelf c.methods (st.scanned c declared []) →
      Surveyed c (st.surveyedClass c declared).surveyed) ∧
    (∀ (receiver : Receiver) (n : Node Stmt) (st : State),
      Grown st.surveyed (checkStmt receiver n st).state.surveyed) ∧
    (∀ (receiver : Receiver) (e : Node Expr) (st : State),
      Grown st.surveyed (checkExpr receiver e st).state.surveyed) ∧
    ∀ (c : Class) (declared : List Field) (st : State),
      (checkFields c.fields (st.enterClass c.methods).push).result = .ok declared →
      KeepsFields c declared st := by
  refine ⟨fun c declared st => surveyed_of_scans, fun receiver n st => ?_,
    fun receiver e st => ?_, fun c declared st => keepsFields⟩
  · exact grown_stepClosed.checkStmt receiver n st fun _ _ => trivial
  · exact grown_stepClosed.checkExpr receiver e st fun _ _ => trivial

instance : DecidableEq Field := fun f g =>
  decidable_of_iff (f.name = g.name ∧ f.ty = g.ty) (by cases f; cases g; simp)

/-- A statement that assigns a literal to a field of `self`. -/
def setField (name : String) (v : LiteralValue) : Node Stmt :=
  ⟨.zero,
    .expr ⟨.zero, .assignment (selfField name) ⟨.zero, .literal (.value v), none⟩, none⟩, none⟩

/-- A method without parameters and without a declared result. -/
def methodNamed (name : String) (body : List (Node Stmt)) : Node Method :=
  ⟨.zero, ⟨⟨.zero, ⟨name, none⟩, none⟩, .method, [], [], none, body⟩, none⟩

/-- A class that declares a field twice and one without a type.  Its methods assign a new field
inside of a loop, and fields of another `self` inside of a function and of a class.  The field
without a type gets the value of another one, whose type is not known before the second pass. -/
def tally : Class where
  name := none
  fields :=
    [⟨⟨.zero, ⟨"open", none⟩, none⟩, none, some ⟨.zero, .literal (.value .null), none⟩⟩,
      ⟨⟨.zero, ⟨"last", none⟩, none⟩, none, none⟩,
      ⟨⟨.zero, ⟨"open", none⟩, none⟩, none, some ⟨.zero, .literal (.value (.boolean true)), none⟩⟩]
  methods :=
    [methodNamed "count"
      [⟨.zero, .expr ⟨.zero, .whileLoop (selfField "open") [setField "total" (.string "1")],
          none⟩, none⟩,
        ⟨.zero, .expr ⟨.zero, .function ⟨none, [], [], none, [setField "inner" .null]⟩, none⟩,
          none⟩,
        ⟨.zero, .expr ⟨.zero, .classDef ⟨none, [], [methodNamed "reset" [setField "nested" .null]]⟩,
          none⟩, none⟩],
      methodNamed "stop"
        [⟨.zero, .expr ⟨.zero, .assignment (selfField "last") (selfField "open"), none⟩, none⟩]]

/-- A class with a repeated field, a nested class, and fields found in methods. -/
theorem fields_discovered_tally :
    let declared : List Field := [⟨"open", .null⟩, ⟨"last", .unknown⟩, ⟨"open", .boolean⟩]
    let found : List Field := [⟨"open", .boolean⟩, ⟨"last", .unknown⟩, ⟨"total", .string⟩]
    let t : Ty := .object [⟨"open", .boolean⟩, ⟨"last", .boolean⟩, ⟨"total", .string⟩,
      ⟨"count", .function [] .unknown⟩, ⟨"stop", .function [] .unknown⟩]
    (checkFields tally.fields (State.enterClass tally.methods {}).push).result.toOption =
        some declared ∧
      (State.surveyedClass tally declared {}).surveyed = found ∧ Surveyed tally found ∧
      (checkClass tally {}).result.toOption = some t ∧
      ∃ signatures entries,
        t = .object ((State.rechecked tally declared signatures tally.methods {}).surveyed ++
          entries) ∧
        Grown found (State.rechecked tally declared signatures tally.methods {}).surveyed := by
  intro declared found t
  have fields :
      (checkFields tally.fields (State.enterClass tally.methods {}).push).result.toOption =
        some declared := by decide +kernel
  have surveyed : (State.surveyedClass tally declared {}).surveyed = found := by decide +kernel
  have accepted : (checkClass tally {}).result.toOption = some t := by decide +kernel
  have symbols : ∀ i ∈ tally.idents, i.symbol = none := by decide +kernel
  have keeps := fields_discovered.2.2.2 tally declared {} (eq_ok_of_toOption fields)
  obtain ⟨signatures, entries, whole⟩ := keeps.accepted t rfl (eq_ok_of_toOption accepted)
  have grown := (keeps.second signatures tally.methods [] (List.append_nil _).symm).1
  rw [surveyed] at grown
  refine ⟨fields, surveyed, ?_, accepted, signatures, entries, whole, grown⟩
  rw [← surveyed]
  refine fields_discovered.1 tally declared {} (fun i hi k h => ?_) (eq_ok_of_toOption fields)
    fun before m after split => ?_
  · rw [symbols i hi] at h
    nomatch h
  · rcases before with _ | ⟨a, _ | ⟨b, before⟩⟩
    · cases split
      decide +kernel
    · cases split
      decide +kernel
    · have length := congrArg List.length split
      simp [tally] at length

end Checker
end StructuralTyping
