import StructuralTyping.Proofs.CertifiedChecks
import StructuralTyping.Proofs.ClassStages
import StructuralTyping.Proofs.FieldSurveys
import StructuralTyping.Proofs.Noninterference
import StructuralTyping.Proofs.ScopeDiscipline

/-! # The second pass over methods

While the methods of a class are checked, the type of `self` is frozen.  `Inside` says so of a
state, and `Follows` of a check: the check keeps the pass, the type of `self` and the scopes further
out, and the own assignments of the part that it checks are `Settled`.

`self` keeps its type because nothing else has its symbol, and because no own expression assigns to
it (`Plain`).  What happens to it in a scope further inside is undone when the scope is closed, so
functions and classes inside of methods need no care of their own.

The lemmas are in the order of the checker: steps and sequences of steps, parameters and bodies,
classes inside of methods, and the assignments themselves (`Follows.assignment`).
-/
namespace StructuralTyping

/-! ## The identifiers of a tree -/

/-- The identifiers written directly in an expression, without those in its annotations and without
those of the expressions and statements inside it. -/
def Expr.idents : Expr → List Ident
  | .ident i => [i]
  | .member _ property => [property.value]
  | .function f => (f.name.toList ++ (f.typeParams ++ f.params.map Param.name)).map Node.value
  | .classDef c =>
    (c.name.toList ++ (c.fields.map FieldDecl.name ++
      c.methods.flatMap fun m =>
        m.value.name :: (m.value.typeParams ++ m.value.params.map Param.name))).map Node.value
  | .forLoop bindings _ _ _ => bindings.map fun b => b.name.value
  | .attempt _ handler _ => (handler.bind Handler.param).toList.map Node.value
  | .object properties => properties.map fun p => p.key.value
  | _ => []

namespace Expr

theorem mem_idents_functionName {f : Function} {n : Node Ident} (h : n ∈ f.name) :
    n.value ∈ (Expr.function f).idents :=
  List.mem_map_of_mem (List.mem_append_left _ (Option.mem_toList.mpr h))

theorem mem_idents_param {f : Function} {p : Param} (h : p ∈ f.params) :
    p.name.value ∈ (Expr.function f).idents :=
  List.mem_map_of_mem
    (List.mem_append_right _ (List.mem_append_right _ (List.mem_map_of_mem h)))

theorem mem_idents_className {c : Class} {n : Node Ident} (h : n ∈ c.name) :
    n.value ∈ (Expr.classDef c).idents :=
  List.mem_map_of_mem (List.mem_append_left _ (Option.mem_toList.mpr h))

end Expr

/-- The identifiers written directly in a statement. -/
def Stmt.idents : Stmt → List Ident
  | .binding _ bindings _ => bindings.map fun b => b.name.value
  | .typeAlias name typeParams _ => (name :: typeParams).map Node.value
  | _ => []

/-- The identifiers that belong to a part itself. -/
def Part.idents : Part → List Ident
  | .expr n => n.value.idents
  | .stmt n => n.value.idents

namespace Class

/-- The identifiers of a class, at every depth. -/
def idents (c : Class) : List Ident :=
  (Expr.classDef c).idents ++ (Parts.inside (.classDef c)).flatMap Part.idents

theorem mem_idents_param {c : Class} {m : Node Method} (hm : m ∈ c.methods) {p : Param}
    (hp : p ∈ m.value.params) : p.name.value ∈ c.idents := by
  refine List.mem_append_left _ (List.mem_map_of_mem ?_)
  refine List.mem_append_right _ (List.mem_append_right _ (List.mem_flatMap.mpr ⟨m, hm, ?_⟩))
  exact List.mem_cons_of_mem _ (List.mem_append_right _ (List.mem_map_of_mem hp))

theorem mem_idents_part {c : Class} {p : Part} (hp : p ∈ Parts.methods c.methods) {i : Ident}
    (hi : i ∈ p.idents) : i ∈ c.idents := by
  obtain ⟨name, fields, ms⟩ := c
  exact List.mem_append_right _
    (List.mem_flatMap.mpr ⟨p, List.mem_append_right (Parts.fieldDecls fields) hp, hi⟩)

end Class

/-! ## Symbols in scopes -/

namespace Scopes

theorem symbol?_bindTypeParams (s : Scopes) (names : List (Node Ident)) (symbol : Symbol) :
    (names.foldl (fun s n => s.bindTypeParam n.value.name .unknown) s).symbol? symbol =
      s.symbol? symbol := by
  induction names generalizing s with
  | nil => rfl
  | cons n names ih => exact ih _

end Scopes

namespace Checker

/-! ## What `self` stands for -/

namespace Receiver

variable {receiver : Receiver} {self : Symbol}

/-- Unless an identifier carries the instance's symbol, only a `self` in the methods of that class
stands for it. -/
theorem symbolOf_eq_self {i : Ident} (h : i.symbol ≠ some self) :
    receiver.symbolOf i = some self ↔ receiver = some self ∧ i.name = SelfReference.name := by
  unfold symbolOf
  split
  · split <;> simp_all
  · simp [h]

end Receiver

/-- No identifier of the parts has the symbol of `self`, and none of the own expressions assigns to
`self` where the name stands for it. -/
structure Plain (inst : Symbol) (receiver : Receiver) (parts : List Part)
    (own : List (Node Expr)) : Prop where
  symbols : ∀ p ∈ parts, ∀ i ∈ p.idents, i.symbol ≠ some inst
  keeps : receiver = some inst → ∀ n ∈ own, n.value.assignsSelf = false

namespace Plain

variable {self : Symbol} {receiver : Receiver} {p : Part} {n : Node Expr} {parts parts' : List Part}
  {own own' : List (Node Expr)}

theorem left (h : Plain self receiver (parts ++ parts') (own ++ own')) :
    Plain self receiver parts own :=
  ⟨fun p hp => h.symbols p (List.mem_append_left _ hp),
    fun hr n hn => h.keeps hr n (List.mem_append_left _ hn)⟩

theorem right (h : Plain self receiver (parts ++ parts') (own ++ own')) :
    Plain self receiver parts' own' :=
  ⟨fun p hp => h.symbols p (List.mem_append_right _ hp),
    fun hr n hn => h.keeps hr n (List.mem_append_right _ hn)⟩

theorem tail (h : Plain self receiver (p :: parts) (n :: own)) : Plain self receiver parts own :=
  ⟨fun p hp => h.symbols p (List.mem_cons_of_mem _ hp),
    fun hr n hn => h.keeps hr n (List.mem_cons_of_mem _ hn)⟩

theorem tailStmt (h : Plain self receiver (p :: parts) own) : Plain self receiver parts own :=
  ⟨fun p hp => h.symbols p (List.mem_cons_of_mem _ hp), h.keeps⟩

theorem head (h : Plain self receiver (p :: parts) own) : ∀ i ∈ p.idents, i.symbol ≠ some self :=
  h.symbols p List.mem_cons_self

/-- A field of `self` is read by its name, where `self` stands for it. -/
theorem field? {span : Span} {e : Expr} {slot : Option TypeId}
    (h : Plain self receiver (Parts.node ⟨span, e, slot⟩) own) :
    receiver.field? self e = if receiver = some self then e.selfField? else none := by
  cases e with
  | member base property =>
    obtain ⟨baseSpan, base, baseSlot⟩ := base
    have base_plain : Plain self receiver (Parts.node ⟨baseSpan, base, baseSlot⟩) own :=
      h.tailStmt
    cases base with
    | ident i =>
      have symbol := base_plain.head i (List.mem_singleton_self i)
      simp only [Receiver.field?, Receiver.symbolOf_eq_self symbol, Expr.selfField?, Expr.name?,
        Option.some.injEq]
      by_cases hr : receiver = some self <;> simp [hr]
    | _ => simp [Receiver.field?, Expr.selfField?, Expr.name?]
  | _ => simp [Receiver.field?, Expr.selfField?]

end Plain

/-! ## States of the second pass -/

theorem State.surveyed_congr {st st' : State} (h : st'.survey = st.survey) :
    st'.surveyed = st.surveyed := by
  rw [State.surveyed, h, State.surveyed]

/-- The methods of the class of `self` are being checked, and `self` has its frozen type. -/
structure Inside (inst : Symbol) (frozen : List Field) (st : State) : Prop where
  subject : st.survey.map FieldSurvey.subject = some (inst, false)
  typed : st.scopes.symbol? inst = some (.object frozen)

namespace Inside

variable {self : Symbol} {frozen : List Field} {st st' : State}

/-- Only the survey and the scopes matter. -/
theorem of_eq (h : Inside self frozen st) (survey : st'.survey = st.survey)
    (scopes : st'.scopes = st.scopes) : Inside self frozen st' where
  subject := survey ▸ h.subject
  typed := scopes ▸ h.typed

/-- The second pass has a survey to write to, which does not stop the check from recording. -/
theorem exists_survey (h : Inside self frozen st) :
    ∃ fields, st.survey = some { self, fields, firstPass := false } := by
  obtain ⟨⟨_, fields, _⟩, survey, subject⟩ := Option.map_eq_some_iff.mp h.subject
  cases subject
  exact ⟨fields, survey⟩

/-- The second pass is a check for real. -/
theorem real (h : Inside self frozen st) : st.surveying = false := by
  obtain ⟨fields, survey⟩ := h.exists_survey
  rw [State.surveying, survey]

/-- Binding another symbol leaves the instance as it is. -/
theorem bind (h : Inside self frozen st) {symbol : Option Symbol} (other : symbol ≠ some self)
    (t : Ty) : Inside self frozen (st.bind symbol t) := by
  cases symbol with
  | none => exact h
  | some s =>
    have ne : self ≠ s := fun heq => other (congrArg some heq.symm)
    exact ⟨h.subject, (Scopes.symbol?_bind_of_ne _ ne t).trans h.typed⟩

theorem record (h : Inside self frozen st) (slot : Option TypeId) (t : Ty) :
    Inside self frozen (st.record slot t).2 :=
  h.of_eq (State.record_survey slot t st) (State.record_scopes slot t st)

theorem push (h : Inside self frozen st) : Inside self frozen st.push :=
  ⟨h.subject, h.typed⟩

theorem bindTypeParams (h : Inside self frozen st) (names : List (Node Ident)) :
    Inside self frozen (st.bindTypeParams names) :=
  ⟨h.subject, (Scopes.symbol?_bindTypeParams _ names self).trans h.typed⟩

/-- Whatever happened to `self` in a scope, closing it brings its type back. -/
theorem pop (h : Inside self frozen st) (survey : st'.survey.map FieldSurvey.subject =
    some (self, false)) (outer : st'.scopes.outer = st.scopes.frames) :
    Inside self frozen st'.pop := by
  have popped : st'.pop.scopes =
      { st'.scopes with inner := st.scopes.inner, outer := st.scopes.outer } :=
    Scopes.pop_of_outer outer
  refine ⟨survey, ?_⟩
  rw [popped]
  exact h.typed

/-- Noting a field leaves the instance as it is. -/
theorem noteAssignment (h : Inside self frozen st) (receiver : Receiver) (target : Expr) (t : Ty) :
    Inside self frozen (st.noteAssignment receiver target t) where
  subject := (State.noteAssignment_subject receiver target t st).trans h.subject
  typed := by
    rw [State.noteAssignment_scopes]
    exact h.typed

/-- What an assignment to a field of `self` adds to the survey. -/
theorem surveyed_noteAssignment (h : Inside self frozen st) (receiver : Receiver) (target : Expr)
    (t : Ty) :
    (st.noteAssignment receiver target t).surveyed =
      ((receiver.field? self target).map fun name =>
        FieldSurvey.note name t.widen st.surveyed).getD st.surveyed := by
  obtain ⟨fields, survey⟩ := h.exists_survey
  simp only [State.noteAssignment, survey]
  cases receiver.field? self target with
  | none => rfl
  | some name => simp [State.surveyed, survey]

end Inside

/-! ## Following the assignments -/

/-- The assignments to fields of `self` among own expressions, where `self` stands for the class. -/
def assignments (self : Symbol) (receiver : Receiver) (own : List (Node Expr)) :
    List FieldAssignment :=
  if receiver = some self then FieldAssignment.among own else []

/-- A check of a part in the second pass keeps the pass, the type of `self` and the scopes further
out; and if it succeeds, the assignments among the own expressions of the part are settled, in every
later table that has room for its ids. -/
structure Follows {τ α : Type} (inst : Symbol) (frozen : List Field) (receiver : Receiver)
    (own : τ → List (Node Expr)) (st : State) (e : Checked τ α) : Prop where
  inside : Inside inst frozen e.state
  outer : e.state.scopes.outer = st.scopes.outer
  grows : e.state.table.Extends st.table
  settled : ∀ a, e.result = .ok a → ∀ final : TypeTable, final.Extends e.state.table →
    final.size ≤ TypeTable.capacity →
      Settled final frozen st.surveyed e.state.surveyed (assignments inst receiver (own e.tree))

theorem mem_assignments {self : Symbol} {receiver : Receiver} {own : List (Node Expr)}
    {a : FieldAssignment} :
    a ∈ assignments self receiver own ↔
      receiver = some self ∧ a ∈ FieldAssignment.among own := by
  unfold assignments
  split <;> simp_all

namespace Follows

variable {τ υ ω α β : Type} {self : Symbol} {frozen : List Field} {receiver : Receiver}
  {own : τ → List (Node Expr)} {own₂ : υ → List (Node Expr)} {own' : ω → List (Node Expr)}
  {st : State} {e : Checked τ α}

/-- A check that notes nothing of a part without own assignments. -/
theorem quiet (inside : Inside self frozen e.state) (survey : e.state.survey = st.survey)
    (outer : e.state.scopes.outer = st.scopes.outer) (grows : e.state.table.Extends st.table)
    (without : FieldAssignment.among (own e.tree) = []) :
    Follows self frozen receiver own st e where
  inside := inside
  outer := outer
  grows := grows
  settled _ _ final _ _ := by
    rw [State.surveyed_congr survey, assignments, without, ite_self]
    exact .nil

/-- A step that leaves the state and assigns nothing. -/
theorem kept (inside : Inside self frozen st) {result : Except Failure α} {tree : τ}
    (without : FieldAssignment.among (own tree) = []) :
    Follows self frozen receiver own st ⟨result, tree, st⟩ :=
  .quiet inside rfl rfl (.refl _) without

/-- A failed check owes nothing. -/
theorem failed (inside : Inside self frozen st) {f : Failure} {tree : τ} :
    Follows self frozen receiver own st (.fail f tree st : Checked τ α) where
  inside := inside
  outer := rfl
  grows := .refl _
  settled _ h := nomatch h

/-- The check stops where another one arrived. -/
theorem stopped (h : Follows self frozen receiver own st e) {e' : Checked υ β} {f : Failure}
    (result : e'.result = .error f) (state : e'.state = e.state) :
    Follows self frozen receiver own₂ st e' where
  inside := state ▸ h.inside
  outer := state ▸ h.outer
  grows := state ▸ h.grows
  settled _ ok := by
    rw [result] at ok
    cases ok

/-- Only the fields, the scopes further out and the table of the first state count. -/
theorem of_state {st₁ : State} (h : Follows self frozen receiver own st₁ e)
    (survey : st₁.survey = st.survey) (outer : st₁.scopes.outer = st.scopes.outer)
    (grows : st₁.table.Extends st.table) : Follows self frozen receiver own st e where
  inside := h.inside
  outer := h.outer.trans outer
  grows := h.grows.trans grows
  settled a ha final ext room := by
    rw [← State.surveyed_congr survey]
    exact h.settled a ha final ext room

theorem concludeWith (h : Follows self frozen receiver own st e)
    (f : α → State → Except Failure β) :
    Follows self frozen receiver own st (e.concludeWith f) where
  inside := h.inside
  outer := h.outer
  grows := h.grows
  settled _ hb final ext room := by
    obtain ⟨a, ha, -⟩ := exists_of_bind_eq_ok hb
    exact h.settled a ha final ext room

theorem conclude (h : Follows self frozen receiver own st e) (f : α → Except Failure β) :
    Follows self frozen receiver own st (e.conclude f) :=
  h.concludeWith fun a _ => f a

/-- How the tree is put together has no part in it, as long as it has the same assignments. -/
theorem rebuild (h : Follows self frozen receiver own st e) {build : τ → ω}
    (same : ∀ t, FieldAssignment.among (own' (build t)) = FieldAssignment.among (own t)) :
    Follows self frozen receiver own' st (e.rebuild build) where
  inside := h.inside
  outer := h.outer
  grows := h.grows
  settled a ha final ext room := by
    have settled := h.settled a ha final ext room
    unfold assignments at settled ⊢
    rwa [Edit.rebuild_tree, same]

/-- Whatever happens to scopes inside, the instance is the same outside. -/
theorem inScope (inside : Inside self frozen st) {work : State → Checked τ α}
    (h : Follows self frozen receiver own st.push (work st.push)) :
    Follows self frozen receiver own st (Checker.inScope work st) where
  inside := inside.pop h.inside.subject h.outer
  outer := (congrArg Scopes.outer (Scopes.pop_of_outer h.outer)).trans rfl
  grows := h.grows
  settled := h.settled

/-- What is checked second may depend on how the first part came out. -/
theorem andThenOn {first : Checked τ α} {rest : υ} {next : α → State → Checked υ β}
    {build : τ → υ → ω} (h₁ : Follows self frozen receiver own st first)
    (h₂ : ∀ a, first.result = .ok a →
      Follows self frozen receiver own₂ first.state (next a first.state))
    (parts : ∀ u a, a ∈ FieldAssignment.among (own' (build first.tree u)) ↔
      a ∈ FieldAssignment.among (own first.tree) ++ FieldAssignment.among (own₂ u)) :
    Follows self frozen receiver own' st (first.andThen rest next build) := by
  unfold Edit.andThen
  split
  · rename_i a ha
    have h₂ := h₂ a ha
    refine ⟨h₂.inside, h₂.outer.trans h₁.outer, h₂.grows.trans h₁.grows,
      fun b hb final ext room => ?_⟩
    have settled := (h₁.settled a ha final (ext.trans h₂.grows) room).append
      (h₂.settled b hb final ext room)
    refine settled.of_mem fun x => ?_
    simp only [List.mem_append, mem_assignments, parts, and_or_left]
  · exact h₁.stopped rfl rfl

/-- Two checks in a row; the assignments of both are settled against the same frozen fields. -/
theorem andThen {first : Checked τ α} {rest : υ} {next : α → State → Checked υ β}
    {build : τ → υ → ω} (h₁ : Follows self frozen receiver own st first)
    (h₂ : ∀ a st, Inside self frozen st → Follows self frozen receiver own₂ st (next a st))
    (parts : ∀ t u, FieldAssignment.among (own' (build t u)) =
      FieldAssignment.among (own t) ++ FieldAssignment.among (own₂ u)) :
    Follows self frozen receiver own' st (first.andThen rest next build) :=
  h₁.andThenOn (fun a _ => h₂ a _ h₁.inside) fun u a => by rw [parts]

theorem andThenPair {first : Checked τ α} {rest : υ} {next : α → State → Checked υ β}
    (h₁ : Follows self frozen receiver own st first)
    (h₂ : ∀ a st, Inside self frozen st → Follows self frozen receiver own₂ st (next a st)) :
    Follows self frozen receiver (fun p => own p.1 ++ own₂ p.2) st
      (first.andThen rest next Prod.mk) :=
  h₁.andThen h₂ fun t u => FieldAssignment.among_append (own t) (own₂ u)

/-- A record is no assignment. -/
theorem recorded {own : τ → List (Node Expr)} {own' : Node τ → List (Node Expr)} {e : Checked τ Ty}
    {span : Span} {slot : Option TypeId} (h : Follows self frozen receiver own st e)
    (same : ∀ n : Node τ, FieldAssignment.among (own' n) = FieldAssignment.among (own n.value)) :
    Follows self frozen receiver own' st (Checker.recorded span slot e) := by
  unfold Checker.recorded
  split
  · rename_i t ht
    have grows := (Continues.record slot t e.state).table
    have survey := State.record_survey slot t e.state
    have scopes := State.record_scopes slot t e.state
    refine ⟨h.inside.record slot t, (congrArg Scopes.outer scopes).trans h.outer,
      grows.trans h.grows, fun a ha final ext room => ?_⟩
    have settled := h.settled t ht final (ext.trans grows) room
    unfold assignments at settled ⊢
    rwa [State.surveyed_congr survey, same]
  · exact h.stopped rfl rfl

theorem recordedStmt {e : Checked Stmt Ty} {span : Span} {slot : Option TypeId}
    (h : Follows self frozen receiver Own.insideStmt st e) :
    Follows self frozen receiver Own.stmt st (Checker.recorded span slot e) := by
  refine h.recorded fun n => ?_
  cases n
  rfl

/-- The type of a property is recorded with its name. -/
theorem property (inside : Inside self frozen st) {result : Except Failure Ty} {i : Ident}
    {span : Span} {slot : Option TypeId} :
    Follows self frozen receiver (fun _ => []) st (Checker.recorded span slot ⟨result, i, st⟩) := by
  have read : Follows self frozen receiver (fun _ => []) st ⟨result, i, st⟩ := .kept inside rfl
  exact read.recorded fun _ => rfl

/-- A name that is not `self` is bound and recorded before the rest is checked. -/
theorem afterName {n : Node Ident} {t : Ty} (inside : Inside self frozen st)
    (other : n.value.symbol ≠ some self) {tail : State → Checked τ α}
    (h : ∀ st, Inside self frozen st → Follows self frozen receiver own st (tail st)) :
    Follows self frozen receiver own st (tail ((st.bind n.value.symbol t).recordName n t).2) := by
  have survey := State.record_survey n.ty t (st.bind n.value.symbol t)
  have scopes := State.record_scopes n.ty t (st.bind n.value.symbol t)
  have grows := (Continues.record n.ty t (st.bind n.value.symbol t)).table
  refine (h _ ((inside.bind other t).record n.ty t)).of_state
    (survey.trans (State.bind_survey _ _ _)) ?_ ?_
  · exact (congrArg Scopes.outer scopes).trans (State.bind_outer _ _ _)
  · rwa [State.bind_table] at grows

/-- A name other than the instance's is bound. -/
theorem named (inside : Inside self frozen st) {name : Option (Node Ident)}
    (others : ∀ n ∈ name, n.value.symbol ≠ some self) (t : Ty) :
    Follows self frozen receiver (fun _ => []) st (Checker.named name t st) := by
  cases name with
  | none => exact .kept inside rfl
  | some n =>
    have done (st : State) (inside : Inside self frozen st) :
        Follows self frozen receiver (fun _ => []) st (Edit.succeed t () st : Checked Unit Ty) :=
      .kept inside rfl
    have bound := Follows.afterName (t := t) inside (others n rfl) done
    exact ⟨bound.inside, bound.outer, bound.grows, bound.settled⟩

/-! ### Parameters and bodies -/

theorem checkParams {params : List Param} (inside : Inside self frozen st)
    (others : ∀ p ∈ params, p.name.value.symbol ≠ some self) :
    Follows self frozen receiver (fun _ => []) st (Checker.checkParams params st) := by
  induction params generalizing st with
  | nil => exact .kept inside rfl
  | cons p rest ih =>
    obtain ⟨name, declaredAs⟩ := p
    obtain ⟨other, others⟩ := List.forall_mem_cons.mp others
    unfold Checker.checkParams
    split
    · exact .failed inside
    · exact .rebuild (afterName inside other fun st inside => (ih inside others).conclude _)
        fun _ => rfl

/-- Parameters and body of a function or method. -/
theorem checkCallable {typeParams : List (Node Ident)} {params : List Param}
    {returns : Option (Node TypeExpr)} {body : List (Node Stmt)}
    {announce : List Ty → Option Ty → State → State}
    {checkBody : State → Checked (List (Node Stmt)) Ty}
    (others : ∀ p ∈ params, p.name.value.symbol ≠ some self)
    (hbody : ∀ types declared st, Inside self frozen st →
      Follows self frozen receiver Own.stmts st (checkBody (announce types declared st)))
    (inside : Inside self frozen st) :
    Follows self frozen receiver (fun p => Own.stmts p.2) st
      (Checker.checkCallable typeParams params returns body announce checkBody st) := by
  have entered := inside.push.bindTypeParams typeParams
  have hparams : Follows self frozen receiver (fun _ => []) st.push
      (Checker.checkParams params (st.push.bindTypeParams typeParams)) :=
    (Follows.checkParams entered others).of_state rfl (Scopes.outer_bindTypeParams typeParams _)
      (.refl _)
  refine .inScope inside (hparams.andThen (fun types st inside => ?_) fun _ body =>
    List.nil_append (FieldAssignment.among (Own.stmts body)))
  split
  · exact .failed inside
  · rename_i declared _
    have followed := hbody types declared st inside
    unfold Edit.whenDone
    split
    · rename_i t ht
      exact ⟨followed.inside, followed.outer, followed.grows, fun _ _ => followed.settled t ht⟩
    · exact followed.stopped rfl rfl

/-- Where nothing stands for `self`, nothing of the part counts. -/
theorem ofFunction {own' : τ → List (Node Expr)} (h : Follows self frozen none own st e)
    (without : FieldAssignment.among (own' e.tree) = []) :
    Follows self frozen receiver own' st e where
  inside := h.inside
  outer := h.outer
  grows := h.grows
  settled a ha final ext room := by
    have settled := h.settled a ha final ext room
    rw [assignments, if_neg (nomatch ·)] at settled
    rwa [assignments, without, ite_self]

/-- A function may be announced before its body, if its name is not the instance's. -/
theorem announceFunction {name : Option (Node Ident)}
    (others : ∀ n ∈ name, n.value.symbol ≠ some self)
    {types : List Ty} {declared : Option Ty} {work : State → Checked τ α}
    (h : ∀ st, Inside self frozen st → Follows self frozen receiver own st (work st))
    (inside : Inside self frozen st) :
    Follows self frozen receiver own st
      (work (Checker.announceFunction name types declared st)) := by
  cases name with
  | none => exact h st inside
  | some n =>
    exact (h _ (inside.bind (others n rfl) _)).of_state (State.bind_survey _ _ _)
      (State.bind_outer _ _ _) (State.bind_table n.value.symbol _ st ▸ .refl _)

end Follows

/-! ## A class inside of a method -/

theorem enclosed_checkInstance (self : Symbol) (name : Option (Node Ident)) (declared : List Field)
    (ms : List (Node Method)) {st s : State} (h : Enclosed (fun _ => True) st s) :
    Enclosed (fun _ => True) st (checkInstance self name declared ms s).state := by
  have closed := framed_stepClosed fun _ => True
  have surveyed := (h.beginSurvey self (Field.merge declared)).later
    (closed.surveyMethods self ms _ fun _ _ => trivial)
  unfold checkInstance
  dsimp only
  split
  · exact ⟨surveyed.outer, surveyed.others⟩
  · rename_i signatures _
    have checked (fields : List Field) := (surveyed.beginMethods self name fields signatures).later
      (closed.checkMethods self fields ms _ fun _ _ => trivial)
    unfold Edit.whenDone
    split
    · exact checked _
    · exact checked _

/-- The members of a class leave everything outside of its scope. -/
theorem enclosed_checkMembers (self : Symbol) (name : Option (Node Ident))
    (fields : List FieldDecl) (ms : List (Node Method)) {st s : State}
    (h : Enclosed (fun _ => True) st s) :
    Enclosed (fun _ => True) st (checkMembers self name fields ms s).state := by
  have closed := framed_stepClosed fun _ => True
  have checked := h.later (closed.checkFields fields s fun _ _ => trivial)
  unfold checkMembers Edit.andThen
  split
  · exact enclosed_checkInstance self name _ ms checked
  · exact checked

theorem named_survey (name : Option (Node Ident)) (t : Ty) (st : State) :
    (named name t st).state.survey = st.survey := by
  cases name with
  | none => rfl
  | some n => exact (State.record_survey _ _ _).trans (State.bind_survey _ _ _)

/-- A class inside of a method is checked on its own. -/
theorem Follows.checkClass {self : Symbol} {frozen : List Field} {receiver : Receiver} {c : Class}
    {st : State} (inside : Inside self frozen st)
    (others : ∀ n ∈ c.name, n.value.symbol ≠ some self) :
    Follows self frozen receiver (fun _ => []) st (Checker.checkClass c st) := by
  obtain ⟨name, fields, ms⟩ := c
  have grows := (continues_stepClosed.checkClass ⟨name, fields, ms⟩ st fun _ _ => trivial).table
  have members := enclosed_checkMembers st.nextSelf name fields ms (.enterClass ms st)
  -- the state in which the class is left: its own survey is over, and the one around it goes on
  let last := { (checkMembers st.nextSelf name fields ms (st.enterClass ms).push).state with
    survey := st.survey }
  have left : Inside self frozen last.pop := inside.pop inside.subject members.outer
  have outer : last.pop.scopes.outer = st.scopes.outer :=
    (congrArg Scopes.outer (Scopes.pop_of_outer members.outer)).trans rfl
  rw [checkClass_of_real name fields ms inside.real] at grows ⊢
  cases hr : (checkMembers st.nextSelf name fields ms (st.enterClass ms).push).result with
  | error f =>
    simp only [Edit.andThen, Edit.mapState, Checker.inScope, hr] at grows ⊢
    exact .quiet left rfl outer grows rfl
  | ok t =>
    simp only [Edit.andThen, Edit.mapState, Checker.inScope, hr] at grows ⊢
    have bound : Follows self frozen receiver (fun _ => []) last.pop
        (Checker.named name t last.pop) :=
      .named left others t
    exact .quiet bound.inside (named_survey name t last.pop) (bound.outer.trans outer) grows rfl

/-! ## Assignments -/

section Assignment

variable {self : Symbol} {frozen : List Field} {st : State}

/-- A checked target denotes the field that it denoted before. -/
theorem selfField?_checkExpr (receiver : Receiver) (n : Node Expr) (st : State) :
    (checkExpr receiver n st).tree.value.selfField? = n.value.selfField? := by
  have shape := (Mirrors.checkExpr receiver n st).tree.shape
  have shape := congrArg (fun n => n.value.selfField?) shape
  simpa only [Kind.expr, Kind.ofSlots, Relabeling.node_value, Expr.selfField?_relabeled] using shape

theorem recorded_result {τ : Type} (span : Span) (slot : Option TypeId) (e : Checked τ Ty) :
    (recorded span slot e).result = e.result := by
  unfold recorded
  split
  · rename_i h
    exact h.symm
  · rename_i h
    exact h.symm

/-- `self` has its frozen type. -/
theorem result_self (inside : Inside self frozen st) (span : Span) {i : Ident}
    (name : i.name = SelfReference.name) (slot : Option TypeId) :
    (checkExpr (some self) ⟨span, .ident i, slot⟩ st).result = .ok (.object frozen) := by
  have symbol : Receiver.symbolOf (some self) i = some self := if_pos name
  rw [checkExpr, recorded_result, checkForm, symbol]
  show Except.ok ((st.scopes.symbol? self).getD .unknown) = _
  rw [inside.typed, Option.getD_some]

/-- A field of `self` has its frozen type. -/
theorem lookup_of_checkExpr (inside : Inside self frozen st) {n : Node Expr} {name : String}
    (field : n.value.selfField? = some name) {t : Ty}
    (ok : (checkExpr (some self) n st).result = .ok t) : Field.lookup name frozen = some t := by
  obtain ⟨span, e, slot⟩ := n
  cases e with
  | member base property =>
    obtain ⟨baseSpan, base, baseSlot⟩ := base
    obtain ⟨isSelf, named⟩ := Option.ite_none_right_eq_some.mp field
    obtain rfl := Option.some.inj named
    cases base with
    | ident i =>
      have result := result_self inside baseSpan (Option.some.inj isSelf) baseSlot
      rw [checkExpr, recorded_result, checkForm] at ok
      simp only [Edit.andThen, result, recorded_result, Rule.property, Ty.field?] at ok
      split at ok
      · rename_i found
        rw [found, Except.ok.inj ok]
      · cases ok
    | _ => simp [Expr.name?] at isSelf
  | _ => simp [Expr.selfField?] at field

namespace Inside

/-- An assignment to another symbol leaves the instance as it is. -/
theorem rebind (inside : Inside self frozen st) {receiver : Receiver} {target : Expr}
    (other : ∀ i, target = .ident i → receiver.symbolOf i ≠ some self) (t : Ty) :
    Inside self frozen (st.rebind receiver target t) := by
  unfold State.rebind
  split
  · rename_i i
    have noted : Inside self frozen (st.note (.rebound i.name t.widen)) := inside.of_eq rfl rfl
    exact noted.bind (other i rfl) t.widen
  · exact inside

end Inside

theorem State.rebind_surveyed (receiver : Receiver) (target : Expr) (t : Ty) (st : State) :
    (st.rebind receiver target t).surveyed = st.surveyed := by
  unfold State.rebind
  split
  · exact State.surveyed_congr (State.bind_survey _ _ _)
  · rfl

theorem State.rebind_outer (receiver : Receiver) (target : Expr) (t : Ty) (st : State) :
    (st.rebind receiver target t).scopes.outer = st.scopes.outer := by
  unfold State.rebind
  split
  · exact State.bind_outer _ _ _
  · rfl

/-- What an assignment rebinds is not `self`. -/
theorem Plain.symbolOf_ne {receiver : Receiver} {span : Span} {target value : Node Expr}
    {slot : Option TypeId} {own : List (Node Expr)}
    (h : Plain self receiver (Parts.node ⟨span, .assignment target value, slot⟩)
      (⟨span, .assignment target value, slot⟩ :: own)) (i : Ident)
    (ident : target.value = .ident i) : receiver.symbolOf i ≠ some self := by
  intro symbol
  obtain ⟨targetSpan, target, targetSlot⟩ := target
  subst ident
  have plain : i.symbol ≠ some self :=
    h.symbols (.expr ⟨targetSpan, .ident i, targetSlot⟩)
      (List.mem_cons_of_mem _ (List.mem_append_left _ List.mem_cons_self)) i
      (List.mem_singleton_self i)
  obtain ⟨hr, name⟩ := (Receiver.symbolOf_eq_self plain).mp symbol
  have keeps := h.keeps hr _ List.mem_cons_self
  simp [Expr.assignsSelf, Expr.name?, name] at keeps

/-- What is known of the target of an assignment: `first` is its checked tree and `u` its type. -/
structure TargetChecked (inst : Symbol) (frozen : List Field) (receiver : Receiver) (st : State)
    (target first : Node Expr) (u : Ty) : Prop where
  other : ∀ i, target.value = .ident i → receiver.symbolOf i ≠ some inst
  field : receiver.field? inst target.value =
    if receiver = some inst then first.value.selfField? else none
  typed : ∀ final : TypeTable, final.Extends st.table → final.size ≤ TypeTable.capacity →
    final.typeOf first.ty = some u
  known : receiver = some inst → ∀ name, first.value.selfField? = some name →
    Field.lookup name frozen = some u

section Target

variable {receiver : Receiver} {target first value : Node Expr} {span : Span}
  {slot : Option TypeId} {u v : Ty}

/-- An accepted assignment to a field of `self` is settled with the type of its value. -/
theorem TargetChecked.settled (checked : TargetChecked self frozen receiver st target first u)
    {later : State} (inside : Inside self frozen later) {final : TypeTable}
    (ext : final.Extends st.table) (room : final.size ≤ TypeTable.capacity)
    (valueTy : final.typeOf value.ty = some v) (fits : v.assignable u = true) :
    Settled final frozen later.surveyed (later.noteAssignment receiver target.value v).surveyed
      (assignments self receiver [⟨span, .assignment first value, slot⟩]) := by
  rw [inside.surveyed_noteAssignment, checked.field]
  by_cases hr : receiver = some self
  · rw [assignments, if_pos hr, if_pos hr]
    cases hf : first.value.selfField? with
    | none =>
      have without : FieldAssignment.among [⟨span, .assignment first value, slot⟩] = [] := by
        simp [FieldAssignment.among, FieldAssignment.of?, hf]
      rw [without]
      exact .nil
    | some name =>
      have single : FieldAssignment.among [⟨span, .assignment first value, slot⟩] =
          [⟨name, first.ty, value.ty⟩] := by
        simp [FieldAssignment.among, FieldAssignment.of?, hf]
      rw [single]
      let noted : FieldAssignment := ⟨name, first.ty, value.ty⟩
      have known : Field.lookup noted.field frozen = some u := checked.known hr name hf
      exact .note (checked.typed final ext room) valueTy fits known later.surveyed
  · -- `self` is not the instance here, so nothing is noted
    rw [assignments, if_neg hr, if_neg hr]
    exact .nil

/-- The value of an assignment is checked after its target, and then noted. -/
theorem Follows.assigned (span : Span) (slot : Option TypeId) {e : Checked (Node Expr) Ty}
    (checked : TargetChecked self frozen receiver st target first u)
    (certified : Certifies (TypedExpr value) st e)
    (h : Follows self frozen receiver Own.node st e) :
    Follows self frozen receiver
      (fun value => ⟨span, .assignment first value, slot⟩ :: Own.node value) st
      (e.whenDone fun t value st =>
        match Failure.unlessAssignable t u value.span with
        | .error f => .fail f value st
        | .ok _ =>
          .succeed t value
            ((st.noteAssignment receiver target.value t).rebind receiver target.value t)) := by
  unfold Edit.whenDone
  split
  · rename_i v hv
    dsimp only
    split
    · exact h.stopped rfl rfl
    · rename_i fits
      have noted := h.inside.noteAssignment receiver target.value v
      have scopes := State.noteAssignment_scopes receiver target.value v e.state
      have table := (State.rebind_table receiver target.value v _).trans
        (State.noteAssignment_table receiver target.value v e.state)
      refine ⟨noted.rebind checked.other v, ?_, table ▸ h.grows, fun t _ final ext room => ?_⟩
      · exact (State.rebind_outer receiver target.value v _).trans
          ((congrArg Scopes.outer scopes).trans h.outer)
      · have ext : final.Extends e.state.table := table ▸ ext
        have valueTy := (certified.holds v hv final ext room).type
        have last : Settled final frozen e.state.surveyed
            (e.state.noteAssignment receiver target.value v).surveyed
            (assignments self receiver [⟨span, .assignment first e.tree, slot⟩]) :=
          checked.settled h.inside (ext.trans h.grows) room valueTy
            (Failure.assignable_of_unlessAssignable fits)
        have settled := (h.settled v hv final ext room).append last
        -- the assignment itself stands before its value in the tree, but is noted after it
        have fields := State.rebind_surveyed receiver target.value v
          (e.state.noteAssignment receiver target.value v)
        refine Settled.of_mem (fields ▸ settled) fun a => ?_
        show _ ↔ a ∈ assignments self receiver ([_] ++ Own.node e.tree)
        simp only [List.mem_append, mem_assignments, FieldAssignment.among_append, and_or_left]
        exact or_comm
  · exact h.stopped rfl rfl

/-- The target of an assignment is checked against the frozen fields. -/
theorem targetChecked
    (plain : Plain self receiver (Parts.node ⟨span, .assignment target value, slot⟩)
      (Own.node ⟨span, .assignment target value, slot⟩))
    (inside : Inside self frozen st) (hu : (checkExpr receiver target st).result = .ok u) :
    TargetChecked self frozen receiver (checkExpr receiver target st).state target
      (checkExpr receiver target st).tree u where
  other := plain.symbolOf_ne
  field := by
    rw [selfField?_checkExpr]
    exact Plain.field? plain.tail.left
  typed final ext room :=
    ((Certifies.checkExpr receiver target st inside.real).holds u hu final ext room).type
  known hr name hf := by
    subst hr
    rw [selfField?_checkExpr] at hf
    exact lookup_of_checkExpr inside hf hu

/-- An assignment: its target, its value, and then the note about its field. -/
theorem Follows.assignment
    (plain : Plain self receiver (Parts.node ⟨span, .assignment target value, slot⟩)
      (Own.node ⟨span, .assignment target value, slot⟩))
    (inside : Inside self frozen st)
    (h₁ : Follows self frozen receiver Own.node st (checkExpr receiver target st))
    (h₂ : ∀ st, Inside self frozen st →
      Follows self frozen receiver Own.node st (checkExpr receiver value st)) :
    Follows self frozen receiver (fun e => Own.node ⟨span, e, slot⟩) st
      (checkForm receiver span (.assignment target value) st) := by
  rw [checkForm]
  split
  · refine h₁.andThenOn (fun u hu => .assigned span slot (targetChecked plain inside hu)
      (Certifies.checkExpr receiver value _ h₁.inside.real) (h₂ _ h₁.inside)) fun v a => ?_
    show a ∈ FieldAssignment.among ([_] ++ (Own.node _ ++ Own.node v)) ↔
      a ∈ _ ++ FieldAssignment.among ([_] ++ Own.node v)
    simp only [FieldAssignment.among_append, List.mem_append]
    exact or_left_comm
  · exact .failed inside

end Target

end Assignment

end Checker
end StructuralTyping
