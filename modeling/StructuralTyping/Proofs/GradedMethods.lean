import StructuralTyping.Proofs.AnnotationMeaning
import StructuralTyping.Proofs.SurveyGrades

/-! # Graded methods

A method is surveyed in a state in which less is known than in the state in which it is checked.
`Preview` says that the first state is what the grades of the symbols make of the second one: every
symbol has related types in them, and every annotation stands for the same type.

In such states, whatever is graded succeeds in the survey if it does in the check, with a type that
is related according to its grade, and leaves such states behind (`Previews.checkExpr`,
`Previews.checkStmts` and their companions).  Functions and classes inside of the method are not
looked into by the survey.  So there is no induction for them: their check leaves the scopes as they
were, apart from a binding of their name, and defines no aliases.
-/
namespace StructuralTyping

/-- A grade for every symbol; the type of the instance is hidden. -/
structure Grading where
  self : Symbol
  symbols : Symbol → Grade
  hidden : symbols self = .hidden

namespace Grading

/-- The grade of an identifier in a method. -/
def ident (G : Grading) (i : Ident) : Grade :=
  match Checker.Receiver.symbolOf (some G.self) i with
  | some s => G.symbols s
  | none => .exact

/-- Whether a name may be bound to a type of this grade. -/
def binds (G : Grading) (symbol : Option Symbol) (g : Grade) : Bool :=
  symbol.all fun s => g.below (G.symbols s)

/-- Whether a name may be bound in the check alone. -/
def leaves (G : Grading) (symbol : Option Symbol) : Bool :=
  symbol.all fun s => G.symbols s = .hidden || G.symbols s = .loose

/-- Whether an assignment may give its target a type of this grade. -/
def rebinds (G : Grading) (target : Expr) (g : Grade) : Bool :=
  match target with
  | .ident i => G.binds (Checker.Receiver.symbolOf (some G.self) i) g
  | _ => true

mutual

/-- The grade of an expression, if there is nothing in it that a survey could fail at and a check
could not. -/
def expr (G : Grading) : Node Expr → Option Grade
  | ⟨_, e, _⟩ => form G e

/-- The grade of what an expression consists of. -/
def form (G : Grading) : Expr → Option Grade
  | .literal _ => some .exact
  | .ident i => some (G.ident i)
  | .call callee args => do
    let g ← expr G callee
    let gs ← exprs G args
    Grade.call callee.value.name? g gs
  | .conditional test consequent alternate => do
    let _ ← (expr G test).bind Grade.seen?
    let g ← stmt G consequent
    let h ← optionalStmt G alternate
    some (g.branches h)
  | .member base _ => (expr G base).bind Grade.seen?
  | .index base position => do
    let g ← (expr G base).bind Grade.seen?
    let _ ← (expr G position).bind Grade.seen?
    some g
  | .function f =>
    if G.binds (f.name.bind (·.value.symbol)) (.function f.returns) then some (.function f.returns)
    else none
  | .classDef c => if G.leaves (c.name.bind (·.value.symbol)) then some .hidden else none
  | .assertion e _ => do
    let _ ← (expr G e).bind Grade.seen?
    some .exact
  | .throwing value => do
    let _ ← expr G value
    some .exact
  | .whileLoop test body => do
    let _ ← (expr G test).bind Grade.seen?
    let _ ← stmts G .exact body
    some .exact
  | .forLoop bs test update body => do
    let _ ← bindings G bs
    let t ← optional G test
    let _ ← (t.getD .exact).seen?
    let _ ← optional G update
    let _ ← stmts G .exact body
    some .exact
  | .returning value => do
    let g ← optional G value
    some (g.getD .exact)
  | .attempt body catcher finisher => do
    let _ ← stmts G .exact body
    let _ ← handler G catcher
    let _ ← cleanup G finisher
    some .exact
  | .array items => do
    let gs ← exprs G items
    some (.array gs)
  | .object ps => do
    let gs ← properties G ps
    some (.object gs)
  | .assignment target value => do
    let g ← expr G target
    let h ← expr G value
    if (g = .hidden || g.below .vague && h.below .vague) && G.rebinds target.value h then some h
    else none

/-- The grades of expressions, if all of them have one. -/
def exprs (G : Grading) : List (Node Expr) → Option (List Grade)
  | [] => some []
  | e :: rest => do
    let g ← expr G e
    let gs ← exprs G rest
    some (g :: gs)

/-- The grade of an expression that may be absent. -/
def optional (G : Grading) : Option (Node Expr) → Option (Option Grade)
  | none => some none
  | some e => (expr G e).map some

/-- The grade of a statement. -/
def stmt (G : Grading) : Node Stmt → Option Grade
  | ⟨_, .expr e, _⟩ => expr G e
  | ⟨_, .block body, _⟩ => stmts G .exact body
  | ⟨_, .binding _ bs body, _⟩ => do
    let _ ← bindings G bs
    stmts G .exact body
  | ⟨_, .typeAlias _ _ _, _⟩ => none

/-- The grade of a statement that may be absent. -/
def optionalStmt (G : Grading) : Option (Node Stmt) → Option (Option Grade)
  | none => some none
  | some s => (stmt G s).map some

/-- The grade of statements is that of the last one, `last` if there is none. -/
def stmts (G : Grading) (last : Grade) : List (Node Stmt) → Option Grade
  | [] => some last
  | s :: rest => do
    let g ← stmt G s
    stmts G g rest

/-- A cleanup has to be graded, and its type goes into nothing. -/
def cleanup (G : Grading) : Option (List (Node Stmt)) → Option Grade
  | none => some .exact
  | some body => do
    let _ ← stmts G .exact body
    some .exact

/-- The grade of a handler; its parameter has the same type in both passes. -/
def handler (G : Grading) : Option Handler → Option Grade
  | none => some .exact
  | some ⟨param, body⟩ =>
    if G.binds (param.bind (·.value.symbol)) .exact then stmts G .exact body else none

/-- Whether all bindings of a form are graded and fit the grades of their symbols. -/
def bindings (G : Grading) : List Binding → Option Unit
  | [] => some ()
  | ⟨name, declaredAs, init⟩ :: rest => do
    let g ← expr G init
    let g ← g.binding declaredAs
    if G.binds name.value.symbol g then bindings G rest else none

/-- The grades of the values of an object. -/
def properties (G : Grading) : List Property → Option (List Grade)
  | [] => some []
  | ⟨_, value⟩ :: rest => do
    let g ← expr G value
    let gs ← properties G rest
    some (g :: gs)

end

/-- A method that is graded throughout, with parameters whose types are the same in both passes. -/
def method (G : Grading) (m : Method) : Bool :=
  m.params.all (fun p => G.binds p.name.value.symbol .exact) && (G.stmts .exact m.body).isSome

/-- A class with graded methods that define no aliases. -/
def grades (G : Grading) (c : Class) : Bool :=
  G.leaves (c.name.bind (·.value.symbol)) && c.methods.all (G.method ·.value) &&
    (Parts.aliases (Parts.methods c.methods)).isEmpty

/-- A name that is bound in the check alone: the survey leaves it unknown, or its grade says
nothing. -/
theorem relates_of_leaves {G : Grading} {s : Symbol} {a : Ty} (allowed : G.leaves (some s) = true)
    (unseen : G.symbols s = .hidden → a = .unknown) (b : Ty) : (G.symbols s).Relates a b := by
  rcases Bool.or_eq_true_iff.1 (show (_ || _) = true from allowed) with hidden | loose
  · rw [of_decide_eq_true hidden]
    exact unseen (of_decide_eq_true hidden)
  · rw [of_decide_eq_true loose]
    trivial

end Grading

/-! ## What annotations stand for -/

namespace Scopes

variable {s s' : Scopes}

/-- Where names stand for the same types, annotations do. -/
theorem resolve_congr (same : ∀ name, s.typeNamed? name = s'.typeNamed? name)
    (t : Node TypeExpr) : s.resolve t = s'.resolve t :=
  resolve_congr_of_references fun r _ => same r.name

theorem resolveOptional_congr (same : ∀ name, s.typeNamed? name = s'.typeNamed? name)
    (t : Option (Node TypeExpr)) : s.resolveOptional t = s'.resolveOptional t := by
  cases t with
  | none => rfl
  | some t => rw [resolveOptional, resolveOptional, resolve_congr same t]

/-- Scopes that agree on all names still do under the same type parameters. -/
theorem typeNamed?_bindTypeParams (names : List (Node Ident))
    (same : ∀ name, s.typeNamed? name = s'.typeNamed? name) (name : String) :
    (names.foldl (fun s n => s.bindTypeParam n.value.name .unknown) s).typeNamed? name =
      (names.foldl (fun s n => s.bindTypeParam n.value.name .unknown) s').typeNamed? name :=
  typeNamed?_bindTypeParams_congr fun _ => same name

end Scopes

namespace Rule

variable {s s' : Scopes}

theorem param_congr (same : ∀ name, s.typeNamed? name = s'.typeNamed? name)
    (t : Option (Node TypeExpr)) : param s t = param s' t := by
  cases t with
  | none => rfl
  | some t => exact Scopes.resolve_congr same t

/-- Parameters have the same types where all names mean the same. -/
theorem params_congr (same : ∀ name, s.typeNamed? name = s'.typeNamed? name) (ps : List Param) :
    params s ps = params s' ps := by
  induction ps with
  | nil => rfl
  | cons p ps ih => rw [params, params, param_congr same, ih]

end Rule

namespace Checker

/-! ## Scopes that are won back -/

namespace State

variable {st after : State}

/-- The latest binding of a symbol is found, and the others are as before. -/
theorem lookup_bind (symbol other : Symbol) (t : Ty) (st : State) :
    (st.bind (some symbol) t).lookup (some other) =
      if other = symbol then t else st.lookup (some other) := by
  by_cases same : other = symbol
  · subst same
    simp [lookup, bind, Scopes.symbol?_bind]
  · simp [lookup, bind, Scopes.symbol?_bind_of_ne _ same, same]

/-- Looking up is a matter of the scopes. -/
theorem lookup_congr (same : after.scopes = st.scopes) (symbol : Option Symbol) :
    after.lookup symbol = st.lookup symbol := by
  rw [lookup, lookup, same]

/-- Closing a scope brings back the symbols from before, whatever was bound in it. -/
theorem lookup_pop (outer : after.scopes.outer = st.scopes.frames) (symbol : Option Symbol) :
    after.pop.lookup symbol = st.lookup symbol := by
  have popped : after.pop.scopes.frames = st.scopes.frames := by
    show after.scopes.pop.frames = _
    rw [Scopes.pop_of_outer outer]
    rfl
  cases symbol with
  | none => rfl
  | some s => rw [lookup, lookup, Option.bind_some, Option.bind_some, Scopes.symbol?, popped,
      Scopes.symbol?]

/-- Whether a pass is a survey shows in whom it is about. -/
theorem surveying_congr
    (same : after.survey.map FieldSurvey.subject = st.survey.map FieldSurvey.subject) :
    after.surveying = st.surveying := by
  have pass (s : State) :
      s.surveying = ((s.survey.map FieldSurvey.subject).map Prod.snd).getD false := by
    unfold surveying
    cases s.survey <;> rfl
  rw [pass, pass, same]

end State

/-- No names of aliases. -/
abbrev NoAlias : String → Prop := fun _ => False

/-- A check that defines no alias leaves the meaning of every name. -/
theorem Framed.typeNamed? {st after : State} (framed : Framed NoAlias st after) (name : String) :
    after.scopes.typeNamed? name = st.scopes.typeNamed? name := by
  have params : after.scopes.typeParam? name = st.scopes.typeParam? name := by
    simp only [Scopes.typeParam?, Scopes.frames, List.findSome?_cons, framed.typeParams,
      framed.outer]
  unfold Scopes.typeNamed?
  rw [params, framed.others name not_false]

theorem AliasesIn.of_isEmpty {parts : List Part} (none : (Parts.aliases parts).isEmpty = true) :
    AliasesIn NoAlias parts := by
  intro name hname
  rw [List.isEmpty_iff.1 none] at hname
  nomatch hname

/-! ## States of a survey and of a check -/

/-- What the survey knows in `p` and what the check knows in `q`. -/
structure Preview (G : Grading) (p q : State) : Prop where
  surveying : p.surveying = true
  real : q.surveying = false
  symbols : ∀ s, (G.symbols s).Relates (p.lookup (some s)) (q.lookup (some s))
  types : ∀ name, p.scopes.typeNamed? name = q.scopes.typeNamed? name

/-- The two states, later on. -/
structure Reaches (G : Grading) (p q p' q' : State) : Prop where
  preview : Preview G p' q'
  survey : Framed NoAlias p p'
  check : Framed NoAlias q q'

section

variable {G : Grading} {p q p' q' : State}

namespace Reaches

theorem refl (h : Preview G p q) : Reaches G p q p q :=
  ⟨h, .of_eq rfl rfl, .of_eq rfl rfl⟩

theorem trans {p'' q'' : State} (h₁ : Reaches G p q p' q') (h₂ : Reaches G p' q' p'' q'') :
    Reaches G p q p'' q'' :=
  ⟨h₂.preview, h₁.survey.trans h₂.survey, h₁.check.trans h₂.check⟩

/-- Two steps after which the symbols are related, and that leave the rest alone. -/
theorem of_framed (h : Preview G p q) (survey : Framed NoAlias p p') (check : Framed NoAlias q q')
    (symbols : ∀ s, (G.symbols s).Relates (p'.lookup (some s)) (q'.lookup (some s))) :
    Reaches G p q p' q' where
  preview :=
    { surveying := (State.surveying_congr survey.survey).trans h.surveying
      real := (State.surveying_congr check.survey).trans h.real
      symbols
      types := fun name =>
        (survey.typeNamed? name).trans ((h.types name).trans (check.typeNamed? name).symm) }
  survey
  check

/-- Two steps that leave the scopes alone. -/
theorem quiet (h : Preview G p q) (survey : Framed NoAlias p p') (check : Framed NoAlias q q')
    (hp : p'.scopes = p.scopes) (hq : q'.scopes = q.scopes) : Reaches G p q p' q' :=
  .of_framed h survey check fun s => by
    rw [State.lookup_congr hp, State.lookup_congr hq]
    exact h.symbols s

/-- The two passes may bind related types, if the grade of the symbol allows it. -/
theorem bind (h : Preview G p q) {symbol : Option Symbol} {g : Grade} {a b : Ty}
    (allowed : G.binds symbol g = true) (rel : g.Relates a b) :
    Reaches G p q (p.bind symbol a) (q.bind symbol b) := by
  refine .of_framed h (.bind symbol a p) (.bind symbol b q) fun s => ?_
  cases symbol with
  | none => exact h.symbols s
  | some bound =>
    rw [State.lookup_bind, State.lookup_bind]
    split
    · rename_i same
      subst same
      exact rel.of_below allowed
    · exact h.symbols s

/-- What is recorded plays no part. -/
theorem record (h : Preview G p q) (slot slot' : Option TypeId) (t u : Ty) :
    Reaches G p q (p.record slot t).2 (q.record slot' u).2 :=
  .quiet h ((framed_stepClosed _).record slot t p) ((framed_stepClosed _).record slot' u q)
    (State.record_scopes slot t p) (State.record_scopes slot' u q)

theorem note (h : Preview G p q) (e e' : Entry) : Reaches G p q (p.note e) (q.note e') :=
  .quiet h (.of_eq rfl rfl) (.of_eq rfl rfl) rfl rfl

end Reaches

namespace Preview

/-- A scope opens with the same types in it. -/
theorem push (h : Preview G p q) : Preview G p.push q.push :=
  ⟨h.surveying, h.real, h.symbols, h.types⟩

theorem bindTypeParams (h : Preview G p q) (names : List (Node Ident)) :
    Preview G (p.bindTypeParams names) (q.bindTypeParams names) where
  surveying := h.surveying
  real := h.real
  symbols s := by
    have same (st : State) : (st.bindTypeParams names).lookup (some s) = st.lookup (some s) := by
      rw [State.lookup, Option.bind_some, State.bindTypeParams, Scopes.symbol?_bindTypeParams]
      rfl
    rw [same, same]
    exact h.symbols s
  types := Scopes.typeNamed?_bindTypeParams names h.types

/-- An identifier has related types in the two passes, according to its grade. -/
theorem ident (h : Preview G p q) (i : Ident) :
    (G.ident i).Relates (p.lookup (Receiver.symbolOf (some G.self) i))
      (q.lookup (Receiver.symbolOf (some G.self) i)) := by
  unfold Grading.ident
  cases Receiver.symbolOf (some G.self) i with
  | none => rfl
  | some s => exact h.symbols s

end Preview

/-- A scope that may have got type parameters is closed in both states. -/
theorem Reaches.scope (h : Preview G p q) (names : List (Node Ident))
    (inside : Reaches G (p.push.bindTypeParams names) (q.push.bindTypeParams names) p' q') :
    Reaches G p q p'.pop q'.pop := by
  have closed := framed_stepClosed NoAlias
  have outer {st after : State} (framed : Framed NoAlias (st.push.bindTypeParams names) after) :
      after.scopes.outer = st.scopes.frames :=
    framed.outer.trans (Scopes.outer_bindTypeParams names _)
  refine .of_framed h (closed.scope names inside.survey) (closed.scope names inside.check)
    fun s => ?_
  rw [State.lookup_pop (outer inside.survey), State.lookup_pop (outer inside.check)]
  exact h.symbols s

end

/-! ## Parts that succeed in the survey if they do in the check -/

/-- If the check succeeds, the survey does, with a related result, and the states are related. -/
def Previews {τ υ α β : Type} (G : Grading) (R : α → β → Prop) (p q : State) (x : Checked τ α)
    (y : Checked υ β) : Prop :=
  ∀ b, y.result = .ok b → ∃ a, x.result = .ok a ∧ R a b ∧ Reaches G p q x.state y.state

namespace Previews

variable {G : Grading} {p q : State} {τ υ ω α β : Type} {R : α → α → Prop} {S : β → β → Prop}
  {x y : Checked τ α}

/-- Two steps that change nothing preview each other if their values are related. -/
theorem succeed {a b : α} {s t : τ} (h : Preview G p q) (rel : R a b) :
    Previews G R p q (.succeed a s p : Checked τ α) (.succeed b t q : Checked τ α) := by
  intro _ ok
  cases ok
  exact ⟨a, rfl, rel, .refl h⟩

theorem rebuild (h : Previews G R p q x y) (build build' : τ → υ) :
    Previews G R p q (x.rebuild build) (y.rebuild build') := h

/-- If a conclusion is drawn in the check, a related one is in the survey. -/
theorem concludeWith (h : Previews G R p q x y) {f f' : α → State → Except Failure β}
    (each : ∀ a b p' q' d, R a b → Preview G p' q' → f' b q' = .ok d →
      ∃ c, f a p' = .ok c ∧ S c d) :
    Previews G S p q (x.concludeWith f) (y.concludeWith f') := by
  intro d ok
  obtain ⟨b, hb, hd⟩ := exists_of_bind_eq_ok ok
  obtain ⟨a, ha, rel, reaches⟩ := h b hb
  obtain ⟨c, hc, rel'⟩ := each a b _ _ d rel reaches.preview hd
  refine ⟨c, ?_, rel', reaches⟩
  rw [Edit.concludeWith, ha]
  exact hc

theorem conclude (h : Previews G R p q x y) {f f' : α → Except Failure β}
    (each : ∀ a b d, R a b → f' b = .ok d → ∃ c, f a = .ok c ∧ S c d) :
    Previews G S p q (x.conclude f) (y.conclude f') :=
  h.concludeWith fun a b _ _ d rel _ ok => each a b d rel ok

/-- Two steps in a row; the states in between are previews again. -/
theorem andThen (h : Previews G R p q x y) {rest rest' : υ} {next next' : α → State → Checked υ β}
    {build build' : τ → υ → ω}
    (each : ∀ a b p' q', R a b → Preview G p' q' → Previews G S p' q' (next a p') (next' b q')) :
    Previews G S p q (x.andThen rest next build) (y.andThen rest' next' build') := by
  intro d ok
  obtain ⟨b, hb, hd, whole⟩ := Edit.exists_of_andThen_ok ok
  obtain ⟨a, ha, rel, reaches⟩ := h b hb
  obtain ⟨c, hc, rel', later⟩ := each a b _ _ rel reaches.preview d hd
  rw [whole, Edit.andThen, ha]
  exact ⟨c, hc, rel', reaches.trans later⟩

/-- A last step that follows on both sides. -/
theorem whenDone (h : Previews G R p q x y) {next next' : α → τ → State → Checked τ β}
    (each : ∀ a b p' q', R a b → Preview G p' q' →
      Previews G S p' q' (next a x.tree p') (next' b y.tree q')) :
    Previews G S p q (x.whenDone next) (y.whenDone next') := by
  intro d ok
  unfold Edit.whenDone at ok ⊢
  cases hb : y.result with
  | error f =>
    rw [hb] at ok
    nomatch ok
  | ok b =>
    rw [hb] at ok
    obtain ⟨a, ha, rel, reaches⟩ := h b hb
    obtain ⟨c, hc, rel', later⟩ := each a b _ _ rel reaches.preview d ok
    rw [ha]
    exact ⟨c, hc, rel', reaches.trans later⟩

/-- Steps that are made before the check in both states. -/
theorem after {p' q' : State} (reaches : Reaches G p q p' q') (h : Previews G R p' q' x y) :
    Previews G R p q x y := by
  intro b ok
  obtain ⟨a, ha, rel, later⟩ := h b ok
  exact ⟨a, ha, rel, reaches.trans later⟩

/-- A scope with type parameters, which are the same on both sides. -/
theorem inTypeScope (h : Preview G p q) (names : List (Node Ident))
    {work work' : State → Checked τ α}
    (inside : Previews G R (p.push.bindTypeParams names) (q.push.bindTypeParams names)
      (work p.push) (work' q.push)) :
    Previews G R p q (inScope work p) (inScope work' q) := by
  intro b ok
  obtain ⟨a, ha, rel, reaches⟩ := inside b ok
  exact ⟨a, ha, rel, .scope h names reaches⟩

theorem inScope (h : Preview G p q) {work work' : State → Checked τ α}
    (inside : Previews G R p.push q.push (work p.push) (work' q.push)) :
    Previews G R p q (Checker.inScope work p) (Checker.inScope work' q) :=
  inTypeScope h [] inside

/-- The survey records nothing and still has its type. -/
theorem recorded {R : Ty → Ty → Prop} {x y : Checked τ Ty} (h : Previews G R p q x y)
    (span : Span) (slot : Option TypeId) :
    Previews G R p q (Checker.recorded span slot x) (Checker.recorded span slot y) := by
  intro b ok
  unfold Checker.recorded at ok ⊢
  cases hb : y.result with
  | error f =>
    rw [hb] at ok
    nomatch ok
  | ok b' =>
    rw [hb] at ok
    cases ok
    obtain ⟨a, ha, rel, reaches⟩ := h b hb
    rw [ha]
    exact ⟨a, rfl, rel, reaches.trans (.record reaches.preview slot slot a b)⟩

/-- A name gets related types, if its grade allows it. -/
theorem named (h : Preview G p q) {name : Option (Node Ident)} {g : Grade} {a b : Ty}
    (allowed : G.binds (name.bind (·.value.symbol)) g = true) (rel : g.Relates a b) :
    Previews G g.Relates p q (Checker.named name a p) (Checker.named name b q) := by
  cases name with
  | none => exact succeed h rel
  | some n =>
    intro _ ok
    cases ok
    have bound := Reaches.bind h allowed rel
    exact ⟨a, rfl, rel, bound.trans (.record bound.preview n.ty n.ty a b)⟩

/-- Parameters have the types of their annotations in both passes. -/
theorem checkParams {params : List Param} (h : Preview G p q)
    (allowed : ∀ x ∈ params, G.binds x.name.value.symbol .exact = true) :
    Previews G Eq p q (Checker.checkParams params p) (Checker.checkParams params q) := by
  induction params generalizing p q with
  | nil => exact succeed h rfl
  | cons x rest ih =>
    obtain ⟨name, declaredAs⟩ := x
    obtain ⟨here, later⟩ := List.forall_mem_cons.1 allowed
    unfold Checker.checkParams
    rw [Rule.param_congr h.types]
    split
    · intro _ ok
      nomatch ok
    · rename_i t _
      have bound := Reaches.bind h here (a := t) (b := t) rfl
      have reached := bound.trans (.record bound.preview name.ty name.ty t t)
      refine after reached (rebuild (conclude (ih reached.preview later) ?_) _ _)
      rintro as bs _ rfl ok
      exact ⟨_, ok, rfl⟩

end Previews

/-! ## Functions and classes inside of a method -/

section Inner

variable {st : State}

/-- The types of checked parameters come from their annotations alone. -/
theorem params_of_checkParams {ps : List Param} {ts : List Ty}
    (ok : (checkParams ps st).result = .ok ts) : Rule.params st.scopes ps = .ok ts := by
  induction ps generalizing st ts with
  | nil => exact ok
  | cons x rest ih =>
    obtain ⟨name, declaredAs⟩ := x
    unfold checkParams at ok
    split at ok
    · nomatch ok
    · rename_i t ht
      obtain ⟨us, hus, ok⟩ := exists_of_bind_eq_ok ok
      cases ok
      -- the names bound so far are no types
      have framed : Framed NoAlias st ((st.bind name.value.symbol t).recordName name t).2 :=
        (Framed.bind name.value.symbol t st).trans ((framed_stepClosed _).recordName name t _)
      have later := (Rule.params_congr framed.typeNamed? rest).symm.trans (ih hus)
      rw [Rule.params, ht, later]
      rfl

section Callable

variable {typeParams : List (Node Ident)} {params : List Param} {returns : Option (Node TypeExpr)}
  {body : List (Node Stmt)} {announce : List Ty → Option Ty → State → State}
  {checkBody : State → Checked (List (Node Stmt)) Ty}

/-- The type of a function or method is its signature, apart from a result that is not declared. -/
theorem signature_of_checkCallable {t : Ty}
    (ok : (checkCallable typeParams params returns body announce checkBody st).result = .ok t) :
    ∃ types r, t = .function types r ∧
      Rule.signature st.scopes typeParams params returns =
        .ok (.function types (if returns.isSome then r else .unknown)) := by
  obtain ⟨types, htypes, ok, -⟩ := Edit.exists_of_andThen_ok ok
  -- parameters bind symbols alone, so the annotation of the result means what it did before them
  have framed : Framed NoAlias (st.push.bindTypeParams typeParams) _ :=
    (framed_stepClosed _).checkParams params _
  rw [Scopes.resolveOptional_congr framed.typeNamed?] at ok
  have htypes := params_of_checkParams htypes
  split at ok
  · nomatch ok
  · rename_i declared hdeclared
    unfold Edit.whenDone at ok
    split at ok
    · obtain ⟨r, hr, rfl⟩ := exists_of_map_eq_ok ok
      refine ⟨types, r, rfl, ?_⟩
      have signature : Rule.signature st.scopes typeParams params returns =
          .ok (.function types (declared.getD .unknown)) := by
        have inner : (st.push.bindTypeParams typeParams).scopes =
            typeParams.foldl (fun s n => s.bindTypeParam n.value.name .unknown) st.scopes.push :=
          rfl
        rw [inner] at htypes hdeclared
        simp only [Rule.signature, htypes, hdeclared, bind, Except.bind]
      rw [signature]
      cases returns with
      | none =>
        cases hdeclared
        rfl
      | some annotation =>
        obtain ⟨d, -, rfl⟩ := exists_of_map_eq_ok hdeclared
        obtain ⟨_, -, same⟩ := exists_of_bind_eq_ok hr
        cases same
        rfl
    · nomatch ok

/-- The scope of a function or method is closed behind it. -/
theorem lookup_checkCallable
    (hannounce : ∀ types declared st, Framed (fun _ => True) st (announce types declared st))
    (hbody : ∀ st, Framed (fun _ => True) st (checkBody st).state) (symbol : Option Symbol) :
    (checkCallable typeParams params returns body announce checkBody st).state.lookup symbol =
      st.lookup symbol := by
  have closed := framed_stepClosed fun _ => True
  refine State.lookup_pop (Framed.outer (?_ : Framed (fun _ => True)
    (st.push.bindTypeParams typeParams) _) |>.trans (Scopes.outer_bindTypeParams typeParams _)) _
  refine closed.andThen (closed.checkParams params _) fun types => ?_
  split
  · exact closed.refl _
  · exact closed.whenDone (closed.trans (hannounce _ _ _) (hbody _)) fun _ => closed.refl _

end Callable

theorem named_lookup (name : Option (Node Ident)) (t : Ty) (symbol : Option Symbol) :
    (named name t st).state.lookup symbol =
      (st.bind (name.bind (·.value.symbol)) t).lookup symbol := by
  cases name with
  | none => rfl
  | some n => exact State.lookup_congr (State.record_scopes n.ty t _) symbol

theorem bind_lookup_congr {st' : State} (same : ∀ symbol, st'.lookup symbol = st.lookup symbol)
    (bound : Option Symbol) (t : Ty) (symbol : Symbol) :
    (st'.bind bound t).lookup (some symbol) = (st.bind bound t).lookup (some symbol) := by
  cases bound with
  | none => exact same _
  | some s => rw [State.lookup_bind, State.lookup_bind, same]

/-- A checked function has its signature as its type, up to an inferred result, and only its name is
new afterwards. -/
theorem lookup_checkFunction (real : st.surveying = false) {f : Function} {t : Ty}
    (ok : (checkFunction f st).result = .ok t) :
    (∃ types r, t = .function types r ∧
      Rule.signature st.scopes f.typeParams f.params f.returns =
        .ok (.function types (if f.returns.isSome then r else .unknown))) ∧
    ∀ symbol, (checkFunction f st).state.lookup (some symbol) =
      (st.bind (f.name.bind (·.value.symbol)) t).lookup (some symbol) := by
  obtain ⟨name, typeParams, params, returns, body⟩ := f
  have closed := framed_stepClosed fun _ => True
  rw [checkFunction, real, if_neg Bool.false_ne_true] at ok ⊢
  obtain ⟨u, callable, bound, whole⟩ := Edit.exists_of_andThen_ok ok
  obtain rfl := Except.ok.inj ((named_result name u _).symm.trans bound)
  refine ⟨signature_of_checkCallable callable, fun symbol => ?_⟩
  rw [whole, Edit.rebuild_state, named_lookup]
  exact bind_lookup_congr (lookup_checkCallable (closed.announceFunction name)
    fun st => closed.checkStmts none .undefined body st fun _ _ => trivial) _ _ _

/-- After a checked class, only its name is new. -/
theorem lookup_checkClass (real : st.surveying = false) {c : Class} {t : Ty}
    (ok : (checkClass c st).result = .ok t) (symbol : Symbol) :
    (checkClass c st).state.lookup (some symbol) =
      (st.bind (c.name.bind (·.value.symbol)) t).lookup (some symbol) := by
  obtain ⟨name, fields, ms⟩ := c
  rw [checkClass_of_real name fields ms real] at ok ⊢
  obtain ⟨u, -, bound, whole⟩ := Edit.exists_of_andThen_ok ok
  obtain rfl := Except.ok.inj ((named_result name u _).symm.trans bound)
  rw [whole, Edit.rebuild_state, named_lookup]
  have members := enclosed_checkMembers st.nextSelf name fields ms (.enterClass ms st)
  refine bind_lookup_congr (fun other => ?_) _ _ _
  exact (State.lookup_congr rfl other).trans (State.lookup_pop members.outer other)

end Inner

/-! ## Every part of a method -/

/-- Types that are there in both passes or in neither. -/
def RelatesOption : Option Grade → Option Ty → Option Ty → Prop
  | none, none, none => True
  | some g, some a, some b => g.Relates a b
  | _, _, _ => False

namespace RelatesOption

variable {g : Option Grade} {a b : Option Ty}

theorem getD (rel : RelatesOption g a b) :
    (g.getD .exact).Relates (a.getD .undefined) (b.getD .undefined) := by
  match g, a, b, rel with
  | none, none, none, _ => rfl
  | some _, some _, some _, rel => exact rel

/-- The type of a conditional is related as the grade of both branches says. -/
theorem branches {c : Grade} {t u : Ty} (rel : c.Relates t u) (rel' : RelatesOption g a b) :
    (c.branches g).Relates (Rule.branches t a) (Rule.branches u b) := by
  match g, a, b, rel' with
  | none, none, none, _ => exact rel
  | some _, some _, some _, rel' =>
    refine Grade.Relates.join (fun t u => if t = u then t else .unknown) (fun u => ?_)
      (fun t => ?_) rel rel'
    · split <;> rfl
    · split
      · assumption
      · rfl

end RelatesOption

/-- A condition that holds of a type holds of a vaguer one. -/
theorem condition_of_vaguer {span : Span} {a b u : Ty} (vaguer : a.Vaguer b)
    (ok : Rule.condition span b = .ok u) : Rule.condition span a = .ok a := by
  unfold Rule.condition at ok ⊢
  split at ok
  · rename_i boolean
    exact if_pos (vaguer.assignableTo boolean)
  · nomatch ok

/-- An assertion about a type may be made about a vaguer one. -/
theorem assertion_of_vaguer {span : Span} {a b asserted u : Ty} (vaguer : a.Vaguer b)
    (ok : Rule.assertion span b asserted = .ok u) : Rule.assertion span a asserted = .ok u := by
  unfold Rule.assertion at ok ⊢
  split at ok
  · rename_i fits
    rwa [if_pos (vaguer.assignableTo fits)]
  · nomatch ok

/-- A condition that may be absent. -/
theorem RelatesOption.condition {g : Option Grade} {a b : Option Ty} {test : Option (Node Expr)}
    (rel : RelatesOption g a b) (seen : (g.getD .exact).below .vague = true)
    (ok : Rule.optionalCondition test b = .ok ()) : Rule.optionalCondition test a = .ok () := by
  match test, g, a, b, rel with
  | none, _, _, _, _ => rfl
  | some _, none, none, none, _ => rfl
  | some e, some _, some a, some b, rel =>
    obtain ⟨_, boolean, -⟩ := exists_of_map_eq_ok ok
    rw [Rule.optionalCondition, condition_of_vaguer (rel.vaguer seen) boolean]
    rfl

theorem seen_of_bind {x : Option Grade} {g : Grade} (graded : x.bind Grade.seen? = some g) :
    x = some g ∧ g.below .vague = true := by
  obtain ⟨k, hk, asked⟩ := Option.bind_eq_some_iff.1 graded
  obtain ⟨rfl, seen⟩ := Grade.seen?_eq_some.1 asked
  exact ⟨hk, seen⟩

/-- Every expression has a grade of its own. -/
theorem length_exprs {G : Grading} {es : List (Node Expr)} {gs : List Grade}
    (graded : G.exprs es = some gs) : es.length = gs.length := by
  induction es generalizing gs with
  | nil =>
    cases graded
    rfl
  | cons e rest ih =>
    obtain ⟨g, -, graded⟩ := Option.bind_eq_some_iff.1 graded
    obtain ⟨gs, hgs, graded⟩ := Option.bind_eq_some_iff.1 graded
    cases graded
    rw [List.length_cons, List.length_cons, ih hgs]

namespace Previews

variable {G : Grading} {p q : State}

/-- What was found is made of the types alone. -/
theorem of_result {τ α : Type} {R : α → α → Prop} (h : Preview G p q) {r r' : Except Failure α}
    {t t' : τ} (each : ∀ u, r' = .ok u → ∃ a, r = .ok a ∧ R a u) :
    Previews G R p q (⟨r, t, p⟩ : Checked τ α) (⟨r', t', q⟩ : Checked τ α) := by
  intro u ok
  obtain ⟨a, ha, rel⟩ := each u ok
  exact ⟨a, ha, rel, .refl h⟩

/-- A function has its signature in the survey, and the same type with its result in the check. -/
theorem checkFunction (h : Preview G p q) {f : Function}
    (aliases : AliasesIn NoAlias (Parts.inside (.function f)))
    (allowed : G.binds (f.name.bind (·.value.symbol)) (.function f.returns) = true) :
    Previews G (Grade.function f.returns).Relates p q (Checker.checkFunction f p)
      (Checker.checkFunction f q) := by
  intro b ok
  obtain ⟨⟨types, r, rfl, signature⟩, symbols⟩ := lookup_checkFunction h.real ok
  have pushed : ∀ name, p.scopes.push.typeNamed? name = q.scopes.push.typeNamed? name := h.types
  have inner := Scopes.typeNamed?_bindTypeParams f.typeParams pushed
  -- what the survey takes for the function is its signature, which both passes agree on
  have same : Rule.signature p.scopes f.typeParams f.params f.returns =
      Rule.signature q.scopes f.typeParams f.params f.returns := by
    simp only [Rule.signature, Rule.params_congr inner, Scopes.resolveOptional_congr inner]
  have rel : (Grade.function f.returns).Relates
      (.function types (if f.returns.isSome then r else .unknown)) (.function types r) := by
    unfold Grade.function
    split
    · rfl
    · exact Ty.Vaguer.function types (.unknown r)
  have framed : Framed NoAlias q (Checker.checkFunction f q).state :=
    (framed_stepClosed _).checkFunction f q aliases
  have surveyed : Checker.checkFunction f p = surveyFunction f p := by
    cases f
    rw [Checker.checkFunction, h.surveying, if_pos rfl]
  rw [surveyed, surveyFunction, same, signature]
  refine ⟨_, rfl, rel, .of_framed h (.bind _ _ p) framed fun s => ?_⟩
  rw [symbols]
  exact (Reaches.bind h allowed rel).preview.symbols s

/-- A class is passed over by the survey, which does not see its name either. -/
theorem checkClass (h : Preview G p q) {c : Class}
    (aliases : AliasesIn NoAlias (Parts.inside (.classDef c)))
    (allowed : G.leaves (c.name.bind (·.value.symbol)) = true) :
    Previews G Grade.hidden.Relates p q (Checker.checkClass c p) (Checker.checkClass c q) := by
  intro b ok
  have symbols := lookup_checkClass h.real ok
  have framed : Framed NoAlias q (Checker.checkClass c q).state :=
    (framed_stepClosed _).checkClass c q aliases
  have surveyed : Checker.checkClass c p = .succeed .unknown c p := by
    cases c
    rw [Checker.checkClass, h.surveying, if_pos rfl]
  rw [surveyed]
  refine ⟨_, rfl, rfl, .of_framed h (.of_eq rfl rfl) framed fun s => ?_⟩
  rw [symbols]
  cases name : c.name.bind (·.value.symbol) with
  | none => exact h.symbols s
  | some bound =>
    rw [State.lookup_bind]
    split
    · rename_i same
      subst same
      rw [name] at allowed
      -- the survey has not bound the name of the class, so its grade has to allow for that
      refine Grading.relates_of_leaves allowed (fun hidden => ?_) b
      have before := h.symbols s
      rwa [hidden] at before
    · exact h.symbols s

/-- A condition that the check accepts, the survey does. -/
theorem condition {g : Grade} {τ : Type} {x y : Checked τ Ty} (h : Previews G g.Relates p q x y)
    (seen : g.below .vague = true) (span : Span) :
    Previews G (fun _ _ => True) p q (x.conclude (Rule.condition span))
      (y.conclude (Rule.condition span)) :=
  conclude h fun a _ _ rel ok => ⟨a, condition_of_vaguer (rel.vaguer seen) ok, trivial⟩

/-- A binding gets related types, the same ones if it is annotated. -/
theorem binding {declaredAs : Option (Node TypeExpr)} {span : Span} {g k : Grade} {a b u : Ty}
    (h : Preview G p q) (rel : g.Relates a b)
    (graded : g.binding declaredAs = some k)
    (ok : Rule.binding q.scopes declaredAs b span = .ok u) :
    ∃ t, Rule.binding p.scopes declaredAs a span = .ok t ∧ k.Relates t u := by
  cases declaredAs with
  | none =>
    cases graded
    cases ok
    exact ⟨_, rfl, rel.widen⟩
  | some annotation =>
    obtain ⟨_, seen, rfl⟩ := Option.map_eq_some_iff.1 graded
    obtain ⟨hdeclared, fits⟩ := Rule.binding_eq_ok_iff.mp ok
    have fits := (rel.vaguer (Grade.seen?_eq_some.1 seen).2).assignableTo fits
    refine ⟨u, Rule.binding_eq_ok_iff.mpr ⟨?_, fits⟩, rfl⟩
    rw [Scopes.resolve_congr h.types, hdeclared]

/-- What an assignment does to the states. -/
theorem assigned {target : Expr} {g : Grade} {a b : Ty} (h : Preview G p q)
    (allowed : G.rebinds target g = true) (rel : g.Relates a b) :
    Reaches G p q
      ((p.noteAssignment (some G.self) target a).rebind (some G.self) target a)
      ((q.noteAssignment (some G.self) target b).rebind (some G.self) target b) := by
  have closed := framed_stepClosed NoAlias
  have noted : Reaches G p q (p.noteAssignment (some G.self) target a)
      (q.noteAssignment (some G.self) target b) :=
    .quiet h (closed.noteAssignment _ _ _ _) (closed.noteAssignment _ _ _ _)
      (State.noteAssignment_scopes _ _ _ _) (State.noteAssignment_scopes _ _ _ _)
  cases target with
  | ident i =>
    have entry := Reaches.note noted.preview (.rebound i.name a.widen) (.rebound i.name b.widen)
    exact noted.trans (entry.trans (.bind entry.preview allowed rel.widen))
  | _ => exact noted

-- One case a constructor.  `graded` says what the grade is made of, and the success of each part in
-- the check is carried over to the survey, in the order in which the checker takes the parts.
mutual

/-- A graded expression that is accepted by the check is accepted by the survey before it. -/
theorem checkExpr (G : Grading) : ∀ (n : Node Expr) (g : Grade) (p q : State), G.expr n = some g →
    AliasesIn NoAlias (Parts.node n) → Preview G p q →
    Previews G g.Relates p q (Checker.checkExpr (some G.self) n p)
      (Checker.checkExpr (some G.self) n q)
  | ⟨span, e, slot⟩, g, p, q, graded, plain, h =>
    recorded (checkForm G span e g p q graded plain.tail h) span slot

theorem checkForm (G : Grading) (span : Span) : ∀ (e : Expr) (g : Grade) (p q : State),
    G.form e = some g → AliasesIn NoAlias (Parts.inside e) → Preview G p q →
    Previews G g.Relates p q (Checker.checkForm (some G.self) span e p)
      (Checker.checkForm (some G.self) span e q)
  | .literal _, _, _, _, graded, plain, h => by
    cases graded
    exact succeed h rfl
  | .ident i, _, _, _, graded, plain, h => by
    cases graded
    exact succeed h (h.ident i)
  | .call callee args, _, p, q, graded, plain, h => by
    obtain ⟨g, hg, graded⟩ := Option.bind_eq_some_iff.1 graded
    obtain ⟨gs, hgs, graded⟩ := Option.bind_eq_some_iff.1 graded
    refine andThen (checkExpr G callee g p q hg plain.left h) fun a b p q rel h => ?_
    refine conclude (checkExprs G args gs p q hgs plain.right h) fun as bs u rels ok => ?_
    exact rel.call rels (length_exprs hgs) graded ok
  | .conditional test consequent alternate, _, p, q, graded, plain, h => by
    obtain ⟨t, ht, graded⟩ := Option.bind_eq_some_iff.1 graded
    obtain ⟨g, hg, graded⟩ := Option.bind_eq_some_iff.1 graded
    obtain ⟨k, hk, graded⟩ := Option.bind_eq_some_iff.1 graded
    obtain ⟨ht, seen⟩ := seen_of_bind ht
    cases graded
    have tested := condition (checkExpr G test t p q ht plain.left h) seen test.span
    refine andThen tested fun _ _ p q _ h => ?_
    refine andThen (checkStmt G consequent g p q hg plain.right.left h) fun a b p q rel h => ?_
    refine conclude (checkOptionalStmt G alternate k p q hk plain.right.right h)
      fun c d u rel' ok => ?_
    cases ok
    exact ⟨_, rfl, RelatesOption.branches rel rel'⟩
  | .member base property, _, p, q, graded, plain, h => by
    obtain ⟨graded, seen⟩ := seen_of_bind graded
    refine andThen (checkExpr G base _ p q graded plain h) fun a b p q rel h => ?_
    refine recorded (of_result h fun u ok => ?_) _ _
    -- a property of a hidden instance is hidden, one of a vaguer object is vaguer
    exact rel.through (Rule.property _ _ · _) rfl Ty.Vaguer.property seen ok
  | .index base position, _, p, q, graded, plain, h => by
    obtain ⟨g, hg, graded⟩ := Option.bind_eq_some_iff.1 graded
    obtain ⟨k, hk, graded⟩ := Option.bind_eq_some_iff.1 graded
    obtain ⟨hg, seen⟩ := seen_of_bind hg
    obtain ⟨hk, seen'⟩ := seen_of_bind hk
    obtain rfl := Option.some.inj graded
    refine andThen (checkExpr G base g p q hg plain.left h) fun a b p q rel h => ?_
    refine conclude (checkExpr G position k p q hk plain.right h) fun i j u rel' ok => ?_
    exact rel.index seen (rel'.vaguer seen') ok
  | .function f, _, p, q, graded, plain, h => by
    obtain ⟨allowed, graded⟩ := Option.ite_none_right_eq_some.1 graded
    cases graded
    -- the survey does not enter the body, so there is nothing to induct on
    exact rebuild (checkFunction h plain allowed) _ _
  | .classDef c, _, p, q, graded, plain, h => by
    obtain ⟨allowed, graded⟩ := Option.ite_none_right_eq_some.1 graded
    cases graded
    exact rebuild (checkClass h plain allowed) _ _
  | .assertion e ty, _, p, q, graded, plain, h => by
    obtain ⟨g, hg, graded⟩ := Option.bind_eq_some_iff.1 graded
    obtain ⟨hg, seen⟩ := seen_of_bind hg
    cases graded
    refine rebuild (concludeWith (checkExpr G e g p q hg plain h) fun a b p q u rel h ok => ?_) _ _
    obtain ⟨asserted, resolved, ok⟩ := exists_of_bind_eq_ok ok
    refine ⟨u, ?_, rfl⟩
    -- both passes resolve the asserted type in scopes with the same names
    rw [Scopes.resolve_congr h.types, resolved]
    exact assertion_of_vaguer (rel.vaguer seen) ok
  | .throwing value, _, p, q, graded, plain, h => by
    obtain ⟨g, hg, graded⟩ := Option.bind_eq_some_iff.1 graded
    cases graded
    exact rebuild (conclude (checkExpr G value g p q hg plain h) fun _ _ u _ ok => ⟨u, ok, rfl⟩) _ _
  | .whileLoop test body, _, p, q, graded, plain, h => by
    obtain ⟨t, ht, graded⟩ := Option.bind_eq_some_iff.1 graded
    obtain ⟨g, hg, graded⟩ := Option.bind_eq_some_iff.1 graded
    obtain ⟨ht, seen⟩ := seen_of_bind ht
    cases graded
    have tested := condition (checkExpr G test t p q ht plain.left h) seen test.span
    refine andThen tested fun _ _ p q _ h => ?_
    have body := inScope h
      (checkStmts G body .exact g .undefined .undefined _ _ hg rfl plain.right h.push)
    exact conclude body fun _ _ u _ ok => ⟨u, ok, rfl⟩
  | .forLoop bindings test update body, _, p, q, graded, plain, h => by
    obtain ⟨_, hb, graded⟩ := Option.bind_eq_some_iff.1 graded
    obtain ⟨t, ht, graded⟩ := Option.bind_eq_some_iff.1 graded
    obtain ⟨_, seen, graded⟩ := Option.bind_eq_some_iff.1 graded
    obtain ⟨k, hk, graded⟩ := Option.bind_eq_some_iff.1 graded
    obtain ⟨g, hg, graded⟩ := Option.bind_eq_some_iff.1 graded
    cases graded
    have seen := (Grade.seen?_eq_some.1 seen).2
    refine inScope h (andThen (checkBindings G bindings _ _ hb plain.left h.push)
      fun _ _ p q _ h => ?_)
    -- the condition may be missing, and then its grade is exact
    have tested : Previews G (fun _ _ => True) p q
        ((Checker.checkOptional (some G.self) test p).conclude (Rule.optionalCondition test))
        ((Checker.checkOptional (some G.self) test q).conclude (Rule.optionalCondition test)) :=
      conclude (checkOptional G test t p q ht plain.right.left h) fun _ _ _ rel ok =>
        ⟨(), rel.condition seen ok, trivial⟩
    refine andThen tested fun _ _ p q _ h => ?_
    refine andThen (checkOptional G update k p q hk plain.right.right.left h) fun _ _ p q _ h => ?_
    have body := inScope h
      (checkStmts G body .exact g .undefined .undefined _ _ hg rfl plain.right.right.right h.push)
    exact conclude body fun _ _ u _ ok => ⟨u, ok, rfl⟩
  | .returning value, _, p, q, graded, plain, h => by
    obtain ⟨g, hg, graded⟩ := Option.bind_eq_some_iff.1 graded
    cases graded
    refine rebuild (conclude (checkOptional G value g p q hg plain h) fun a b u rel ok => ?_) _ _
    cases ok
    exact ⟨_, rfl, rel.getD⟩
  | .attempt body handler cleanup, _, p, q, graded, plain, h => by
    obtain ⟨g, hg, graded⟩ := Option.bind_eq_some_iff.1 graded
    obtain ⟨k, hk, graded⟩ := Option.bind_eq_some_iff.1 graded
    obtain ⟨l, hl, graded⟩ := Option.bind_eq_some_iff.1 graded
    cases graded
    have body := inScope h
      (checkStmts G body .exact g .undefined .undefined _ _ hg rfl plain.left h.push)
    refine andThen body fun _ _ p q _ h => ?_
    exact andThen (checkHandler G handler k p q hk plain.right.left h) fun _ _ p q _ h =>
      checkCleanup G cleanup l p q hl plain.right.right h
  | .array items, _, p, q, graded, plain, h => by
    obtain ⟨gs, hgs, graded⟩ := Option.bind_eq_some_iff.1 graded
    cases graded
    refine rebuild (conclude (checkExprs G items gs p q hgs plain h) fun as bs u rel ok => ?_) _ _
    cases ok
    exact ⟨_, rfl, .array rel⟩
  | .object properties, _, p, q, graded, plain, h => by
    obtain ⟨gs, hgs, graded⟩ := Option.bind_eq_some_iff.1 graded
    cases graded
    refine rebuild (conclude (checkProperties G properties gs p q hgs plain h)
      fun es fs u rel ok => ?_) _ _
    cases ok
    exact ⟨_, rfl, .object rel⟩
  | .assignment target value, _, p, q, graded, plain, h => by
    obtain ⟨g, hg, graded⟩ := Option.bind_eq_some_iff.1 graded
    obtain ⟨k, hk, graded⟩ := Option.bind_eq_some_iff.1 graded
    obtain ⟨allowed, graded⟩ := Option.ite_none_right_eq_some.1 graded
    obtain ⟨seen, allowed⟩ := Bool.and_eq_true_iff.1 allowed
    obtain rfl := Option.some.inj graded
    unfold Checker.checkForm
    split
    · refine andThen (checkExpr G target g p q hg plain.left h) fun a b p q rel h => ?_
      refine whenDone (checkExpr G value k p q hk plain.right h) fun t u p q rel' h => ?_
      intro w ok
      split at ok
      · nomatch ok
      · -- the survey compares vaguer types than the check, or knows nothing of the target
        rename_i fits
        cases ok
        have fits := rel.accepts rel' seen (Failure.assignable_of_unlessAssignable fits)
        simp only [Failure.unlessAssignable, Failure.unless, fits, if_true]
        exact ⟨t, rfl, rel', assigned h allowed rel'⟩
    · intro _ ok
      nomatch ok

theorem checkExprs (G : Grading) : ∀ (es : List (Node Expr)) (gs : List Grade) (p q : State),
    G.exprs es = some gs → AliasesIn NoAlias (Parts.nodes es) → Preview G p q →
    Previews G (Grade.Aligned Grade.Relates gs) p q (Checker.checkExprs (some G.self) es p)
      (Checker.checkExprs (some G.self) es q)
  | [], _, _, _, graded, plain, h => by
    cases graded
    exact succeed h .nil
  | e :: rest, _, p, q, graded, plain, h => by
    obtain ⟨g, hg, graded⟩ := Option.bind_eq_some_iff.1 graded
    obtain ⟨gs, hgs, graded⟩ := Option.bind_eq_some_iff.1 graded
    cases graded
    refine andThen (checkExpr G e g p q hg plain.left h) fun a b p q rel h => ?_
    refine conclude (checkExprs G rest gs p q hgs plain.right h) fun as bs us rels ok => ?_
    cases ok
    exact ⟨_, rfl, .cons rel rels⟩

theorem checkOptional (G : Grading) : ∀ (e : Option (Node Expr)) (g : Option Grade) (p q : State),
    G.optional e = some g → AliasesIn NoAlias (Parts.optional e) → Preview G p q →
    Previews G (RelatesOption g) p q (Checker.checkOptional (some G.self) e p)
      (Checker.checkOptional (some G.self) e q)
  | none, _, _, _, graded, plain, h => by
    cases graded
    exact succeed h trivial
  | some e, _, p, q, graded, plain, h => by
    obtain ⟨g, hg, rfl⟩ := Option.map_eq_some_iff.1 graded
    refine rebuild (conclude (checkExpr G e g p q hg plain h) fun a b u rel ok => ?_) _ _
    cases ok
    exact ⟨_, rfl, rel⟩

theorem checkStmt (G : Grading) : ∀ (n : Node Stmt) (g : Grade) (p q : State), G.stmt n = some g →
    AliasesIn NoAlias (Parts.stmt n) → Preview G p q →
    Previews G g.Relates p q (Checker.checkStmt (some G.self) n p)
      (Checker.checkStmt (some G.self) n q)
  | ⟨span, .expr e, slot⟩, g, p, q, graded, plain, h =>
    recorded (rebuild (checkExpr G e g p q graded plain.tail h) Stmt.expr Stmt.expr) span slot
  | ⟨span, .block body, slot⟩, g, p, q, graded, plain, h =>
    recorded (rebuild (inScope h
      (checkStmts G body .exact g .undefined .undefined _ _ graded rfl plain.tail h.push))
      Stmt.block Stmt.block) span slot
  | ⟨_, .typeAlias _ _ _, _⟩, _, _, _, graded, _, _ => nomatch graded
  | ⟨span, .binding kind bindings body, _⟩, g, p, q, graded, plain, h => by
    obtain ⟨_, hb, hg⟩ := Option.bind_eq_some_iff.1 graded
    have closed := framed_stepClosed NoAlias
    have emitted (e : Event) : Reaches G p q (p.emit e) (q.emit e) :=
      .quiet h (closed.emit e p) (closed.emit e q) (State.emit_scopes e p) (State.emit_scopes e q)
    have h := emitted (.bindings span kind (bindings.map fun b => b.name.value.name))
    refine recorded (after h (inScope h.preview ?_)) _ _
    refine andThen (checkBindings G bindings _ _ hb plain.tail.left h.preview.push)
      fun _ _ p q _ h => ?_
    exact checkStmts G body .exact g .undefined .undefined p q hg rfl plain.tail.right h

theorem checkOptionalStmt (G : Grading) : ∀ (n : Option (Node Stmt)) (g : Option Grade)
    (p q : State), G.optionalStmt n = some g → AliasesIn NoAlias (Parts.optionalStmt n) →
    Preview G p q →
    Previews G (RelatesOption g) p q (Checker.checkOptionalStmt (some G.self) n p)
      (Checker.checkOptionalStmt (some G.self) n q)
  | none, _, _, _, graded, plain, h => by
    cases graded
    exact succeed h trivial
  | some n, _, p, q, graded, plain, h => by
    obtain ⟨g, hg, rfl⟩ := Option.map_eq_some_iff.1 graded
    refine rebuild (conclude (checkStmt G n g p q hg plain h) fun a b u rel ok => ?_) _ _
    cases ok
    exact ⟨_, rfl, rel⟩

theorem checkStmts (G : Grading) : ∀ (body : List (Node Stmt)) (last g : Grade) (a b : Ty)
    (p q : State), G.stmts last body = some g → last.Relates a b →
    AliasesIn NoAlias (Parts.stmts body) → Preview G p q →
    Previews G g.Relates p q (Checker.checkStmts (some G.self) a body p)
      (Checker.checkStmts (some G.self) b body q)
  | [], _, _, _, _, _, _, graded, rel, plain, h => by
    cases graded
    exact succeed h rel
  | n :: rest, _, g, _, _, p, q, graded, _, plain, h => by
    obtain ⟨k, hk, graded⟩ := Option.bind_eq_some_iff.1 graded
    exact andThen (checkStmt G n k p q hk plain.left h) fun a b p q rel h =>
      checkStmts G rest k g a b p q graded rel plain.right h

theorem checkCleanup (G : Grading) : ∀ (body : Option (List (Node Stmt))) (g : Grade)
    (p q : State), G.cleanup body = some g → AliasesIn NoAlias (Parts.optionalBody body) →
    Preview G p q →
    Previews G Grade.exact.Relates p q (Checker.checkCleanup (some G.self) body p)
      (Checker.checkCleanup (some G.self) body q)
  | none, _, _, _, _, _, h => succeed h rfl
  | some body, _, p, q, graded, plain, h => by
    obtain ⟨g, hg, graded⟩ := Option.bind_eq_some_iff.1 graded
    have body := inScope h
      (checkStmts G body .exact g .undefined .undefined _ _ hg rfl plain h.push)
    exact rebuild (conclude body fun _ _ u _ ok => ⟨u, ok, rfl⟩) _ _

theorem checkHandler (G : Grading) : ∀ (handler : Option Handler) (g : Grade) (p q : State),
    G.handler handler = some g → AliasesIn NoAlias (Parts.optionalHandler handler) →
    Preview G p q →
    Previews G g.Relates p q (Checker.checkHandler (some G.self) handler p)
      (Checker.checkHandler (some G.self) handler q)
  | none, _, _, _, graded, plain, h => by
    cases graded
    exact succeed h rfl
  | some ⟨param, body⟩, g, p, q, graded, plain, h => by
    obtain ⟨allowed, graded⟩ := Option.ite_none_right_eq_some.1 graded
    refine inScope h (andThen (named h.push allowed rfl) fun _ _ p q _ h => ?_)
    exact checkStmts G body .exact g .undefined .undefined p q graded rfl plain h

theorem checkBindings (G : Grading) : ∀ (bs : List Binding) (p q : State),
    G.bindings bs = some () → AliasesIn NoAlias (Parts.bindings bs) → Preview G p q →
    Previews G (fun _ _ => True) p q (Checker.checkBindings (some G.self) bs p)
      (Checker.checkBindings (some G.self) bs q)
  | [], _, _, _, _, h => succeed h trivial
  | ⟨name, declaredAs, init⟩ :: rest, p, q, graded, plain, h => by
    obtain ⟨g, hg, graded⟩ := Option.bind_eq_some_iff.1 graded
    obtain ⟨k, hk, graded⟩ := Option.bind_eq_some_iff.1 graded
    obtain ⟨allowed, graded⟩ := Option.ite_none_right_eq_some.1 graded
    refine andThen (checkExpr G init g p q hg plain.left h) fun a b p q rel h => ?_
    intro w ok
    split at ok
    · nomatch ok
    · rename_i u bound
      obtain ⟨t, ht, rel⟩ := binding h rel hk bound
      rw [ht]
      -- both passes note, bind and record the name before they go on to the rest
      have noted := Reaches.note h (.bound name.value.name t) (.bound name.value.name u)
      have named := noted.trans (.bind noted.preview allowed rel)
      have reached := named.trans (.record named.preview name.ty name.ty t u)
      have later := checkBindings G rest _ _ graded plain.right reached.preview
      exact rebuild (after reached later) _ _ w ok

theorem checkProperties (G : Grading) : ∀ (ps : List Property) (gs : List Grade) (p q : State),
    G.properties ps = some gs → AliasesIn NoAlias (Parts.properties ps) → Preview G p q →
    Previews G (Grade.Aligned Grade.RelatesField gs) p q
      (Checker.checkProperties (some G.self) ps p) (Checker.checkProperties (some G.self) ps q)
  | [], _, _, _, graded, plain, h => by
    cases graded
    exact succeed h .nil
  | ⟨key, value⟩ :: rest, _, p, q, graded, plain, h => by
    obtain ⟨g, hg, graded⟩ := Option.bind_eq_some_iff.1 graded
    obtain ⟨gs, hgs, graded⟩ := Option.bind_eq_some_iff.1 graded
    cases graded
    refine andThen (checkExpr G value g p q hg plain.left h) fun a b p q rel h => ?_
    refine conclude (checkProperties G rest gs p q hgs plain.right h) fun es fs us rels ok => ?_
    cases ok
    exact ⟨_, rfl, .cons ⟨rfl, rel.widen⟩ rels⟩

end

end Previews

end Checker
end StructuralTyping
