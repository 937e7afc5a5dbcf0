import StructuralTyping.Proofs.CheckerSteps
import StructuralTyping.Proofs.RelabeledRules
import StructuralTyping.Proofs.SelfLinking

/-! # Checks that mirror the check of a bare tree

A tree may come with type ids in its slots and with symbols on its references to `self`.  `Mirrors`
compares the check of a part with the check of the *bare* part, whose slots are empty and whose
references to `self` in methods have no symbol: both have the same result and reach the same state.

The one place where a slot is read is the inference of a result type from the returns of a body.
There the ids were written just before, so `Mirrors` also carries that the own returns of both trees
agree once a part was checked for real.

As to the trees, the check of the bare part shows which slots are written; every other slot keeps
what it held (`Overwritten`).  This module has the notion and how it composes.
-/
namespace StructuralTyping

/-! ## Slots that are written over -/

/-- The slots `after` hold what was written, and where nothing was written, what they held
before. -/
structure Overwritten (written before after : List (Option TypeId)) : Prop where
  length : written.length = before.length
  slots : after = List.zipWith Option.or written before

namespace Overwritten

variable {written before after written' before' after' : List (Option TypeId)}

theorem nil : Overwritten [] [] [] := ⟨rfl, rfl⟩

/-- One slot more, which holds the new id if there is one. -/
theorem cons (slot new : Option TypeId) (h : Overwritten written before after) :
    Overwritten (new :: written) (slot :: before) (new.or slot :: after) :=
  ⟨congrArg Nat.succ h.length, congrArg (new.or slot :: ·) h.slots⟩

/-- Slots in a row are written over each in its own place. -/
theorem append (h : Overwritten written before after)
    (h' : Overwritten written' before' after') :
    Overwritten (written ++ written') (before ++ before') (after ++ after') where
  length := by rw [List.length_append, List.length_append, h.length, h'.length]
  slots := by rw [h.slots, h'.slots, List.zipWith_append h.length]

/-- Nothing was written. -/
theorem kept (slots : List (Option TypeId)) :
    Overwritten (slots.map fun _ => none) slots slots := by
  induction slots with
  | nil => exact nil
  | cons slot rest ih => exact cons slot none ih

end Overwritten

/-! ## Bare trees -/

namespace Relabeling

/-- Empties all slots. -/
def untyped : Relabeling := ⟨fun _ => none, id, false⟩

/-- Empties all slots and takes the symbols from references to `self` in methods. -/
def bare : Relabeling := ⟨fun _ => none, fun _ => none, true⟩

theorem bare_classDef (name : Option (Node Ident)) (fields : List FieldDecl)
    (ms : List (Node Method)) :
    bare.classDef ⟨name, fields, ms⟩ =
      ⟨bare.optionalName name, bare.fieldDecls fields, bare.methods true ms⟩ := rfl

/-- A bare tree does not tell how its references were linked. -/
theorem bare_absorbs_linking (self : Option Symbol) : bare.Absorbs (linking self) where
  ty _ := rfl
  self _ := rfl
  nested h := nomatch h

end Relabeling

namespace Checker

open Relabeling (bare)

/-- What a check is compared by, for one kind of part: its bare form, its own expressions, and
whether of three trees the last is the second with the slots written over that hold ids in the
first. -/
structure Kind (τ : Type) where
  erase : τ → τ
  own : τ → List (Node Expr)
  overwritten : τ → τ → τ → Prop
  kept (t : τ) : overwritten (erase t) t t

namespace Kind

variable {τ υ : Type}

/-- A kind of parts with the slots `slots`. -/
def ofSlots (erase : τ → τ) (slots : τ → List (Option TypeId)) (own : τ → List (Node Expr))
    (slots_erase : ∀ t, slots (erase t) = (slots t).map fun _ => none) : Kind τ where
  erase := erase
  own := own
  overwritten written before after := Overwritten (slots written) (slots before) (slots after)
  kept t := slots_erase t ▸ .kept (slots t)

/-- Parts without marks. -/
def plain (τ : Type) : Kind τ := .ofSlots id (fun _ => []) (fun _ => []) fun _ => rfl

/-- Two parts in a row. -/
def pair (K₁ : Kind τ) (K₂ : Kind υ) : Kind (τ × υ) where
  erase p := (K₁.erase p.1, K₂.erase p.2)
  own p := K₁.own p.1 ++ K₂.own p.2
  overwritten p₀ p p' := K₁.overwritten p₀.1 p.1 p'.1 ∧ K₂.overwritten p₀.2 p.2 p'.2
  kept p := ⟨K₁.kept p.1, K₂.kept p.2⟩

/-- A declared name: one slot. -/
def name : Kind (Node Ident) := .ofSlots bare.name (fun n => [n.ty]) (fun _ => []) fun _ => rfl

/-- Declared names in a list. -/
def names : Kind (List (Node Ident)) :=
  .ofSlots bare.names Slots.names (fun _ => []) (Slots.names_relabeled bare)

/-- A declared name that may be absent. -/
def optionalName : Kind (Option (Node Ident)) :=
  .ofSlots bare.optionalName Slots.optionalName (fun _ => []) (Slots.optionalName_relabeled bare)

/-- An annotation, which has no expressions of its own. -/
def typeExpr : Kind (Node TypeExpr) :=
  .ofSlots bare.typeExpr Slots.typeExpr (fun _ => []) (Slots.typeExpr_relabeled bare)

/-- An annotation that may be absent. -/
def annotation : Kind (Option (Node TypeExpr)) :=
  .ofSlots bare.optionalTypeExpr Slots.optionalTypeExpr (fun _ => [])
    (Slots.optionalTypeExpr_relabeled bare)

/-- The parameters of a function or method. -/
def params : Kind (List Param) :=
  .ofSlots bare.params Slots.params (fun _ => []) (Slots.params_relabeled bare)

/-- A function; its returns are its own affair, so it has no own expressions for the outside. -/
def function : Kind Function :=
  .ofSlots bare.function Slots.function (fun _ => []) (Slots.function_relabeled bare)

/-- A class; like a function, it shows no own expressions. -/
def classDef : Kind Class :=
  .ofSlots bare.classDef Slots.classDef (fun _ => []) (Slots.classDef_relabeled bare)

/-- The declared fields of a class. -/
def fields : Kind (List FieldDecl) :=
  .ofSlots bare.fieldDecls Slots.fieldDecls (fun _ => []) (Slots.fieldDecls_relabeled bare)

section Reach

variable (r : Bool)

/-- An expression, in or out of reach of a class. -/
def expr : Kind (Node Expr) :=
  .ofSlots (bare.node r) Slots.node Own.node (Slots.node_relabeled bare r)

/-- The form of an expression that stands at `span`. -/
def form (span : Span) : Kind Expr :=
  .ofSlots (bare.inside r) Slots.inside (fun e => Own.node ⟨span, e, none⟩)
    (Slots.inside_relabeled bare r)

/-- Expressions in a list. -/
def exprs : Kind (List (Node Expr)) :=
  .ofSlots (bare.nodes r) Slots.nodes Own.nodes (Slots.nodes_relabeled bare r)

/-- An expression that may be absent. -/
def optional : Kind (Option (Node Expr)) :=
  .ofSlots (bare.optional r) Slots.optional Own.optional (Slots.optional_relabeled bare r)

/-- The value of a return that stands at `span`. -/
def returned (span : Span) : Kind (Option (Node Expr)) :=
  .ofSlots (bare.optional r) Slots.optional (fun value => Own.node ⟨span, .returning value, none⟩)
    (Slots.optional_relabeled bare r)

/-- A statement. -/
def stmt : Kind (Node Stmt) :=
  .ofSlots (bare.stmt r) Slots.stmt Own.stmt (Slots.stmt_relabeled bare r)

/-- What a statement consists of. -/
def insideStmt : Kind Stmt :=
  .ofSlots (bare.insideStmt r) Slots.insideStmt Own.insideStmt (Slots.insideStmt_relabeled bare r)

/-- Statements in a list. -/
def stmts : Kind (List (Node Stmt)) :=
  .ofSlots (bare.stmts r) Slots.stmts Own.stmts (Slots.stmts_relabeled bare r)

/-- A statement that may be absent. -/
def optionalStmt : Kind (Option (Node Stmt)) :=
  .ofSlots (bare.optionalStmt r) Slots.optionalStmt Own.optionalStmt
    (Slots.optionalStmt_relabeled bare r)

/-- A body that may be absent. -/
def optionalBody : Kind (Option (List (Node Stmt))) :=
  .ofSlots (bare.optionalBody r) Slots.optionalBody Own.optionalBody
    (Slots.optionalBody_relabeled bare r)

/-- The bindings of a form. -/
def bindings : Kind (List Binding) :=
  .ofSlots (bare.bindings r) Slots.bindings Own.bindings (Slots.bindings_relabeled bare r)

/-- A handler that may be absent. -/
def handler : Kind (Option Handler) :=
  .ofSlots (bare.optionalHandler r) Slots.optionalHandler Own.optionalHandler
    (Slots.optionalHandler_relabeled bare r)

/-- The properties of an object. -/
def properties : Kind (List Property) :=
  .ofSlots (bare.properties r) Slots.properties Own.properties
    (Slots.properties_relabeled bare r)

/-- A method; like a function, it shows no own expressions. -/
def method : Kind Method :=
  .ofSlots (bare.method r) Slots.method (fun _ => []) (Slots.method_relabeled bare r)

/-- A method with the slot of its node. -/
def methodNode : Kind (Node Method) :=
  .ofSlots (fun n => ⟨n.span, bare.method r n.value, none⟩) (fun n => n.ty :: Slots.method n.value)
    (fun _ => []) fun n => congrArg (none :: ·) (Slots.method_relabeled bare r n.value)

/-- The methods of a class. -/
def methods : Kind (List (Node Method)) :=
  .ofSlots (bare.methods r) Slots.methods (fun _ => []) (Slots.methods_relabeled bare r)

end Reach

end Kind

/-! ## Two trees that came of a part -/

/-- The returns among expressions are the same, up to the values that they return. -/
def SameReturns (es es₀ : List (Node Expr)) : Prop :=
  es.filterMap OwnReturn.of? = es₀.filterMap OwnReturn.of?

theorem SameReturns.append {es es₀ fs fs₀ : List (Node Expr)} (h : SameReturns es es₀)
    (h' : SameReturns fs fs₀) : SameReturns (es ++ fs) (es₀ ++ fs₀) := by
  unfold SameReturns at *
  rw [List.filterMap_append, List.filterMap_append, h, h']

/-- The tree `x` is the part `t` with some slots written over, as they are in `x₀`. -/
structure Overlaid {τ : Type} (K : Kind τ) (t x x₀ : τ) : Prop where
  shape : K.erase x = K.erase t
  slots : K.overwritten x₀ t x

/-- A part that was not checked lies over its bare form. -/
theorem Overlaid.kept {τ : Type} (K : Kind τ) (t : τ) : Overlaid K t t (K.erase t) :=
  ⟨rfl, K.kept t⟩

/-- The check `e` of the part `t` mirrors the check `e₀` of the bare part, in the first pass of a
class or not as `pass` says. -/
structure Mirrors {τ α : Type} (K : Kind τ) (pass : Bool) (t : τ) (e e₀ : Checked τ α) :
    Prop where
  result : e.result = e₀.result
  state : e.state = e₀.state
  surveying : e.state.surveying = pass
  tree : Overlaid K t e.tree e₀.tree
  returns : pass = false → ∀ a, e.result = .ok a → SameReturns (K.own e.tree) (K.own e₀.tree)

namespace Mirrors

variable {τ υ ω α β : Type} {K : Kind τ} {K₂ : Kind υ} {K' : Kind ω} {pass : Bool} {t : τ}
  {e e₀ : Checked τ α}

/-- Nothing was written. -/
theorem kept {result : Except Failure α} {st : State} (surveying : st.surveying = pass)
    (returns : ∀ a, result = .ok a → SameReturns (K.own t) (K.own (K.erase t))) :
    Mirrors K pass t ⟨result, t, st⟩ ⟨result, K.erase t, st⟩ :=
  ⟨rfl, rfl, surveying, .kept K t, fun _ => returns⟩

/-- A failure leaves both trees as they were. -/
theorem failed {f : Failure} {st : State} (surveying : st.surveying = pass) :
    Mirrors K pass t (.fail f t st : Checked τ α) (.fail f (K.erase t) st) :=
  .kept surveying fun _ h => nomatch h

/-- A conclusion is drawn from the value and the state, which are the same. -/
theorem concludeWith {f f₀ : α → State → Except Failure β} (h : Mirrors K pass t e e₀)
    (hf : f₀ = f) : Mirrors K pass t (e.concludeWith f) (e₀.concludeWith f₀) where
  result := by
    subst hf
    simp only [Edit.concludeWith, h.result, h.state]
  state := h.state
  surveying := h.surveying
  tree := h.tree
  returns real b hb := by
    cases hr : e.result with
    | ok a => exact h.returns real a hr
    | error x => simp [Edit.concludeWith, hr, Except.bind] at hb

theorem conclude {f f₀ : α → Except Failure β} (h : Mirrors K pass t e e₀) (hf : f₀ = f) :
    Mirrors K pass t (e.conclude f) (e₀.conclude f₀) := by
  subst hf
  show Mirrors K pass t (e.concludeWith fun a _ => f₀ a) (e₀.concludeWith fun a _ => f₀ a)
  exact h.concludeWith rfl

/-- Trees that lie over each other are put together alike. -/
theorem rebuild {w : ω} {build build₀ : τ → ω} (h : Mirrors K pass t e e₀)
    (whole : ∀ {x x₀}, Overlaid K t x x₀ → Overlaid K' w (build x) (build₀ x₀))
    (returns : ∀ {x x₀}, SameReturns (K.own x) (K.own x₀) →
      SameReturns (K'.own (build x)) (K'.own (build₀ x₀))) :
    Mirrors K' pass w (e.rebuild build) (e₀.rebuild build₀) where
  result := h.result
  state := h.state
  surveying := h.surveying
  tree := whole h.tree
  returns real a ha := returns (h.returns real a ha)

/-- Two checks in a row; the second starts in the same state on both sides. -/
theorem andThen {u : υ} {w : ω} {next next₀ : α → State → Checked υ β} {build build₀ : τ → υ → ω}
    (h₁ : Mirrors K pass t e e₀)
    (h₂ : ∀ a st, st.surveying = pass → Mirrors K₂ st.surveying u (next a st) (next₀ a st))
    (whole : ∀ {x x₀ y y₀}, Overlaid K t x x₀ → Overlaid K₂ u y y₀ →
      Overlaid K' w (build x y) (build₀ x₀ y₀))
    (returns : ∀ {x x₀ y y₀}, SameReturns (K.own x) (K.own x₀) →
      SameReturns (K₂.own y) (K₂.own y₀) →
      SameReturns (K'.own (build x y)) (K'.own (build₀ x₀ y₀))) :
    Mirrors K' pass w (e.andThen u next build) (e₀.andThen (K₂.erase u) next₀ build₀) := by
  have hresult := h₁.result
  unfold Edit.andThen
  cases hr : e.result with
  | error x =>
    rw [hr] at hresult
    rw [← hresult]
    exact ⟨rfl, h₁.state, h₁.surveying, whole h₁.tree (.kept K₂ u), fun _ _ h => nomatch h⟩
  | ok a =>
    rw [hr] at hresult
    have h₂ := h₂ a e.state h₁.surveying
    rw [h₁.surveying] at h₂
    rw [← hresult, ← h₁.state]
    exact ⟨h₂.result, h₂.state, h₂.surveying, whole h₁.tree h₂.tree,
      fun real b hb => returns (h₁.returns real a hr) (h₂.returns real b hb)⟩

/-- Two parts in a row, kept as a pair. -/
theorem andThenPair {u : υ} {next next₀ : α → State → Checked υ β} (h₁ : Mirrors K pass t e e₀)
    (h₂ : ∀ a st, st.surveying = pass → Mirrors K₂ st.surveying u (next a st) (next₀ a st)) :
    Mirrors (K.pair K₂) pass (t, u) (e.andThen u next .mk) (e₀.andThen (K₂.erase u) next₀ .mk) :=
  h₁.andThen h₂ (fun h h' => ⟨congrArg₂ Prod.mk h.shape h'.shape, h.slots, h'.slots⟩)
    SameReturns.append

/-- A last step that leaves both trees alone. -/
theorem whenDone {next next₀ : α → τ → State → Checked τ β} (h : Mirrors K pass t e e₀)
    (tree : ∀ a x st, (next a x st).tree = x) (tree₀ : ∀ a x st, (next₀ a x st).tree = x)
    (surveying : ∀ a x st, (next a x st).state.surveying = st.surveying)
    (same : ∀ a, e.result = .ok a →
      (next a e.tree e.state).result = (next₀ a e₀.tree e.state).result ∧
        (next a e.tree e.state).state = (next₀ a e₀.tree e.state).state) :
    Mirrors K pass t (e.whenDone next) (e₀.whenDone next₀) := by
  have hresult := h.result
  unfold Edit.whenDone
  cases hr : e.result with
  | error x =>
    rw [hr] at hresult
    rw [← hresult]
    exact ⟨rfl, h.state, h.surveying, h.tree, fun _ _ h => nomatch h⟩
  | ok a =>
    rw [hr] at hresult
    obtain ⟨hresult', hstate⟩ := same a hr
    rw [← hresult, ← h.state]
    refine ⟨hresult', hstate, (surveying _ _ _).trans h.surveying, ?_, fun real b _ => ?_⟩
    · rw [tree, tree₀]
      exact h.tree
    · rw [tree, tree₀]
      exact h.returns real a hr

/-- Scopes are the same on both sides. -/
theorem inScope {work work₀ : State → Checked τ α} {st : State}
    (h : Mirrors K pass t (work st.push) (work₀ st.push)) :
    Mirrors K pass t (Checker.inScope work st) (Checker.inScope work₀ st) :=
  ⟨h.result, congrArg State.pop h.state, h.surveying, h.tree, h.returns⟩

end Mirrors

/-- A record gives a new id or keeps the old one. -/
theorem State.record_or (slot : Option TypeId) (t : Ty) (st : State) :
    st.record slot t = ((st.record none t).1.or slot, (st.record none t).2) := by
  unfold State.record
  split <;> rfl

namespace Mirrors

variable {τ υ ω α β : Type} {K : Kind τ} {pass : Bool} {t : τ}

/-- Both sides record the same id, and where there is none the old one stays. -/
theorem recorded {K' : Kind (Node τ)} {span : Span} {e e₀ : Checked τ Ty} (slot : Option TypeId)
    (h : Mirrors K pass t e e₀)
    (erase : ∀ x s, K'.erase ⟨span, x, s⟩ = ⟨span, K.erase x, none⟩)
    (slots : ∀ x x₀ new, K.overwritten x₀ t x →
      K'.overwritten ⟨span, x₀, new⟩ ⟨span, t, slot⟩ ⟨span, x, new.or slot⟩)
    (returns : ∀ x x₀ s s₀, SameReturns (K.own x) (K.own x₀) →
      SameReturns (K'.own ⟨span, x, s⟩) (K'.own ⟨span, x₀, s₀⟩)) :
    Mirrors K' pass ⟨span, t, slot⟩ (Checker.recorded span slot e)
      (Checker.recorded span none e₀) := by
  have whole (new : Option TypeId) :
      Overlaid K' ⟨span, t, slot⟩ ⟨span, e.tree, new.or slot⟩ ⟨span, e₀.tree, new⟩ := by
    exact ⟨by rw [erase, erase, h.tree.shape], slots _ _ _ h.tree.slots⟩
  have hresult := h.result
  unfold Checker.recorded
  cases hr : e.result with
  | error x =>
    rw [hr] at hresult
    rw [← hresult]
    exact ⟨rfl, h.state, h.surveying, whole none, fun _ _ h => nomatch h⟩
  | ok a =>
    rw [hr] at hresult
    rw [← hresult, ← h.state]
    dsimp only
    rw [State.record_or slot]
    refine ⟨rfl, rfl, ?_, whole _, fun real b _ => ?_⟩
    · exact (Continues.record none a e.state).surveying.trans h.surveying
    · exact returns _ _ _ _ (h.returns real a hr)

/-- Recording the type of a name. -/
theorem recordName (n : Node Ident) (t : Ty) (st : State) :
    Mirrors Kind.name st.surveying n
      (.succeed () (st.recordName n t).1 (st.recordName n t).2)
      (.succeed () (st.recordName (bare.name n) t).1 (st.recordName (bare.name n) t).2) := by
  unfold State.recordName
  rw [State.record_or n.ty]
  refine ⟨rfl, rfl, (Continues.record _ _ _).surveying, ⟨rfl, ?_⟩, fun _ _ _ => rfl⟩
  exact Overwritten.nil.cons _ _

/-- A name is recorded before the rest of the part is checked. -/
theorem afterName {K₂ : Kind υ} (K' : Kind ω) {n : Node Ident} {t : Ty} {u : υ} {w : ω} {st : State}
    {tail tail₀ : State → Checked υ β} (build build₀ : Node Ident → υ → ω)
    (h : ∀ st, Mirrors K₂ st.surveying u (tail st) (tail₀ st))
    (whole : ∀ {x x₀ y y₀}, Overlaid Kind.name n x x₀ → Overlaid K₂ u y y₀ →
      Overlaid K' w (build x y) (build₀ x₀ y₀))
    (returns : ∀ {x x₀ y y₀}, SameReturns (K₂.own y) (K₂.own y₀) →
      SameReturns (K'.own (build x y)) (K'.own (build₀ x₀ y₀))) :
    Mirrors K' st.surveying w
      ((tail (st.recordName n t).2).rebuild (build (st.recordName n t).1))
      ((tail₀ (st.recordName (bare.name n) t).2).rebuild
        (build₀ (st.recordName (bare.name n) t).1)) :=
  (recordName n t st).andThen (fun _ st _ => h st) whole fun _ h => returns h

/-- A name is recorded on both sides. -/
theorem named (name : Option (Node Ident)) (t : Ty) (st : State) :
    Mirrors Kind.optionalName st.surveying name (Checker.named name t st)
      (Checker.named (bare.optionalName name) t st) := by
  cases name with
  | none => exact .kept rfl fun _ _ => rfl
  | some n =>
    have h := recordName n t (st.bind n.value.symbol t)
    rw [State.bind_surveying] at h
    exact ⟨rfl, h.state, h.surveying, ⟨congrArg some h.tree.shape, h.tree.slots⟩, fun _ _ _ => rfl⟩

/-- Parameters are recorded on both sides. -/
theorem checkParams (params : List Param) (st : State) :
    Mirrors Kind.params st.surveying params (Checker.checkParams params st)
      (Checker.checkParams (bare.params params) st) := by
  induction params generalizing st with
  | nil => exact .kept rfl fun _ _ => rfl
  | cons p rest ih =>
    obtain ⟨name, declaredAs⟩ := p
    rw [Relabeling.params, Checker.checkParams, Checker.checkParams, Rule.param_relabeled]
    cases Rule.param st.scopes declaredAs with
    | error f => exact .failed rfl
    | ok t =>
      rw [← State.bind_surveying name.value.symbol t st]
      refine afterName Kind.params (fun name rest => ⟨name, declaredAs⟩ :: rest)
        (fun name rest => ⟨name, bare.optionalTypeExpr declaredAs⟩ :: rest)
        (fun st => (ih st).conclude rfl) (fun h h' => ⟨?_, ?_⟩) fun _ => rfl
      · exact congrArg₂ (fun name rest => ⟨name, bare.optionalTypeExpr declaredAs⟩ :: rest)
          h.shape h'.shape
      · exact h.slots.append ((Kind.annotation.kept declaredAs).append h'.slots)

/-- The returns of the two bodies agree, so both have the same result type. -/
theorem checkCallable {r : Bool} {typeParams : List (Node Ident)} {params : List Param}
    {returns : Option (Node TypeExpr)} {body : List (Node Stmt)} {st : State}
    {announce : List Ty → Option Ty → State → State}
    {checkBody checkBody₀ : State → Checked (List (Node Stmt)) Ty}
    (hannounce : ∀ types declared st, (announce types declared st).surveying = st.surveying)
    (hbody : ∀ st, Mirrors (Kind.stmts r) st.surveying body (checkBody st) (checkBody₀ st))
    (real : st.surveying = false) :
    Mirrors (Kind.params.pair (Kind.stmts r)) false (params, body)
      (Checker.checkCallable typeParams params returns body announce checkBody st)
      (Checker.checkCallable (bare.names typeParams) (bare.params params)
        (bare.optionalTypeExpr returns) (bare.stmts r body) announce checkBody₀ st) := by
  have hparams := checkParams params (st.push.bindTypeParams typeParams)
  rw [show (st.push.bindTypeParams typeParams).surveying = false from real] at hparams
  unfold Checker.checkCallable
  refine .inScope (.andThenPair ?_ fun types st real => ?_)
  · rw [State.bindTypeParams_relabeled]
    exact hparams
  · rw [Scopes.resolveOptional_relabeled]
    cases st.scopes.resolveOptional returns with
    | error f => exact .failed rfl
    | ok declared =>
      have h := hbody (announce types declared st)
      rw [hannounce] at h
      refine h.whenDone (fun _ _ _ => rfl) (fun _ _ _ => rfl) (fun _ _ _ => rfl) fun a ha => ?_
      refine ⟨?_, rfl⟩
      rw [OwnReturn.ofBody_eq, OwnReturn.ofBody_eq]
      -- here the slots of the returns are read, which were just written on both sides
      exact congrArg (fun sites => (Rule.result _ declared sites).map _) (h.returns real a ha)

/-- What is checked inside of a class, which is left with the survey that was under way before. -/
theorem leaveClass {e e₀ : Checked (List FieldDecl × List (Node Method)) α}
    {p : List FieldDecl × List (Node Method)}
    (h : Mirrors (Kind.fields.pair (Kind.methods true)) pass p e e₀) (st : State) :
    Mirrors (Kind.fields.pair (Kind.methods true)) st.surveying p
      (e.mapState fun after => { after with survey := st.survey })
      (e₀.mapState fun after => { after with survey := st.survey }) where
  result := h.result
  state := congrArg (fun after : State => { after with survey := st.survey }) h.state
  surveying := rfl
  tree := h.tree
  returns _ _ _ := rfl

end Mirrors

/-- A check leaves an expression at its place. -/
theorem checkExpr_span (receiver : Receiver) (n : Node Expr) (st : State) :
    (checkExpr receiver n st).tree.span = n.span := by
  obtain ⟨_, _, _⟩ := n
  unfold checkExpr recorded
  split <;> rfl

/-- An expression that was checked for real has the latest id in its slot. -/
theorem recorded_ty {τ : Type} {span : Span} {slot : Option TypeId} {e : Checked τ Ty} {a : Ty}
    (ok : (recorded span slot e).result = .ok a)
    (real : (recorded span slot e).state.surveying = false) :
    (recorded span slot e).tree.ty =
      some ⟨UInt32.ofNat ((recorded span slot e).state.table.size - 1)⟩ := by
  cases hr : e.result with
  | error f => simp [recorded, hr] at ok
  | ok t =>
    simp only [recorded, hr] at real ⊢
    have real : e.state.surveying = false :=
      (Continues.record slot t e.state).surveying.symm.trans real
    rw [State.record_of_real real]
    simp [TypeTable.nextId]

/-- A return that was checked for real has the latest id, if it returns a value. -/
theorem checkOptional_ty {receiver : Receiver} {value : Option (Node Expr)} {st : State}
    {a : Option Ty} (ok : (checkOptional receiver value st).result = .ok a)
    (real : (checkOptional receiver value st).state.surveying = false) :
    (checkOptional receiver value st).tree.bind (·.ty) = value.bind fun _ =>
      some ⟨UInt32.ofNat ((checkOptional receiver value st).state.table.size - 1)⟩ := by
  cases value with
  | none => rfl
  | some e =>
    obtain ⟨span, e, slot⟩ := e
    have checked : ∃ t, (checkExpr receiver ⟨span, e, slot⟩ st).result = .ok t := by
      cases hr : (checkExpr receiver ⟨span, e, slot⟩ st).result with
      | ok t => exact ⟨t, rfl⟩
      | error f => simp [checkOptional, Edit.conclude, hr, Except.bind] at ok
    obtain ⟨t, ht⟩ := checked
    exact recorded_ty ht real

end Checker
end StructuralTyping
