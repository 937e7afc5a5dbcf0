import StructuralTyping.Proofs.Noninterference
import StructuralTyping.Proofs.RuleFailures

/-! # Where a check fails

A failure shows at the span of a node: of the part that is checked or of a part inside it, or of a
name, an annotation or a method that belongs to one of them (`Blames.checkStmt` and its companions).
With the place goes the cause: no check looks for a type that is not in the table.

The returns of a body are the one thing that is looked for in the checked tree and not in the tree
that came in.  Their spans are those of the tree that came in, and their ids were given out while
the body was checked, so the types are there (`exists_ty_of_checked`).
-/
namespace StructuralTyping

/-- An id that was given out up to now has a type, even if the ids have wrapped around. -/
theorem TypeTable.exists_get?_of_mem_idsFrom {table : TypeTable} {start : Nat} {id : TypeId}
    (h : id ∈ idsFrom start table.size) : ∃ t, table.get? id = some t := by
  obtain ⟨i, hi, rfl⟩ := List.mem_map.mp h
  have below : i < table.size := by
    have := List.mem_range'_1.mp hi
    omega
  have wrapped : (UInt32.ofNat i).toNat ≤ i := by
    rw [UInt32.toNat_ofNat']
    exact Nat.mod_le _ _
  have position : (UInt32.ofNat i).toNat < table.entries.size := Nat.lt_of_le_of_lt wrapped below
  exact ⟨_, Array.getElem?_eq_getElem position⟩

namespace Checker

variable {τ υ ω α β : Type} {S : Span → Prop}

/-! ## The returns of a checked body -/

section Returns

variable {receiver : Receiver} {last : Ty} {body : List (Node Stmt)} {st : State} {t : Ty}

/-- The own returns of a checked body stand where those of the body stood. -/
theorem exists_own_of_checked {site : OwnReturn}
    (h : site ∈ OwnReturn.ofBody (checkStmts receiver last body st).tree) :
    ∃ e ∈ Own.stmts body, e.span = site.span := by
  have shape := (Mirrors.checkStmts receiver last body st).tree.shape
  have own : (Own.stmts (checkStmts receiver last body st).tree).map
      (Relabeling.bare.node receiver.isSome) =
        (Own.stmts body).map (Relabeling.bare.node receiver.isSome) := by
    rw [← Own.stmts_relabeled, ← Own.stmts_relabeled]
    exact congrArg Own.stmts shape
  rw [OwnReturn.ofBody_eq] at h
  obtain ⟨n, hn, hsite⟩ := List.mem_filterMap.mp h
  have span : n.span = site.span := by
    obtain ⟨span, form, ty⟩ := n
    cases form with
    | returning value => exact congrArg OwnReturn.span (Option.some.inj hsite)
    | _ => cases hsite
  have mem := List.mem_map_of_mem (f := Relabeling.bare.node receiver.isSome) hn
  rw [own] at mem
  obtain ⟨e, he, same⟩ := List.mem_map.mp mem
  refine ⟨e, he, ?_⟩
  rw [← span, ← Relabeling.node_span Relabeling.bare receiver.isSome e, same, Relabeling.node_span]

/-- The ids of the own returns of a body that was checked for real have types. -/
theorem exists_ty_of_checked (real : st.surveying = false)
    (ok : (checkStmts receiver last body st).result = .ok t) {site : OwnReturn}
    (h : site ∈ OwnReturn.ofBody (checkStmts receiver last body st).tree) :
    ∃ u, site.ty (checkStmts receiver last body st).state.table = .ok u := by
  have mirrors := Mirrors.checkStmts receiver last body st
  -- the returns are those of the bare body, whose slots hold only ids of this check
  have blank : Blank (Slots.stmts (Relabeling.bare.stmts receiver.isSome body)) := by
    rw [Slots.stmts_relabeled]
    intro slot h
    obtain ⟨_, _, rfl⟩ := List.mem_map.mp h
    rfl
  have numbered := Numbered.checkStmts receiver last _ st real blank
  have returns : (Own.stmts (checkStmts receiver last body st).tree).filterMap OwnReturn.of? =
      (Own.stmts (checkStmts receiver last (Relabeling.bare.stmts receiver.isSome body)
        st).tree).filterMap OwnReturn.of? := mirrors.returns real t ok
  rw [OwnReturn.ofBody_eq, returns] at h
  obtain ⟨n, hn, hsite⟩ := List.mem_filterMap.mp h
  obtain ⟨span, form, ty⟩ := n
  cases form with
  | returning value =>
    obtain rfl := Option.some.inj hsite
    cases value with
    | none => exact ⟨.undefined, rfl⟩
    | some v =>
      obtain ⟨vspan, v, slot⟩ := v
      cases slot with
      | none => exact ⟨.undefined, rfl⟩
      | some id =>
        have slot : some id ∈ Slots.stmts
            (checkStmts receiver last (Relabeling.bare.stmts receiver.isSome body) st).tree :=
          (Own.within_stmts _ _ hn).slots (List.mem_cons_of_mem _ List.mem_cons_self)
        have given : id ∈ TypeTable.idsFrom st.table.size
            (checkStmts receiver last body st).state.table.size := by
          rw [mirrors.state, ← List.count_pos_iff, ← numbered.ids id, List.count_pos_iff]
          exact slot
        obtain ⟨u, hu⟩ := TypeTable.exists_get?_of_mem_idsFrom given
        exact ⟨u, by simp [OwnReturn.ty, hu]⟩
  | _ => cases hsite

end Returns

theorem checkMethod_surveying (self : Symbol) (n : Node Method) (st : State) :
    (checkMethod self n st).state.surveying = st.surveying := by
  refine (continues_stepClosed.recorded ?_).surveying
  exact continues_stepClosed.checkCallable (fun _ _ st => continues_stepClosed.refl st)
    (fun st => continues_stepClosed.checkStmts (some self) .undefined n.value.body st
      fun _ _ => trivial) st

/-! ## Places among the parts -/

/-- All spans of the parts are in `S`. -/
def SpansIn (S : Span → Prop) (parts : List Part) : Prop := ∀ p ∈ parts, ∀ x ∈ p.spans, S x

namespace SpansIn

variable {p : Part} {parts parts' : List Part}

theorem left (h : SpansIn S (parts ++ parts')) : SpansIn S parts :=
  (List.forall_mem_append.mp h).1

theorem right (h : SpansIn S (parts ++ parts')) : SpansIn S parts' :=
  (List.forall_mem_append.mp h).2

/-- The first part has its spans among the allowed ones. -/
theorem head (h : SpansIn S (p :: parts)) : ∀ x ∈ p.spans, S x := h p List.mem_cons_self

theorem tail (h : SpansIn S (p :: parts)) : SpansIn S parts :=
  fun q hq => h q (List.mem_cons_of_mem p hq)

/-- An expression stands at the front of its parts, so its own span is allowed. -/
theorem node {n : Node Expr} (h : SpansIn S (Parts.node n)) : S n.span := by
  obtain ⟨span, e, ty⟩ := n
  exact h.head span List.mem_cons_self

/-- Each of several expressions has its own span among the allowed ones. -/
theorem nodes {es : List (Node Expr)} (h : SpansIn S (Parts.nodes es)) : ∀ e ∈ es, S e.span := by
  induction es with
  | nil => exact List.forall_mem_nil _
  | cons e rest ih => exact List.forall_mem_cons.mpr ⟨h.left.node, ih h.right⟩

theorem optional {e : Option (Node Expr)} (h : SpansIn S (Parts.optional e)) :
    ∀ n ∈ e, S n.span := by
  rintro n rfl
  exact h.node

end SpansIn

end Checker

namespace Blames

open Checker

variable {τ υ ω α β : Type} {S : Span → Prop}

/-! ## Sequences of checks -/

section Sequences

variable {e : Checked τ α}

/-- A conclusion blames a place itself. -/
theorem conclude {f : α → Except Failure β} (h : Blames S e.result) (hf : ∀ a, Blames S (f a)) :
    Blames S (e.conclude f).result :=
  h.bind hf

theorem concludeWith {f : α → State → Except Failure β} (h : Blames S e.result)
    (hf : ∀ a st, Blames S (f a st)) : Blames S (e.concludeWith f).result :=
  h.bind fun a => hf a e.state

/-- Either of two checks in a row may be the one that fails. -/
theorem andThen {rest : υ} {next : α → State → Checked υ β} {build : τ → υ → ω}
    (h₁ : Blames S e.result) (h₂ : ∀ a, Blames S (next a e.state).result) :
    Blames S (e.andThen rest next build).result := by
  unfold Edit.andThen
  split
  · exact h₂ _
  · rename_i f hf
    exact failed h₁ hf

/-- A last step may rely on the success before it. -/
theorem whenDone {next : α → τ → State → Checked τ β} (h₁ : Blames S e.result)
    (h₂ : ∀ a, e.result = .ok a → Blames S (next a e.tree e.state).result) :
    Blames S (e.whenDone next).result := by
  unfold Edit.whenDone
  split
  · rename_i a ha
    exact h₂ a ha
  · rename_i f hf
    exact failed h₁ hf

/-- Recording never fails. -/
theorem recorded {e : Checked τ Ty} {span : Span} {slot : Option TypeId} (h : Blames S e.result) :
    Blames S (Checker.recorded span slot e).result := by
  have same : (Checker.recorded span slot e).result = e.result := by
    unfold Checker.recorded
    split
    · rename_i t ht
      exact ht.symm
    · rename_i f hf
      exact hf.symm
  rw [same]
  exact h

/-- Naming never fails. -/
theorem named (name : Option (Node Ident)) (t : Ty) (st : State) :
    Blames S (Checker.named name t st).result := by
  rw [named_result]
  exact ok t

end Sequences

/-! ## Functions and methods -/

/-- A parameter is blamed at its annotation. -/
theorem checkParams (ps : List Param) (st : State) (h : ∀ x ∈ Spans.params ps, S x) :
    Blames S (Checker.checkParams ps st).result := by
  induction ps generalizing st with
  | nil => exact ok []
  | cons p rest ih =>
    obtain ⟨name, declaredAs⟩ := p
    obtain ⟨hdeclared, hrest⟩ := List.forall_mem_append.mp (List.forall_mem_cons.mp h).2
    have hparam := param st.scopes declaredAs hdeclared
    unfold Checker.checkParams
    split
    · rename_i f hf
      exact failed hparam hf
    · exact conclude (ih _ hrest) fun ts => ok _

/-- A body fails at a return that does not fit. -/
theorem result {table : TypeTable} {declared : Option Ty} {sites : List OwnReturn}
    (places : ∀ site ∈ sites, S site.span)
    (issued : ∀ site ∈ sites, ∃ u, site.ty table = .ok u) :
    Blames S (Rule.result table declared sites) := by
  have types : ∀ site ∈ sites, Blames S (site.ty table) := by
    intro site hsite
    obtain ⟨u, hu⟩ := issued site hsite
    rw [hu]
    exact ok u
  cases declared with
  | none => exact (mapM types).bind fun found => ok _
  | some d =>
    refine (forM fun site hsite => ?_).bind fun _ => ok d
    unfold OwnReturn.fits
    split
    · exact error (places site hsite) (by simp)
    · exact (types site hsite).bind fun found => ensured (places site hsite) (by simp)

/-- A function or method is blamed in its signature or in its body; its result, at a return of the
body. -/
theorem checkCallable {receiver : Receiver} {last : Ty} {typeParams : List (Node Ident)}
    {ps : List Param} {returns : Option (Node TypeExpr)} {body : List (Node Stmt)}
    {announce : List Ty → Option Ty → State → State} {st : State}
    (hannounce : ∀ types declared st, (announce types declared st).surveying = st.surveying)
    (hsignature : ∀ x ∈ Spans.signature typeParams ps returns, S x)
    (hparts : SpansIn S (Parts.stmts body))
    (hbody : ∀ st, Blames S (checkStmts receiver last body st).result)
    (real : st.surveying = false) :
    Blames S (Checker.checkCallable typeParams ps returns body announce
      (checkStmts receiver last body) st).result := by
  obtain ⟨hparams, hreturns⟩ := List.forall_mem_append.mp (List.forall_mem_append.mp hsignature).2
  unfold Checker.checkCallable
  refine andThen (checkParams ps _ hparams) fun types => ?_
  have inside := (continues_stepClosed.checkParams ps (st.push.bindTypeParams typeParams)).surveying
  have hresolve := resolveOptional
    (Checker.checkParams ps (st.push.bindTypeParams typeParams)).state.scopes returns hreturns
  split
  · rename_i f hf
    exact failed hresolve hf
  · rename_i declared _
    refine whenDone (hbody _) fun t ok => ?_
    have real : (announce types declared (Checker.checkParams ps
        (st.push.bindTypeParams typeParams)).state).surveying = false :=
      (hannounce _ _ _).trans (inside.trans real)
    refine (result (fun site hsite => ?_) fun site hsite => ?_).map _
    · -- a result is blamed at a return, which is an own expression of the body
      obtain ⟨e, he, span⟩ := exists_own_of_checked hsite
      rw [← span]
      exact hparts _ (Own.within_stmts body e he).part e.span List.mem_cons_self
    · exact exists_ty_of_checked real ok hsite

/-- In a survey a function can fail in its signature only. -/
theorem surveyFunction (f : Function) (st : State)
    (h : ∀ x ∈ Spans.signature f.typeParams f.params f.returns, S x) :
    Blames S (Checker.surveyFunction f st).result := by
  have hsignature := signature st.scopes f.typeParams f.params f.returns h
  unfold Checker.surveyFunction
  split
  · rename_i x hx
    exact failed hsignature hx
  · exact ok _

/-! ## Every part of a program -/

mutual

/-- A failure is at the span of a node in the expression. -/
theorem checkExpr (receiver : Receiver) : ∀ (n : Node Expr) (st : State),
    SpansIn S (Parts.node n) → Blames S (Checker.checkExpr receiver n st).result
  | ⟨span, e, slot⟩, st, h => recorded (checkForm receiver span slot e st h)

theorem checkForm (receiver : Receiver) (span : Span) (slot : Option TypeId) :
    ∀ (e : Expr) (st : State), SpansIn S (Parts.node ⟨span, e, slot⟩) →
      Blames S (Checker.checkForm receiver span e st).result
  | .literal v, _, _ => ok v.ty
  | .ident _, _, _ => ok _
  | .call callee args, st, h =>
    andThen (checkExpr receiver callee st h.tail.left) fun t =>
      conclude (checkExprs receiver args _ h.tail.right)
        (call h.node h.tail.left.node h.tail.right.nodes t)
  | .conditional test consequent alternate, st, h =>
    andThen (conclude (checkExpr receiver test st h.tail.left) (condition h.tail.left.node))
      fun _ => andThen (checkStmt receiver consequent _ h.tail.right.left) fun _ =>
        conclude (checkOptionalStmt receiver alternate _ h.tail.right.right) fun _ => ok _
  | .member base prop, st, h =>
    andThen (checkExpr receiver base st h.tail) fun t =>
      recorded (property h.tail.node (h.head _ (List.mem_cons_of_mem _ List.mem_cons_self)) t _)
  | .index base position, st, h =>
    andThen (checkExpr receiver base st h.tail.left) fun t =>
      conclude (checkExpr receiver position _ h.tail.right)
        (index h.tail.left.node h.tail.right.node t)
  | .function f, st, h =>
    checkFunction f st (List.forall_mem_cons.mp h.head).2 h.tail
  | .classDef c, st, h => checkClass c st (List.forall_mem_cons.mp h.head).2 h.tail
  | .assertion e ty, st, h =>
    concludeWith (checkExpr receiver e st h.tail) fun found st =>
      (resolve st.scopes ty (List.forall_mem_cons.mp h.head).2).bind (assertion h.node found)
  | .throwing value, st, h => conclude (checkExpr receiver value st h.tail) fun _ => ok _
  | .whileLoop test body, st, h =>
    andThen (conclude (checkExpr receiver test st h.tail.left) (condition h.tail.left.node))
      fun _ => conclude (checkStmts receiver _ body _ h.tail.right) fun _ => ok _
  | .forLoop bs test update body, st, h =>
    andThen (checkBindings receiver bs _ (List.forall_mem_cons.mp h.head).2 h.tail.left) fun _ =>
      andThen (conclude (checkOptional receiver test _ h.tail.right.left)
        (optionalCondition h.tail.right.left.optional)) fun _ =>
        andThen (checkOptional receiver update _ h.tail.right.right.left) fun _ =>
          conclude (checkStmts receiver _ body _ h.tail.right.right.right) fun _ => ok _
  | .returning value, st, h => conclude (checkOptional receiver value st h.tail) fun _ => ok _
  | .attempt body handler cleanup, st, h =>
    andThen (checkStmts receiver _ body _ h.tail.left) fun _ =>
      andThen (checkHandler receiver handler _ h.tail.right.left) fun _ =>
        checkCleanup receiver cleanup _ h.tail.right.right
  | .array items, st, h => conclude (checkExprs receiver items st h.tail) fun _ => ok _
  | .object ps, st, h => conclude (checkProperties receiver ps st h.tail) fun _ => ok _
  | .assignment target value, st, h => by
    unfold Checker.checkForm
    split
    · refine andThen (checkExpr receiver target st h.tail.left) fun targetTy => ?_
      refine whenDone (checkExpr receiver value _ h.tail.right) fun t _ => ?_
      -- the blame goes to the checked value, which stands where the value stood
      have place := h.tail.right.node
      rw [← checkExpr_span receiver value (Checker.checkExpr receiver target st).state] at place
      have fits := unlessAssignable t targetTy place
      split
      · rename_i f hf
        exact failed fits hf
      · exact ok t
    · exact error h.tail.left.node (by simp)

theorem checkFunction : ∀ (f : Function) (st : State),
    (∀ x ∈ Spans.inside (.function f), S x) → SpansIn S (Parts.inside (.function f)) →
      Blames S (Checker.checkFunction f st).result
  | ⟨name, typeParams, ps, returns, body⟩, st, hspans, h => by
    have hsignature := (List.forall_mem_append.mp hspans).2
    unfold Checker.checkFunction
    split
    · exact surveyFunction _ st hsignature
    · rename_i real
      refine andThen (checkCallable (announceFunction_surveying name) hsignature h
        (fun st => checkStmts none _ body st h) (Bool.eq_false_iff.mpr real)) fun t => ?_
      exact Blames.named name t _

theorem checkClass : ∀ (c : Class) (st : State),
    (∀ x ∈ Spans.inside (.classDef c), S x) → SpansIn S (Parts.inside (.classDef c)) →
      Blames S (Checker.checkClass c st).result
  | ⟨name, fields, ms⟩, st, hspans, h => by
    obtain ⟨hfields, hmethods⟩ := List.forall_mem_append.mp (List.forall_mem_append.mp hspans).2
    by_cases surveying : st.surveying = true
    · rw [Checker.checkClass, if_pos surveying]
      exact ok _
    · rw [checkClass_of_real name fields ms (Bool.eq_false_iff.mpr surveying)]
      refine andThen ?_ fun t => Blames.named name t _
      refine andThen (checkFields fields (st.enterClass ms).push hfields h.left) fun declared => ?_
      have hmembers (s : Scopes) (found : List Field) := memberSignatures s found ms hmethods
      unfold checkInstance
      dsimp only
      split
      · rename_i f hf
        exact failed (hmembers _ _) hf
      · exact whenDone (checkMethods _ _ ms _ rfl hmethods h.right) fun entries _ => ok _

theorem checkExprs (receiver : Receiver) : ∀ (es : List (Node Expr)) (st : State),
    SpansIn S (Parts.nodes es) → Blames S (Checker.checkExprs receiver es st).result
  | [], _, _ => ok []
  | e :: rest, st, h =>
    andThen (checkExpr receiver e st h.left) fun _ =>
      conclude (checkExprs receiver rest _ h.right) fun _ => ok _

theorem checkOptional (receiver : Receiver) : ∀ (e : Option (Node Expr)) (st : State),
    SpansIn S (Parts.optional e) → Blames S (Checker.checkOptional receiver e st).result
  | none, _, _ => ok none
  | some e, st, h => conclude (checkExpr receiver e st h) fun _ => ok _

theorem checkStmt (receiver : Receiver) : ∀ (n : Node Stmt) (st : State),
    SpansIn S (Parts.stmt n) → Blames S (Checker.checkStmt receiver n st).result
  | ⟨_, .expr e, _⟩, st, h => recorded (checkExpr receiver e st h.tail)
  | ⟨_, .block body, _⟩, st, h => recorded (checkStmts receiver _ body st.push h.tail)
  | ⟨_, .binding _ bs body, _⟩, st, h => by
    unfold Checker.checkStmt
    refine recorded (andThen
      (checkBindings receiver bs _ (List.forall_mem_cons.mp h.head).2 h.tail.left) fun _ => ?_)
    exact checkStmts receiver _ body _ h.tail.right
  | ⟨_, .typeAlias _ typeParams ty, _⟩, st, h => by
    have hty := (List.forall_mem_append.mp (List.forall_mem_cons.mp
      (List.forall_mem_cons.mp h.head).2).2).2
    have haliased : Blames S (Rule.aliased st.scopes typeParams ty) := resolve _ ty hty
    unfold Checker.checkStmt
    split
    · rename_i f hf
      exact failed haliased hf
    · exact ok _

theorem checkOptionalStmt (receiver : Receiver) : ∀ (n : Option (Node Stmt)) (st : State),
    SpansIn S (Parts.optionalStmt n) → Blames S (Checker.checkOptionalStmt receiver n st).result
  | none, _, _ => ok none
  | some n, st, h => conclude (checkStmt receiver n st h) fun _ => ok _

theorem checkStmts (receiver : Receiver) (last : Ty) : ∀ (body : List (Node Stmt)) (st : State),
    SpansIn S (Parts.stmts body) → Blames S (Checker.checkStmts receiver last body st).result
  | [], _, _ => ok last
  | n :: rest, st, h =>
    andThen (checkStmt receiver n st h.left) fun t => checkStmts receiver t rest _ h.right

theorem checkCleanup (receiver : Receiver) : ∀ (body : Option (List (Node Stmt))) (st : State),
    SpansIn S (Parts.optionalBody body) → Blames S (Checker.checkCleanup receiver body st).result
  | none, _, _ => ok _
  | some body, st, h => conclude (checkStmts receiver _ body st.push h) fun _ => ok _

theorem checkHandler (receiver : Receiver) : ∀ (handler : Option Handler) (st : State),
    SpansIn S (Parts.optionalHandler handler) →
      Blames S (Checker.checkHandler receiver handler st).result
  | none, _, _ => ok _
  | some ⟨param, body⟩, st, h => by
    unfold Checker.checkHandler
    exact andThen (Blames.named param _ st.push) fun _ => checkStmts receiver _ body _ h

theorem checkBindings (receiver : Receiver) : ∀ (bs : List Binding) (st : State),
    (∀ x ∈ Spans.bindings bs, S x) → SpansIn S (Parts.bindings bs) →
      Blames S (Checker.checkBindings receiver bs st).result
  | [], _, _, _ => ok ()
  | ⟨name, declaredAs, init⟩ :: rest, st, hspans, h => by
    obtain ⟨hdeclared, hrest⟩ := List.forall_mem_append.mp (List.forall_mem_cons.mp hspans).2
    unfold Checker.checkBindings
    refine andThen (checkExpr receiver init st h.left) fun initTy => ?_
    have hbinding := binding (Checker.checkExpr receiver init st).state.scopes initTy hdeclared
      h.left.node
    split
    · rename_i f hf
      exact failed hbinding hf
    · exact checkBindings receiver rest _ hrest h.right

theorem checkFields : ∀ (fs : List FieldDecl) (st : State),
    (∀ x ∈ Spans.fieldDecls fs, S x) → SpansIn S (Parts.fieldDecls fs) →
      Blames S (Checker.checkFields fs st).result
  | [], _, _, _ => ok []
  | ⟨name, declaredAs, init⟩ :: rest, st, hspans, h => by
    obtain ⟨hdeclared, hrest⟩ := List.forall_mem_append.mp (List.forall_mem_cons.mp hspans).2
    unfold Checker.checkFields
    refine andThen (checkOptional none init st h.left) fun initTy => ?_
    have hfield := field (Checker.checkOptional none init st).state.scopes initTy hdeclared
      h.left.optional
    split
    · rename_i f hf
      exact failed hfield hf
    · exact conclude (checkFields rest _ hrest h.right) fun _ => ok _

theorem checkMethods (self : Symbol) (fields : List Field) :
    ∀ (ms : List (Node Method)) (st : State), st.surveying = false →
      (∀ x ∈ Spans.methods ms, S x) → SpansIn S (Parts.methods ms) →
        Blames S (Checker.checkMethods self fields ms st).result
  | [], _, _, _, _ => ok []
  | ⟨span, ⟨name, kind, typeParams, ps, returns, body⟩, slot⟩ :: rest, st, real, hspans, h => by
    obtain ⟨hspan, hspans⟩ := List.forall_mem_cons.mp hspans
    obtain ⟨hsignature, hrest⟩ := List.forall_mem_append.mp (List.forall_mem_cons.mp hspans).2
    rw [checkMethods_cons]
    split
    · exact error hspan (by simp)
    · have later := (checkMethod_surveying self
        ⟨span, ⟨name, kind, typeParams, ps, returns, body⟩, slot⟩ st).trans real
      refine andThen (recorded (checkCallable (fun _ _ _ => rfl) hsignature h.left
        (fun st => checkStmts (some self) _ body st h.left) real)) fun t => ?_
      exact conclude (checkMethods self fields rest _ later hrest h.right) fun _ => ok _

theorem checkProperties (receiver : Receiver) : ∀ (ps : List Property) (st : State),
    SpansIn S (Parts.properties ps) → Blames S (Checker.checkProperties receiver ps st).result
  | [], _, _ => ok []
  | ⟨_, value⟩ :: rest, st, h => by
    unfold Checker.checkProperties
    exact andThen (checkExpr receiver value st h.left) fun _ =>
      conclude (checkProperties receiver rest _ h.right) fun _ => ok _

end

end Blames
end StructuralTyping
