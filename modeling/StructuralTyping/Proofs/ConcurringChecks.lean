import StructuralTyping.Proofs.Concordance

/-! # Checks that come out the same

`Concurs` says of a check that it comes out the same in any two concordant states in which the names
stand for the same types that the part needs: the results are equal, the states are concordant again
and the same types were recorded, the returns of both trees read the same, and a name that stood for
one alias in both still does.  So do the names that the part has defined, if the check succeeded.

There is a lemma for each way in which checks are put together: one after another, in a scope of
their own, with a type recorded at the end.  The last one is about a class, whose methods are gone
through twice (`Concurs.checkClass`).  On the way the lemmas also say which aliases a check may
define: no others than those of its flow.
-/
namespace StructuralTyping
namespace Edit

variable {σ ε τ υ ω α β : Type}

/-- Going on with a result that is computed from the state. -/
theorem whenDone_succeed (e : Edit σ ε τ α) (k : α → σ → β) :
    e.whenDone (fun a t s => .succeed (k a s) t s) = e.concludeWith fun a s => .ok (k a s) := by
  unfold whenDone concludeWith
  cases e.result <;> rfl

/-- Two parts are paired first and put together afterwards. -/
theorem andThen_build (first : Edit σ ε τ α) (rest : υ) (next : α → σ → Edit σ ε υ β)
    (build : τ → υ → ω) :
    first.andThen rest next build =
      (first.andThen rest next Prod.mk).rebuild fun r => build r.1 r.2 := by
  unfold andThen
  cases first.result <;> rfl

end Edit

namespace Checker

/-! ## The outcomes of two checks -/

/-- Two checks have come out the same; `own` lists the own expressions of a part. -/
structure Alike {τ α : Type} (X : Symbol → Prop) (base : TypeTable × TypeTable) (f : NameFlow)
    (own : τ → List (Node Expr)) (p q : State) (x y : Checked τ α) : Prop where
  result : x.result = y.result
  states : Concordant X base x.state y.state
  aliases : ∀ name, SameAlias p q name → SameAlias x.state y.state name
  defined : ∀ a, x.result = .ok a → ∀ name ∈ f.defines, SameAlias x.state y.state name
  returns : x.state.surveying = false → ∀ a, x.result = .ok a →
    ReadAlike x.state.table y.state.table (own x.tree) (own y.tree)

/-- A check that comes out the same in any two states of the pass that have in common what it asks
for. -/
structure Concurs {τ α : Type} (X : Symbol → Prop) (base : TypeTable × TypeTable) (pass : Bool)
    (f : NameFlow) (own : τ → List (Node Expr)) (work : State → Checked τ α) : Prop where
  later : ∀ st, st.surveying = pass → Later (· ∈ f.defines) st (work st).state
  alike : ∀ p q, p.surveying = pass → Concordant X base p q →
    Scopes.SameNames f.needs p.scopes q.scopes → HasRoom (work p).state (work q).state →
    Alike X base f own p q (work p) (work q)

section

variable {X : Symbol → Prop} {base : TypeTable × TypeTable} {pass : Bool} {f g : NameFlow}
  {τ υ ω α β : Type} {own : τ → List (Node Expr)}

namespace Alike

variable {p q : State} {x y : Checked τ α}

/-- Two checks that failed in the same way. -/
theorem failed {e : Failure} (hx : x.result = .error e) (hy : y.result = .error e)
    (states : Concordant X base x.state y.state)
    (aliases : ∀ name, SameAlias p q name → SameAlias x.state y.state name) :
    Alike X base f own p q x y where
  result := hx.trans hy.symm
  states := states
  aliases := aliases
  defined a ok := by
    rw [hx] at ok
    cases ok
  returns _ a ok := by
    rw [hx] at ok
    cases ok

/-- The names that the next part needs stand for the same types: they did before, or they have been
defined. -/
theorem sameNames {A B : String → Prop} (h : Alike X base f own p q x y)
    (hpq : Concordant X base p q) (left : Later A p x.state) (right : Later B q y.state) {a : α}
    (ok : x.result = .ok a)
    (same : Scopes.SameNames (f.andThen g).needs p.scopes q.scopes) :
    Scopes.SameNames g.needs x.state.scopes y.state.scopes := by
  intro name hname
  by_cases defined : name ∈ f.defines
  · exact h.states.typeNamed?_of_alias (h.defined a ok name defined)
  · exact hpq.typeNamed?_later left right (same.right hname defined) (h.aliases name)

/-- Fewer symbols. -/
theorem mono {X' : Symbol → Prop} (h : Alike X base f own p q x y) (fewer : ∀ s, X' s → X s) :
    Alike X' base f own p q x y :=
  { h with states := h.states.mono fewer }

/-- Steps that are made after a check that was accepted. -/
theorem further {own' : υ → List (Node Expr)} {a : α} {b : β} {u u' : υ} {s s' : State}
    (h : Alike X base f own p q x y) (ok : x.result = .ok a)
    (steps : Proceeds X base x.state y.state s s')
    (left : (own' u).filterMap OwnReturn.of? = (own x.tree).filterMap OwnReturn.of?)
    (right : (own' u').filterMap OwnReturn.of? = (own y.tree).filterMap OwnReturn.of?) :
    Alike X base f own' p q (.succeed b u s) (.succeed b u' s') where
  result := rfl
  states := steps.states
  aliases name same := steps.aliases name (h.aliases name same)
  defined _ _ name hname := steps.aliases name (h.defined a ok name hname)
  returns real _ _ := by
    have read := h.returns (steps.left.continues.surveying.symm.trans real) a ok
    exact (read.later steps.left.continues.table steps.right.continues.table).congr left.symm
      right.symm

/-- A second part after the first; the returns of the first still read the same. -/
theorem andThen {own₂ : υ → List (Node Expr)} {rest : υ} {next next' : α → State → Checked υ β}
    {build : τ → υ → ω} {own' : ω → List (Node Expr)} (first : Alike X base f own p q x y)
    (second : ∀ a, x.result = .ok a →
      Alike X base g own₂ x.state y.state (next a x.state) (next' a y.state))
    (read : ∀ a, x.result = .ok a → (next a x.state).state.surveying = false →
      ReadAlike (next a x.state).state.table (next' a y.state).state.table (own x.tree)
        (own y.tree))
    (hown : ∀ t u, (own' (build t u)).filterMap OwnReturn.of? =
      (own t ++ own₂ u).filterMap OwnReturn.of?) :
    Alike X base (f.andThen g) own' p q (x.andThen rest next build)
      (y.andThen rest next' build) := by
  unfold Edit.andThen
  rw [← first.result]
  cases hx : x.result with
  | error e => exact .failed rfl rfl first.states first.aliases
  | ok a =>
    have second := second a hx
    refine ⟨second.result, second.states, fun name same => ?_, fun b ok name hname => ?_,
      fun real b ok => ?_⟩
    · exact second.aliases name (first.aliases name same)
    · -- an alias of the first step is agreed on, and the second step keeps it so
      rcases List.mem_append.mp hname with earlier | here
      · exact second.aliases name (first.defined a hx name earlier)
      · exact second.defined b ok name here
    · exact ((read a hx real).append (second.returns real b ok)).congr (hown _ _).symm
        (hown _ _).symm

end Alike

namespace Concurs

/-! ## Sequences of checks -/

variable {work : State → Checked τ α}

/-- A check ends in the pass it began in. -/
theorem still (h : Concurs X base pass f own work) {st : State} (hst : st.surveying = pass) :
    (work st).state.surveying = pass :=
  (h.later st hst).continues.surveying.trans hst

/-- A step that changes nothing concurs with itself. -/
theorem succeed (a : α) {t : τ} (quiet : (own t).filterMap OwnReturn.of? = []) :
    Concurs X base pass {} own fun st => (.succeed a t st : Checked τ α) where
  later st _ := later_stepClosed.refl st
  alike _ _ _ h _ _ :=
    { result := rfl
      states := h
      aliases := fun _ same => same
      defined := fun _ _ _ hname => absurd hname List.not_mem_nil
      returns := fun _ _ _ => .of_nil quiet quiet }

/-- A failure is the same in every state. -/
theorem failing (e : Failure) (t : τ) :
    Concurs X base pass f own fun st => (.fail e t st : Checked τ α) where
  later st _ := later_stepClosed.refl st
  alike _ _ _ h _ _ := .failed rfl rfl h fun _ same => same

/-- A result that does not depend on the state. -/
theorem settled (r : Except Failure α) {t : τ} (quiet : (own t).filterMap OwnReturn.of? = []) :
    Concurs X base pass {} own fun st => (⟨r, t, st⟩ : Checked τ α) := by
  cases r with
  | error e => exact failing e t
  | ok a => exact succeed a quiet

/-- How the tree is put together has no part in it, as long as its returns are the same. -/
theorem rebuild {own' : ω → List (Node Expr)} (h : Concurs X base pass f own work)
    (build : State → τ → ω)
    (hown : ∀ st t, (own' (build st t)).filterMap OwnReturn.of? = (own t).filterMap OwnReturn.of?) :
    Concurs X base pass f own' fun st => (work st).rebuild (build st) where
  later := h.later
  alike p q hp hpq same room := by
    have inner := h.alike p q hp hpq same room
    refine ⟨inner.result, inner.states, inner.aliases, inner.defined, fun real a ok => ?_⟩
    exact (inner.returns real a ok).congr (hown p _).symm (hown q _).symm

/-- Nothing is read back. -/
theorem unread (h : Concurs X base pass f own work) :
    Concurs X base pass f (fun _ => []) work where
  later := h.later
  alike p q hp hpq same room :=
    { h.alike p q hp hpq same room with returns := fun _ _ _ => .of_nil rfl rfl }

/-- A conclusion may look at the scopes for the names that it is said to need. -/
theorem concludeWith {k : α → State → Except Failure β} (h : Concurs X base pass f own work)
    (plain : g.defines = [])
    (each : ∀ a p q, Scopes.SameNames g.needs p.scopes q.scopes → Concordant X base p q →
      k a p = k a q) :
    Concurs X base pass (f.andThen g) own fun st => (work st).concludeWith k where
  later st hst := (h.later st hst).mono fun _ => List.mem_append_left _
  alike p q hp hpq same room := by
    have hq : q.surveying = pass := hpq.surveying.symm.trans hp
    have inner := h.alike p q hp hpq same.left room
    have ok {b : β} (done : ((work p).concludeWith k).result = .ok b) :
        ∃ a, (work p).result = .ok a := by
      obtain ⟨a, ha, -⟩ := exists_of_bind_eq_ok done
      exact ⟨a, ha⟩
    refine ⟨?_, inner.states, inner.aliases, fun b done name hname => ?_, fun real b done => ?_⟩
    · show (work p).result.bind _ = (work q).result.bind _
      rw [← inner.result]
      cases hx : (work p).result with
      | error e => rfl
      | ok a =>
        exact each a _ _ (inner.sameNames hpq (h.later p hp) (h.later q hq) hx same) inner.states
    · obtain ⟨a, ha⟩ := ok done
      exact inner.defined a ha name (by simpa [NameFlow.andThen, plain] using hname)
    · obtain ⟨a, ha⟩ := ok done
      exact inner.returns real a ha

theorem conclude (h : Concurs X base pass f own work) (k : α → Except Failure β) :
    Concurs X base pass f own fun st => (work st).conclude k := by
  have stateless : Concurs X base pass (f.andThen {}) own fun st =>
      (work st).concludeWith fun a _ => k a := h.concludeWith rfl fun _ _ _ _ _ => rfl
  rwa [NameFlow.andThen_nothing] at stateless

/-- Two checks in a row.  The second sees concordant states only if the first had room, and it has
if the whole has. -/
theorem andThen {own₂ : υ → List (Node Expr)} {own' : ω → List (Node Expr)}
    {next : α → State → Checked υ β} (h₁ : Concurs X base pass f own work) (rest : υ)
    (h₂ : ∀ a, Concurs X base pass g own₂ (next a)) (build : τ → υ → ω)
    (hown : ∀ t u, (own' (build t u)).filterMap OwnReturn.of? =
      (own t ++ own₂ u).filterMap OwnReturn.of?) :
    Concurs X base pass (f.andThen g) own' fun st => (work st).andThen rest next build where
  later st hst := later_stepClosed.andThen ((h₁.later st hst).mono fun _ => List.mem_append_left _)
    fun a => ((h₂ a).later _ (h₁.still hst)).mono fun _ => List.mem_append_right _
  alike p q hp hpq same room := by
    have hq : q.surveying = pass := hpq.surveying.symm.trans hp
    have next₁ {st : State} (hst : st.surveying = pass) (a : α) :
        Later (· ∈ g.defines) (work st).state (next a (work st).state).state :=
      (h₂ a).later _ (h₁.still hst)
    have onwards {st : State} (hst : st.surveying = pass) :
        Later (· ∈ g.defines) (work st).state ((work st).andThen rest next build).state :=
      later_stepClosed.andThen (later_stepClosed.refl _) (next₁ hst)
    have first := h₁.alike p q hp hpq same.left (room.earlier (onwards hp) (onwards hq))
    refine first.andThen (fun a hx => ?_) (fun a hx real => ?_) hown
    · refine (h₂ a).alike _ _ (h₁.still hp) first.states
        (first.sameNames hpq (h₁.later p hp) (h₁.later q hq) hx same) ?_
      simpa only [Edit.andThen, ← first.result, hx] using room
    · -- the returns of the first step are read in the tables of the second, which are larger
      have read := first.returns ((next₁ hp a).continues.surveying.symm.trans real) a hx
      exact read.later (next₁ hp a).continues.table (next₁ hq a).continues.table

/-- Two parts that are paired. -/
theorem pair {own₂ : υ → List (Node Expr)} {next : α → State → Checked υ β}
    (h₁ : Concurs X base pass f own work) (rest : υ)
    (h₂ : ∀ a, Concurs X base pass g own₂ (next a)) :
    Concurs X base pass (f.andThen g) (fun r => own r.1 ++ own₂ r.2) fun st =>
      (work st).andThen rest next Prod.mk :=
  h₁.andThen rest h₂ Prod.mk fun _ _ => rfl

/-- Steps that are made before the check, and define no aliases. -/
theorem after {step : State → State} (hlater : ∀ st, Later (fun _ => False) st (step st))
    (hstep : ∀ p q, Concordant X base p q → Proceeds X base p q (step p) (step q))
    (h : Concurs X base pass f own work) :
    Concurs X base pass f own fun st => work (step st) where
  later st hst := later_stepClosed.trans ((hlater st).mono fun _ => False.elim)
    (h.later _ ((hlater st).continues.surveying.trans hst))
  alike p q hp hpq same room := by
    have steps := hstep p q hpq
    have still : (step p).surveying = pass := (hlater p).continues.surveying.trans hp
    have inner := h.alike _ _ still steps.states (steps.sameNames hpq same) room
    exact { inner with aliases := fun name same => inner.aliases name (steps.aliases name same) }

/-- A decision that is made by the names that it needs, and ends the check if it fails. -/
theorem deciding {next : β → State → Checked τ α} (k : State → Except Failure β) (t : τ)
    (plain : f.defines = [])
    (decides : ∀ p q : State, Scopes.SameNames f.needs p.scopes q.scopes → k p = k q)
    (h : ∀ b, Concurs X base pass g own (next b))
    (fails : ∀ st e, k st = .error e → work st = .fail e t st)
    (goes : ∀ st b, k st = .ok b → work st = next b st) :
    Concurs X base pass (f.andThen g) own work where
  later st hst := by
    cases hk : k st with
    | error e =>
      rw [fails st e hk]
      exact later_stepClosed.refl st
    | ok b =>
      rw [goes st b hk]
      exact ((h b).later st hst).mono fun _ => List.mem_append_right _
  alike p q hp hpq same room := by
    have free : ∀ name, name ∉ f.defines := by simp [plain]
    -- both states decide alike, so they take the same branch
    have hpk := decides p q same.left
    cases hk : k q with
    | error e =>
      rw [fails q e hk, fails p e (hpk.trans hk)]
      exact .failed rfl rfl hpq fun _ same => same
    | ok b =>
      rw [goes q b hk, goes p b (hpk.trans hk)] at room ⊢
      have inner := (h b).alike p q hp hpq (fun name hname => same.right hname (free name)) room
      refine { inner with defined := fun a ok name hname => ?_ }
      exact inner.defined a ok name (by simpa [NameFlow.andThen, plain] using hname)

/-- A check in a scope with type parameters. -/
theorem typeScope (typeParams : List (Node Ident)) (h : Concurs X base pass f own work) :
    Concurs X base pass (f.within typeParams) own
      (Checker.inScope fun st => work (st.bindTypeParams typeParams)) where
  later st hst := later_stepClosed.scope typeParams (h.later _ hst)
  alike p q hp hpq same room := by
    have hq : q.surveying = pass := hpq.surveying.symm.trans hp
    have inner := h.alike (p.push.bindTypeParams typeParams) (q.push.bindTypeParams typeParams) hp
      (hpq.opened typeParams) same.bindTypeParams room
    have left := h.later (p.push.bindTypeParams typeParams) hp
    have right := h.later (q.push.bindTypeParams typeParams) hq
    refine ⟨inner.result, hpq.closed left right inner.states, fun name same => ?_,
      fun a ok name hname => ?_, inner.returns⟩
    · refine (sameAlias_congr (State.pop_aliases _) (State.pop_aliases _) name).mpr
        (inner.aliases name ?_)
      exact (sameAlias_congr (Scopes.aliases_bindTypeParams _ _)
        (Scopes.aliases_bindTypeParams _ _) name).mpr same
    · exact (sameAlias_congr (State.pop_aliases _) (State.pop_aliases _) name).mpr
        (inner.defined a ok name hname)

/-- Scopes are opened and closed on both sides. -/
theorem inScope (h : Concurs X base pass f own work) :
    Concurs X base pass f own (Checker.inScope work) := by
  have scope := h.typeScope []
  rwa [NameFlow.within_nil] at scope

/-- Both record the same type; the ids may differ. -/
theorem recorded {work : State → Checked τ Ty} {own' : Node τ → List (Node Expr)} (span : Span)
    (slot : Option TypeId) (h : Concurs X base pass f own work)
    (hown : ∀ t slot, (own' ⟨span, t, slot⟩).filterMap OwnReturn.of? =
      (own t).filterMap OwnReturn.of?) :
    Concurs X base pass f own' fun st => Checker.recorded span slot (work st) where
  later st hst := later_stepClosed.recorded (h.later st hst)
  alike p q hp hpq same room := by
    have onwards (st : State) : Later (· ∈ f.defines) (work st).state
        (Checker.recorded span slot (work st)).state :=
      later_stepClosed.recorded (later_stepClosed.refl _)
    have inner := h.alike p q hp hpq same (room.earlier (onwards p) (onwards q))
    unfold Checker.recorded
    rw [← inner.result]
    cases hx : (work p).result with
    | error e => exact .failed rfl rfl inner.states inner.aliases
    | ok t => exact inner.further hx (.record inner.states slot slot t) (hown _ _) (hown _ _)

theorem named (name : Option (Node Ident)) (t : Ty) :
    Concurs X base pass {} (fun _ => []) (Checker.named name t) where
  later st _ := later_stepClosed.named name t st
  alike p q hp hpq same room := by
    cases name with
    | none => exact (succeed t rfl).alike p q hp hpq same room
    | some n =>
      have steps := Proceeds.bindName hpq n t
      exact ⟨rfl, steps.states, steps.aliases, fun _ _ _ hname => absurd hname List.not_mem_nil,
        fun _ _ _ => .of_nil rfl rfl⟩

/-- A check that depends on the pass. -/
theorem of_pass {work' : State → Checked τ α} (h : Concurs X base pass f own work)
    (same : ∀ st, st.surveying = pass → work' st = work st) :
    Concurs X base pass f own work' where
  later st hst := by
    rw [same st hst]
    exact h.later st hst
  alike p q hp hpq names room := by
    have hq : q.surveying = pass := hpq.surveying.symm.trans hp
    rw [same p hp, same q hq] at room ⊢
    exact h.alike p q hp hpq names room

/-! ## Functions -/

/-- Parameters need the names of their annotations and nothing else. -/
theorem checkParams (ps : List Param) :
    Concurs X base pass (NameFlow.params ps) (fun _ => []) (Checker.checkParams ps) := by
  induction ps with
  | nil => exact succeed [] rfl
  | cons p rest ih =>
    obtain ⟨name, declaredAs⟩ := p
    have bound (t : Ty) := (ih.conclude fun ts => .ok (t :: ts)).after
      (fun st => later_stepClosed.trans (later_stepClosed.bind name.value.symbol t st)
        (later_stepClosed.recordName name t _))
      fun p q h => .bindName h name t
    have extended (t : Ty) : Concurs X base pass (NameFlow.params rest) (fun _ => []) fun st =>
        ((Checker.checkParams rest ((st.bind name.value.symbol t).recordName name t).2).conclude
          fun ts => .ok (t :: ts)).rebuild
          (⟨((st.bind name.value.symbol t).recordName name t).1, declaredAs⟩ :: ·) :=
      (bound t).rebuild _ fun _ _ => rfl
    refine deciding (fun st => Rule.param st.scopes declaredAs) (⟨name, declaredAs⟩ :: rest)
      (NameFlow.defines_ofOptionalType _) (fun _ _ same => Rule.param_congr_of_needs same)
      extended (fun st e hk => ?_) fun st t hk => ?_
    · rw [Checker.checkParams, hk]
    · rw [Checker.checkParams, hk]

theorem announceFunction (name : Option (Node Ident)) (types : List Ty) (declared : Option Ty)
    (h : Concurs X base pass f own work) :
    Concurs X base pass f own fun st => work (Checker.announceFunction name types declared st) := by
  cases name with
  | none => exact h
  | some n => exact h.after (later_stepClosed.bind _ _) fun _ _ h => .bind h _ _

/-- A body with its result type, which is read off the returns. -/
theorem resulting {work : State → Checked (List (Node Stmt)) Ty} (declared : Option Ty)
    (types : List Ty) (h : Concurs X base false f Own.stmts work) :
    Concurs X base false f (fun _ => []) fun st => (work st).whenDone fun _ body st =>
      ⟨(Rule.result st.table declared (OwnReturn.ofBody body)).map (Ty.function types), body,
        st⟩ where
  later st hst := later_stepClosed.whenDone (h.later st hst) fun _ => later_stepClosed.refl _
  alike p q hp hpq same room := by
    have onwards (st : State) : Later (· ∈ f.defines) (work st).state
      ((work st).whenDone fun _ body st =>
        ⟨(Rule.result st.table declared (OwnReturn.ofBody body)).map (Ty.function types), body,
          st⟩).state :=
      later_stepClosed.whenDone (later_stepClosed.refl _) fun _ => later_stepClosed.refl _
    have room := room.earlier (onwards p) (onwards q)
    have inner := h.alike p q hp hpq same room
    unfold Edit.whenDone
    rw [← inner.result]
    cases hx : (work p).result with
    | error e => exact .failed rfl rfl inner.states inner.aliases
    | ok a =>
      have read := inner.returns (h.still hp) a hx _ _ (.refl _) (.refl _) room.1 room.2
      refine ⟨?_, inner.states, inner.aliases, fun _ _ => inner.defined a hx,
        fun _ _ _ => .of_nil rfl rfl⟩
      dsimp only
      rw [OwnReturn.ofBody_eq, OwnReturn.ofBody_eq, OwnReturn.result_congr read]

/-- A function or method whose body has been looked at. -/
theorem checkCallable (typeParams : List (Node Ident)) (ps : List Param)
    (returns : Option (Node TypeExpr)) (body : List (Node Stmt))
    {announce : List Ty → Option Ty → State → State}
    {checkBody : State → Checked (List (Node Stmt)) Ty}
    (h : ∀ types declared, Concurs X base false f Own.stmts fun st =>
      checkBody (announce types declared st)) :
    Concurs X base false (((NameFlow.declared ps returns).andThen f).within typeParams)
      (fun _ => []) (Checker.checkCallable typeParams ps returns body announce checkBody) := by
  rw [NameFlow.declared, NameFlow.andThen_assoc]
  refine typeScope typeParams
    ((checkParams ps).andThen body (fun types => ?_) Prod.mk fun _ _ => rfl)
  -- the declared result is resolved before the body is checked
  refine deciding (fun st => st.scopes.resolveOptional returns) body
    (NameFlow.defines_ofOptionalType _)
    (fun _ _ same => Rule.resolveOptional_congr_of_needs same)
    (fun declared => resulting declared types (h types declared)) (fun st e hk => ?_)
    fun st declared hk => ?_
  · simp only [hk]
  · simp only [hk]

/-- In a survey a function is its signature. -/
theorem surveyFunction (fn : Function) :
    Concurs X base pass ((NameFlow.declared fn.params fn.returns).within fn.typeParams)
      (fun _ => []) (Checker.surveyFunction fn) := by
  have bound (t : Ty) : Concurs X base pass {} (fun _ => []) fun st =>
      (.succeed t fn (st.bind (fn.name.bind (·.value.symbol)) t) : Checked Function Ty) :=
    (succeed t rfl).after (later_stepClosed.bind _ t) fun _ _ h => .bind h _ t
  rw [← NameFlow.andThen_nothing ((NameFlow.declared _ _).within _)]
  refine deciding (fun st => Rule.signature st.scopes fn.typeParams fn.params fn.returns) fn
    (NameFlow.defines_declared _ _) (fun _ _ same => Rule.signature_congr_of_needs same) bound
    (fun st e hk => ?_) fun st t hk => ?_
  · rw [Checker.surveyFunction, hk]
  · rw [Checker.surveyFunction, hk]

/-! ## Identifiers, returns, assignments and aliases -/

/-- Looking up a symbol is the one place where the scopes are read, so the symbol has to be among
those agreed on. -/
theorem looking (symbol : Option Symbol) {t : τ} (seen : ∀ s, symbol = some s → X s)
    (quiet : (own t).filterMap OwnReturn.of? = []) :
    Concurs X base pass {} own fun st => (.succeed (st.lookup symbol) t st : Checked τ Ty) := by
  refine (succeed () quiet).concludeWith (g := {}) (k := fun _ st => .ok (st.lookup symbol)) rfl
    fun _ p q _ h => ?_
  cases symbol with
  | none => rfl
  | some s => rw [h.symbols s (seen s rfl)]

/-- The type of a value that was checked is found again by its id. -/
theorem checkOptional_seen {receiver : Receiver} {value : Option (Node Expr)} {st : State}
    {a : Option Ty} (ok : (checkOptional receiver value st).result = .ok a)
    (real : (checkOptional receiver value st).state.surveying = false) {table : TypeTable}
    (grown : table.Extends (checkOptional receiver value st).state.table)
    (room : table.size ≤ TypeTable.capacity) (span : Span) :
    OwnReturn.seen table ⟨span, (checkOptional receiver value st).tree.bind (·.ty)⟩ =
      (span, value.isSome, .ok (a.getD .undefined)) := by
  cases value with
  | none =>
    cases ok
    rfl
  | some e =>
    obtain ⟨at', e, slot⟩ := e
    simp only [checkOptional, checkExpr, Checker.recorded] at ok real grown ⊢
    cases hr : (checkForm receiver at' e st).result with
    | error f =>
      rw [hr] at ok
      cases ok
    | ok t =>
      rw [hr] at ok real grown
      cases ok
      have before : (checkForm receiver at' e st).state.surveying = false :=
        (Continues.record slot t _).surveying.symm.trans real
      simp only [Edit.rebuild, Edit.conclude, State.record_of_real before] at grown ⊢
      simp [OwnReturn.seen, OwnReturn.ty, grown.get?_nextId room]

/-- A `return` adds itself to the returns that are read later. -/
theorem returning {receiver : Receiver} {value : Option (Node Expr)} (span : Span)
    (slot : Option TypeId)
    (h : Concurs X base pass f Own.optional (Checker.checkOptional receiver value)) :
    Concurs X base pass f (fun e => Own.node ⟨span, e, slot⟩) fun st =>
      ((Checker.checkOptional receiver value st).conclude fun t =>
        .ok (t.getD .undefined)).rebuild .returning where
  later := h.later
  alike p q hp hpq same room := by
    have inner := h.alike p q hp hpq same room
    have concluded := (h.conclude fun t => .ok (t.getD .undefined)).alike p q hp hpq same room
    refine ⟨concluded.result, concluded.states, concluded.aliases, concluded.defined,
      fun real b ok => ?_⟩
    obtain ⟨a, ha, -⟩ := exists_of_bind_eq_ok ok
    have real' := concluded.states.surveying.symm.trans real
    have here : ReadAlike (Checker.checkOptional receiver value p).state.table
        (Checker.checkOptional receiver value q).state.table
        [⟨span, .returning (Checker.checkOptional receiver value p).tree, slot⟩]
        [⟨span, .returning (Checker.checkOptional receiver value q).tree, slot⟩] := by
      intro T T' hT hT' room room'
      show [OwnReturn.seen T _] = [OwnReturn.seen T' _]
      rw [checkOptional_seen ha real hT room,
        checkOptional_seen (inner.result.symm.trans ha) real' hT' room']
    exact here.append (inner.returns real a ha)

/-- A value is assigned, if it fits. -/
def assign (receiver : Receiver) (target : Expr) (targetTy t : Ty) (value : Node Expr)
    (st : State) : Checked (Node Expr) Ty :=
  match Failure.unlessAssignable t targetTy value.span with
  | .error f => .fail f value st
  | .ok _ => .succeed t value ((st.noteAssignment receiver target t).rebind receiver target t)

/-- An assignment leads to a later state. -/
theorem later_assign {A : String → Prop} (receiver : Receiver) (target : Expr) (targetTy t : Ty)
    (value : Node Expr) (st : State) :
    Later A st (assign receiver target targetTy t value st).state := by
  unfold assign
  split
  · exact later_stepClosed.refl st
  · exact later_stepClosed.trans (later_stepClosed.noteAssignment _ _ _ _)
      (later_stepClosed.rebind _ _ _ _)

/-- An assignment ends in the same type and changes both states in the same way. -/
theorem assigning {work : State → Checked (Node Expr) Ty} {own : Node Expr → List (Node Expr)}
    {span : Span} (receiver : Receiver) (target : Expr) (targetTy : Ty)
    (hspan : ∀ st, (work st).tree.span = span) (h : Concurs X base pass f own work) :
    Concurs X base pass f own fun st =>
      (work st).whenDone (assign receiver target targetTy) where
  later st hst := later_stepClosed.whenDone (h.later st hst) fun t => later_assign _ _ _ t _ _
  alike p q hp hpq same room := by
    have onwards (st : State) :
        Later (· ∈ f.defines) (work st).state
          ((work st).whenDone (assign receiver target targetTy)).state :=
      later_stepClosed.whenDone (later_stepClosed.refl _) fun t => later_assign _ _ _ t _ _
    have inner := h.alike p q hp hpq same (room.earlier (onwards p) (onwards q))
    unfold Edit.whenDone assign
    rw [← inner.result]
    cases hx : (work p).result with
    | error e => exact .failed rfl rfl inner.states inner.aliases
    | ok t =>
      dsimp only
      rw [hspan p, hspan q]
      cases Failure.unlessAssignable t targetTy span with
      | error e => exact .failed rfl rfl inner.states inner.aliases
      | ok _ =>
        have noted := Proceeds.noteAssignment inner.states receiver target t
        have steps := noted.trans (.rebind noted.states receiver target t)
        exact inner.further hx steps rfl rfl

/-- An alias needs nothing by itself and defines its name. -/
theorem aliasing (name : String) (t : Ty) (a : α) (tree : τ)
    (quiet : (own tree).filterMap OwnReturn.of? = []) :
    Concurs X base pass ⟨[], [name]⟩ own fun st =>
      (.succeed a tree ((st.note (.aliased name t)).defineAlias name t) : Checked τ α) where
  later st _ := later_stepClosed.trans (later_stepClosed.note (.aliased name t) st trivial)
    (later_stepClosed.defineAlias name t _ List.mem_cons_self)
  alike p q _ h _ _ := by
    have noted := Proceeds.note h (.aliased name t) trivial
    have steps := noted.trans (.defineAlias noted.states name t)
    refine ⟨rfl, steps.states, steps.aliases, fun _ _ other hother => ?_,
      fun _ _ _ => .of_nil quiet quiet⟩
    obtain rfl := List.mem_singleton.mp hother
    simp [SameAlias, Edit.succeed, State.defineAlias, Scopes.alias?, Scopes.defineAlias]

end Concurs

/-! ## Classes -/

/-- Fixes the type of an instance with the fields that were found and the declared types of its
methods, and checks the methods. -/
def checkFixed (self : Symbol) (name : Option (Node Ident)) (found : List Field)
    (declared : Except Failure (List Field)) (ms : List (Node Method)) (st : State) :
    Checked (List (Node Method)) Ty :=
  match declared with
  | .error f => .fail f ms st
  | .ok signatures =>
    (checkMethods self found ms (st.beginMethods self name found signatures)).whenDone
      fun entries ms st => .succeed (.object (st.surveyed ++ entries)) ms st

/-- The state after the survey of an instance with these declared fields. -/
def surveyInstance (self : Symbol) (declared : List Field) (ms : List (Node Method)) (st : State) :
    State :=
  surveyMethods self ms (st.beginSurvey self (Field.merge declared))

/-- An instance is surveyed, then its type is fixed. -/
theorem checkInstance_eq (self : Symbol) (name : Option (Node Ident)) (declared : List Field)
    (ms : List (Node Method)) (st : State) :
    checkInstance self name declared ms st =
      checkFixed self name (surveyInstance self declared ms st).surveyed
        (memberSignatures (surveyInstance self declared ms st).scopes
          (surveyInstance self declared ms st).surveyed ms)
        ms (surveyInstance self declared ms st).endSurvey :=
  rfl

section Stages

variable (self : Symbol) (name : Option (Node Ident)) (ms : List (Node Method))

/-- An instance that is fixed ends in the state that its methods leave, if they are checked. -/
theorem checkFixed_state (found : List Field) (declared : Except Failure (List Field))
    (st : State) :
    (checkFixed self name found declared ms st).state = st ∨
      ∃ signatures, (checkFixed self name found declared ms st).state =
        (checkMethods self found ms (st.beginMethods self name found signatures)).state := by
  unfold checkFixed
  split
  · exact .inl rfl
  · rename_i signatures
    refine .inr ⟨signatures, ?_⟩
    unfold Edit.whenDone
    split <;> rfl

theorem checkFixed_extends (found : List Field) (declared : Except Failure (List Field))
    (st : State) : (checkFixed self name found declared ms st).state.table.Extends st.table := by
  rcases checkFixed_state self name ms found declared st with same | ⟨signatures, same⟩
  · rw [same]
    exact .refl _
  · rw [same, ← State.beginMethods_table self name found signatures st]
    exact (continues_stepClosed.checkMethods self found ms _ fun _ _ => trivial).table

theorem checkInstance_extends (declared : List Field) (st : State) :
    (checkInstance self name declared ms st).state.table.Extends st.table := by
  rw [checkInstance_eq]
  exact (checkFixed_extends self name ms _ _ _).trans
    (continues_stepClosed.surveyMethods self ms _).table

/-- The members of a class only ever add types to the table. -/
theorem checkMembers_extends (fields : List FieldDecl) (st : State) :
    (checkMembers self name fields ms st).state.table.Extends st.table := by
  have declared := (continues_stepClosed.checkFields fields st fun _ _ => trivial).table
  unfold checkMembers Edit.andThen
  split
  · exact (checkInstance_extends self name ms _ _).trans declared
  · exact declared

variable {self name ms} {A : String → Prop} {st s₁ : State}

/-- A scope around the methods of a class stays closed to the outside. -/
theorem Enclosed.checkFixed {found : List Field} (declared : Except Failure (List Field))
    (methods : ∀ st, st.surveying = false → Framed A st (checkMethods self found ms st).state)
    (h : Enclosed A st s₁) :
    Enclosed A st (checkFixed self name found declared ms s₁.endSurvey).state := by
  rcases checkFixed_state self name ms found declared s₁.endSurvey with same | ⟨signatures, same⟩
  · rw [same]
    exact ⟨h.outer, h.others⟩
  · rw [same]
    exact (h.beginMethods self name found signatures).later (methods _ rfl)

theorem Enclosed.checkInstance (declared : List Field)
    (survey : ∀ st, st.surveying = true → Framed A st (surveyMethods self ms st))
    (methods : ∀ found st, st.surveying = false →
      Framed A st (checkMethods self found ms st).state)
    (h : Enclosed A st s₁) :
    Enclosed A st (checkInstance self name declared ms s₁).state := by
  rw [checkInstance_eq]
  exact .checkFixed _ (methods _)
    ((h.beginSurvey self (Field.merge declared)).later (survey _ rfl))

theorem Enclosed.checkMembers {fs : List FieldDecl} (real : s₁.surveying = false)
    (fields : ∀ st, st.surveying = false → Framed A st (checkFields fs st).state)
    (survey : ∀ st, st.surveying = true → Framed A st (surveyMethods self ms st))
    (methods : ∀ found st, st.surveying = false →
      Framed A st (checkMethods self found ms st).state)
    (h : Enclosed A st s₁) : Enclosed A st (checkMembers self name fs ms s₁).state := by
  have declared := h.later (fields s₁ real)
  unfold Checker.checkMembers Edit.andThen
  split
  · exact declared.checkInstance _ survey methods
  · exact declared

end Stages

/-- The state after the survey of one method; that it stopped is noted. -/
def surveyNext (self : Symbol) (n : Node Method) (st : State) : State :=
  match (surveyMethod self n.value st).result with
  | .ok _ => (surveyMethod self n.value st).state
  | .error f =>
    (surveyMethod self n.value st).state.note (.surveyStopped n.value.name.value.name f.fault)

/-- What is noted about a method's survey leads to a later state. -/
theorem later_surveyNext {A : String → Prop} (self : Symbol) (n : Node Method) (st : State) :
    Later A (surveyMethod self n.value st).state (surveyNext self n st) := by
  unfold surveyNext
  split
  · exact later_stepClosed.refl _
  · rename_i f stopped
    exact later_stepClosed.note _ _ ⟨self, n.value, st, f, stopped, rfl⟩

/-- Surveys of methods go the same way. -/
structure SurveysConcur (X : Symbol → Prop) (base : TypeTable × TypeTable) (subject : Symbol)
    (ms : List (Node Method)) : Prop where
  later : ∀ st, st.surveying = true →
    Later (· ∈ NameFlow.reached ms) st (surveyMethods subject ms st)
  alike : ∀ p q, p.surveying = true → Concordant X base p q →
    Scopes.SameNames (NameFlow.surveys ms).needs p.scopes q.scopes →
    HasRoom (surveyMethods subject ms p) (surveyMethods subject ms q) →
    Proceeds X base p q (surveyMethods subject ms p) (surveyMethods subject ms q)

namespace SurveysConcur

/-- No methods, no survey. -/
theorem nil (self : Symbol) : SurveysConcur X base self [] where
  later st _ := later_stepClosed.refl st
  alike _ _ _ hpq _ _ := .refl hpq

/-- One more method; a survey that stops in it stops in both states. -/
theorem cons {self : Symbol} {n : Node Method} {rest : List (Node Method)}
    {own : List Param × List (Node Stmt) → List (Node Expr)}
    (here : Concurs X base true f own (surveyMethod self n.value))
    (others : SurveysConcur X base self rest)
    (flow : NameFlow.surveys (n :: rest) = f.tentative.andThen (NameFlow.surveys rest))
    (reached : NameFlow.reached (n :: rest) = f.defines ++ NameFlow.reached rest) :
    SurveysConcur X base self (n :: rest) := by
  have next (st : State) (hst : st.surveying = true) :
      Later (· ∈ f.defines) st (surveyNext self n st) :=
    later_stepClosed.trans (here.later st hst) (later_surveyNext self n st)
  have still {st : State} (hst : st.surveying = true) : (surveyNext self n st).surveying = true :=
    (next st hst).continues.surveying.trans hst
  refine ⟨fun st hst => ?_, fun p q hp hpq same room => ?_⟩
  · rw [reached, surveyMethods_cons]
    exact later_stepClosed.trans ((next st hst).mono fun _ => List.mem_append_left _)
      ((others.later _ (still hst)).mono fun _ => List.mem_append_right _)
  · rw [flow] at same
    have hq : q.surveying = true := hpq.surveying.symm.trans hp
    rw [surveyMethods_cons, surveyMethods_cons] at room ⊢
    have method := here.alike p q hp hpq same.left (room.earlier
      (later_stepClosed.trans (later_surveyNext self n p) (others.later _ (still hp)))
      (later_stepClosed.trans (later_surveyNext self n q) (others.later _ (still hq))))
    have surveyed : Proceeds X base p q (surveyMethod self n.value p).state
        (surveyMethod self n.value q).state :=
      ⟨(here.later p hp).mono fun _ _ => trivial, (here.later q hq).mono fun _ _ => trivial,
        method.states, method.aliases⟩
    -- if the survey stops in this method, it stops in both states and for the same fault
    have noted : Proceeds X base p q (surveyNext self n p) (surveyNext self n q) := by
      unfold surveyNext
      rw [← method.result]
      cases hx : (surveyMethod self n.value p).result with
      | ok _ => exact surveyed
      | error e => exact surveyed.trans (.note surveyed.states _ ⟨self, n.value, p, e, hx, rfl⟩)
    have names := noted.sameNames hpq fun name hname => same.right hname List.not_mem_nil
    exact noted.trans (others.alike _ _ (still hp) noted.states names room)

end SurveysConcur

namespace Alike

variable {self : Symbol} {name : Option (Node Ident)} {ms : List (Node Method)} {p q : State}

/-- Once the fields are fixed, both checks go on with the same instance. -/
theorem checkFixed {found : List Field} (declared : Except Failure (List Field))
    (methods : Concurs X base false (NameFlow.methods ms) (fun _ => [])
      (checkMethods self found ms))
    (hpq : Concordant X base p q)
    (same : Scopes.SameNames (NameFlow.methods ms).needs p.scopes q.scopes)
    (room : HasRoom (checkFixed self name found declared ms p).state
      (checkFixed self name found declared ms q).state) :
    Alike X base (NameFlow.methods ms) (fun _ => []) p q
      (checkFixed self name found declared ms p) (checkFixed self name found declared ms q) := by
  unfold Checker.checkFixed at room ⊢
  cases declared with
  | error e => exact .failed rfl rfl hpq fun _ same => same
  | ok signatures =>
    have fixed := hpq.beginMethods self name found signatures
    have names : Scopes.SameNames (NameFlow.methods ms).needs
        (p.beginMethods self name found signatures).scopes
        (q.beginMethods self name found signatures).scopes := by
      intro other hother
      rw [State.typeNamed?_beginMethods, State.typeNamed?_beginMethods]
      exact same other hother
    dsimp only at room ⊢
    rw [Edit.whenDone_succeed, Edit.whenDone_succeed] at room ⊢
    have typed := methods.concludeWith (g := {})
      (k := fun entries st => .ok (Ty.object (st.surveyed ++ entries))) rfl fun _ _ _ _ h => by
        rw [h.surveyed]
    rw [NameFlow.andThen_nothing] at typed
    have inner := typed.alike _ _ rfl fixed names room
    refine { inner with aliases := fun other same => inner.aliases other ?_ }
    exact (sameAlias_congr (State.beginMethods_aliases ..) (State.beginMethods_aliases ..)
      other).mpr same

/-- The survey finds the same fields in both states, so both instances are the same. -/
theorem checkInstance {declared : List Field}
    (survey : SurveysConcur (fun s => X s ∨ s = self) base self ms)
    (methods : ∀ found, Concurs (fun s => X s ∨ s = self) base false (NameFlow.methods ms)
      (fun _ => []) (checkMethods self found ms))
    (hpq : Concordant X base p q)
    (same : Scopes.SameNames ((NameFlow.surveys ms).andThen
      ((NameFlow.signatures ms).andThen (NameFlow.methods ms))).needs p.scopes q.scopes)
    (room : HasRoom (checkInstance self name declared ms p).state
      (checkInstance self name declared ms q).state) :
    Alike X base ((NameFlow.surveys ms).andThen
        ((NameFlow.signatures ms).andThen (NameFlow.methods ms))) (fun _ => []) p q
      (checkInstance self name declared ms p) (checkInstance self name declared ms q) := by
  have begun := hpq.beginSurvey self (Field.merge declared)
  have names : Scopes.SameNames ((NameFlow.surveys ms).andThen
      ((NameFlow.signatures ms).andThen (NameFlow.methods ms))).needs
      (p.beginSurvey self (Field.merge declared)).scopes
      (q.beginSurvey self (Field.merge declared)).scopes := same
  rw [checkInstance_eq, checkInstance_eq] at room ⊢
  have surveyed : Proceeds _ base _ _ (surveyInstance self declared ms p)
      (surveyInstance self declared ms q) :=
    survey.alike _ _ rfl begun names.left
      (room.of_extends (checkFixed_extends self name ms _ _ _)
        (checkFixed_extends self name ms _ _ _))
  -- no survey can be relied on for an alias, so the names agreed on before still are
  have later : Scopes.SameNames ((NameFlow.signatures ms).andThen (NameFlow.methods ms)).needs
      (surveyInstance self declared ms p).scopes (surveyInstance self declared ms q).scopes :=
    surveyed.sameNames begun fun other hother =>
      names.right hother (by simp [NameFlow.defines_surveys])
  -- the same fields were found, so the signatures are the same as well
  rw [surveyed.states.surveyed, memberSignatures_congr_of_needs later.left] at room ⊢
  have fixed := (checkFixed _ (methods _) surveyed.states.endSurvey
    (fun other hother => later.right hother (by simp [NameFlow.defines_signatures])) room).mono
    fun s (hs : X s) => Or.inl hs
  refine { fixed with
    aliases := fun other same => fixed.aliases other (surveyed.aliases other same)
    defined := fun a ok other hother => fixed.defined a ok other ?_ }
  simpa [NameFlow.andThen, NameFlow.defines_surveys, NameFlow.defines_signatures] using hother

/-- The members of a class one stage after the other. -/
theorem checkMembers {fs : List FieldDecl}
    (fields : Concurs X base false (NameFlow.fields fs) (fun _ => []) (checkFields fs))
    (survey : SurveysConcur (fun s => X s ∨ s = self) base self ms)
    (methods : ∀ found, Concurs (fun s => X s ∨ s = self) base false (NameFlow.methods ms)
      (fun _ => []) (checkMethods self found ms))
    (real : p.surveying = false) (hpq : Concordant X base p q)
    (same : Scopes.SameNames ((NameFlow.fields fs).andThen ((NameFlow.surveys ms).andThen
      ((NameFlow.signatures ms).andThen (NameFlow.methods ms)))).needs p.scopes q.scopes)
    (room : HasRoom (checkMembers self name fs ms p).state (checkMembers self name fs ms q).state) :
    Alike X base ((NameFlow.fields fs).andThen ((NameFlow.surveys ms).andThen
        ((NameFlow.signatures ms).andThen (NameFlow.methods ms)))) (fun _ => []) p q
      (checkMembers self name fs ms p) (checkMembers self name fs ms q) := by
  have real' : q.surveying = false := hpq.surveying.symm.trans real
  have onwards (st : State) : (Checker.checkMembers self name fs ms st).state.table.Extends
      (checkFields fs st).state.table := by
    unfold Checker.checkMembers Edit.andThen
    split
    · exact checkInstance_extends self name ms _ _
    · exact .refl _
  have first := fields.alike p q real hpq same.left (room.of_extends (onwards p) (onwards q))
  refine first.andThen (fun declared hx => ?_) (fun _ _ _ => .of_nil rfl rfl) fun _ _ => rfl
  refine checkInstance survey methods first.states
    (first.sameNames hpq (fields.later p real) (fields.later q real') hx same) ?_
  simpa only [Checker.checkMembers, Edit.andThen, ← first.result, hx] using room

end Alike

namespace Concurs

variable {name : Option (Node Ident)} {fs : List FieldDecl} {ms : List (Node Method)}

/-- Checks the members of a class in a scope of their own and with a survey of their own. -/
def checkOwnMembers (name : Option (Node Ident)) (fs : List FieldDecl) (ms : List (Node Method))
    (st : State) : Checked (List FieldDecl × List (Node Method)) Ty :=
  (Checker.inScope (checkMembers st.nextSelf name fs ms) (st.enterClass ms)).mapState
    fun after => { after with survey := st.survey }

/-- The members of a class define the aliases of its fields and methods. -/
theorem enclosed_ownMembers {self : Symbol} {st : State}
    (fields : Concurs X base false (NameFlow.fields fs) (fun _ => []) (checkFields fs))
    (survey : SurveysConcur (fun s => X s ∨ s = self) base self ms)
    (methods : ∀ found, Concurs (fun s => X s ∨ s = self) base false (NameFlow.methods ms)
      (fun _ => []) (checkMethods self found ms)) :
    Enclosed (· ∈ ((NameFlow.fields fs).andThen ((NameFlow.surveys ms).andThen
        ((NameFlow.signatures ms).andThen (NameFlow.methods ms)))).defines) st
      (checkMembers self name fs ms (st.enterClass ms).push).state := by
  have last {name : String} (h : name ∈ (NameFlow.methods ms).defines) :
      name ∈ ((NameFlow.fields fs).andThen ((NameFlow.surveys ms).andThen
        ((NameFlow.signatures ms).andThen (NameFlow.methods ms)))).defines :=
    List.mem_append_right _ (List.mem_append_right _ (List.mem_append_right _ h))
  refine (Enclosed.enterClass ms st).checkMembers rfl (fun st real => ?_) (fun st surveying => ?_)
    fun found st real => ?_
  · exact ((fields.later st real).mono fun _ => List.mem_append_left _).framed
  · exact ((survey.later st surveying).mono fun _ h => last (NameFlow.reached_subset ms h)).framed
  · exact (((methods found).later st real).mono fun _ => last).framed

/-- The members of a class with the number that is its own in either state. -/
theorem ownMembers
    (fields : Concurs X base false (NameFlow.fields fs) (fun _ => []) (checkFields fs))
    (survey : ∀ self, SurveysConcur (fun s => X s ∨ s = self) base self ms)
    (methods : ∀ self found, Concurs (fun s => X s ∨ s = self) base false (NameFlow.methods ms)
      (fun _ => []) (checkMethods self found ms)) :
    Concurs X base false ((NameFlow.fields fs).andThen ((NameFlow.surveys ms).andThen
        ((NameFlow.signatures ms).andThen (NameFlow.methods ms)))) (fun _ => [])
      (checkOwnMembers name fs ms) where
  later st real := by
    have table := checkMembers_extends st.nextSelf name ms fs (st.enterClass ms).push
    have entered : (st.enterClass ms).push.table = st.table := State.enterClass_table ms st
    rw [entered] at table
    exact ⟨(enclosed_ownMembers fields (survey _) (methods _)).leaveClass, .leaveClass real table⟩
  alike p q real hpq same room := by
    -- entering a class changes no names of types
    have types (st : State) (other : String) :
        (st.enterClass ms).push.scopes.typeNamed? other = st.scopes.typeNamed? other := by
      rw [← State.enterClass_scopes ms st]
      rfl
    have aliases (st : State) : (st.enterClass ms).push.scopes.aliases = st.scopes.aliases := by
      rw [← State.enterClass_scopes ms st]
      rfl
    unfold checkOwnMembers at room ⊢
    -- both states give the class the same number, so it has the same instance in both
    rw [← hpq.nextSelf] at room ⊢
    have inner := Alike.checkMembers fields (survey p.nextSelf) (methods p.nextSelf) rfl
      (hpq.enterClass ms) (fun other hother => by rw [types, types]; exact same other hother) room
    have enclosed (st : State) : Enclosed _ st
        (checkMembers p.nextSelf name fs ms (st.enterClass ms).push).state :=
      enclosed_ownMembers fields (survey _) (methods _)
    refine ⟨inner.result, hpq.leaveClass (enclosed p) (enclosed q) inner.states,
      fun other same => ?_, fun a ok other hother => ?_, fun _ _ _ => .of_nil rfl rfl⟩
    · refine (sameAlias_congr (State.pop_aliases _) (State.pop_aliases _) other).mpr
        (inner.aliases other ?_)
      exact (sameAlias_congr (aliases p) (aliases q) other).mpr same
    · exact (sameAlias_congr (State.pop_aliases _) (State.pop_aliases _) other).mpr
        (inner.defined a ok other hother)

/-- A class needs what its stages need, in their order. -/
theorem checkClass
    (fields : Concurs X base false (NameFlow.fields fs) (fun _ => []) (checkFields fs))
    (survey : ∀ self, SurveysConcur (fun s => X s ∨ s = self) base self ms)
    (methods : ∀ self found, Concurs (fun s => X s ∨ s = self) base false (NameFlow.methods ms)
      (fun _ => []) (checkMethods self found ms)) :
    Concurs X base false ((NameFlow.fields fs).andThen ((NameFlow.surveys ms).andThen
        ((NameFlow.signatures ms).andThen (NameFlow.methods ms)))) (fun _ => [])
      (Checker.checkClass ⟨name, fs, ms⟩) := by
  rw [← NameFlow.andThen_nothing (NameFlow.andThen _ _)]
  have bound : Concurs X base false _ (fun _ => []) fun st =>
      (checkOwnMembers name fs ms st).andThen name (Checker.named name) Prod.mk :=
    (ownMembers fields survey methods).andThen name (named name) _ fun _ _ => rfl
  have built : Concurs X base false _ (fun _ => []) fun st =>
      ((checkOwnMembers name fs ms st).andThen name (Checker.named name) Prod.mk).rebuild fun r =>
        (⟨r.2, r.1.1, SelfReference.link st.nextSelf r.1.2⟩ : Class) :=
    bound.rebuild _ fun _ _ => rfl
  refine built.of_pass fun st real => ?_
  rw [checkClass_of_real name fs ms real]
  exact Edit.andThen_build ..

end Concurs

end
end Checker
end StructuralTyping
