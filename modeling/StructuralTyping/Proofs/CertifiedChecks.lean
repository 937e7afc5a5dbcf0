import StructuralTyping.Proofs.CheckerSteps
import StructuralTyping.Proofs.RuleOutcomes

/-! # Checked trees are certified

The checker computes types on the way up and records them in a table that goes on growing.  This
module proves that what it leaves behind certifies itself: after a check without diagnostics every
expression that a tour reaches has a type, and every part of the program is certified by the types
in the final table (`Session.certified_check`).

The invariant of the induction is `Certifies`.  It speaks of every *later* table that has room for
its ids, since a part is certified by the table at the end and not by the one that was there when
the part was checked.
-/
namespace StructuralTyping

namespace Checker

/-! ## Parts that are certified -/

/-- All of the parts are certified. -/
def AllCertified (table : TypeTable) (parts : List Part) : Prop := ∀ p ∈ parts, p.Certified table

theorem AllCertified.nil {table : TypeTable} : AllCertified table [] := List.forall_mem_nil _

theorem AllCertified.append {table : TypeTable} {a b : List Part} (ha : AllCertified table a)
    (hb : AllCertified table b) : AllCertified table (a ++ b) :=
  List.forall_mem_append.mpr ⟨ha, hb⟩

theorem AllCertified.cons {table : TypeTable} {p : Part} {parts : List Part}
    (hp : p.Certified table) (h : AllCertified table parts) : AllCertified table (p :: parts) :=
  List.forall_mem_cons.mpr ⟨hp, h⟩

variable {τ υ ω α β : Type}

/-- If the check succeeds, what it leaves and what it found satisfy `P` in every later table that
has room for its ids. -/
structure Certifies (P : TypeTable → τ → α → Prop) (st : State) (e : Checked τ α) : Prop where
  real : e.state.surveying = false
  grows : e.state.table.Extends st.table
  holds : ∀ a, e.result = .ok a → ∀ final : TypeTable, final.Extends e.state.table →
    final.size ≤ TypeTable.capacity → P final e.tree a

namespace Certifies

variable {st : State} {P : TypeTable → τ → α → Prop}

/-- A check that does nothing certifies what holds of the tree in every table. -/
theorem succeed {a : α} {tree : τ} (real : st.surveying = false)
    (h : ∀ final, P final tree a) : Certifies P st (.succeed a tree st) where
  real := real
  grows := .refl _
  holds b hb final _ _ := by
    rw [← Except.ok.inj hb]
    exact h final

/-- A failed check has nothing to certify. -/
theorem fail {f : Failure} {tree : τ} (real : st.surveying = false) :
    Certifies P st (.fail f tree st) where
  real := real
  grows := .refl _
  holds _ h := by cases h

/-- Only the table of the first state counts. -/
theorem of_table {st₁ : State} {e : Checked τ α} (h : Certifies P st₁ e)
    (table : st₁.table = st.table) : Certifies P st e where
  real := h.real
  grows := table ▸ h.grows
  holds := h.holds

/-- What is certified may be weakened. -/
theorem imp {Q : TypeTable → τ → α → Prop} {e : Checked τ α} (h : Certifies P st e)
    (hQ : ∀ final t a, P final t a → Q final t a) : Certifies Q st e :=
  ⟨h.real, h.grows, fun a ha final ext room => hQ _ _ _ (h.holds a ha final ext room)⟩

/-- A conclusion keeps the tree, and with it what was certified about it. -/
theorem concludeWith {e : Checked τ α} (h : Certifies P st e) (f : α → State → Except Failure β) :
    Certifies (fun final t b => ∃ a st, f a st = .ok b ∧ P final t a) st (e.concludeWith f) where
  real := h.real
  grows := h.grows
  holds b hb final ext room := by
    obtain ⟨a, ha, hb⟩ := exists_of_bind_eq_ok hb
    exact ⟨a, e.state, hb, h.holds a ha final ext room⟩

theorem conclude {e : Checked τ α} (h : Certifies P st e) (f : α → Except Failure β) :
    Certifies (fun final t b => ∃ a, f a = .ok b ∧ P final t a) st (e.conclude f) :=
  (h.concludeWith fun a _ => f a).imp fun _ _ _ ⟨a, _, hf, ha⟩ => ⟨a, hf, ha⟩

/-- What is certified about a part may be put as a fact about the tree around it. -/
theorem rebuild {Q : TypeTable → ω → α → Prop} {e : Checked τ α} (h : Certifies P st e)
    {build : τ → ω} (hQ : ∀ final t a, P final t a → Q final (build t) a) :
    Certifies Q st (e.rebuild build) :=
  ⟨h.real, h.grows, fun a ha final ext room => hQ _ _ _ (h.holds a ha final ext room)⟩

/-- Scopes have no part in what is certified. -/
theorem inScope {work : State → Checked τ α} (h : Certifies P st.push (work st.push)) :
    Certifies P st (Checker.inScope work st) :=
  ⟨h.real, h.grows, h.holds⟩

/-- Two checks in a row; what the first has certified survives the growth of the table in the
second. -/
theorem andThen (P₂ : α → TypeTable → υ → β → Prop) {Q : TypeTable → ω → β → Prop}
    {first : Checked τ α} {rest : υ} {next : α → State → Checked υ β} {build : τ → υ → ω}
    (h₁ : Certifies P st first)
    (h₂ : ∀ a st, st.surveying = false → Certifies (P₂ a) st (next a st))
    (hQ : ∀ final t u a b, P final t a → P₂ a final u b → Q final (build t u) b) :
    Certifies Q st (first.andThen rest next build) := by
  unfold Edit.andThen
  split
  · rename_i a ha
    have h₂ := h₂ a first.state h₁.real
    refine ⟨h₂.real, h₂.grows.trans h₁.grows, fun b hb final ext room => ?_⟩
    -- a table later than the second part is later than the first one too
    exact hQ _ _ _ _ _ (h₁.holds a ha final (ext.trans h₂.grows) room)
      (h₂.holds b hb final ext room)
  · exact ⟨h₁.real, h₁.grows, fun _ h => by cases h⟩

/-- A last step that writes nothing into the tree keeps what was certified. -/
theorem whenDone {Q : TypeTable → τ → β → Prop} {e : Checked τ α}
    {next : α → τ → State → Checked τ β} (h : Certifies P st e)
    (quiet : ∀ a, Quiet e (next a e.tree e.state))
    (hQ : ∀ final a b, (next a e.tree e.state).result = .ok b → P final e.tree a →
      Q final e.tree b) :
    Certifies Q st (e.whenDone next) := by
  unfold Edit.whenDone
  split
  · rename_i a ha
    have quiet := quiet a
    refine ⟨quiet.surveying.trans h.real, quiet.table ▸ h.grows, fun b hb final ext room => ?_⟩
    rw [quiet.table] at ext
    rw [quiet.tree]
    exact hQ final a b hb (h.holds a ha final ext room)
  · exact ⟨h.real, h.grows, fun _ h => by cases h⟩

/-- What was recorded for a part stands in every later table. -/
theorem recorded {P : TypeTable → τ → Ty → Prop} {Q : TypeTable → Node τ → Ty → Prop}
    {e : Checked τ Ty} {span : Span} {slot : Option TypeId} (h : Certifies P st e)
    (hQ : ∀ final n t, P final n.value t → final.typeOf n.ty = some t → Q final n t) :
    Certifies Q st (Checker.recorded span slot e) := by
  unfold Checker.recorded
  split
  · rename_i t ht
    rw [State.record_of_real h.real]
    have added := TypeTable.Extends.add e.state.table t
    refine ⟨h.real, added.trans h.grows, fun b hb final ext room => ?_⟩
    rw [← Except.ok.inj hb]
    exact hQ _ _ _ (h.holds t ht final (ext.trans added) room) (ext.get?_nextId room)
  · exact ⟨h.real, h.grows, fun _ h => by cases h⟩

/-- A name is recorded before the rest of the part is checked. -/
theorem afterName {name : Node Ident} {t : Ty} {P : TypeTable → υ → β → Prop}
    {Q : TypeTable → ω → β → Prop} (tail : State → Checked υ β) (build : Node Ident → υ → ω)
    (real : st.surveying = false) (h : ∀ st, st.surveying = false → Certifies P st (tail st))
    (hQ : ∀ final n u b, final.typeOf n.ty = some t → P final u b → Q final (build n u) b) :
    Certifies Q st ((tail (st.recordName name t).2).rebuild (build (st.recordName name t).1)) := by
  simp only [State.recordName, State.record_of_real real]
  have h := h { st with table := st.table.add t } real
  have added := TypeTable.Extends.add st.table t
  refine ⟨h.real, h.grows.trans added, fun b hb final ext room => ?_⟩
  exact hQ _ _ _ _ ((ext.trans h.grows).get?_nextId room) (h.holds b hb final ext room)

/-- A name is recorded with its type. -/
theorem named (real : st.surveying = false) (name : Option (Node Ident)) (t : Ty) :
    Certifies (fun final name u => u = t ∧ final.OnName name t) st (Checker.named name t st) := by
  cases name with
  | none => exact .succeed real fun _ => ⟨rfl, fun _ h => nomatch h⟩
  | some n =>
    have done (st : State) (real : st.surveying = false) :
        Certifies (fun _ _ u => u = t) st (Edit.succeed t () st : Checked Unit Ty) :=
      .succeed real fun _ => rfl
    refine (Certifies.afterName _ (fun n _ => some n)
      ((State.bind_surveying n.value.symbol t st).trans real) done ?_).of_table
        (State.bind_table _ _ _)
    rintro final n _ b hn rfl
    exact ⟨rfl, fun _ h => Option.some.inj h ▸ hn⟩

/-- Parameters are recorded with their types. -/
theorem checkParams (params : List Param) (real : st.surveying = false) :
    Certifies (fun final ps ts => final.typesOfParams ps = ts.map some) st
      (Checker.checkParams params st) := by
  induction params generalizing st with
  | nil => exact .succeed real fun _ => rfl
  | cons p rest ih =>
    obtain ⟨name, declaredAs⟩ := p
    unfold Checker.checkParams
    split
    · exact .fail real
    · rename_i t _
      refine (Certifies.afterName
        (fun st => (Checker.checkParams rest st).conclude fun ts => .ok (t :: ts))
        (fun n rest => ⟨n, declaredAs⟩ :: rest)
        ((State.bind_surveying name.value.symbol t st).trans real)
        (fun st real => (ih real).conclude _) ?_).of_table (State.bind_table _ _ _)
      rintro final n rest _ hn ⟨ts, hts, hrest⟩
      obtain rfl := Except.ok.inj hts
      exact congr (congrArg List.cons hn) hrest

/-- Parameters and body of a function or method. -/
theorem checkCallable {typeParams : List (Node Ident)} {params : List Param}
    {returns : Option (Node TypeExpr)} {body : List (Node Stmt)}
    {announce : List Ty → Option Ty → State → State}
    {checkBody : State → Checked (List (Node Stmt)) Ty}
    (hannounce : ∀ types declared st, (announce types declared st).table = st.table ∧
      (announce types declared st).surveying = st.surveying)
    (hcheck : ∀ st, st.surveying = false →
      Certifies (fun final body _ => AllCertified final (Parts.stmts body)) st (checkBody st))
    (real : st.surveying = false) :
    Certifies
      (fun final p t => AllCertified final (Parts.stmts p.2) ∧
        ∃ ts r, final.typesOfParams p.1 = ts.map some ∧ t = .function ts r)
      st (Checker.checkCallable typeParams params returns body announce checkBody st) := by
  have hp : Certifies (fun final ps ts => final.typesOfParams ps = ts.map some)
      (st.push.bindTypeParams typeParams)
      (Checker.checkParams params (st.push.bindTypeParams typeParams)) :=
    Certifies.checkParams params real
  refine .inScope (.andThen
    (fun types final body t => AllCertified final (Parts.stmts body) ∧ ∃ r, t = .function types r)
    (hp.of_table rfl) (fun types st real => ?_) ?_)
  · split
    · exact .fail real
    · rename_i declared _
      obtain ⟨table, surveying⟩ := hannounce types declared st
      refine .whenDone ((hcheck _ (surveying.trans real)).of_table table)
        (fun _ => ⟨rfl, rfl, rfl⟩) ?_
      intro final _ t ht hbody
      refine ⟨hbody, ?_⟩
      obtain ⟨r, -, rfl⟩ := exists_of_map_eq_ok ht
      exact ⟨r, rfl⟩
  · rintro final ps body types t hps ⟨hbody, r, rfl⟩
    exact ⟨hbody, types, r, hps, rfl⟩

end Certifies

/-! ## Every part of a program -/

/-- A checked expression has its type on it and is certified. -/
structure TypedExpr (e : Node Expr) (final : TypeTable) (n : Node Expr) (t : Ty) : Prop where
  name : n.value.name? = e.value.name?
  type : final.typeOf n.ty = some t
  parts : AllCertified final (Parts.node n)

/-- The form of a checked expression allows its type. -/
structure TypedForm (e : Expr) (final : TypeTable) (e' : Expr) (t : Ty) : Prop where
  name : e'.name? = e.name?
  rule : e'.Certified final t
  parts : AllCertified final (Parts.inside e')

/-- Checked expressions in a list have their types on them, one each. -/
structure TypedExprs (es : List (Node Expr)) (final : TypeTable) (es' : List (Node Expr))
    (ts : List Ty) : Prop where
  length : ts.length = es.length
  types : final.typesOf es' = ts.map some
  parts : AllCertified final (Parts.nodes es')

/-- A checked expression is there exactly if its type is. -/
structure TypedOptional (final : TypeTable) (e : Option (Node Expr)) (t : Option Ty) : Prop where
  type : e.map (fun n => final.typeOf n.ty) = t.map some
  parts : AllCertified final (Parts.optional e)

/-- A checked statement has its type and is certified. -/
structure TypedStmt (final : TypeTable) (n : Node Stmt) (t : Ty) : Prop where
  type : final.typeOfStmt n = some t
  parts : AllCertified final (Parts.stmt n)

/-- The form of a checked statement allows its type, and the type is recorded on its node. -/
structure TypedStmtForm (final : TypeTable) (s : Stmt) (t : Ty) : Prop where
  onNode : ∀ span slot, final.typeOfStmt ⟨span, s, slot⟩ = final.typeOf slot
  rule : s.Certified final t
  parts : AllCertified final (Parts.insideStmt s)

/-- A checked statement is there exactly if its type is. -/
structure TypedOptionalStmt (final : TypeTable) (n : Option (Node Stmt)) (t : Option Ty) :
    Prop where
  type : n.map final.typeOfStmt = t.map some
  parts : AllCertified final (Parts.optionalStmt n)

/-- Checked statements; `last` is the type if there are none. -/
structure TypedStmts (last : Ty) (final : TypeTable) (body : List (Node Stmt)) (t : Ty) :
    Prop where
  type : (body.getLast?.map final.typeOfStmt).getD (some last) = some t
  parts : AllCertified final (Parts.stmts body)

/-- The type of checked statements is the type of the body they are. -/
theorem TypedStmts.typeOfBody {final : TypeTable} {body : List (Node Stmt)} {t : Ty}
    (h : TypedStmts .undefined final body t) : final.typeOfBody body = some t := by
  have h := h.type
  unfold TypeTable.typeOfBody
  cases hlast : body.getLast? with
  | none => simpa [hlast] using h
  | some n => simpa [hlast] using h

/-- Checked properties make the fields of an object. -/
structure TypedProperties (final : TypeTable) (ps : List Property) (entries : List Field) :
    Prop where
  types : ∃ ts, final.typesOf (ps.map (·.value)) = ts.map some ∧
    entries = ps.zipWith (fun p u => ⟨p.key.value.name, u.widen⟩) ts
  parts : AllCertified final (Parts.properties ps)

/-- Checked members of a class, as they are before they are linked. -/
structure TypedMembers (final : TypeTable) (p : List FieldDecl × List (Node Method)) (t : Ty) :
    Prop where
  type : ∃ fields, t = .object fields
  fields : AllCertified final (Parts.fieldDecls p.1)
  methods : AllCertified final (Parts.methods p.2)

namespace Certifies

variable {st : State}

/-- A statement with its type recorded. -/
theorem recordedStmt {e : Checked Stmt Ty} {span : Span} {slot : Option TypeId}
    (h : Certifies TypedStmtForm st e) : Certifies TypedStmt st (Checker.recorded span slot e) := by
  refine h.recorded ?_
  rintro final ⟨span, s, slot⟩ t hs hty
  have type := (hs.onNode span slot).trans hty
  exact ⟨type, .cons ⟨t, type, hs.rule⟩ hs.parts⟩

/-- What is checked inside of a class, which is left with the survey that was under way before. -/
theorem leaveClass {e : Checked (List FieldDecl × List (Node Method)) Ty}
    (methods : List (Node Method)) (real : st.surveying = false)
    (h : Certifies TypedMembers (st.enterClass methods) e) :
    Certifies TypedMembers st (e.mapState fun after => { after with survey := st.survey }) :=
  ⟨real, State.enterClass_table methods st ▸ h.grows, h.holds⟩

mutual

/-- A check for real certifies the expression it leaves behind, by induction over the tree. -/
theorem checkExpr (receiver : Receiver) : ∀ (e : Node Expr) (st : State),
    st.surveying = false → Certifies (TypedExpr e) st (Checker.checkExpr receiver e st)
  | ⟨span, e, slot⟩, st, real => by
    refine .recorded (checkForm receiver span e st real) ?_
    rintro final ⟨span, e', slot'⟩ t h hty
    exact ⟨h.name, hty, .cons ⟨t, hty, h.rule⟩ h.parts⟩

theorem checkForm (receiver : Receiver) (span : Span) : ∀ (e : Expr) (st : State),
    st.surveying = false → Certifies (TypedForm e) st (Checker.checkForm receiver span e st)
  | .literal v, _, real => .succeed real fun _ => ⟨rfl, rfl, .nil⟩
  | .ident i, _, real => .succeed real fun _ => ⟨rfl, trivial, .nil⟩
  | .call callee args, st, real => by
    refine .andThen _ (checkExpr receiver callee st real)
      (fun _ st real => (checkExprs receiver args st real).conclude _) ?_
    rintro final callee' args' f t hcallee ⟨ts, hcall, hargs⟩
    refine ⟨rfl, ?_, hcallee.parts.append hargs.parts⟩
    have arity : args'.length = args.length := by
      rw [← hargs.length]
      simpa [TypeTable.typesOf] using congrArg List.length hargs.types
    -- the rule looked at the call as it came; the certificate looks at it as it is now, with the
    -- same name and as many arguments
    obtain ⟨name, hname, isNamed⟩ | applies := Rule.applies_of_call hargs.length hcall
    · exact .inl ⟨name, hcallee.name.trans hname, arity ▸ isNamed⟩
    · exact .inr ⟨f, ts, hcallee.type, hargs.types, applies⟩
  | .conditional test consequent alternate, st, real => by
    unfold Checker.checkForm
    refine .andThen
      (fun _ final (p : Node Stmt × Option (Node Stmt)) t => ∃ u v, TypedStmt final p.1 u ∧
        TypedOptionalStmt final p.2 v ∧ t = Rule.branches u v)
      ((checkExpr receiver test st real).conclude _) (fun _ st real => ?_) ?_
    · refine .andThen _ (checkStmt receiver consequent st real)
        (fun _ st real => (checkOptionalStmt receiver alternate st real).conclude _) ?_
      rintro final c a u t hc ⟨v, hv, ha⟩
      exact ⟨u, v, hc, ha, (Except.ok.inj hv).symm⟩
    · rintro final test' ⟨c, a⟩ _ _ ⟨_, _, htest⟩ ⟨u, v, hc, ha, rfl⟩
      exact ⟨rfl, Rule.certified_branches hc.type ha.type,
        htest.parts.append (hc.parts.append ha.parts)⟩
  | .member base property, st, real => by
    unfold Checker.checkForm
    refine .andThen (fun _ final (n : Node Ident) t => final.typeOf n.ty = some t)
      (checkExpr receiver base st real) (fun t st real => ?_) ?_
    · have found : Certifies (fun _ _ _ => True) st
          (⟨Rule.property base.span property.span t property.value.name, property.value, st⟩ :
            Checked Ident Ty) :=
        ⟨real, .refl _, fun _ _ _ _ _ => trivial⟩
      exact found.recorded fun _ _ _ _ hty => hty
    · intro final base' property' _ t hbase hproperty
      exact ⟨rfl, hproperty, hbase.parts⟩
  | .index base position, st, real => by
    refine .andThen _ (checkExpr receiver base st real)
      (fun _ st real => (checkExpr receiver position st real).conclude _) ?_
    rintro final base' position' b t hbase ⟨p, hrule, hposition⟩
    obtain ⟨numeric, element⟩ := Rule.index_ok hrule
    exact ⟨rfl, ⟨b, p, hbase.type, hposition.type, numeric, element⟩,
      hbase.parts.append hposition.parts⟩
  | .function f, st, real => (checkFunction f st real).rebuild fun _ _ _ h => h
  | .classDef c, st, real => (checkClass c st real).rebuild fun _ _ _ h => h
  | .assertion e ty, st, real => by
    unfold Checker.checkForm
    refine ((checkExpr receiver e st real).concludeWith _).rebuild ?_
    rintro final e' t ⟨u, st, hrule, he⟩
    obtain ⟨asserted, -, hrule⟩ := exists_of_bind_eq_ok hrule
    exact ⟨rfl, ⟨u, he.type, Rule.assertion_ok hrule⟩, he.parts⟩
  | .throwing value, st, real => by
    refine ((checkExpr receiver value st real).conclude _).rebuild ?_
    rintro final value' t ⟨_, ht, hvalue⟩
    exact ⟨rfl, (Except.ok.inj ht).symm, hvalue.parts⟩
  | .whileLoop test body, st, real => by
    refine .andThen _ ((checkExpr receiver test st real).conclude _)
      (fun _ st real => (inScope (checkStmts receiver _ body st.push real)).conclude _) ?_
    rintro final test' body' _ t ⟨_, _, htest⟩ ⟨_, ht, hbody⟩
    exact ⟨rfl, (Except.ok.inj ht).symm, htest.parts.append hbody.parts⟩
  | .forLoop bindings test update body, st, real => by
    unfold Checker.checkForm
    refine .inScope ?_
    refine .andThen
      (fun _ final (p : Option (Node Expr) × Option (Node Expr) × List (Node Stmt)) t =>
        t = .undefined ∧ AllCertified final
          (Parts.optional p.1 ++ (Parts.optional p.2.1 ++ Parts.stmts p.2.2)))
      (checkBindings receiver bindings st.push real) (fun _ st real => ?_) ?_
    · refine .andThen
        (fun _ final (p : Option (Node Expr) × List (Node Stmt)) t =>
          t = .undefined ∧ AllCertified final (Parts.optional p.1 ++ Parts.stmts p.2))
        ((checkOptional receiver test st real).conclude _) (fun _ st real => ?_) ?_
      · refine .andThen _ (checkOptional receiver update st real)
          (fun _ st real => (inScope (checkStmts receiver _ body st.push real)).conclude _) ?_
        rintro final update' body' _ t hupdate ⟨_, ht, hbody⟩
        exact ⟨(Except.ok.inj ht).symm, hupdate.parts.append hbody.parts⟩
      · rintro final test' p _ t ⟨_, _, htest⟩ ⟨rfl, hp⟩
        exact ⟨rfl, htest.parts.append hp⟩
    · rintro final bindings' p _ t hbindings ⟨rfl, hp⟩
      exact ⟨rfl, rfl, hbindings.append hp⟩
  | .returning value, st, real => by
    refine ((checkOptional receiver value st real).conclude _).rebuild ?_
    rintro final value' _ ⟨t, ht, hvalue⟩
    obtain rfl := Except.ok.inj ht
    exact ⟨rfl, certified_returning hvalue.type, hvalue.parts⟩
  | .attempt body handler cleanup, st, real => by
    unfold Checker.checkForm
    refine .andThen
      (fun _ final (p : Option Handler × Option (List (Node Stmt))) t =>
        t = .undefined ∧ AllCertified final (Parts.optionalHandler p.1 ++ Parts.optionalBody p.2))
      (inScope (checkStmts receiver _ body st.push real)) (fun _ st real => ?_) ?_
    · refine .andThen _ (checkHandler receiver handler st real)
        (fun _ st real => checkCleanup receiver cleanup st real) ?_
      rintro final handler' cleanup' _ t hhandler ⟨ht, hcleanup⟩
      exact ⟨ht, hhandler.append hcleanup⟩
    · rintro final body' p _ t hbody ⟨rfl, hp⟩
      exact ⟨rfl, rfl, hbody.parts.append hp⟩
  | .array items, st, real => by
    refine ((checkExprs receiver items st real).conclude _).rebuild ?_
    rintro final items' _ ⟨ts, ht, hitems⟩
    obtain rfl := Except.ok.inj ht
    obtain ⟨u, harray, hu⟩ := Rule.array_eq ts
    exact ⟨rfl, ⟨ts, u, hitems.types, harray, hu⟩, hitems.parts⟩
  | .object properties, st, real => by
    refine ((checkProperties receiver properties st real).conclude _).rebuild ?_
    rintro final properties' _ ⟨entries, ht, hproperties⟩
    obtain rfl := Except.ok.inj ht
    obtain ⟨ts, hts, rfl⟩ := hproperties.types
    exact ⟨rfl, ⟨ts, hts, rfl⟩, hproperties.parts⟩
  | .assignment target value, st, real => by
    unfold Checker.checkForm
    split
    · refine .andThen
        (fun u final n t => TypedExpr value final n t ∧ t.assignable u = true)
        (checkExpr receiver target st real) (fun targetTy st real => ?_) ?_
      · refine .whenDone (checkExpr receiver value st real) (fun t => ?_) ?_
        · split
          · exact ⟨rfl, rfl, rfl⟩
          · exact ⟨rfl, (State.rebind_table _ _ _ _).trans (State.noteAssignment_table _ _ _ _),
              (State.rebind_surveying _ _ _ _).trans (State.noteAssignment_surveying _ _ _ _)⟩
        · intro final t u hu hvalue
          split at hu
          · nomatch hu
          · rename_i fits
            obtain rfl := Except.ok.inj hu
            exact ⟨hvalue, Failure.assignable_of_unlessAssignable fits⟩
      · rintro final target' value' u t htarget ⟨hvalue, fits⟩
        exact ⟨rfl, ⟨hvalue.type, u, htarget.type, fits⟩, htarget.parts.append hvalue.parts⟩
    · exact .fail real

theorem checkFunction : ∀ (f : Function) (st : State), st.surveying = false →
    Certifies (fun final f' t => TypedForm (.function f) final (.function f') t) st
      (Checker.checkFunction f st)
  | ⟨name, typeParams, params, returns, body⟩, st, real => by
    unfold Checker.checkFunction
    rw [if_neg (by simp [real])]
    refine .andThen _
      (checkCallable
        (fun _ _ _ => ⟨announceFunction_table _ _ _ _, announceFunction_surveying _ _ _ _⟩)
        (fun st real => (checkStmts none _ body st real).imp fun _ _ _ h => h.parts) real)
      (fun t st real => named real name t) ?_
    rintro final ⟨params', body'⟩ name' t _ ⟨hbody, hparams⟩ ⟨rfl, hname⟩
    exact ⟨rfl, ⟨hname, hparams⟩, hbody⟩

theorem checkClass : ∀ (c : Class) (st : State), st.surveying = false →
    Certifies (fun final c' t => TypedForm (.classDef c) final (.classDef c') t) st
      (Checker.checkClass c st)
  | ⟨name, fields, methods⟩, outer, real => by
    unfold Checker.checkClass
    rw [if_neg (by simp [real])]
    dsimp only
    refine .andThen _ (leaveClass methods real (inScope ?_)) (fun t st real => named real name t) ?_
    · refine .andThen
        (fun _ final ms t => (∃ fields, t = .object fields) ∧ AllCertified final (Parts.methods ms))
        (checkFields fields _ rfl) (fun declared st _ => ?_) ?_
      · have survey := continues_stepClosed.surveyMethods outer.nextSelf methods
          (st.beginSurvey outer.nextSelf (Field.merge declared))
        have table := survey.silent rfl
        split
        · exact Certifies.of_table (.fail rfl) table
        · refine .whenDone ((checkMethods _ _ methods _ rfl).of_table
            ((State.beginMethods_table _ _ _ _ _).trans table)) (fun _ => ⟨rfl, rfl, rfl⟩) ?_
          intro final _ t ht hmethods
          exact ⟨⟨_, (Except.ok.inj ht).symm⟩, hmethods⟩
      · rintro final fields' methods' _ t hfields ⟨type, hmethods⟩
        exact ⟨type, hfields, hmethods⟩
    · rintro final ⟨fields', methods'⟩ name' t _ hmembers ⟨rfl, hname⟩
      exact ⟨rfl, ⟨hname, hmembers.type⟩,
        hmembers.fields.append (Part.certified_link hmembers.methods)⟩

theorem checkExprs (receiver : Receiver) : ∀ (es : List (Node Expr)) (st : State),
    st.surveying = false → Certifies (TypedExprs es) st (Checker.checkExprs receiver es st)
  | [], _, real => .succeed real fun _ => ⟨rfl, rfl, .nil⟩
  | e :: rest, st, real => by
    refine .andThen _ (checkExpr receiver e st real)
      (fun _ st real => (checkExprs receiver rest st real).conclude _) ?_
    rintro final n ns t _ hn ⟨ts, hts, hns⟩
    obtain rfl := Except.ok.inj hts
    exact ⟨congrArg (· + 1) hns.length, congr (congrArg List.cons hn.type) hns.types,
      hn.parts.append hns.parts⟩

theorem checkOptional (receiver : Receiver) : ∀ (e : Option (Node Expr)) (st : State),
    st.surveying = false → Certifies TypedOptional st (Checker.checkOptional receiver e st)
  | none, _, real => .succeed real fun _ => ⟨rfl, .nil⟩
  | some e, st, real => by
    refine ((checkExpr receiver e st real).conclude _).rebuild ?_
    rintro final n _ ⟨t, ht, hn⟩
    obtain rfl := Except.ok.inj ht
    exact ⟨congrArg some hn.type, hn.parts⟩

theorem checkStmt (receiver : Receiver) : ∀ (n : Node Stmt) (st : State),
    st.surveying = false → Certifies TypedStmt st (Checker.checkStmt receiver n st)
  | ⟨span, .expr e, slot⟩, st, real => by
    refine .recordedStmt ((checkExpr receiver e st real).rebuild ?_)
    intro final e' t he
    exact ⟨fun _ _ => rfl, he.type, he.parts⟩
  | ⟨span, .block body, slot⟩, st, real => by
    refine .recordedStmt ((inScope (checkStmts receiver _ body st.push real)).rebuild ?_)
    intro final body' t hbody
    exact ⟨fun _ _ => rfl, hbody.typeOfBody, hbody.parts⟩
  | ⟨span, .binding kind bindings body, slot⟩, st, real => by
    have real : (st.emit (.bindings span kind (bindings.map fun b => b.name.value.name))).surveying
        = false := (State.emit_surveying _ _).trans real
    refine .recordedStmt (Certifies.of_table (inScope ?_) (State.emit_table _ _))
    refine .andThen _ (checkBindings receiver bindings _ real)
      (fun _ st real => checkStmts receiver _ body st real) ?_
    intro final bindings' body' _ t hbindings hbody
    exact ⟨fun _ _ => rfl, hbody.typeOfBody, hbindings.append hbody.parts⟩
  | ⟨span, .typeAlias name typeParams ty, slot⟩, st, real => by
    unfold Checker.checkStmt
    split
    · exact .fail real
    · refine Certifies.of_table (.succeed real fun final => ?_) rfl
      exact ⟨rfl, .cons ⟨.undefined, rfl, rfl⟩ .nil⟩

theorem checkOptionalStmt (receiver : Receiver) : ∀ (n : Option (Node Stmt)) (st : State),
    st.surveying = false → Certifies TypedOptionalStmt st (Checker.checkOptionalStmt receiver n st)
  | none, _, real => .succeed real fun _ => ⟨rfl, .nil⟩
  | some n, st, real => by
    refine ((checkStmt receiver n st real).conclude _).rebuild ?_
    rintro final n' _ ⟨t, ht, hn⟩
    obtain rfl := Except.ok.inj ht
    exact ⟨congrArg some hn.type, hn.parts⟩

theorem checkStmts (receiver : Receiver) (last : Ty) : ∀ (body : List (Node Stmt)) (st : State),
    st.surveying = false → Certifies (TypedStmts last) st (Checker.checkStmts receiver last body st)
  | [], _, real => .succeed real fun _ => ⟨rfl, .nil⟩
  | n :: rest, st, real => by
    refine .andThen _ (checkStmt receiver n st real)
      (fun t st real => checkStmts receiver t rest st real) ?_
    intro final n' rest' u t hn hrest
    refine ⟨?_, hn.parts.append hrest.parts⟩
    have type := hrest.type
    rw [List.getLast?_cons]
    cases hlast : rest'.getLast? with
    | none => simpa [hlast, hn.type] using type
    | some m => simpa [hlast] using type

theorem checkCleanup (receiver : Receiver) : ∀ (body : Option (List (Node Stmt))) (st : State),
    st.surveying = false →
      Certifies (fun final body t => t = .undefined ∧ AllCertified final (Parts.optionalBody body))
        st (Checker.checkCleanup receiver body st)
  | none, _, real => .succeed real fun _ => ⟨rfl, .nil⟩
  | some body, st, real => by
    refine ((inScope (checkStmts receiver _ body st.push real)).conclude _).rebuild ?_
    rintro final body' t ⟨_, ht, hbody⟩
    exact ⟨(Except.ok.inj ht).symm, hbody.parts⟩

theorem checkHandler (receiver : Receiver) : ∀ (h : Option Handler) (st : State),
    st.surveying = false →
      Certifies (fun final h _ => AllCertified final (Parts.optionalHandler h)) st
        (Checker.checkHandler receiver h st)
  | none, _, real => .succeed real fun _ => .nil
  | some ⟨param, body⟩, st, real => by
    unfold Checker.checkHandler
    have real : st.push.surveying = false := real
    refine .inScope ?_
    refine .andThen _ (named real param .unknown)
      (fun _ st real => checkStmts receiver _ body st real) ?_
    intro final param' body' _ t _ hbody
    exact hbody.parts

theorem checkBindings (receiver : Receiver) : ∀ (bs : List Binding) (st : State),
    st.surveying = false →
      Certifies (fun final bs _ => AllCertified final (Parts.bindings bs)) st
        (Checker.checkBindings receiver bs st)
  | [], _, real => .succeed real fun _ => .nil
  | ⟨name, declaredAs, init⟩ :: rest, st, real => by
    refine .andThen
      (fun _ final (p : Node Ident × List Binding) _ => AllCertified final (Parts.bindings p.2))
      (checkExpr receiver init st real) (fun initTy st real => ?_) ?_
    · split
      · exact .fail real
      · refine Certifies.of_table (.afterName (Checker.checkBindings receiver rest) Prod.mk
          ((State.bind_surveying _ _ _).trans real)
          (fun st real => checkBindings receiver rest st real) ?_) (State.bind_table _ _ _)
        intro final n rest' _ _ hrest
        exact hrest
    · intro final init' p _ _ hinit hp
      exact hinit.parts.append hp

theorem checkFields : ∀ (fs : List FieldDecl) (st : State), st.surveying = false →
    Certifies (fun final fs _ => AllCertified final (Parts.fieldDecls fs)) st
      (Checker.checkFields fs st)
  | [], _, real => .succeed real fun _ => .nil
  | ⟨name, declaredAs, init⟩ :: rest, st, real => by
    refine .andThen
      (fun _ final (p : Node Ident × List FieldDecl) _ => AllCertified final (Parts.fieldDecls p.2))
      (checkOptional none init st real) (fun initTy st real => ?_) ?_
    · split
      · exact .fail real
      · rename_i t _
        refine .afterName
          (fun st => (Checker.checkFields rest st).conclude fun entries =>
            .ok (⟨name.value.name, t⟩ :: entries)) Prod.mk real
          (fun st real => (checkFields rest st real).conclude _) ?_
        rintro final n rest' _ _ ⟨_, _, hrest⟩
        exact hrest
    · intro final init' p _ _ hinit hp
      exact hinit.parts.append hp

theorem checkMethods (self : Symbol) (fields : List Field) :
    ∀ (ms : List (Node Method)) (st : State), st.surveying = false →
      Certifies (fun final ms _ => AllCertified final (Parts.methods ms)) st
        (Checker.checkMethods self fields ms st)
  | [], _, real => .succeed real fun _ => .nil
  | ⟨span, ⟨name, kind, typeParams, params, returns, body⟩, slot⟩ :: rest, st, real => by
    unfold Checker.checkMethods
    split
    · exact .fail real
    · have method : Certifies (fun final m _ => AllCertified final (Parts.stmts m.body)) st
          ((Checker.checkCallable typeParams params returns body (fun _ _ st => st)
            (Checker.checkStmts (some self) .undefined body) st).rebuild
            fun p => Method.mk name kind typeParams p.1 returns p.2) :=
        (checkCallable (fun _ _ _ => ⟨rfl, rfl⟩)
          (fun st real => (checkStmts (some self) _ body st real).imp fun _ _ _ h => h.parts)
          real).rebuild fun _ _ _ h => h.1
      refine .andThen _
        (method.recorded (Q := fun final n _ => AllCertified final (Parts.stmts n.value.body))
          fun _ _ _ h _ => h)
        (fun _ st real => (checkMethods self fields rest st real).conclude _) ?_
      rintro final ⟨_, ⟨_, _, _, _, _, body'⟩, _⟩ rest' _ _ hbody ⟨_, _, hrest⟩
      exact hbody.append hrest

theorem checkProperties (receiver : Receiver) : ∀ (ps : List Property) (st : State),
    st.surveying = false → Certifies TypedProperties st (Checker.checkProperties receiver ps st)
  | [], _, real => .succeed real fun _ => ⟨⟨[], rfl, rfl⟩, .nil⟩
  | ⟨key, value⟩ :: rest, st, real => by
    refine .andThen _ (checkExpr receiver value st real)
      (fun _ st real => (checkProperties receiver rest st real).conclude _) ?_
    rintro final value' rest' t _ hvalue ⟨entries, he, hrest⟩
    obtain rfl := Except.ok.inj he
    obtain ⟨ts, hts, rfl⟩ := hrest.types
    exact ⟨⟨t :: ts, congr (congrArg List.cons hvalue.type) hts, rfl⟩,
      hvalue.parts.append hrest.parts⟩

end

end Certifies
end Checker

/-! ## Sessions -/

namespace Session

open Checker

/-- Diagnostics are only ever added. -/
theorem size_diagnostics_checkStmt (file : String) (n : Node Stmt) (s : Session) :
    s.diagnostics.size ≤ (s.checkStmt file n).2.diagnostics.size := by
  unfold Session.checkStmt
  dsimp only
  split <;> simp

theorem size_diagnostics_checkBody (file : String) (body : List (Node Stmt)) (s : Session) :
    s.diagnostics.size ≤ (checkBody file body s).2.diagnostics.size := by
  induction body generalizing s with
  | nil => exact Nat.le_refl _
  | cons n rest ih => exact Nat.le_trans (size_diagnostics_checkStmt file n s) (ih _)

/-- A statement without a diagnostic is certified. -/
theorem certifies_checkStmt (file : String) (n : Node Stmt) {s : Session}
    (real : s.state.surveying = false)
    (clean : (s.checkStmt file n).2.diagnostics.size ≤ s.diagnostics.size) :
    Certifies (fun final n _ => AllCertified final (Parts.stmt n)) s.state
      (outcome (s.checkStmt file n)) := by
  have h := Certifies.checkStmt none n s.state real
  unfold Session.checkStmt at clean ⊢
  dsimp only at clean ⊢
  split
  · rename_i t ht
    exact ⟨h.real, h.grows, fun _ _ final ext room => (h.holds t ht final ext room).parts⟩
  · rename_i f hf
    simp only [hf, Array.size_push] at clean
    omega

/-- A body that adds no diagnostic is certified statement by statement. -/
theorem certifies_checkBody (file : String) (body : List (Node Stmt)) (s : Session)
    (real : s.state.surveying = false)
    (clean : (checkBody file body s).2.diagnostics.size ≤ s.diagnostics.size) :
    Certifies (fun final body _ => AllCertified final (Parts.stmts body)) s.state
      (outcome (checkBody file body s)) := by
  induction body generalizing s with
  | nil => exact .succeed real fun _ => .nil
  | cons n rest ih =>
    -- diagnostics are only ever added, so neither the statement nor the rest added one
    have first := size_diagnostics_checkStmt file n s
    have later := size_diagnostics_checkBody file rest (s.checkStmt file n).2
    have hn := certifies_checkStmt file n real (Nat.le_trans later clean)
    have hrest := ih _ hn.real (Nat.le_trans clean first)
    refine ⟨hrest.real, hrest.grows.trans hn.grows, fun _ _ final ext room => ?_⟩
    exact (hn.holds () rfl final (ext.trans hrest.grows) room).append
      (hrest.holds () rfl final ext room)

/-- **Checked programs certify their types.**  After a check without diagnostics every expression
that a tour reaches has a type, and every expression and statement of the program is certified by
the types in the table.  The table must not have outgrown its ids, which would stand for other
entries then. -/
theorem certified_check {p : Program} (clean : (({} : Session).check p).2.diagnostics = #[])
    (room : (({} : Session).check p).2.table.size ≤ TypeTable.capacity) :
    (∀ n ∈ Tour.reached (({} : Session).check p).1.body,
      ∃ t, (({} : Session).check p).2.table.typeOf n.ty = some t) ∧
    ∀ part ∈ (({} : Session).check p).1.parts, part.Certified (({} : Session).check p).2.table := by
  have certified : AllCertified (({} : Session).check p).2.table
      (({} : Session).check p).1.parts := by
    have h := certifies_checkBody p.file p.body {} rfl (Nat.le_of_eq (congrArg Array.size clean))
    have table : (({} : Session).check p).2.table = (checkBody p.file p.body {}).2.state.table :=
      State.emit_table _ _
    rw [table] at room ⊢
    exact h.holds () rfl _ (.refl _) room
  refine ⟨fun n hn => ?_, certified⟩
  rw [Tour.reached_eq] at hn
  obtain ⟨part, hpart, hexpr⟩ := List.mem_filterMap.mp hn
  cases part with
  | stmt m => nomatch hexpr
  | expr m =>
    obtain rfl := Option.some.inj hexpr
    obtain ⟨t, ht, -⟩ := certified _ hpart
    exact ⟨t, ht⟩

/-- A class with a reference to `self`, and a binding whose body reads an array and calls what is
not known. -/
def accepted : Program where
  file := "accepted"
  body :=
    [⟨.zero, .expr ⟨.zero, .classDef
        { name := none
          fields := []
          methods :=
            [⟨.zero,
              { name := ⟨.zero, ⟨"start", none⟩, none⟩
                kind := .constructor
                typeParams := []
                params := [⟨⟨.zero, ⟨"first", some (.resolved 1)⟩, none⟩, none⟩]
                returns := none
                body :=
                  [⟨.zero, .expr ⟨.zero, .assignment
                    ⟨.zero, .member ⟨.zero, .ident ⟨"self", none⟩, none⟩
                      ⟨.zero, ⟨"count", none⟩, none⟩, none⟩
                    ⟨.zero, .ident ⟨"first", some (.resolved 1)⟩, none⟩, none⟩, none⟩] },
              none⟩] },
        none⟩, none⟩,
      ⟨.zero, .binding .letBinding
        [⟨⟨.zero, ⟨"words", some (.resolved 2)⟩, none⟩, none,
          ⟨.zero, .array [⟨.zero, .literal (.value (.string "a")), none⟩], none⟩⟩]
        [⟨.zero, .expr ⟨.zero, .conditional ⟨.zero, .literal (.value (.boolean true)), none⟩
          ⟨.zero, .expr ⟨.zero, .index ⟨.zero, .ident ⟨"words", some (.resolved 2)⟩, none⟩
            ⟨.zero, .ident ⟨"i", none⟩, none⟩, none⟩, none⟩
          (some ⟨.zero, .expr ⟨.zero, .call ⟨.zero, .ident ⟨"read", none⟩, none⟩ [], none⟩, none⟩),
          none⟩, none⟩], none⟩]

theorem certified_check_accepted :
    (Tour.reached (({} : Session).check accepted).1.body).length = 14 ∧
    (∀ n ∈ Tour.reached (({} : Session).check accepted).1.body,
      ∃ t, (({} : Session).check accepted).2.table.typeOf n.ty = some t) ∧
    ∀ part ∈ (({} : Session).check accepted).1.parts,
      part.Certified (({} : Session).check accepted).2.table := by
  refine ⟨by decide +kernel, certified_check ?_ ?_⟩
  · exact Array.size_eq_zero_iff.mp (by decide +kernel)
  · have size : (({} : Session).check accepted).2.table.size = 24 := by decide +kernel
    rw [size]
    decide

end Session
end StructuralTyping
