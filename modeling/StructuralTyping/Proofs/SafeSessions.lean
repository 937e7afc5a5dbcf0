import StructuralTyping.Proofs.FailurePlaces
import StructuralTyping.Proofs.SurveySilence

/-! # Lookups that never fail

Three things could go wrong in a check that are no fault of the program: an id might have no type in
the table, an argument of a call might be missing at a position, and scopes might be left open.
None of them happens, whatever programs a session is given and whatever marks they carry
(`Session.checkAll_safe`).

* The table is read for the returns of a body, after the body was checked for real.
* The rule of calls is written over lists; `Rule.callAt?` is the same rule with every operand and
  every argument looked up by its position, where a lookup may fail.
* An id without a type would be the cause of a failure, so it would show in the diagnostics or, if a
  survey came across it, in the journal.
-/
namespace StructuralTyping

/-! ## Calls by position -/

namespace Rule

/-- The operand at a position; none if there is no argument or no type there. -/
def operandAt? (args : List (Node Expr)) (tys : List Ty) (i : Nat) : Option Operand :=
  args[i]?.bind fun e => tys[i]?.map fun t => ⟨e.span, e.value.isTarget, t⟩

/-- The operator form of a name, once the number of arguments is known; none if an operand is not
there, while `some none` is no operator form. -/
def operatorFormAt? (name : String) (args : List (Node Expr)) (tys : List Ty) :
    Option (Option OperatorForm) :=
  match args.length with
  | 1 =>
    match UnaryOperator.ofName? name with
    | some op => do
      let a ← operandAt? args tys 0
      some (some (.unary op a))
    | none => some none
  | 2 =>
    match BinaryOperator.ofName? name with
    | some op => do
      let a ← operandAt? args tys 0
      let b ← operandAt? args tys 1
      some (some (.binary op a b))
    | none => some none
  | 3 =>
    if name = "ternary" ∨ name = "?:" then do
      let test ← operandAt? args tys 0
      let a ← operandAt? args tys 1
      let b ← operandAt? args tys 2
      some (some (.choice test a b))
    else some none
  | _ => some none

/-- Parameters and the types of arguments in pairs, the first of them at position `i`; where they do
not fit, the argument is looked up to be blamed. -/
def argumentsAt? (args : List (Node Expr)) (i : Nat) : List (Ty × Ty) → Option (Except Failure Unit)
  | [] => some (.ok ())
  | (p, t) :: rest =>
    if t.assignable p then argumentsAt? args (i + 1) rest
    else args[i]?.map fun e => .error ⟨.argumentMismatch (i + 1) p t, e.span⟩

/-- A call that is no operator form. -/
def applicationAt? (span calleeSpan : Span) (callee : Ty) (args : List (Node Expr))
    (tys : List Ty) : Option (Except Failure Ty) :=
  match callee with
  | .function params returns =>
    if args.length = params.length then
      (argumentsAt? args 0 (params.zip tys)).map fun checked => checked.map fun _ => returns
    else some (.error ⟨.arityMismatch params.length args.length, span⟩)
  | .unknown => some (.ok .unknown)
  | t => some (.error ⟨.notCallable t, calleeSpan⟩)

/-- The type of a call, with operands and arguments looked up by position; none if a lookup
fails. -/
def callAt? (span : Span) (callee : Node Expr) (args : List (Node Expr)) (calleeTy : Ty)
    (tys : List Ty) : Option (Except Failure Ty) :=
  match callee.value.name? with
  | none => applicationAt? span callee.span calleeTy args tys
  | some name => do
    match ← operatorFormAt? name args tys with
    | some form => some (form.ty name)
    | none => applicationAt? span callee.span calleeTy args tys

section ByPosition

variable {args : List (Node Expr)} {tys : List Ty}

/-- The arguments with their types. -/
def operands (args : List (Node Expr)) (tys : List Ty) : List Operand :=
  args.zipWith (fun e t => ⟨e.span, e.value.isTarget, t⟩) tys

/-- With a type for each argument no access is out of range. -/
theorem operatorFormAt?_eq (name : String) (typed : tys.length = args.length) :
    operatorFormAt? name args tys = some (OperatorForm.of? name (operands args tys)) := by
  match args, tys, typed with
  | [], [], _ => rfl
  | [e], [t], _ =>
    unfold operatorFormAt? OperatorForm.of? operands
    cases UnaryOperator.ofName? name <;> rfl
  | [e, f], [t, u], _ =>
    unfold operatorFormAt? OperatorForm.of? operands
    cases BinaryOperator.ofName? name <;> rfl
  | [e, f, g], [t, u, v], _ =>
    unfold operatorFormAt? OperatorForm.of? operands
    by_cases ternary : name = "ternary" ∨ name = "?:"
    · simp [ternary, operandAt?]
    · simp [ternary]
  | e :: f :: g :: h :: rest, t :: u :: v :: w :: rest', _ => rfl

/-- With `done` arguments in front, the arguments are looked up behind them. -/
theorem argumentsAt?_eq (done : List (Node Expr)) (params : List Ty)
    (typed : tys.length = args.length) :
    argumentsAt? (done ++ args) done.length (params.zip tys) =
      some (arguments (done.length + 1) params (operands args tys)) := by
  induction params generalizing done args tys with
  | nil => rfl
  | cons p ps ih =>
    match args, tys, typed with
    | [], [], _ => rfl
    | e :: rest, t :: ts, typed =>
      have further := ih (done ++ [e]) (Nat.succ.inj typed)
      rw [List.append_assoc, List.singleton_append, List.length_append] at further
      simp only [List.zip_cons_cons, argumentsAt?, operands, List.zipWith_cons_cons, arguments]
      by_cases fits : t.assignable p = true
      · rw [if_pos fits, if_pos fits]
        exact further
      · rw [if_neg fits, if_neg fits, List.getElem?_append_right (Nat.le_refl _), Nat.sub_self]
        rfl

theorem applicationAt?_eq (span calleeSpan : Span) (callee : Ty)
    (typed : tys.length = args.length) :
    applicationAt? span calleeSpan callee args tys =
      some (application span calleeSpan callee (operands args tys)) := by
  have all : (operands args tys).length = args.length := by
    rw [operands, List.length_zipWith, typed, Nat.min_self]
  cases callee with
  | function params returns =>
    have found := argumentsAt?_eq [] params typed
    rw [List.nil_append, List.length_nil, Nat.zero_add] at found
    rw [applicationAt?, application, all, found]
    split <;> rfl
  | _ => rfl

/-- With a type for each argument no lookup fails, and the rule by position is the rule over
lists. -/
theorem callAt?_eq (span : Span) (callee : Node Expr) (calleeTy : Ty)
    (typed : tys.length = args.length) :
    callAt? span callee args calleeTy tys = some (call span callee args calleeTy tys) := by
  have applied := applicationAt?_eq span callee.span calleeTy typed
  unfold callAt? call
  cases callee.value.name? with
  | none => exact applied
  | some name =>
    have classified := operatorFormAt?_eq name typed
    simp only [operands] at applied classified
    simp only [classified, applied, Option.bind_some, Option.bind_eq_bind]
    cases OperatorForm.of? name (args.zipWith (fun e t => ⟨e.span, e.value.isTarget, t⟩) tys) with
    | none => rfl
    | some form => rfl

end ByPosition

end Rule

namespace Checker

/-- Arguments that were checked have a type each. -/
theorem length_of_checkExprs {receiver : Receiver} {es : List (Node Expr)} {st : State}
    {tys : List Ty} (ok : (checkExprs receiver es st).result = .ok tys) :
    tys.length = es.length := by
  induction es generalizing st tys with
  | nil =>
    cases ok
    rfl
  | cons e rest ih =>
    obtain ⟨t, -, others, -⟩ := Edit.exists_of_andThen_ok ok
    cases checked : (checkExprs receiver rest (checkExpr receiver e st).state).result with
    | error f =>
      rw [Edit.conclude, checked] at others
      cases others
    | ok ts =>
      rw [Edit.conclude, checked] at others
      cases others
      exact congrArg Nat.succ (ih checked)

/-- A call whose parts were checked is decided by its operands and arguments at their positions. -/
theorem checkForm_call_eq {receiver : Receiver} {callee : Node Expr} {args : List (Node Expr)}
    {st : State} {calleeTy : Ty} {tys : List Ty} (span : Span)
    (called : (checkExpr receiver callee st).result = .ok calleeTy)
    (typed : (checkExprs receiver args (checkExpr receiver callee st).state).result = .ok tys) :
    Rule.callAt? span callee args calleeTy tys =
      some (checkForm receiver span (.call callee args) st).result := by
  rw [Rule.callAt?_eq span callee calleeTy (length_of_checkExprs typed), checkForm, Edit.andThen,
    called]
  simp only [Edit.conclude, typed]
  rfl

end Checker

/-! ## Causes in the journal -/

/-- The cause that an entry tells of: why a survey stopped or a statement failed. -/
def Entry.fault? : Entry → Option Fault
  | .surveyStopped _ fault => some fault
  | .failed f => some f.fault
  | _ => none

namespace Checker

/-- No cause in the journal is an id without a type. -/
def State.Issued (st : State) : Prop :=
  ∀ e ∈ st.journal, ∀ id, e.fault? ≠ some (.unissuedType id)

namespace State.Issued

variable {st later : State}

/-- Only the journal says which faults were found. -/
theorem of_journal (h : st.Issued) (same : later.journal = st.journal) : later.Issued := by
  unfold State.Issued
  rw [same]
  exact h

/-- A note keeps the journal free of unissued types if it is itself. -/
theorem note (h : st.Issued) {e : Entry} (he : ∀ id, e.fault? ≠ some (.unissuedType id)) :
    (st.note e).Issued := by
  intro x hx
  rcases Array.mem_push.mp hx with hx | rfl
  · exact h x hx
  · exact he

theorem emit (h : st.Issued) (e : Event) : (st.emit e).Issued := by
  unfold State.emit
  split
  · exact h
  · exact h.note fun _ => nofun

theorem enterClass (h : st.Issued) (ms : List (Node Method)) : (st.enterClass ms).Issued :=
  List.foldlRecOn (motive := State.Issued) (SelfReference.spans st.nextSelf ms) _ h
    fun _ hst _ _ => hst.emit _

theorem beginSurvey (h : st.Issued) (self : Symbol) (declared : List Field) :
    (st.beginSurvey self declared).Issued :=
  h.of_journal (State.bind_journal (some self) .unknown st)

theorem beginMethods (h : st.Issued) (self : Symbol) (name : Option (Node Ident))
    (fields signatures : List Field) :
    (st.endSurvey.beginMethods self name fields signatures).Issued := by
  have noted : (st.endSurvey.note (.selfTyped self (.object (fields ++ signatures)))).Issued :=
    note h fun _ => nofun
  exact noted.of_journal ((State.bind_journal _ _ _).trans (State.bind_journal _ _ _))

end State.Issued

end Checker

/-- Whatever stops the survey of a method, it is no unissued type. -/
theorem Blames.surveyMethod (self : Symbol) (m : Method) (st : Checker.State) :
    Blames (fun _ => True) (Checker.surveyMethod self m st).result :=
  andThen (checkParams m.params _ fun _ _ => trivial) fun _ =>
    checkStmts (some self) _ m.body _ fun _ _ _ _ => trivial

namespace Checker

/-- No entry of a check is about an unissued type. -/
theorem Noted.issued {e : Entry} (h : Noted e) (id : TypeId) :
    e.fault? ≠ some (.unissuedType id) := by
  cases e with
  | surveyStopped method fault =>
    obtain ⟨self, m, st, f, failed, rfl⟩ := h
    exact fun same => (Blames.surveyMethod self m st f failed).issued id (Option.some.inj same)
  | failed f => exact h.elim
  | _ => exact nofun

/-- **Every check keeps ids without types out of the journal**, whether it succeeds or not. -/
theorem issued_stepClosed : StepClosed fun st later => st.Issued → later.Issued where
  refl _ h := h
  trans hab hbc h := hbc (hab h)
  record slot t st h := by
    refine h.of_journal ?_
    unfold State.record
    split <;> rfl
  bind symbol t st h := h.of_journal (State.bind_journal symbol t st)
  note _ _ he h := h.note he.issued
  emit e _ h := h.emit e
  defineAlias _ _ _ _ h := h
  noteAssignment receiver target t st h :=
    h.of_journal (State.noteAssignment_journal receiver target t st)
  scope _ _ _ inside h := inside h
  classFields _ fields h := fields (h.enterClass _)
  classSurvey _ fields survey h := survey ((fields (h.enterClass _)).beginSurvey _ _)
  classMethods _ fields survey methods h :=
    methods ((survey ((fields (h.enterClass _)).beginSurvey _ _)).beginMethods _ _ _ _)

end Checker

/-! ## Programs one after the other -/

namespace Session

/-- The session after programs were checked one after the other. -/
def checkAll (ps : List Program) (s : Session) : Session := ps.foldl (fun s p => (s.check p).2) s

/-- Between statements and between programs: one scope is open, no survey is under way, and no cause
is an id without a type. -/
structure Safe (s : Session) : Prop where
  top : s.AtTop
  issued : s.state.Issued
  diagnosed : ∀ d ∈ s.diagnostics, ∀ id, d.failure.fault ≠ .unissuedType id

namespace Safe

variable {s : Session}

theorem initial : Safe {} :=
  ⟨⟨rfl, rfl⟩, fun _ h => absurd h (Array.not_mem_empty _),
    fun _ h => absurd h (Array.not_mem_empty _)⟩

/-- Checking a statement is safe. -/
theorem checkStmt (h : s.Safe) (file : String) (n : Node Stmt) : (s.checkStmt file n).2.Safe := by
  have top := h.top.checkStmt file n
  have issued := Checker.issued_stepClosed.checkStmt none n s.state (fun _ _ => trivial) h.issued
  have blames := Blames.checkStmt none n s.state (S := fun _ => True) fun _ _ _ _ => trivial
  unfold Session.checkStmt at top ⊢
  dsimp only at top ⊢
  split
  · rename_i t ht
    rw [ht] at top
    exact ⟨top, issued, h.diagnosed⟩
  · rename_i f hf
    rw [hf] at top
    have cause := (blames f hf).issued
    refine ⟨top, issued.note fun id same => cause id (Option.some.inj same), fun d hd => ?_⟩
    rcases Array.mem_push.mp hd with hd | rfl
    · exact h.diagnosed d hd
    · exact cause

theorem checkBody (h : s.Safe) (file : String) (body : List (Node Stmt)) :
    (checkBody file body s).2.Safe := by
  induction body generalizing s with
  | nil => exact h
  | cons n rest ih => exact ih (h.checkStmt file n)

/-- Checking a program is safe. -/
theorem check (h : s.Safe) (p : Program) : (s.check p).2.Safe := by
  have start : Safe { s with state := { s.state with journal := #[] } } :=
    ⟨h.top, fun _ h => absurd h (Array.not_mem_empty _), h.diagnosed⟩
  have done := start.checkBody p.file p.body
  refine ⟨?_, done.issued.emit _, done.diagnosed⟩
  exact ⟨(congrArg Scopes.depth (Checker.State.emit_scopes _ _)).trans done.top.1,
    (Checker.State.emit_survey _ _).trans done.top.2⟩

/-- Checking any number of programs is safe. -/
theorem checkAll (h : s.Safe) (ps : List Program) : (s.checkAll ps).Safe := by
  induction ps generalizing s with
  | nil => exact h
  | cons p rest ih => exact ih (h.check p)

end Safe

/-- **No lookup of a session fails.**  After any programs, with any marks on their nodes, one scope
is open, and no diagnostic and no note is about an id without a type.  The returns of a body are
looked up after a check that gave each of them a type, and a call finds all its operands and
arguments at their positions. -/
theorem checkAll_safe :
    (∀ ps : List Program,
      let s := checkAll ps {}
      s.state.scopes.depth = 1 ∧
        (∀ d ∈ s.diagnostics, ∀ id, d.failure.fault ≠ .unissuedType id) ∧
        ∀ e ∈ s.journal, ∀ id, e.fault? ≠ some (.unissuedType id)) ∧
    (∀ (receiver : Checker.Receiver) (last t : Ty) (body : List (Node Stmt)) (st : Checker.State),
      let checked := Checker.checkStmts receiver last body st
      st.surveying = false → checked.result = .ok t →
        ∀ site ∈ OwnReturn.ofBody checked.tree, ∃ u, site.ty checked.state.table = .ok u) ∧
    ∀ (receiver : Checker.Receiver) (span : Span) (callee : Node Expr) (args : List (Node Expr))
        (st : Checker.State) (calleeTy : Ty) (tys : List Ty),
      (Checker.checkExpr receiver callee st).result = .ok calleeTy →
      (Checker.checkExprs receiver args (Checker.checkExpr receiver callee st).state).result =
        .ok tys →
      Rule.callAt? span callee args calleeTy tys =
        some (Checker.checkForm receiver span (.call callee args) st).result := by
  refine ⟨fun ps => ?_, ?_, ?_⟩
  · have safe := Safe.initial.checkAll ps
    exact ⟨safe.top.1, safe.diagnosed, fun e he => safe.issued e (Array.mem_def.mpr he)⟩
  · intro receiver last t body st checked real ok site hsite
    exact Checker.exists_ty_of_checked real ok hsite
  · intro receiver span callee args st calleeTy tys called typed
    exact Checker.checkForm_call_eq span called typed

end Session
end StructuralTyping
