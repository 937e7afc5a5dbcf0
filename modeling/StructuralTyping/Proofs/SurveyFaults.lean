import StructuralTyping.Proofs.GradedMethods

/-! # Faults that a survey meets

A fault in a survey ends the survey of its method and is not reported, since the method is checked
again.  That a check meets it again is not true of every class: where the types of two parts are
compared, knowing less may be a fault by itself (`Checker.stopped_survey_accepted`).

It is true of every class whose methods are graded (`Checker.survey_faults_reported`).  When such a
class is accepted, its methods passed the check one after the other, and so they did in the survey:
the states before the first method are related, and a method that passes the check leaves related
states for the next one (`scansSucceed_of_checkMethods`).
-/
namespace StructuralTyping
namespace Checker

section Methods

variable {G : Grading} {p q : State}

/-- A method that passes its check passes its survey. -/
theorem Previews.checkMethod {m : Node Method} (graded : G.method m.value = true)
    (plain : AliasesIn NoAlias (Parts.stmts m.value.body)) (h : Preview G p q) :
    Previews G (fun _ _ => True) p q (surveyMethod G.self m.value p)
      (Checker.checkMethod G.self m q) := by
  obtain ⟨params, body⟩ := Bool.and_eq_true_iff.1 graded
  obtain ⟨g, hg⟩ := Option.isSome_iff_exists.1 body
  have callable : Previews G (fun _ _ => True) p q (surveyMethod G.self m.value p)
      (checkCallable m.value.typeParams m.value.params m.value.returns m.value.body
        (fun _ _ st => st) (Checker.checkStmts (some G.self) .undefined m.value.body) q) := by
    refine inTypeScope h m.value.typeParams ?_
    have entered := h.push.bindTypeParams m.value.typeParams
    refine andThen (Previews.checkParams entered (List.all_eq_true.1 params)) fun _ _ p q _ h => ?_
    intro b ok
    split at ok
    · cases ok
    · -- the survey ends with the body; its returns only count in the check
      unfold Edit.whenDone at ok
      split at ok
      · rename_i t ht
        obtain ⟨a, ha, -, reaches⟩ :=
          Previews.checkStmts G m.value.body .exact g .undefined .undefined p q hg rfl plain h t ht
        unfold Edit.whenDone
        rw [ht]
        exact ⟨a, ha, trivial, reaches⟩
      · cases ok
  intro b ok
  have result := (recorded_result m.span m.ty _).symm.trans ok
  obtain ⟨a, ha, -, reaches⟩ := callable b result
  refine ⟨a, ha, trivial, reaches.trans ?_⟩
  -- the check records the method's type, which the survey has no part in
  have state : (Checker.checkMethod G.self m q).state =
      ((checkCallable m.value.typeParams m.value.params m.value.returns m.value.body
        (fun _ _ st => st) (Checker.checkStmts (some G.self) .undefined m.value.body)
        q).state.record m.ty b).2 := by
    unfold Checker.checkMethod Checker.recorded
    rw [result]
    rfl
  rw [state]
  exact .quiet reaches.preview (.of_eq rfl rfl) ((framed_stepClosed _).record _ _ _) rfl
    (State.record_scopes _ _ _)

/-- Methods that pass their checks one after the other all pass their surveys. -/
theorem scansSucceed_of_checkMethods {fields entries : List Field} {ms : List (Node Method)}
    (graded : ∀ m ∈ ms, G.method m.value = true) (plain : AliasesIn NoAlias (Parts.methods ms))
    (h : Preview G p q) (ok : (checkMethods G.self fields ms q).result = .ok entries) :
    ScansSucceed G.self ms p := by
  induction ms generalizing p q entries with
  | nil =>
    intro before m after split
    simp at split
  | cons n rest ih =>
    rw [checkMethods_cons] at ok
    split at ok
    · nomatch ok
    obtain ⟨t, ht, ok, -⟩ := Edit.exists_of_andThen_ok ok
    obtain ⟨later, hlater, -⟩ := exists_of_bind_eq_ok ok
    obtain ⟨here, others⟩ := List.forall_mem_cons.1 graded
    have parts : Parts.methods (n :: rest) = Parts.stmts n.value.body ++ Parts.methods rest := by
      obtain ⟨_, ⟨_, _, _, _, _, _⟩, _⟩ := n
      rfl
    rw [parts] at plain
    -- the first method passes its survey too, and leaves related states for the others
    obtain ⟨a, ha, -, reaches⟩ := Previews.checkMethod here plain.left h t ht
    have tail := ih others plain.right reaches.preview hlater
    intro before m after split
    cases before with
    | nil =>
      obtain ⟨rfl, -⟩ := List.cons.inj split
      rw [surveyMethods, ha]
      rfl
    | cons first before =>
      obtain ⟨rfl, behind⟩ := List.cons.inj split
      rw [surveyMethods_cons, ha]
      exact tail before m after behind

end Methods

section Class

variable {c : Class} {declared : List Field} {st : State} {G : Grading}

/-- Equal types are related by any grade, if a hidden one is unknown. -/
theorem relates_of_eq {g : Grade} {a b : Ty} (hidden : g = .hidden → a = .unknown) (same : a = b) :
    g.Relates a b := by
  cases g with
  | exact => exact same
  | hidden => exact hidden rfl
  | flat => exact .inl same
  | vague => exact same ▸ .refl a
  | loose => trivial

/-- The states before the first method, in the survey and in the check. -/
theorem preview_beginMethods (self : G.self = st.nextSelf)
    (unseen : ∀ s, G.symbols s = .hidden → (st.scanned c declared []).lookup (some s) = .unknown)
    (name : G.leaves (c.name.bind (·.value.symbol)) = true)
    (plain : AliasesIn NoAlias (Parts.methods c.methods)) (found signatures : List Field) :
    Preview G (st.scanned c declared [])
      ((st.atMethods c declared).beginMethods st.nextSelf c.name found signatures) := by
  -- the survey in between leaves symbols and names as they were
  have surveyed : Framed NoAlias (st.scanned c declared []) (st.surveyedClass c declared) := by
    rw [surveyedClass_eq]
    exact (framed_stepClosed NoAlias).surveyMethods st.nextSelf c.methods _ plain
  have symbols (s : Option Symbol) :
      (st.atMethods c declared).lookup s = (st.scanned c declared []).lookup s := by
    have scopes := surveyMethods_scopes st.nextSelf c.methods (st.scanned c declared [])
    rw [← surveyedClass_eq] at scopes
    show (s.bind (st.surveyedClass c declared).scopes.symbol?).getD .unknown = _
    rw [scopes]
    rfl
  let ty := Ty.object (found ++ signatures)
  let entered := (st.atMethods c declared).note (.selfTyped st.nextSelf ty)
  have bound (s : Symbol) : ((st.atMethods c declared).beginMethods st.nextSelf c.name found
      signatures).lookup (some s) =
        ((entered.bind (some st.nextSelf) ty).bind (c.name.bind (·.value.symbol)) ty).lookup
          (some s) := rfl
  refine ⟨?_, rfl, fun s => ?_, fun other => ?_⟩
  · rw [scanned_nil]
    rfl
  · -- `self` and the name of the class get a type that the survey does not see, and nothing else
    -- changes
    have before : (G.symbols s).Relates ((st.scanned c declared []).lookup (some s))
        ((entered.bind (some st.nextSelf) ty).lookup (some s)) := by
      rw [State.lookup_bind]
      split
      · rename_i same
        have hidden : G.symbols s = .hidden := by rw [same, ← self, G.hidden]
        rw [hidden]
        exact unseen s hidden
      · exact relates_of_eq (unseen s) (symbols (some s)).symm
    rw [bound]
    cases hname : c.name.bind (·.value.symbol) with
    | none => exact before
    | some bound =>
      rw [State.lookup_bind]
      split
      · rename_i same
        rw [hname, ← same] at name
        exact Grading.relates_of_leaves name (unseen s) ty
      · exact before
  · -- binding symbols does not change what names mean
    have named : ((st.atMethods c declared).beginMethods st.nextSelf c.name found
        signatures).scopes.typeNamed? other =
          (st.surveyedClass c declared).scopes.typeNamed? other := by
      have framed : Framed NoAlias entered
          ((entered.bind (some st.nextSelf) ty).bind (c.name.bind (·.value.symbol)) ty) :=
        (Framed.bind _ _ _).trans (Framed.bind _ _ _)
      exact framed.typeNamed? other
    rw [named, surveyed.typeNamed?]

end Class

/-- **Faults of a survey are reported.**  If the methods of a class are graded, and the symbols that
the grades call hidden have no types outside of them, then a class with a method whose survey stops
is not accepted. -/
theorem survey_faults_reported {c : Class} {declared : List Field} {st : State} (G : Grading)
    (real : st.surveying = false)
    (fields : (checkFields c.fields (st.enterClass c.methods).push).result = .ok declared)
    (self : G.self = st.nextSelf) (graded : G.grades c = true)
    (unseen : ∀ s, G.symbols s = .hidden → (st.scanned c declared []).lookup (some s) = .unknown)
    {before after : List (Node Method)} {m : Node Method} (split : c.methods = before ++ m :: after)
    {f : Failure}
    (stopped :
      (surveyMethod st.nextSelf m.value (st.scanned c declared before)).result = .error f) :
    ∃ fault, (checkClass c st).result = .error fault := by
  cases accepted : (checkClass c st).result with
  | error fault => exact ⟨fault, rfl⟩
  | ok t =>
    -- an accepted class passed the check of all of its methods, so none of their surveys stopped
    obtain ⟨names, plain⟩ := Bool.and_eq_true_iff.1 graded
    obtain ⟨name, methods⟩ := Bool.and_eq_true_iff.1 names
    have plain : AliasesIn NoAlias (Parts.methods c.methods) := .of_isEmpty plain
    obtain ⟨signatures, entries, -, checked, -⟩ := exists_of_accepted fields real accepted
    have start := preview_beginMethods self unseen name plain
      (st.surveyedClass c declared).surveyed signatures
    rw [← self] at checked start
    have scans := scansSucceed_of_checkMethods (List.all_eq_true.1 methods) plain start checked
    have scan := scans before m after split
    rw [scanned_nil, self] at scan
    rw [State.scanned] at stopped
    rw [stopped] at scan
    cases scan

theorem exists_error_of_toOption {ε α : Type} {x : Except ε α} (h : x.toOption = none) :
    ∃ f, x = .error f := by
  cases x with
  | error f => exact ⟨f, rfl⟩
  | ok a => nomatch h

/-- An operator form. -/
def operation (operator : String) (operands : List (Node Expr)) : Node Expr :=
  ⟨.zero, .call ⟨.zero, .ident ⟨operator, none⟩, none⟩ operands, none⟩

/-- A literal as an expression. -/
def constant (v : LiteralValue) : Node Expr := ⟨.zero, .literal (.value v), none⟩

/-- Binds a field of `self` to a name, and compares the two where both are hidden from a survey. -/
def reading : Node Method :=
  let name : Ident := ⟨"x", some (.resolved 1)⟩
  let x : Node Expr := ⟨.zero, .ident name, none⟩
  methodNamed "read"
    [⟨.zero, .binding .letBinding [⟨⟨.zero, name, none⟩, none, selfField "limit"⟩]
      [⟨.zero, .expr ⟨.zero, .array [x, selfField "limit"], none⟩, none⟩,
        ⟨.zero, .expr ⟨.zero, .conditional x ⟨.zero, .expr x, none⟩
          (some ⟨.zero, .expr (selfField "limit"), none⟩), none⟩, none⟩],
      none⟩]

/-- Negates a string. -/
def negating : Node Method :=
  methodNamed "negate" [⟨.zero, .expr (operation "not" [constant (.string "a")]), none⟩]

/-- A class whose first method is graded and whose second stops the survey. -/
def gauge : Class where
  name := none
  fields := [⟨⟨.zero, ⟨"limit", none⟩, none⟩, none, some (constant (.boolean true))⟩]
  methods := [reading, negating]

/-- The field and the name bound to it are hidden from the survey. -/
def gaugeGrading : Grading where
  self := .classSelf 0
  symbols s := if s = .classSelf 0 ∨ s = .resolved 1 then .hidden else .exact
  hidden := rfl

/-- The survey stops in the second method, and the check fails there. -/
theorem survey_faults_reported_gauge :
    gaugeGrading.grades gauge = true ∧
    (surveyMethod (.classSelf 0) negating.value
      (State.scanned gauge [⟨"limit", .boolean⟩] [reading] {})).result.toOption = none ∧
    ∃ fault, (checkClass gauge {}).result = .error fault := by
  have stopped : (surveyMethod (.classSelf 0) negating.value
      (State.scanned gauge [⟨"limit", .boolean⟩] [reading] {})).result.toOption = none := by
    decide +kernel
  have graded : gaugeGrading.grades gauge = true := by decide +kernel
  obtain ⟨f, hf⟩ := exists_error_of_toOption stopped
  refine ⟨graded, stopped, survey_faults_reported gaugeGrading rfl
    (eq_ok_of_toOption (by decide +kernel)) rfl graded (fun s hs => ?_) rfl hf⟩
  have names : s = .classSelf 0 ∨ s = .resolved 1 := by
    by_contra other
    rw [show gaugeGrading.symbols s = .exact from if_neg other] at hs
    nomatch hs
  rcases names with rfl | rfl
  · decide +kernel
  · decide +kernel

/-- A class whose method reads a property of a choice between a field and a value of its type. -/
def offering : Class where
  name := none
  fields :=
    [⟨⟨.zero, ⟨"o", none⟩, none⟩, none, some (record "x")⟩]
  methods :=
    [methodNamed "m"
      [⟨.zero, .expr ⟨.zero, .member
        (operation "?:" [constant (.boolean true), selfField "o", record "y"])
        ⟨.zero, ⟨"a", none⟩, none⟩, none⟩, none⟩]]
where
  record (value : String) : Node Expr :=
    ⟨.zero, .object [⟨⟨.zero, ⟨"a", none⟩, none⟩, constant (.string value)⟩], none⟩

/-- **A survey may stop in a class that is accepted.**  The choice is between an unknown type and an
object type in the survey, so it has a union type there, which has no properties.  In the check both
are of one type, and the choice is of that type too. -/
theorem stopped_survey_accepted :
    let declared : List Field := [⟨"o", .object [⟨"a", .string⟩]⟩]
    (checkFields offering.fields (State.enterClass offering.methods {}).push).result.toOption =
      some declared ∧
    (∃ m ∈ offering.methods, (surveyMethod (.classSelf 0) m.value
      (State.scanned offering declared [] {})).result.toOption = none) ∧
    (checkClass offering {}).result.toOption =
      some (.object (declared ++ [⟨"m", .function [] .unknown⟩])) := by
  refine ⟨by decide +kernel, ⟨_, List.mem_singleton_self _, ?_⟩, by decide +kernel⟩
  decide +kernel

end Checker
end StructuralTyping
