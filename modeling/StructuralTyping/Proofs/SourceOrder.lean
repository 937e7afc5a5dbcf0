import StructuralTyping.Proofs.ConcurringParts

/-! # Aliases in the order of the source

The table of aliases has no scopes, and the methods of a class are gone through twice.  What the
survey defines stays: when the types of the methods are declared and when the methods are checked,
the aliases of all of them are there already, those of later methods included
(`later_alias_seen`).

Only mentions of an alias ahead of its definition are affected.  `checkInstanceInOrder` keeps to the
order: the declared type of a method sees the aliases of the methods before it, and the aliases that
the survey has left are dropped before the methods are checked, so that each is known from its
definition on.  A class comes out the same that way (`checkClass_eq_inOrder`), provided that no
declared type mentions an alias that is defined in the body after it or in a later one, and no
annotation of the methods mentions one of their aliases before it has been defined (`InOrder`).

The survey does not enter the functions and classes within a method.  Aliases in these are defined
when the method is checked, so they affect nothing before it, and declared types do not see them.
-/
namespace StructuralTyping
namespace Checker

/-! ## Classes that are checked in order -/

/-- The state with these aliases and no others. -/
def State.withAliases (aliases : List (String × Ty)) (st : State) : State :=
  { st with scopes := { st.scopes with aliases } }

/-- The declared types of the methods that are members of the instance, each with the aliases that
are known when the survey comes to its method. -/
def signaturesInOrder (self : Symbol) (fields : List Field) :
    List (Node Method) → State → Except Failure (List Field)
  | [], _ => .ok []
  | m :: rest, st => do
    let here ← memberSignatures st.scopes fields [m]
    let others ← signaturesInOrder self fields rest (surveyNext self m st)
    .ok (here ++ others)

/-- Surveys and checks the methods of a class.  A declared type sees the aliases of earlier methods,
and the aliases that the survey has left are dropped before the methods are checked. -/
def checkInstanceInOrder (self : Symbol) (name : Option (Node Ident)) (declared : List Field)
    (ms : List (Node Method)) (st : State) : Checked (List (Node Method)) Ty :=
  let surveyed := surveyInstance self declared ms st
  checkFixed self name surveyed.surveyed
    (signaturesInOrder self surveyed.surveyed ms (st.beginSurvey self (Field.merge declared))) ms
    (surveyed.withAliases st.scopes.aliases).endSurvey

/-- What surveys and checks the methods of a class with this instance, name and declared fields. -/
abbrev MethodCheck :=
  Symbol → Option (Node Ident) → List Field → List (Node Method) → State →
    Checked (List (Node Method)) Ty

/-- Checks the members of a class in the scope of the class. -/
def checkMembersWith (check : MethodCheck) (c : Class) (st : State) :
    Checked (List FieldDecl × List (Node Method)) Ty :=
  (checkFields c.fields (st.enterClass c.methods).push).andThen c.methods
    (fun declared => check st.nextSelf c.name declared c.methods) Prod.mk

/-- Checks a class; while surveying another class it is passed over. -/
def checkClassWith (check : MethodCheck) (c : Class) (st : State) : Checked Class Ty :=
  if st.surveying then .succeed .unknown c st
  else
    (((checkMembersWith check c st).mapState State.pop).mapState fun after =>
        { after with survey := st.survey }).andThen c.name (named c.name) fun p name =>
      ⟨name, p.1, SelfReference.link st.nextSelf p.2⟩

/-- The check of a class, with the order of its methods' passes as a parameter. -/
theorem checkClass_eq_checkClassWith (c : Class) (st : State) :
    checkClass c st = checkClassWith checkInstance c st := by
  obtain ⟨name, fields, ms⟩ := c
  rw [checkClass, checkClassWith]
  rfl

/-! ## Outcomes that differ in aliases at most -/

/-- Two checks have come out the same and recorded the same types.  Names stand for the same aliases
afterwards, but for those in `names` if the checks have failed. -/
structure SameOutcome {τ α : Type} (names : List String) (x y : Checked τ α) : Prop where
  result : x.result = y.result
  states : Concordant (fun _ => True) ({}, {}) x.state y.state
  others : ∀ name, name ∉ names → SameAlias x.state y.state name
  accepted : ∀ a, x.result = .ok a → ∀ name, SameAlias x.state y.state name

theorem Concordant.refl (st : State) : Concordant (fun _ => True) ({}, {}) st st :=
  ⟨fun _ _ => rfl, fun _ => rfl, rfl, rfl, st.table.entries.toList, rfl, rfl⟩

/-- States that are concordant from empty tables on have the same table. -/
theorem Concordant.table {X : Symbol → Prop} {p q : State} (h : Concordant X ({}, {}) p q) :
    p.table = q.table := by
  obtain ⟨types, hp, hq⟩ := h.recorded
  have entries : p.table.entries = q.table.entries := Array.toList_inj.mp (hp.trans hq.symm)
  exact congrArg TypeTable.mk entries

namespace SameOutcome

variable {τ υ ω α β : Type} {names : List String}

theorem refl (x : Checked τ α) : SameOutcome names x x :=
  ⟨rfl, .refl _, fun _ _ => rfl, fun _ _ _ => rfl⟩

/-- The same outcome in a row, if the second steps have it whenever the first succeed. -/
theorem andThen {x y : Checked τ α} {rest : υ} {next next' : α → State → Checked υ β}
    {build : τ → υ → ω} (first : SameOutcome names x y)
    (second : ∀ a, x.result = .ok a → SameOutcome names (next a x.state) (next' a y.state)) :
    SameOutcome names (x.andThen rest next build) (y.andThen rest next' build) := by
  unfold Edit.andThen
  rw [← first.result]
  cases hx : x.result with
  | error e =>
    refine ⟨rfl, first.states, first.others, fun a ok => ?_⟩
    cases ok
  | ok a =>
    have second := second a hx
    exact ⟨second.result, second.states, second.others, second.accepted⟩

/-- The name of the class is bound. -/
theorem named {x y : Checked τ Ty} {name : Option (Node Ident)}
    {build : τ → Option (Node Ident) → ω} (first : SameOutcome names x y)
    (room : HasRoom (x.andThen name (Checker.named name) build).state
      (y.andThen name (Checker.named name) build).state) :
    SameOutcome names (x.andThen name (Checker.named name) build)
      (y.andThen name (Checker.named name) build) := by
  refine first.andThen fun t ok => ?_
  have room :
      HasRoom (Checker.named name t x.state).state (Checker.named name t y.state).state := by
    simpa only [Edit.andThen, ← first.result, ok] using room
  have concurs : Concurs (fun _ => True) ({}, {}) x.state.surveying {} (fun _ => [])
      (Checker.named name t) := .named name t
  have bound := concurs.alike x.state y.state rfl first.states
    (fun _ hname => absurd hname List.not_mem_nil) room
  exact ⟨bound.result, bound.states, fun other h => bound.aliases other (first.others other h),
    fun _ _ other => bound.aliases other (first.accepted t ok other)⟩

/-- The scope of a class that was entered in `st` is closed. -/
theorem leaveClass {x y : Checked τ α} {st : State} (h : SameOutcome names x y)
    (left : Enclosed (fun _ => True) st x.state) (right : Enclosed (fun _ => True) st y.state) :
    SameOutcome names
      ((x.mapState State.pop).mapState fun after => { after with survey := st.survey })
      ((y.mapState State.pop).mapState fun after => { after with survey := st.survey }) := by
  have aliases (name : String) : SameAlias { x.state.pop with survey := st.survey }
      { y.state.pop with survey := st.survey } name ↔ SameAlias x.state y.state name :=
    sameAlias_congr (State.pop_aliases _) (State.pop_aliases _) name
  exact ⟨h.result, (Concordant.refl st).leaveClass left right h.states,
    fun name hname => (aliases name).mpr (h.others name hname),
    fun a ok name => (aliases name).mpr (h.accepted a ok name)⟩

end SameOutcome

/-! ## Mentions in order -/

/-- No declared type of a method mentions an alias that the body of the method or of a later one may
define. -/
def DeclaredInOrder : List (Node Method) → Prop
  | [] => True
  | m :: rest =>
    (∀ name ∈ (NameFlow.signatures [m]).needs, name ∉ NameFlow.reached (m :: rest)) ∧
      DeclaredInOrder rest

/-- The methods mention no alias of theirs ahead of its definition. -/
def InOrder (ms : List (Node Method)) : Prop :=
  DeclaredInOrder ms ∧ ∀ name ∈ (NameFlow.methods ms).needs, name ∉ NameFlow.reached ms

instance decidableDeclaredInOrder : (ms : List (Node Method)) → Decidable (DeclaredInOrder ms)
  | [] => isTrue trivial
  | _ :: rest =>
    have := decidableDeclaredInOrder rest
    inferInstanceAs (Decidable (_ ∧ _))

instance (ms : List (Node Method)) : Decidable (InOrder ms) :=
  inferInstanceAs (Decidable (_ ∧ _))

variable {self : Symbol} {name : Option (Node Ident)} {declared : List Field}
  {ms : List (Node Method)} {st s₁ : State}

/-- A survey defines no aliases but those that it reaches. -/
theorem later_surveyMethods (self : Symbol) (ms : List (Node Method)) {st : State}
    (surveying : st.surveying = true) :
    Later (· ∈ NameFlow.reached ms) st (surveyMethods self ms st) := by
  have concur : SurveysConcur (fun _ => True) ({}, {}) self ms :=
    Concurs.surveyMethods _ self ms (.all _ _)
  exact concur.later st surveying

/-- Signatures are made one by one. -/
theorem memberSignatures_cons (scopes : Scopes) (fields : List Field) (m : Node Method)
    (rest : List (Node Method)) :
    memberSignatures scopes fields (m :: rest) = (do
      let here ← memberSignatures scopes fields [m]
      let others ← memberSignatures scopes fields rest
      .ok (here ++ others)) := by
  simp only [memberSignatures]
  split
  · cases Rule.signature scopes m.value.typeParams m.value.params m.value.returns <;> rfl
  · cases memberSignatures scopes fields rest <;> rfl

/-- Where nothing is mentioned ahead of its definition, the declared types are the same before the
survey of later methods and after it. -/
theorem signaturesInOrder_eq {fields : List Field} (ordered : DeclaredInOrder ms)
    (surveying : st.surveying = true) :
    signaturesInOrder self fields ms st =
      memberSignatures (surveyMethods self ms st).scopes fields ms := by
  induction ms generalizing st with
  | nil => rfl
  | cons m rest ih =>
    obtain ⟨here, later⟩ := ordered
    have whole := later_surveyMethods self (m :: rest) surveying
    have first : memberSignatures st.scopes fields [m] =
        memberSignatures (surveyMethods self (m :: rest) st).scopes fields [m] :=
      memberSignatures_congr_of_needs fun name hname =>
        (whole.framed.typeNamed?_of_other (here name hname)).symm
    have split : surveyMethods self (m :: rest) st =
        surveyMethods self rest (surveyNext self m st) := surveyMethods_cons self m rest st
    have next : (surveyNext self m st).surveying = true := by
      have onwards :=
        (continues_stepClosed.surveyMethods self rest (surveyNext self m st)).surveying
      rw [← split, whole.continues.surveying] at onwards
      exact onwards.symm.trans surveying
    rw [signaturesInOrder, first, ih later next, ← split, memberSignatures_cons _ _ m rest]

/-! ## The two ways to check a class -/

/-- The two orders agree on the methods of a class whose names are in order. -/
theorem sameOutcome_checkInstance (ordered : InOrder ms)
    (room : HasRoom (checkInstance self name declared ms st).state
      (checkInstanceInOrder self name declared ms st).state) :
    SameOutcome (NameFlow.reached ms) (checkInstance self name declared ms st)
      (checkInstanceInOrder self name declared ms st) := by
  have framed : Framed (· ∈ NameFlow.reached ms) (st.beginSurvey self (Field.merge declared))
      (surveyInstance self declared ms st) := (later_surveyMethods self ms rfl).framed
  have signatures (fields : List Field) :
      signaturesInOrder self fields ms (st.beginSurvey self (Field.merge declared)) =
        memberSignatures (surveyInstance self declared ms st).scopes fields ms :=
    signaturesInOrder_eq ordered.1 rfl
  unfold checkInstanceInOrder at room ⊢
  dsimp only at room ⊢
  rw [checkInstance_eq, signatures] at room ⊢
  generalize surveyInstance self declared ms st = s at *
  -- the two states differ in the aliases that the survey has defined
  have kept : ∀ other, other ∉ NameFlow.reached ms →
      SameAlias s.endSurvey (s.withAliases st.scopes.aliases).endSurvey other := framed.others
  have states : Concordant (fun _ => True) ({}, {}) s.endSurvey
      (s.withAliases st.scopes.aliases).endSurvey :=
    ⟨fun _ _ => rfl, fun _ => rfl, rfl, rfl, s.table.entries.toList, rfl, rfl⟩
  have checked := Alike.checkFixed _ (Concurs.checkMethods _ self s.surveyed ms (.all _ _)) states
    (fun other hother => states.typeNamed?_of_alias (kept other (ordered.2 other hother))) room
  refine ⟨checked.result, checked.states, fun other h => checked.aliases other (kept other h),
    fun t ok other => ?_⟩
  by_cases defined : other ∈ NameFlow.reached ms
  · exact checked.defined t ok other (NameFlow.reached_subset ms defined)
  · exact checked.aliases other (kept other defined)

theorem framed_checkMethods (self : Symbol) (ms : List (Node Method)) (fields : List Field)
    (st : State) : Framed (fun _ => True) st (checkMethods self fields ms st).state :=
  (framed_stepClosed _).checkMethods self fields ms st fun _ _ => trivial

theorem framed_surveyMethods (self : Symbol) (ms : List (Node Method)) (st : State) :
    Framed (fun _ => True) st (surveyMethods self ms st) :=
  (framed_stepClosed _).surveyMethods self ms st fun _ _ => trivial

theorem Enclosed.checkInstanceInOrder (h : Enclosed (fun _ => True) st s₁) :
    Enclosed (fun _ => True) st (checkInstanceInOrder self name declared ms s₁).state := by
  have surveyed := (h.beginSurvey self (Field.merge declared)).later
    (framed_surveyMethods self ms _)
  have dropped : Enclosed (fun _ => True) st
      ((surveyInstance self declared ms s₁).withAliases s₁.scopes.aliases) :=
    ⟨surveyed.outer, fun _ h => absurd trivial h⟩
  exact dropped.checkFixed _ fun st _ => framed_checkMethods self ms _ st

/-- Neither order leaves anything outside of the class's scope. -/
theorem enclosed_checkMembersWith {check : MethodCheck} {c : Class}
    (each : ∀ declared s₁, Enclosed (fun _ => True) st s₁ →
      Enclosed (fun _ => True) st (check st.nextSelf c.name declared c.methods s₁).state) :
    Enclosed (fun _ => True) st (checkMembersWith check c st).state := by
  have declared := (Enclosed.enterClass c.methods st).later
    ((framed_stepClosed _).checkFields c.fields _ fun _ _ => trivial)
  unfold checkMembersWith Edit.andThen
  split
  · exact each _ _ declared
  · exact declared

/-- The two orders agree on the members of the class. -/
theorem sameOutcome_checkMembers {c : Class} (ordered : InOrder c.methods)
    (room : HasRoom (checkMembersWith checkInstance c st).state
      (checkMembersWith checkInstanceInOrder c st).state) :
    SameOutcome (NameFlow.reached c.methods) (checkMembersWith checkInstance c st)
      (checkMembersWith checkInstanceInOrder c st) := by
  refine (SameOutcome.refl _).andThen fun declared ok => sameOutcome_checkInstance ordered ?_
  simpa only [checkMembersWith, Edit.andThen, ok] using room

/-- The two orders agree on the class. -/
theorem sameOutcome_checkClass {c : Class} (ordered : InOrder c.methods)
    (room : HasRoom (checkClass c st).state (checkClassWith checkInstanceInOrder c st).state) :
    SameOutcome (NameFlow.reached c.methods) (checkClass c st)
      (checkClassWith checkInstanceInOrder c st) := by
  rw [checkClass_eq_checkClassWith] at room ⊢
  unfold checkClassWith at room ⊢
  by_cases surveying : st.surveying = true
  · rw [if_pos surveying, if_pos surveying]
    exact .refl _
  · rw [if_neg surveying, if_neg surveying] at room ⊢
    have members := sameOutcome_checkMembers ordered (room.of_extends
      (continues_stepClosed.andThen (continues_stepClosed.refl _) fun _ =>
        continues_stepClosed.named c.name _ _).table
      (continues_stepClosed.andThen (continues_stepClosed.refl _) fun _ =>
        continues_stepClosed.named c.name _ _).table)
    have left : Enclosed (fun _ => True) st (checkMembersWith checkInstance c st).state :=
      enclosed_checkMembersWith fun declared _ h =>
        h.checkInstance declared (fun st _ => framed_surveyMethods _ _ st) fun fields st _ =>
          framed_checkMethods _ _ fields st
    have right : Enclosed (fun _ => True) st (checkMembersWith checkInstanceInOrder c st).state :=
      enclosed_checkMembersWith fun _ _ h => h.checkInstanceInOrder
    exact (members.leaveClass left right).named room

/-- **Each alias counts from its definition on.**  A class whose methods mention no alias ahead of
its definition is checked as if the survey had left no aliases and the methods had declared their
types one after another: it has the same result and records the same types, and if it is accepted,
every name stands for the same alias afterwards. -/
theorem checkClass_eq_inOrder {c : Class} {st : State} (ordered : InOrder c.methods)
    (room : HasRoom (checkClass c st).state (checkClassWith checkInstanceInOrder c st).state) :
    (checkClass c st).result = (checkClassWith checkInstanceInOrder c st).result ∧
      (checkClass c st).state.table = (checkClassWith checkInstanceInOrder c st).state.table ∧
      ∀ t, (checkClass c st).result = .ok t → ∀ name,
        (checkClass c st).state.scopes.alias? name =
          (checkClassWith checkInstanceInOrder c st).state.scopes.alias? name := by
  have outcome := sameOutcome_checkClass ordered room
  exact ⟨outcome.result, outcome.states.table, outcome.accepted⟩

/-- A method with the parameters and the body, and no declared result. -/
def plainMethod (name : String) (params : List (String × TypeExpr)) (body : List Stmt) :
    Node Method :=
  ⟨.zero,
    { name := ⟨.zero, ⟨name, none⟩, none⟩
      kind := .method
      typeParams := []
      params := params.map fun p => ⟨⟨.zero, ⟨p.1, none⟩, none⟩, some ⟨.zero, p.2, none⟩⟩
      returns := none
      body := body.map fun s => ⟨.zero, s, none⟩ },
    none⟩

/-- Calls a number `name`. -/
def numberAlias (name : String) : Stmt :=
  .typeAlias ⟨.zero, ⟨name, none⟩, none⟩ [] ⟨.zero, .keyword .number, none⟩

/-- Binds 1 to a name with a declared type. -/
def unit (name : String) (declaredAs : TypeExpr) : Stmt :=
  .binding .letBinding
    [⟨⟨.zero, ⟨name, none⟩, none⟩, some ⟨.zero, declaredAs, none⟩,
      ⟨.zero, .literal (.value (.number ⟨0x3ff0000000000000⟩)), none⟩⟩] []

/-- One method defines an alias and uses it, and the next one declares a parameter with it. -/
theorem checkClass_eq_inOrder_units :
    let c : Class := ⟨none, [],
      [plainMethod "measure" [("times", .keyword .number)]
        [numberAlias "Metre", unit "length" (.named "Metre")],
      plainMethod "again" [("height", .named "Metre")] [unit "length" (.named "Metre")]]⟩
    InOrder c.methods ∧ NameFlow.reached c.methods = ["Metre"] ∧
      (checkClass c {}).result.isOk = true ∧
      (checkClass c {}).result = (checkClassWith checkInstanceInOrder c {}).result ∧
      (checkClass c {}).state.table = (checkClassWith checkInstanceInOrder c {}).state.table := by
  intro c
  have ordered : InOrder c.methods := by decide +kernel
  have room : HasRoom (checkClass c {}).state (checkClassWith checkInstanceInOrder c {}).state :=
    ⟨by decide +kernel, by decide +kernel⟩
  obtain ⟨result, table, -⟩ := checkClass_eq_inOrder ordered room
  exact ⟨ordered, rfl, by decide +kernel, result, table⟩

/-- **The aliases of later methods are seen.**  A parameter is declared with a name that only the
body of the next method defines, and the class is accepted; it is not if the class is checked in
order. -/
theorem later_alias_seen :
    let c : Class := ⟨none, [],
      [plainMethod "a" [("x", .named "T")] [], plainMethod "b" [] [numberAlias "T"]]⟩
    (checkClass c {}).result.isOk = true ∧
      (checkClassWith checkInstanceInOrder c {}).result.isOk = false := by
  decide +kernel

end Checker
end StructuralTyping
