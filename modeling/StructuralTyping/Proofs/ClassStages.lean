import StructuralTyping.Checker.Check
import StructuralTyping.Proofs.RuleOutcomes

/-! # The stages of a class

A class is checked in stages: its fields, a first pass over its methods, and its methods one after
the other.  Here the stages have names of their own (`checkField`, `surveyMethod`, `checkMethod`,
`checkInstance`, `checkMembers`), so that what is proved of one does not have to be read off the
check of a whole class.
-/
namespace StructuralTyping

/-- If two steps in a row succeed, each of them did. -/
theorem Edit.exists_of_andThen_ok {σ ε τ υ ω α β : Type} {first : Edit σ ε τ α} {rest : υ}
    {next : α → σ → Edit σ ε υ β} {build : τ → υ → ω} {b : β}
    (ok : (first.andThen rest next build).result = .ok b) :
    ∃ a, first.result = .ok a ∧ (next a first.state).result = .ok b ∧
      first.andThen rest next build = (next a first.state).rebuild (build first.tree) := by
  unfold andThen at ok ⊢
  cases hr : first.result with
  | error e => simp [hr] at ok
  | ok a =>
    rw [hr] at ok
    exact ⟨a, rfl, ok, rfl⟩

namespace Checker

/-! ## Items that are checked one after the other -/

/-- Checks items in order. -/
def checkEach {α β : Type} (one : α → State → Checked α β) :
    List α → State → Checked (List α) (List β)
  | [], st => .succeed [] [] st
  | x :: rest, st =>
    (one x st).andThen rest
      (fun b st => (checkEach one rest st).conclude fun bs => .ok (b :: bs)) .cons

section CheckEach

variable {α β : Type} {one : α → State → Checked α β} {x : α} {rest : List α} {st : State}

/-- If a row of checks succeeds, so do the first check and the row behind it. -/
theorem exists_of_checkEach_cons_ok {bs : List β}
    (ok : (checkEach one (x :: rest) st).result = .ok bs) :
    ∃ b bs', (one x st).result = .ok b ∧
      (checkEach one rest (one x st).state).result = .ok bs' ∧ bs = b :: bs' := by
  rw [checkEach] at ok
  obtain ⟨b, hb, ok, -⟩ := Edit.exists_of_andThen_ok ok
  obtain ⟨bs', hbs', ok⟩ := exists_of_bind_eq_ok ok
  exact ⟨b, bs', hb, hbs', (Except.ok.inj ok).symm⟩

/-- Checking an item leads to the state in which the next ones are checked. -/
theorem state_checkEach_cons {b : β} (hb : (one x st).result = .ok b) :
    (checkEach one (x :: rest) st).state = (checkEach one rest (one x st).state).state := by
  rw [checkEach, Edit.andThen, hb]
  rfl

/-- Entries have the names of the items that they come from. -/
theorem names_checkEach {one : α → State → Checked α Field} {nameOf : α → String} {items : List α}
    {entries : List Field} (named : ∀ x st f, (one x st).result = .ok f → f.name = nameOf x)
    (ok : (checkEach one items st).result = .ok entries) :
    entries.map Field.name = items.map nameOf := by
  induction items generalizing st entries with
  | nil =>
    rw [checkEach] at ok
    cases ok
    rfl
  | cons x rest ih =>
    obtain ⟨f, later, hf, hlater, rfl⟩ := exists_of_checkEach_cons_ok ok
    rw [List.map_cons, List.map_cons, named x st f hf, ih hlater]

end CheckEach

/-! ## Fields -/

/-- Checks a declared field and records its type. -/
def checkField (d : FieldDecl) (st : State) : Checked FieldDecl Field :=
  (checkOptional none d.init st).andThen d.name
    (fun initTy st =>
      match Rule.field st.scopes d.declaredAs d.init initTy with
      | .error f => .fail f d.name st
      | .ok t =>
        .succeed ⟨d.name.value.name, t⟩ (st.recordName d.name t).1 (st.recordName d.name t).2)
    fun init name => ⟨name, d.declaredAs, init⟩

/-- Fields are checked one by one, without a look at each other. -/
theorem checkFields_eq_checkEach (ds : List FieldDecl) (st : State) :
    checkFields ds st = checkEach checkField ds st := by
  induction ds generalizing st with
  | nil => rw [checkFields, checkEach]
  | cons d ds ih =>
    obtain ⟨name, declaredAs, init⟩ := d
    rw [checkFields, checkEach, checkField, Edit.andThen, Edit.andThen]
    cases hi : (checkOptional none init st).result with
    | error f => simp [Edit.andThen, hi]
    | ok initTy =>
      simp only [Edit.andThen, hi]
      cases hf : Rule.field (checkOptional none init st).state.scopes declaredAs init initTy with
      | error f => simp [Edit.fail]
      | ok t => simp [Edit.succeed, Edit.conclude, Edit.rebuild, ih]

/-- A field is accepted with the type that its rule makes of its initial value. -/
theorem checkField_eq_ok_iff {d : FieldDecl} {st : State} {f : Field} :
    (checkField d st).result = .ok f ↔
      ∃ initTy, (checkOptional none d.init st).result = .ok initTy ∧
        ∃ t, Rule.field (checkOptional none d.init st).state.scopes d.declaredAs d.init initTy =
          .ok t ∧ f = ⟨d.name.value.name, t⟩ := by
  constructor
  · intro ok
    obtain ⟨initTy, hinit, ok, -⟩ := Edit.exists_of_andThen_ok ok
    refine ⟨initTy, hinit, ?_⟩
    split at ok
    · cases ok
    · rename_i t ht
      exact ⟨t, ht, (Except.ok.inj ok).symm⟩
  · rintro ⟨initTy, hinit, t, ht, rfl⟩
    simp only [checkField, Edit.andThen, hinit, ht]
    rfl

/-- A field keeps its name. -/
theorem name_checkField (d : FieldDecl) (st : State) (f : Field)
    (ok : (checkField d st).result = .ok f) : f.name = d.name.value.name := by
  obtain ⟨-, -, t, -, rfl⟩ := checkField_eq_ok_iff.mp ok
  rfl

/-! ## Methods -/

/-- Goes through the body of one method for the fields that it assigns. -/
def surveyBody (self : Symbol) (m : Method) (st : State) :
    Checked (List Param × List (Node Stmt)) Ty :=
  (checkParams m.params (st.bindTypeParams m.typeParams)).andThen m.body
    (fun _ => checkStmts (some self) .undefined m.body) Prod.mk

/-- Surveys one method. -/
def surveyMethod (self : Symbol) (m : Method) :
    State → Checked (List Param × List (Node Stmt)) Ty :=
  inScope (surveyBody self m)

/-- The survey of one method and then of the others, whether or not it stopped in the first. -/
theorem surveyMethods_cons (self : Symbol) (n : Node Method) (rest : List (Node Method))
    (st : State) :
    surveyMethods self (n :: rest) st =
      surveyMethods self rest
        (match (surveyMethod self n.value st).result with
          | .ok _ => (surveyMethod self n.value st).state
          | .error f =>
            (surveyMethod self n.value st).state.note
              (.surveyStopped n.value.name.value.name f.fault)) := by
  obtain ⟨_, ⟨_, _, _, _, _, _⟩, _⟩ := n
  rw [surveyMethods]
  rfl

/-- Checks one method. -/
def checkMethod (self : Symbol) (n : Node Method) (st : State) : Checked (Node Method) Ty :=
  recorded n.span n.ty
    ((checkCallable n.value.typeParams n.value.params n.value.returns n.value.body
      (fun _ _ st => st) (checkStmts (some self) .undefined n.value.body) st).rebuild
      fun p => { n.value with params := p.1, body := p.2 })

/-- The check of one method and then of the others; a failure in the first is the end. -/
theorem checkMethods_cons (self : Symbol) (fields : List Field) (n : Node Method)
    (rest : List (Node Method)) (st : State) :
    checkMethods self fields (n :: rest) st =
      if n.value.kind = .constructor ∧ n.value.returns.isSome then
        .fail ⟨.annotatedConstructor, n.span⟩ (n :: rest) st
      else
        (checkMethod self n st).andThen rest
          (fun t st =>
            (checkMethods self fields rest st).conclude fun entries =>
              .ok (if isMember fields n.value then ⟨n.value.name.value.name, t⟩ :: entries
                else entries))
          .cons := by
  obtain ⟨_, ⟨_, _, _, _, _, _⟩, _⟩ := n
  rw [checkMethods]
  rfl

/-- A checked method differs in its parameters and its body. -/
theorem checkMethod_tree (self : Symbol) (n : Node Method) (st : State) :
    ∃ params body ty, (checkMethod self n st).tree =
      ⟨n.span, { n.value with params, body }, ty⟩ := by
  unfold checkMethod recorded
  split <;> exact ⟨_, _, _, rfl⟩

/-- Surveys and checks the methods of a class, once its fields are declared. -/
def checkInstance (self : Symbol) (name : Option (Node Ident)) (declared : List Field)
    (ms : List (Node Method)) (st : State) : Checked (List (Node Method)) Ty :=
  let st := surveyMethods self ms (st.beginSurvey self (Field.merge declared))
  let found := st.surveyed
  let st := st.endSurvey
  match memberSignatures st.scopes found ms with
  | .error f => .fail f ms st
  | .ok signatures =>
    (checkMethods self found ms (st.beginMethods self name found signatures)).whenDone
      fun entries ms st => .succeed (.object (st.surveyed ++ entries)) ms st

/-- An instance that is accepted was given its members by `checkMethods`. -/
theorem exists_of_checkInstance_ok {self : Symbol} {name : Option (Node Ident)}
    {declared : List Field} {ms : List (Node Method)} {st : State} {t : Ty}
    (ok : (checkInstance self name declared ms st).result = .ok t) :
    ∃ (s : State) (found signatures entries : List Field) (e : Checked _ (List Field)),
      memberSignatures s.scopes found ms = .ok signatures ∧
      e = checkMethods self found ms (s.beginMethods self name found signatures) ∧
      e.result = .ok entries ∧
      checkInstance self name declared ms st =
        .succeed (.object (e.state.surveyed ++ entries)) e.tree e.state ∧
      t = .object (e.state.surveyed ++ entries) := by
  unfold checkInstance Edit.whenDone at ok ⊢
  dsimp only at ok ⊢
  split at ok
  · nomatch ok
  · rename_i signatures hsignatures
    split at ok
    · rename_i entries hentries
      exact ⟨_, _, signatures, entries, _, hsignatures, rfl, hentries, rfl, (Except.ok.inj ok).symm⟩
    · nomatch ok

/-- Checks the fields and the methods of a class. -/
def checkMembers (self : Symbol) (name : Option (Node Ident)) (fields : List FieldDecl)
    (ms : List (Node Method)) (st : State) : Checked (List FieldDecl × List (Node Method)) Ty :=
  (checkFields fields st).andThen ms (fun declared => checkInstance self name declared ms) Prod.mk

/-- A class outside of a survey: its members in a scope of their own, then its name. -/
theorem checkClass_of_real (name : Option (Node Ident)) (fields : List FieldDecl)
    (ms : List (Node Method)) {st : State} (real : st.surveying = false) :
    checkClass ⟨name, fields, ms⟩ st =
      ((inScope (checkMembers st.nextSelf name fields ms) (st.enterClass ms)).mapState
        fun after => { after with survey := st.survey }).andThen name (named name)
        fun p name => ⟨name, p.1, SelfReference.link st.nextSelf p.2⟩ := by
  rw [checkClass, real]
  rfl

theorem named_result (name : Option (Node Ident)) (t : Ty) (st : State) :
    (named name t st).result = .ok t := by
  cases name <;> rfl

/-- A class that is accepted has the type of its instance. -/
theorem exists_of_checkClass_ok {c : Class} {st : State} {t : Ty} (real : st.surveying = false)
    (ok : (checkClass c st).result = .ok t) :
    ∃ s declared e, e = checkInstance st.nextSelf c.name declared c.methods s ∧
      e.result = .ok t ∧ (checkClass c st).tree.methods = SelfReference.link st.nextSelf e.tree ∧
      ∃ s', s'.table = e.state.table ∧ (checkClass c st).state = (named c.name t s').state := by
  obtain ⟨name, fields, ms⟩ := c
  rw [checkClass_of_real name fields ms real] at ok ⊢
  obtain ⟨u, members, bound, whole⟩ := Edit.exists_of_andThen_ok ok
  obtain rfl := Except.ok.inj ((named_result name u _).symm.trans bound)
  obtain ⟨declared, -, accepted, both⟩ := Edit.exists_of_andThen_ok (show (checkMembers st.nextSelf
    name fields ms (st.enterClass ms).push).result = .ok u from members)
  refine ⟨_, declared, _, rfl, accepted, ?_, _, ?_, congrArg Edit.state whole⟩
  · rw [whole]
    exact congrArg (fun e => SelfReference.link st.nextSelf (Edit.tree e).2) both
  · exact congrArg (fun e => (Edit.state e).table) both

end Checker
end StructuralTyping
