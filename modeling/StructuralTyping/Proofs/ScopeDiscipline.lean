import StructuralTyping.Proofs.CheckerSteps

/-! # Scopes and surveys are left as they were found

A check of any part of a program, whether it succeeds or stops half way, closes every scope that it
opened, touches no scope but the innermost one, and there only the symbols; it leaves the field
survey that it found, or none where there was none; and it defines no aliases but those that are
written in the part (`Session.scopes_kept`).

`Framed` says this of an earlier and a later state.  It holds across every step of a check, so it
holds across whole checks (`framed_stepClosed`).  A scope is where it is won back: whatever was
bound in the scope, closing it restores the innermost scope that was there before, as long as none
of the scopes further out were touched.
-/
namespace StructuralTyping

namespace Scopes

/-- Closing a scope brings back the one around it. -/
theorem pop_of_outer {s : Scopes} {f : Frame} {rest : List Frame} (h : s.outer = f :: rest) :
    s.pop = { s with inner := f, outer := rest } := by
  simp only [pop, h]

theorem outer_bindTypeParams (names : List (Node Ident)) (s : Scopes) :
    (names.foldl (fun s n => s.bindTypeParam n.value.name .unknown) s).outer = s.outer := by
  induction names generalizing s with
  | nil => rfl
  | cons n names ih => exact ih _

/-- Type parameters are no aliases. -/
theorem aliases_bindTypeParams (names : List (Node Ident)) (s : Scopes) :
    (names.foldl (fun s n => s.bindTypeParam n.value.name .unknown) s).aliases = s.aliases := by
  induction names generalizing s with
  | nil => rfl
  | cons n names ih => exact ih _

/-! ### Looking up what was set -/

section Lookup

variable (s : Scopes)

/-- A symbol has the type it was bound to last. -/
theorem symbol?_bind (symbol : Symbol) (t : Ty) : (s.bind symbol t).symbol? symbol = some t := by
  simp [symbol?, frames, bind]

/-- Binding one symbol leaves the others. -/
theorem symbol?_bind_of_ne {symbol other : Symbol} (h : other ≠ symbol) (t : Ty) :
    (s.bind symbol t).symbol? other = s.symbol? other := by
  have : (other == symbol) = false := beq_eq_false_iff_ne.mpr h
  simp [symbol?, frames, bind, List.findSome?_cons, List.lookup_cons, this]

theorem typeParam?_bindTypeParam (name : String) (t : Ty) :
    (s.bindTypeParam name t).typeParam? name = some t := by
  simp [typeParam?, frames, bindTypeParam]

theorem typeParam?_bindTypeParam_of_ne {name other : String} (h : other ≠ name) (t : Ty) :
    (s.bindTypeParam name t).typeParam? other = s.typeParam? other := by
  have : (other == name) = false := beq_eq_false_iff_ne.mpr h
  simp [typeParam?, frames, bindTypeParam, List.findSome?_cons, List.lookup_cons, this]

theorem alias?_defineAlias (name : String) (t : Ty) :
    (s.defineAlias name t).alias? name = some t := by
  simp [alias?, defineAlias]

end Lookup

/-- Defining one alias leaves the others. -/
theorem alias?_defineAlias_of_ne {s : Scopes} {name other : String} (h : other ≠ name) (t : Ty) :
    (s.defineAlias name t).alias? other = s.alias? other := by
  have : (other == name) = false := beq_eq_false_iff_ne.mpr h
  simp [alias?, defineAlias, List.lookup_cons, this]

end Scopes

namespace FieldSurvey

/-- Whose fields are surveyed, and in which pass. -/
def subject (s : FieldSurvey) : Symbol × Bool := (s.self, s.firstPass)

end FieldSurvey

namespace Checker

/-! ## What the steps do to scopes and surveys -/

namespace State

theorem emit_scopes (e : Event) (st : State) : (st.emit e).scopes = st.scopes := by
  unfold emit
  split <;> rfl

theorem emit_survey (e : Event) (st : State) : (st.emit e).survey = st.survey := by
  unfold emit
  split <;> rfl

/-- Records have no part in the scopes. -/
theorem record_scopes (slot : Option TypeId) (t : Ty) (st : State) :
    (st.record slot t).2.scopes = st.scopes := by
  unfold record
  split <;> rfl

theorem record_survey (slot : Option TypeId) (t : Ty) (st : State) :
    (st.record slot t).2.survey = st.survey := by
  unfold record
  split <;> rfl

theorem bind_survey (symbol : Option Symbol) (t : Ty) (st : State) :
    (st.bind symbol t).survey = st.survey := by
  cases symbol <;> rfl

/-- Symbols are bound in the innermost frame. -/
theorem bind_outer (symbol : Option Symbol) (t : Ty) (st : State) :
    (st.bind symbol t).scopes.outer = st.scopes.outer := by
  cases symbol <;> rfl

theorem bind_typeParams (symbol : Option Symbol) (t : Ty) (st : State) :
    (st.bind symbol t).scopes.inner.typeParams = st.scopes.inner.typeParams := by
  cases symbol <;> rfl

theorem bind_aliases (symbol : Option Symbol) (t : Ty) (st : State) :
    (st.bind symbol t).scopes.aliases = st.scopes.aliases := by
  cases symbol <;> rfl

theorem noteAssignment_scopes (receiver : Receiver) (target : Expr) (t : Ty) (st : State) :
    (st.noteAssignment receiver target t).scopes = st.scopes := by
  unfold noteAssignment
  split
  · rfl
  · split <;> rfl

/-- A survey goes on to be about the same class. -/
theorem noteAssignment_subject (receiver : Receiver) (target : Expr) (t : Ty) (st : State) :
    (st.noteAssignment receiver target t).survey.map FieldSurvey.subject =
      st.survey.map FieldSurvey.subject := by
  unfold noteAssignment
  split
  · rfl
  · rename_i s hs
    split
    · rw [hs]
      rfl
    · rfl

theorem enterClass_scopes (ms : List (Node Method)) (st : State) :
    (st.enterClass ms).scopes = st.scopes := by
  rw [enterClass_eq]

end State

/-! ## States that differ within the innermost scope -/

/-- The later state has the same scopes open, with the same contents but for the symbols of the
innermost one; the survey of the same class in the same pass, if any; and no other aliases than
before but those with a name in `aliases`. -/
structure Framed (aliases : String → Prop) (before after : State) : Prop where
  depth : after.scopes.depth = before.scopes.depth
  outer : after.scopes.outer = before.scopes.outer
  typeParams : after.scopes.inner.typeParams = before.scopes.inner.typeParams
  survey : after.survey.map FieldSurvey.subject = before.survey.map FieldSurvey.subject
  others : ∀ name, ¬aliases name → after.scopes.alias? name = before.scopes.alias? name

namespace Framed

variable {aliases : String → Prop} {st after : State}

/-- It is enough to look at the frames outside, the type parameters, the survey and the aliases. -/
theorem of_outer (outer : after.scopes.outer = st.scopes.outer)
    (typeParams : after.scopes.inner.typeParams = st.scopes.inner.typeParams)
    (survey : after.survey.map FieldSurvey.subject = st.survey.map FieldSurvey.subject)
    (others : ∀ name, ¬aliases name → after.scopes.alias? name = st.scopes.alias? name) :
    Framed aliases st after where
  depth := by simp only [Scopes.depth, Scopes.frames, List.length_cons, outer]
  outer := outer
  typeParams := typeParams
  survey := survey
  others := others

/-- A step that changes neither the scopes nor whose fields are surveyed. -/
theorem of_eq (scopes : after.scopes = st.scopes)
    (survey : after.survey.map FieldSurvey.subject = st.survey.map FieldSurvey.subject) :
    Framed aliases st after :=
  .of_outer (by rw [scopes]) (by rw [scopes]) survey fun _ _ => by rw [scopes]

theorem trans {a b c : State} (h₁ : Framed aliases a b) (h₂ : Framed aliases b c) :
    Framed aliases a c where
  depth := h₂.depth.trans h₁.depth
  outer := h₂.outer.trans h₁.outer
  typeParams := h₂.typeParams.trans h₁.typeParams
  survey := h₂.survey.trans h₁.survey
  others name hname := (h₂.others name hname).trans (h₁.others name hname)

theorem bind (symbol : Option Symbol) (t : Ty) (st : State) :
    Framed aliases st (st.bind symbol t) :=
  .of_outer (State.bind_outer _ _ _) (State.bind_typeParams _ _ _)
    (by rw [State.bind_survey]) fun _ _ => by
      rw [Scopes.alias?, State.bind_aliases, Scopes.alias?]

/-- An alias that is allowed may be defined. -/
theorem defineAlias {name : String} (allowed : aliases name) (t : Ty) (st : State) :
    Framed aliases st (st.defineAlias name t) := by
  refine .of_outer rfl rfl rfl fun other hother => Scopes.alias?_defineAlias_of_ne ?_ t
  rintro rfl
  exact hother allowed

end Framed

/-- The state inside of a scope that was opened in `st`: the scopes around it are those of `st`. -/
structure Enclosed (aliases : String → Prop) (st inside : State) : Prop where
  outer : inside.scopes.outer = st.scopes.frames
  others : ∀ name, ¬aliases name → inside.scopes.alias? name = st.scopes.alias? name

namespace Enclosed

variable {aliases : String → Prop} {st s₁ s₂ : State}

/-- What happens inside of a scope leaves its surroundings alone. -/
theorem later (h₁ : Enclosed aliases st s₁) (h₂ : Framed aliases s₁ s₂) :
    Enclosed aliases st s₂ where
  outer := h₂.outer.trans h₁.outer
  others name hname := (h₂.others name hname).trans (h₁.others name hname)

theorem push (st : State) : Enclosed aliases st st.push := ⟨rfl, fun _ _ => rfl⟩

/-- Type parameters are bound inside. -/
theorem bindTypeParams (names : List (Node Ident)) (h : Enclosed aliases st s₁) :
    Enclosed aliases st (s₁.bindTypeParams names) where
  outer := (Scopes.outer_bindTypeParams names _).trans h.outer
  others name hname := by
    rw [Scopes.alias?, State.bindTypeParams, Scopes.aliases_bindTypeParams]
    exact h.others name hname

theorem bind (symbol : Option Symbol) (t : Ty) (h : Enclosed aliases st s₁) :
    Enclosed aliases st (s₁.bind symbol t) :=
  h.later (.bind symbol t s₁)

/-- A class opens a scope of its own. -/
theorem enterClass (ms : List (Node Method)) (st : State) :
    Enclosed aliases st (st.enterClass ms).push := by
  have entered := State.enterClass_scopes ms st
  refine ⟨?_, fun name _ => ?_⟩
  · rw [← entered]
    rfl
  · rw [← entered]
    rfl

theorem beginSurvey (self : Symbol) (declared : List Field) (h : Enclosed aliases st s₁) :
    Enclosed aliases st (s₁.beginSurvey self declared) :=
  ⟨(h.bind (some self) .unknown).outer, (h.bind (some self) .unknown).others⟩

/-- The instance is bound inside the scope of its class. -/
theorem beginMethods (self : Symbol) (name : Option (Node Ident)) (fields signatures : List Field)
    (h : Enclosed aliases st s₁) :
    Enclosed aliases st (s₁.endSurvey.beginMethods self name fields signatures) := by
  have noted : Enclosed aliases st
      (s₁.endSurvey.note (.selfTyped self (.object (fields ++ signatures)))) :=
    ⟨h.outer, h.others⟩
  have bound := (noted.bind (some self) (.object (fields ++ signatures))).bind
    (name.bind (·.value.symbol)) (.object (fields ++ signatures))
  exact ⟨bound.outer, bound.others⟩

/-- The scope is closed. -/
theorem pop (h : Enclosed aliases st s₁)
    (survey : s₁.survey.map FieldSurvey.subject = st.survey.map FieldSurvey.subject) :
    Framed aliases st s₁.pop := by
  have popped : s₁.pop.scopes =
      { s₁.scopes with inner := st.scopes.inner, outer := st.scopes.outer } :=
    Scopes.pop_of_outer h.outer
  refine .of_outer (by rw [popped]) (by rw [popped]) survey fun name hname => ?_
  rw [popped]
  exact h.others name hname

/-- The scope of a class is closed, and the survey around the class goes on. -/
theorem leaveClass (h : Enclosed aliases st s₁) :
    Framed aliases st { s₁.pop with survey := st.survey } := by
  have left : Enclosed aliases st { s₁ with survey := st.survey } := ⟨h.outer, h.others⟩
  exact left.pop rfl

end Enclosed

/-- **Every check keeps the frame**, whether it succeeds or not. -/
theorem framed_stepClosed (aliases : String → Prop) : StepClosedFor aliases (Framed aliases) where
  refl _ := .of_eq rfl rfl
  trans := Framed.trans
  record slot t st :=
    .of_eq (State.record_scopes slot t st) (by rw [State.record_survey])
  bind := Framed.bind
  note _ _ _ := .of_eq rfl rfl
  emit e st := .of_eq (State.emit_scopes e st) (by rw [State.emit_survey])
  defineAlias _ t st allowed := .defineAlias allowed t st
  noteAssignment receiver target t st :=
    .of_eq (State.noteAssignment_scopes receiver target t st)
      (State.noteAssignment_subject receiver target t st)
  scope names st _ h := (((Enclosed.push st).bindTypeParams names).later h).pop h.survey
  classFields {ms st _} _ h := ((Enclosed.enterClass ms st).later h).leaveClass
  classSurvey {ms self declared st _ s₂} _ h₁ h₂ := by
    have surveyed :=
      (((Enclosed.enterClass ms st).later h₁).beginSurvey self declared).later h₂
    have left : Enclosed aliases st s₂.endSurvey := ⟨surveyed.outer, surveyed.others⟩
    exact left.leaveClass
  classMethods {ms self name declared fields signatures st _ _ _} _ h₁ h₂ h₃ := by
    have surveyed :=
      (((Enclosed.enterClass ms st).later h₁).beginSurvey self declared).later h₂
    exact ((surveyed.beginMethods self name fields signatures).later h₃).leaveClass

/-- A statement defines no aliases but those in it, and leaves all frames outside. -/
theorem framed_checkStmt (receiver : Receiver) (n : Node Stmt) (st : State) :
    Framed (· ∈ Parts.aliases (Parts.stmt n)) st (checkStmt receiver n st).state :=
  (framed_stepClosed _).checkStmt receiver n st fun _ h => h

/-- An expression defines no aliases but those in it, and leaves all frames outside. -/
theorem framed_checkExpr (receiver : Receiver) (e : Node Expr) (st : State) :
    Framed (· ∈ Parts.aliases (Parts.node e)) st (checkExpr receiver e st).state :=
  (framed_stepClosed _).checkExpr receiver e st fun _ h => h

end Checker

/-! ## Between the statements of a program -/

namespace Session

/-- The first statements of a body are checked without regard to the rest. -/
theorem checkBody_append (file : String) (done rest : List (Node Stmt)) (s : Session) :
    (checkBody file (done ++ rest) s).2 = (checkBody file rest (checkBody file done s).2).2 := by
  induction done generalizing s with
  | nil => rfl
  | cons n done ih => exact ih _

/-- One scope is open, and no class is being surveyed. -/
def AtTop (s : Session) : Prop := s.state.scopes.depth = 1 ∧ s.state.survey = none

/-- After a statement of a program the session is back at its outermost frame. -/
theorem AtTop.checkStmt {s : Session} (h : s.AtTop) (file : String) (n : Node Stmt) :
    (s.checkStmt file n).2.AtTop := by
  have framed := Checker.framed_checkStmt none n s.state
  have depth := framed.depth.trans h.1
  have survey : (Checker.checkStmt none n s.state).state.survey = none := by
    have := framed.survey
    rwa [h.2, Option.map_none, Option.map_eq_none_iff] at this
  unfold Session.checkStmt
  dsimp only
  split
  · exact ⟨depth, survey⟩
  · exact ⟨depth, survey⟩

theorem AtTop.checkBody {s : Session} (h : s.AtTop) (file : String) (body : List (Node Stmt)) :
    (checkBody file body s).2.AtTop := by
  induction body generalizing s with
  | nil => exact h
  | cons n rest ih => exact ih (h.checkStmt file n)

/-- **Checks leave scopes and surveys as they found them.**  A check of a statement or expression,
in any state and whether it succeeds or not, keeps the frame, and the aliases that it defines are
written in it.  So between the statements of a program there is one scope and no survey. -/
theorem scopes_kept :
    (∀ (receiver : Checker.Receiver) (n : Node Stmt) (st : Checker.State),
      Checker.Framed (· ∈ Parts.aliases (Parts.stmt n)) st
        (Checker.checkStmt receiver n st).state) ∧
    (∀ (receiver : Checker.Receiver) (e : Node Expr) (st : Checker.State),
      Checker.Framed (· ∈ Parts.aliases (Parts.node e)) st
        (Checker.checkExpr receiver e st).state) ∧
    ∀ (file : String) (done rest : List (Node Stmt)),
      let between := (checkBody file done {}).2
      between.state.scopes.depth = 1 ∧ between.state.survey = none ∧
        (checkBody file (done ++ rest) {}).2 = (checkBody file rest between).2 := by
  refine ⟨Checker.framed_checkStmt, Checker.framed_checkExpr, fun file done rest => ?_⟩
  have top : AtTop {} := ⟨rfl, rfl⟩
  obtain ⟨depth, survey⟩ := top.checkBody file done
  exact ⟨depth, survey, checkBody_append file done rest {}⟩

end Session
end StructuralTyping
