import StructuralTyping.Proofs.GradedMethods
import StructuralTyping.Proofs.NameFlow

/-! # Two checks of one part

One part of a program is checked in two states.  What must the states have in common for the checks
to come out the same?  The part looks up the symbols of its identifiers and the names in its
annotations, it reads and adds to the field survey, and it takes numbers for classes; of the type
table it reads only what it has recorded itself.  `Concordant` says that two states have this in
common, except for the names, of which `NameFlow` says which ones count.

This module has the relation and what the steps of a check do to it (`Proceeds`), and what the two
checks read back: annotations (`Scopes.resolve_congr_of_needs`) and the returns of a body
(`OwnReturn.result_congr`).  The two tables need not have the same length, and a return is read back
from the table by its id, so there must be room for the ids that were given out (`HasRoom`).
-/
namespace StructuralTyping

/-! ## Annotations and the names that they need -/

namespace Scopes

variable {s s' : Scopes}

/-- Where the names that an annotation needs stand for the same types, the annotation does. -/
theorem resolve_congr_of_needs {t : Node TypeExpr}
    (same : ∀ name ∈ (NameFlow.ofType t).needs, s.typeNamed? name = s'.typeNamed? name) :
    s.resolve t = s'.resolve t :=
  resolve_congr_of_references fun r hr => same r.name (List.mem_map_of_mem hr)

theorem typeParam?_bindTypeParams_congr (names : List (Node Ident)) {name : String}
    (same : s.typeParam? name = s'.typeParam? name) :
    (names.foldl (fun s n => s.bindTypeParam n.value.name .unknown) s).typeParam? name =
      (names.foldl (fun s n => s.bindTypeParam n.value.name .unknown) s').typeParam? name := by
  induction names generalizing s s' with
  | nil => exact same
  | cons n names ih =>
    refine ih ?_
    beta_reduce
    by_cases here : name = n.value.name
    · rw [← here, typeParam?_bindTypeParam, typeParam?_bindTypeParam]
    · rw [typeParam?_bindTypeParam_of_ne _ here, typeParam?_bindTypeParam_of_ne _ here, same]

end Scopes

/-- The names stand for the same types. -/
def Scopes.SameNames (names : List String) (s s' : Scopes) : Prop :=
  ∀ name ∈ names, s.typeNamed? name = s'.typeNamed? name

namespace Scopes.SameNames

variable {s s' : Scopes} {f g : NameFlow}

/-- What two parts need in the same way, the first does. -/
theorem left (h : SameNames (f.andThen g).needs s s') : SameNames f.needs s s' :=
  fun name hname => h name (List.mem_append_left _ hname)

/-- Names that the first of two parts does not define. -/
theorem right (h : SameNames (f.andThen g).needs s s') {name : String} (hname : name ∈ g.needs)
    (free : name ∉ f.defines) : s.typeNamed? name = s'.typeNamed? name := by
  refine h name (List.mem_append_right _ (List.mem_filter.mpr ⟨hname, ?_⟩))
  simpa using free

/-- Under type parameters it is enough to agree on the names that are none of them. -/
theorem bindTypeParams {typeParams : List (Node Ident)}
    (h : SameNames (f.within typeParams).needs s s') :
    SameNames f.needs
      (typeParams.foldl (fun s n => s.bindTypeParam n.value.name .unknown) s.push)
      (typeParams.foldl (fun s n => s.bindTypeParam n.value.name .unknown) s'.push) := by
  intro name hname
  refine typeNamed?_bindTypeParams_congr fun free => ?_
  refine h name (List.mem_filter.mpr ⟨hname, ?_⟩)
  simpa using free

end Scopes.SameNames

namespace Rule

open Scopes

variable {s s' : Scopes}

/-- A parameter has the same type wherever the names in its annotation mean the same. -/
theorem param_congr_of_needs {t : Option (Node TypeExpr)}
    (same : SameNames (NameFlow.ofOptionalType t).needs s s') : param s t = param s' t := by
  cases t with
  | none => rfl
  | some t => exact resolve_congr_of_needs same

theorem resolveOptional_congr_of_needs {t : Option (Node TypeExpr)}
    (same : SameNames (NameFlow.ofOptionalType t).needs s s') :
    s.resolveOptional t = s'.resolveOptional t := by
  cases t with
  | none => rfl
  | some t => rw [resolveOptional, resolveOptional, resolve_congr_of_needs same]

/-- So does a binding, whatever its initial value is. -/
theorem binding_congr_of_needs {t : Option (Node TypeExpr)}
    (same : SameNames (NameFlow.ofOptionalType t).needs s s') (init : Ty) (span : Span) :
    binding s t init span = binding s' t init span := by
  cases t with
  | none => rfl
  | some t => rw [binding, binding, resolve_congr_of_needs same]

/-- So does a declared field. -/
theorem field_congr_of_needs {t : Option (Node TypeExpr)}
    (same : SameNames (NameFlow.ofOptionalType t).needs s s') (init : Option (Node Expr))
    (initTy : Option Ty) : field s t init initTy = field s' t init initTy := by
  unfold field
  split
  · exact binding_congr_of_needs same _ _
  · cases t with
    | none => rfl
    | some t => exact resolve_congr_of_needs same

/-- An alias stands for the same type if the names apart from its own type parameters do. -/
theorem aliased_congr_of_needs {typeParams : List (Node Ident)} {t : Node TypeExpr}
    (same : SameNames ((NameFlow.ofType t).within typeParams).needs s s') :
    aliased s typeParams t = aliased s' typeParams t :=
  resolve_congr_of_needs same.bindTypeParams

theorem params_congr_of_needs {ps : List Param} (same : SameNames (NameFlow.params ps).needs s s') :
    params s ps = params s' ps := by
  induction ps with
  | nil => rfl
  | cons p ps ih =>
    have later : SameNames (NameFlow.params ps).needs s s' :=
      fun name hname => same.right hname (by simp [NameFlow.defines_ofOptionalType])
    rw [params, params, param_congr_of_needs same.left, ih later]

/-- A signature is the same if the names apart from its type parameters mean the same. -/
theorem signature_congr_of_needs {typeParams : List (Node Ident)} {ps : List Param}
    {returns : Option (Node TypeExpr)}
    (same : SameNames ((NameFlow.declared ps returns).within typeParams).needs s s') :
    signature s typeParams ps returns = signature s' typeParams ps returns := by
  have inner := same.bindTypeParams
  have result := resolveOptional_congr_of_needs (t := returns)
    fun name hname => inner.right hname (by simp [NameFlow.defines_params])
  rw [signature, signature, params_congr_of_needs inner.left, result]

end Rule

/-- The signatures of a class are the same where the names in them mean the same. -/
theorem Checker.memberSignatures_congr_of_needs {s s' : Scopes} {fields : List Field}
    {ms : List (Node Method)} (same : Scopes.SameNames (NameFlow.signatures ms).needs s s') :
    memberSignatures s fields ms = memberSignatures s' fields ms := by
  induction ms with
  | nil => rfl
  | cons n ms ih =>
    obtain ⟨span, ⟨name, kind, typeParams, ps, returns, body⟩, slot⟩ := n
    rw [memberSignatures, memberSignatures]
    by_cases constructor : kind = .constructor
    · have other : isMember fields ⟨name, kind, typeParams, ps, returns, body⟩ = false := by
        simp [isMember, constructor]
      rw [NameFlow.signatures, if_pos constructor] at same
      rw [if_neg (by simp [other]), if_neg (by simp [other]), ih same]
    · rw [NameFlow.signatures, if_neg constructor] at same
      have later : Scopes.SameNames (NameFlow.signatures ms).needs s s' :=
        fun name hname => same.right hname (by simp [NameFlow.within, NameFlow.defines_declared])
      rw [Rule.signature_congr_of_needs same.left, ih later]

namespace Checker

/-! ## Later states -/

/-- A state that a check has reached from an earlier one, defining no aliases but those in `A`. -/
structure Later (A : String → Prop) (st after : State) : Prop where
  framed : Framed A st after
  continues : Continues st after

/-- Every step of the checker leads to a later state, so every run of it does. -/
theorem later_stepClosed {A : String → Prop} : StepClosedFor A (Later A) where
  refl st := ⟨(framed_stepClosed _).refl st, continues_stepClosed.refl st⟩
  trans h₁ h₂ := ⟨h₁.framed.trans h₂.framed, h₁.continues.trans h₂.continues⟩
  record slot t st :=
    ⟨(framed_stepClosed _).record slot t st, continues_stepClosed.record slot t st⟩
  bind symbol t st := ⟨.bind symbol t st, continues_stepClosed.bind symbol t st⟩
  note e st noted := ⟨(framed_stepClosed _).note e st noted, continues_stepClosed.note e st noted⟩
  emit e st := ⟨(framed_stepClosed _).emit e st, continues_stepClosed.emit e st⟩
  defineAlias name t st defined :=
    ⟨.defineAlias defined t st, continues_stepClosed.defineAlias name t st trivial⟩
  noteAssignment receiver target t st :=
    ⟨(framed_stepClosed _).noteAssignment receiver target t st,
      continues_stepClosed.noteAssignment receiver target t st⟩
  scope names _ _ h :=
    ⟨(framed_stepClosed _).scope names h.framed, continues_stepClosed.scope names h.continues⟩
  classFields real h :=
    ⟨(framed_stepClosed _).classFields real h.framed,
      continues_stepClosed.classFields real h.continues⟩
  classSurvey real h₁ h₂ :=
    ⟨(framed_stepClosed _).classSurvey real h₁.framed h₂.framed,
      continues_stepClosed.classSurvey real h₁.continues h₂.continues⟩
  classMethods real h₁ h₂ h₃ :=
    ⟨(framed_stepClosed _).classMethods real h₁.framed h₂.framed h₃.framed,
      continues_stepClosed.classMethods real h₁.continues h₂.continues h₃.continues⟩

theorem Later.mono {A B : String → Prop} {st after : State} (h : Later A st after)
    (more : ∀ name, A name → B name) : Later B st after where
  framed :=
    { h.framed with others := fun name other => h.framed.others name (mt (more name) other) }
  continues := h.continues

/-- A check leaves the type parameters as they were. -/
theorem Framed.typeParam? {aliases : String → Prop} {st after : State}
    (framed : Framed aliases st after) (name : String) :
    after.scopes.typeParam? name = st.scopes.typeParam? name := by
  simp only [Scopes.typeParam?, Scopes.frames, List.findSome?_cons, framed.typeParams, framed.outer]

/-- A name that was not defined since stands for the type that it stood for. -/
theorem Framed.typeNamed?_of_other {aliases : String → Prop} {st after : State}
    (framed : Framed aliases st after) {name : String} (other : ¬aliases name) :
    after.scopes.typeNamed? name = st.scopes.typeNamed? name := by
  unfold Scopes.typeNamed?
  rw [framed.typeParam?, framed.others name other]

theorem State.record_nextClass (slot : Option TypeId) (t : Ty) (st : State) :
    (st.record slot t).2.nextClass = st.nextClass := by
  unfold State.record
  split <;> rfl

/-! ## States that have in common what a check asks for -/

/-- A name stands for the same alias, or for none, in both states. -/
def SameAlias (p q : State) (name : String) : Prop := p.scopes.alias? name = q.scopes.alias? name

/-- What two states have in common, apart from the aliases: the types of the symbols in `X`, the
type parameters, the survey, the numbers of classes, and the types that were recorded since the
tables were those in `base`. -/
structure Concordant (X : Symbol → Prop) (base : TypeTable × TypeTable) (p q : State) : Prop where
  symbols : ∀ s, X s → p.lookup (some s) = q.lookup (some s)
  typeParams : ∀ name, p.scopes.typeParam? name = q.scopes.typeParam? name
  survey : p.survey = q.survey
  nextClass : p.nextClass = q.nextClass
  recorded : ∃ types, p.table.entries.toList = base.1.entries.toList ++ types ∧
    q.table.entries.toList = base.2.entries.toList ++ types

/-- Both tables have room for the ids that were given out. -/
def HasRoom (p q : State) : Prop :=
  p.table.size ≤ TypeTable.capacity ∧ q.table.size ≤ TypeTable.capacity

section

variable {X : Symbol → Prop} {base : TypeTable × TypeTable} {p q p' q' : State}
  {A B : String → Prop}

/-- If there is room for the larger tables, there is for the smaller ones. -/
theorem HasRoom.of_extends (room : HasRoom p' q') (left : p'.table.Extends p.table)
    (right : q'.table.Extends q.table) : HasRoom p q :=
  ⟨Nat.le_trans left.size_le room.1, Nat.le_trans right.size_le room.2⟩

theorem HasRoom.earlier (room : HasRoom p' q') (left : Later A p p') (right : Later B q q') :
    HasRoom p q :=
  room.of_extends left.continues.table right.continues.table

namespace Concordant

/-- Concordant states are in the same pass. -/
theorem surveying (h : Concordant X base p q) : p.surveying = q.surveying := by
  unfold State.surveying
  rw [h.survey]

/-- Concordant states have found the same fields. -/
theorem surveyed (h : Concordant X base p q) : p.surveyed = q.surveyed := by
  unfold State.surveyed
  rw [h.survey]

theorem nextSelf (h : Concordant X base p q) : p.nextSelf = q.nextSelf := by
  rw [State.nextSelf, State.nextSelf, h.nextClass]

/-- A name that stands for the same alias stands for the same type. -/
theorem typeNamed?_of_alias (h : Concordant X base p q) {name : String}
    (same : SameAlias p q name) : p.scopes.typeNamed? name = q.scopes.typeNamed? name := by
  unfold Scopes.typeNamed?
  rw [h.typeParams name, same]

/-- A name keeps standing for the same type in both, if an alias of that name does. -/
theorem typeNamed?_later (h : Concordant X base p q) (left : Later A p p') (right : Later B q q')
    {name : String} (same : p.scopes.typeNamed? name = q.scopes.typeNamed? name)
    (keeps : SameAlias p q name → SameAlias p' q' name) :
    p'.scopes.typeNamed? name = q'.scopes.typeNamed? name := by
  unfold Scopes.typeNamed? at same ⊢
  rw [left.framed.typeParam?, right.framed.typeParam?, h.typeParams name]
  rw [h.typeParams name] at same
  cases keyword : Keyword.ofName? name with
  | some k => rfl
  | none =>
    rw [keyword] at same
    cases param : q.scopes.typeParam? name with
    | some t => rfl
    | none =>
      rw [param] at same
      exact keeps same

/-- Two steps after which the symbols still agree, and so do the survey and the table. -/
theorem of_later (h : Concordant X base p q) (left : Later A p p') (right : Later B q q')
    (symbols : ∀ s, X s → p'.lookup (some s) = q'.lookup (some s)) (survey : p'.survey = q'.survey)
    (nextClass : p'.nextClass = q'.nextClass)
    (recorded : ∃ types, p'.table.entries.toList = base.1.entries.toList ++ types ∧
      q'.table.entries.toList = base.2.entries.toList ++ types) :
    Concordant X base p' q' where
  symbols := symbols
  typeParams name := by
    rw [left.framed.typeParam?, right.framed.typeParam?]
    exact h.typeParams name
  survey := survey
  nextClass := nextClass
  recorded := recorded

/-- Fewer symbols are easier to agree on. -/
theorem mono {X' : Symbol → Prop} (h : Concordant X base p q) (fewer : ∀ s, X' s → X s) :
    Concordant X' base p q :=
  { h with symbols := fun s hs => h.symbols s (fewer s hs) }

end Concordant

/-! ## Single steps -/

/-- The two states, later on. -/
structure Proceeds (X : Symbol → Prop) (base : TypeTable × TypeTable) (p q p' q' : State) :
    Prop where
  left : Later (fun _ => True) p p'
  right : Later (fun _ => True) q q'
  states : Concordant X base p' q'
  aliases : ∀ name, SameAlias p q name → SameAlias p' q' name

namespace Proceeds

theorem refl (h : Concordant X base p q) : Proceeds X base p q p q :=
  ⟨later_stepClosed.refl p, later_stepClosed.refl q, h, fun _ same => same⟩

theorem trans {p'' q'' : State} (h₁ : Proceeds X base p q p' q')
    (h₂ : Proceeds X base p' q' p'' q'') : Proceeds X base p q p'' q'' where
  left := later_stepClosed.trans h₁.left h₂.left
  right := later_stepClosed.trans h₁.right h₂.right
  states := h₂.states
  aliases name same := h₂.aliases name (h₁.aliases name same)

/-- Names that mean the same keep doing so while both checks proceed. -/
theorem sameNames (h : Concordant X base p q) (steps : Proceeds X base p q p' q')
    {names : List String} (same : Scopes.SameNames names p.scopes q.scopes) :
    Scopes.SameNames names p'.scopes q'.scopes :=
  fun name hname => h.typeNamed?_later steps.left steps.right (same name hname) (steps.aliases name)

/-- Both checks bind a symbol to the same type. -/
theorem bind (h : Concordant X base p q) (symbol : Option Symbol) (t : Ty) :
    Proceeds X base p q (p.bind symbol t) (q.bind symbol t) := by
  have later (st : State) : Later (fun _ => True) st (st.bind symbol t) :=
    later_stepClosed.bind symbol t st
  refine ⟨later p, later q, h.of_later (later p) (later q) (fun s hs => ?_) ?_ ?_ ?_,
    fun name same => ?_⟩
  · cases symbol with
    | none => exact h.symbols s hs
    | some bound => rw [State.lookup_bind, State.lookup_bind, h.symbols s hs]
  · rw [State.bind_survey, State.bind_survey, h.survey]
  · cases symbol <;> exact h.nextClass
  · rw [State.bind_table, State.bind_table]
    exact h.recorded
  · rw [SameAlias, Scopes.alias?, Scopes.alias?, State.bind_aliases, State.bind_aliases]
    exact same

/-- Both tables grow by the same type, whatever the slots held. -/
theorem record (h : Concordant X base p q) (slot slot' : Option TypeId) (t : Ty) :
    Proceeds X base p q (p.record slot t).2 (q.record slot' t).2 := by
  have left : Later (fun _ => True) p (p.record slot t).2 := later_stepClosed.record slot t p
  have right : Later (fun _ => True) q (q.record slot' t).2 := later_stepClosed.record slot' t q
  have scopes := State.record_scopes slot t p
  have scopes' := State.record_scopes slot' t q
  refine ⟨left, right, h.of_later left right (fun s hs => ?_) ?_ ?_ ?_, fun name same => ?_⟩
  · rw [State.lookup_congr scopes, State.lookup_congr scopes', h.symbols s hs]
  · rw [State.record_survey, State.record_survey, h.survey]
  · rw [State.record_nextClass, State.record_nextClass, h.nextClass]
  · obtain ⟨types, hp, hq⟩ := h.recorded
    unfold State.record
    rw [h.surveying]
    split
    · exact ⟨types, hp, hq⟩
    · refine ⟨types ++ [t], ?_, ?_⟩
      · simp [TypeTable.add, hp]
      · simp [TypeTable.add, hq]
  · rw [SameAlias, scopes, scopes']
    exact same

/-- A name is bound and its type is recorded. -/
theorem bindName (h : Concordant X base p q) (n : Node Ident) (t : Ty) :
    Proceeds X base p q ((p.bind n.value.symbol t).recordName n t).2
      ((q.bind n.value.symbol t).recordName n t).2 := by
  have bound := bind h n.value.symbol t
  exact bound.trans (record bound.states n.ty n.ty t)

theorem note (h : Concordant X base p q) (e : Entry) (noted : Noted e) :
    Proceeds X base p q (p.note e) (q.note e) where
  left := later_stepClosed.note e p noted
  right := later_stepClosed.note e q noted
  states := ⟨h.symbols, h.typeParams, h.survey, h.nextClass, h.recorded⟩
  aliases _ same := same

theorem emit (h : Concordant X base p q) (e : Event) :
    Proceeds X base p q (p.emit e) (q.emit e) where
  left := later_stepClosed.emit e p
  right := later_stepClosed.emit e q
  states := by
    unfold State.emit
    rw [h.surveying]
    split
    · exact h
    · exact ⟨h.symbols, h.typeParams, h.survey, h.nextClass, h.recorded⟩
  aliases name same := by
    rw [SameAlias, State.emit_scopes, State.emit_scopes]
    exact same

/-- Both surveys take note of the same field. -/
theorem noteAssignment (h : Concordant X base p q) (receiver : Receiver) (target : Expr) (t : Ty) :
    Proceeds X base p q (p.noteAssignment receiver target t)
      (q.noteAssignment receiver target t) where
  left := later_stepClosed.noteAssignment receiver target t p
  right := later_stepClosed.noteAssignment receiver target t q
  states := by
    unfold State.noteAssignment
    rw [← h.survey]
    split
    · exact h
    · split
      · exact ⟨h.symbols, h.typeParams, rfl, h.nextClass, h.recorded⟩
      · exact h
  aliases name same := by
    rw [SameAlias, State.noteAssignment_scopes, State.noteAssignment_scopes]
    exact same

/-- Both checks give the target of an assignment the same type. -/
theorem rebind (h : Concordant X base p q) (receiver : Receiver) (target : Expr) (t : Ty) :
    Proceeds X base p q (p.rebind receiver target t) (q.rebind receiver target t) := by
  unfold State.rebind
  split
  · rename_i i
    have noted := note h (.rebound i.name t.widen) trivial
    exact noted.trans (bind noted.states (receiver.symbolOf i) t.widen)
  · exact refl h

/-- Both checks define the same alias, and so agree on its name from now on. -/
theorem defineAlias (h : Concordant X base p q) (name : String) (t : Ty) :
    Proceeds X base p q (p.defineAlias name t) (q.defineAlias name t) where
  left := later_stepClosed.defineAlias name t p trivial
  right := later_stepClosed.defineAlias name t q trivial
  states := ⟨h.symbols, h.typeParams, h.survey, h.nextClass, h.recorded⟩
  aliases other same := by
    show (p.scopes.defineAlias name t).alias? other = (q.scopes.defineAlias name t).alias? other
    by_cases here : other = name
    · rw [here, Scopes.alias?_defineAlias, Scopes.alias?_defineAlias]
    · rw [Scopes.alias?_defineAlias_of_ne here, Scopes.alias?_defineAlias_of_ne here]
      exact same

end Proceeds

/-! ## Scopes -/

/-- Agreement on an alias is a matter of the aliases alone. -/
theorem sameAlias_congr (left : p'.scopes.aliases = p.scopes.aliases)
    (right : q'.scopes.aliases = q.scopes.aliases) (name : String) :
    SameAlias p' q' name ↔ SameAlias p q name := by
  unfold SameAlias Scopes.alias?
  rw [left, right]

theorem State.pop_aliases (st : State) : st.pop.scopes.aliases = st.scopes.aliases := by
  show st.scopes.pop.aliases = _
  unfold Scopes.pop
  split <;> rfl

/-- A scope is opened, and may get type parameters. -/
theorem Concordant.opened (h : Concordant X base p q) (typeParams : List (Node Ident)) :
    Concordant X base (p.push.bindTypeParams typeParams) (q.push.bindTypeParams typeParams) where
  symbols s hs := by
    have same (st : State) :
        (st.push.bindTypeParams typeParams).lookup (some s) = st.lookup (some s) := by
      rw [State.lookup, Option.bind_some, State.bindTypeParams, Scopes.symbol?_bindTypeParams]
      rfl
    rw [same, same, h.symbols s hs]
  typeParams name := Scopes.typeParam?_bindTypeParams_congr typeParams (h.typeParams name)
  survey := h.survey
  nextClass := h.nextClass
  recorded := h.recorded

/-- A scope that may have got type parameters is closed. -/
theorem Concordant.closed {typeParams : List (Node Ident)} (h : Concordant X base p q)
    (left : Later A (p.push.bindTypeParams typeParams) p')
    (right : Later B (q.push.bindTypeParams typeParams) q') (inside : Concordant X base p' q') :
    Concordant X base p'.pop q'.pop := by
  have outer {aliases : String → Prop} {st after : State}
      (framed : Framed aliases (st.push.bindTypeParams typeParams) after) :
      after.scopes.outer = st.scopes.frames :=
    framed.outer.trans (Scopes.outer_bindTypeParams typeParams _)
  refine h.of_later (later_stepClosed.scope typeParams left)
    (later_stepClosed.scope typeParams right) (fun s hs => ?_) inside.survey inside.nextClass
    inside.recorded
  rw [State.lookup_pop (outer left.framed), State.lookup_pop (outer right.framed)]
  exact h.symbols s hs

/-! ## Classes -/

theorem State.typeNamed?_bind (symbol : Option Symbol) (t : Ty) (st : State) (name : String) :
    (st.bind symbol t).scopes.typeNamed? name = st.scopes.typeNamed? name := by
  cases symbol <;> rfl

theorem State.typeNamed?_beginMethods (self : Symbol) (name : Option (Node Ident))
    (fields signatures : List Field) (st : State) (other : String) :
    (st.beginMethods self name fields signatures).scopes.typeNamed? other =
      st.scopes.typeNamed? other :=
  State.typeNamed?_bind _ _ _ other

theorem State.beginMethods_aliases (self : Symbol) (name : Option (Node Ident))
    (fields signatures : List Field) (st : State) :
    (st.beginMethods self name fields signatures).scopes.aliases = st.scopes.aliases :=
  State.bind_aliases _ _ _

namespace Concordant

/-- Both checks give the class the same number. -/
theorem enterClass (h : Concordant X base p q) (ms : List (Node Method)) :
    Concordant X base (p.enterClass ms).push (q.enterClass ms).push := by
  have entered : Concordant X base (p.enterClass ms) (q.enterClass ms) := by
    refine ⟨fun s hs => ?_, fun name => ?_, rfl, ?_, ?_⟩
    · rw [State.lookup_congr (State.enterClass_scopes ms p),
        State.lookup_congr (State.enterClass_scopes ms q), h.symbols s hs]
    · rw [State.enterClass_scopes, State.enterClass_scopes, h.typeParams]
    · rw [State.enterClass_nextClass, State.enterClass_nextClass, h.nextClass]
    · rw [State.enterClass_table, State.enterClass_table]
      exact h.recorded
  exact entered.opened []

/-- From now on the instance has the same type too. -/
theorem beginSurvey (h : Concordant X base p q) (self : Symbol) (declared : List Field) :
    Concordant (fun s => X s ∨ s = self) base (p.beginSurvey self declared)
      (q.beginSurvey self declared) where
  symbols s hs := by
    show (p.bind (some self) .unknown).lookup (some s) =
      (q.bind (some self) .unknown).lookup (some s)
    rw [State.lookup_bind, State.lookup_bind]
    split
    · rfl
    · rename_i other
      exact h.symbols s (hs.resolve_right other)
  typeParams := (Proceeds.bind h (some self) .unknown).states.typeParams
  survey := rfl
  nextClass := h.nextClass
  recorded := h.recorded

theorem endSurvey (h : Concordant X base p q) : Concordant X base p.endSurvey q.endSurvey :=
  ⟨h.symbols, h.typeParams, rfl, h.nextClass, h.recorded⟩

/-- Both checks begin the methods of a class with the same instance. -/
theorem beginMethods (h : Concordant X base p q) (self : Symbol) (name : Option (Node Ident))
    (fields signatures : List Field) :
    Concordant X base (p.beginMethods self name fields signatures)
      (q.beginMethods self name fields signatures) := by
  have noted := Proceeds.note h (.selfTyped self (.object (fields ++ signatures))) trivial
  have fixed := Proceeds.bind noted.states (some self) (.object (fields ++ signatures))
  have bound := Proceeds.bind fixed.states (name.bind (·.value.symbol))
    (.object (fields ++ signatures))
  exact ⟨bound.states.symbols, bound.states.typeParams, rfl, bound.states.nextClass,
    bound.states.recorded⟩

end Concordant

/-- Two classes are left. -/
theorem Concordant.leaveClass (h : Concordant X base p q)
    (left : Enclosed A p p') (right : Enclosed B q q')
    (inside : Concordant X base p' q') :
    Concordant X base { p'.pop with survey := p.survey } { q'.pop with survey := q.survey } where
  symbols s hs := by
    show p'.pop.lookup (some s) = q'.pop.lookup (some s)
    rw [State.lookup_pop left.outer, State.lookup_pop right.outer]
    exact h.symbols s hs
  typeParams name := by
    rw [left.leaveClass.typeParam?, right.leaveClass.typeParam?]
    exact h.typeParams name
  survey := h.survey
  nextClass := inside.nextClass
  recorded := inside.recorded

end

end Checker

/-! ## What is read back from the tables -/

namespace OwnReturn

/-- What the result type of a body takes from a return. -/
def seen (table : TypeTable) (site : OwnReturn) : Span × Bool × Except Failure Ty :=
  (site.span, site.value.isSome, site.ty table)

variable {table table' : TypeTable}

/-- Whether a `return` fits depends on what is read of it. -/
theorem fits_congr {site site' : OwnReturn} (same : site.seen table = site'.seen table')
    (declared : Ty) : site.fits table declared = site'.fits table' declared := by
  obtain ⟨span, same⟩ := Prod.mk.inj same
  obtain ⟨valued, found⟩ := Prod.mk.inj same
  unfold fits
  rw [span, valued, found]

/-- The types of returns are the same if the same is read of them. -/
theorem mapM_ty_congr {sites sites' : List OwnReturn}
    (same : sites.map (seen table) = sites'.map (seen table')) :
    sites.mapM (ty table) = sites'.mapM (ty table') := by
  induction sites generalizing sites' with
  | nil =>
    cases List.map_eq_nil_iff.mp same.symm
    rfl
  | cons site sites ih =>
    obtain ⟨site', rest, rfl, here, later⟩ := List.map_eq_cons_iff.mp same.symm
    have found : site.ty table = site'.ty table' := (congrArg (·.2.2) here).symm
    rw [List.mapM_cons, List.mapM_cons, ih later.symm, found]

/-- Returns fit a declared type if those do of which the same is read. -/
theorem forM_fits_congr {sites sites' : List OwnReturn}
    (same : sites.map (seen table) = sites'.map (seen table')) (declared : Ty) :
    sites.forM (fits table declared) = sites'.forM (fits table' declared) := by
  induction sites generalizing sites' with
  | nil =>
    cases List.map_eq_nil_iff.mp same.symm
    rfl
  | cons site sites ih =>
    obtain ⟨site', rest, rfl, here, later⟩ := List.map_eq_cons_iff.mp same.symm
    show (site.fits table declared).bind (fun _ => sites.forM (fits table declared)) =
      (site'.fits table' declared).bind fun _ => rest.forM (fits table' declared)
    rw [ih later.symm, fits_congr here.symm]

/-- Returns that look the same settle the same result type. -/
theorem result_congr {sites sites' : List OwnReturn}
    (same : sites.map (seen table) = sites'.map (seen table')) (declared : Option Ty) :
    Rule.result table declared sites = Rule.result table' declared sites' := by
  cases declared with
  | none => rw [Rule.result, Rule.result, mapM_ty_congr same]
  | some d => rw [Rule.result, Rule.result, forM_fits_congr same]

end OwnReturn

/-- Whatever is recorded later, the returns among two lists of expressions have the same types. -/
def ReadAlike (table table' : TypeTable) (es es' : List (Node Expr)) : Prop :=
  ∀ later later' : TypeTable, later.Extends table → later'.Extends table' →
    later.size ≤ TypeTable.capacity → later'.size ≤ TypeTable.capacity →
    (es.filterMap OwnReturn.of?).map (·.seen later) =
      (es'.filterMap OwnReturn.of?).map (·.seen later')

namespace ReadAlike

variable {table table' : TypeTable} {es es' fs fs' : List (Node Expr)}

theorem append (h : ReadAlike table table' es es') (h' : ReadAlike table table' fs fs') :
    ReadAlike table table' (es ++ fs) (es' ++ fs') := by
  intro T T' hT hT' room room'
  rw [List.filterMap_append, List.filterMap_append, List.map_append, List.map_append,
    h T T' hT hT' room room', h' T T' hT hT' room room']

/-- What is read of returns does not change while the tables grow. -/
theorem later {grown grown' : TypeTable} (h : ReadAlike table table' es es')
    (left : grown.Extends table) (right : grown'.Extends table') : ReadAlike grown grown' es es' :=
  fun T T' hT hT' => h T T' (hT.trans left) (hT'.trans right)

/-- Only the returns count. -/
theorem congr (h : ReadAlike table table' es es')
    (same : es.filterMap OwnReturn.of? = fs.filterMap OwnReturn.of?)
    (same' : es'.filterMap OwnReturn.of? = fs'.filterMap OwnReturn.of?) :
    ReadAlike table table' fs fs' := by
  intro T T' hT hT' room room'
  rw [← same, ← same']
  exact h T T' hT hT' room room'

theorem of_nil (none : es.filterMap OwnReturn.of? = []) (none' : es'.filterMap OwnReturn.of? = []) :
    ReadAlike table table' es es' := by
  intro T T' _ _ _ _
  rw [none, none']
  rfl

end ReadAlike

end StructuralTyping
