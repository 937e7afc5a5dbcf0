import StructuralTyping.Proofs.CertifiedChecks
import StructuralTyping.Proofs.LinkedTrees
import StructuralTyping.Proofs.Noninterference
import StructuralTyping.Proofs.SurveySilence

/-! # Events and links of a check without diagnostics

A check that finds no fault emits the events of the parts of the program, in their order and each
once, and leaves the linked program (`Session.trace_exact`).  Methods are gone through twice, but
the survey is silent, so a class is numbered where the second pass meets it.

`Traces` says this of the check of one part: if it succeeds, the events of the part were added and
the classes in it took their numbers, and the part came out linked (`Agrees`).  References to `self`
get their symbol only at the end of the class that they belong to, so `Agrees` compares a part after
its own references are linked to the receiver.
-/
namespace StructuralTyping

namespace Checker

open Relabeling (linking linking_onlyLinks untyped)
open Parts (nextClass)

variable {τ υ ω α β : Type}

/-! ## Trees -/

/-- With its references to `self` linked to the receiver, the part is `linked`, type ids apart. -/
def Agrees (relabel : Relabeling → Bool → τ → τ) (receiver : Receiver) (linked t : τ) : Prop :=
  relabel untyped false (relabel (linking receiver) receiver.isSome t) =
    relabel untyped false linked

namespace Agrees

variable (receiver : Receiver)

/-- An identifier is linked as the receiver says. -/
theorem ident (i : Ident) :
    Agrees Relabeling.inside receiver (.ident (Linked.ident receiver i)) (.ident i) := by
  have same : (linking receiver).ident receiver.isSome i = Linked.ident receiver i := by
    cases receiver with
    | none => rfl
    | some self => by_cases h : i.name = SelfReference.name <;>
        simp [Relabeling.ident, Linked.ident, linking, h]
  exact congrArg (fun i => untyped.inside false (.ident i)) same

/-- Annotations have nothing to link. -/
theorem typeExpr (t : Node TypeExpr) : Agrees (fun ρ _ => ρ.typeExpr) receiver t t :=
  congrArg untyped.typeExpr (Relabeling.typeExpr_eq (linking_onlyLinks receiver) t)

theorem optionalTypeExpr (t : Option (Node TypeExpr)) :
    Agrees (fun ρ _ => ρ.optionalTypeExpr) receiver t t :=
  congrArg untyped.optionalTypeExpr (Relabeling.optionalTypeExpr_eq (linking_onlyLinks receiver) t)

theorem names (ns : List (Node Ident)) : Agrees (fun ρ _ => ρ.names) receiver ns ns :=
  congrArg untyped.names (Relabeling.names_eq (linking_onlyLinks receiver) ns)

/-- Functions have no receiver, so it does not matter which one is given. -/
theorem function {linked f : Function} (h : Agrees (fun ρ _ => ρ.function) none linked f) :
    Agrees Relabeling.inside receiver (.function linked) (.function f) := by
  have same : (linking receiver).function f = (linking none).function f := by
    rw [Relabeling.function_eq (linking_onlyLinks _), Relabeling.function_eq (linking_onlyLinks _)]
  have h : untyped.function ((linking none).function f) = untyped.function linked := h
  rw [← same] at h
  exact congrArg Expr.function h

/-- The references of a class are its own affair, whatever receiver there is outside. -/
theorem classDef {linked c : Class} (h : Agrees (fun ρ _ => ρ.classDef) none linked c) :
    Agrees Relabeling.inside receiver (.classDef linked) (.classDef c) := by
  have same : (linking receiver).classDef c = (linking none).classDef c := by
    rw [Relabeling.classDef_eq (linking_onlyLinks _), Relabeling.classDef_eq (linking_onlyLinks _)]
  have h : untyped.classDef ((linking none).classDef c) = untyped.classDef linked := h
  rw [← same] at h
  exact congrArg Expr.classDef h

/-- Linking the methods to the instance makes a class of linked methods. -/
theorem ofMembers {name name' : Option (Node Ident)} {fields fields' : List FieldDecl}
    {ms ms' : List (Node Method)} {self : Symbol}
    (hname : Agrees (fun ρ _ => ρ.optionalName) none name name')
    (hfields : Agrees (fun ρ _ => ρ.fieldDecls) none fields fields')
    (hmethods : Agrees Relabeling.methods (some self) ms ms') :
    Agrees (fun ρ _ => ρ.classDef) none ⟨name, fields, ms⟩
      ⟨name', fields', SelfReference.link self ms'⟩ := by
  have linked : (linking none).methods false (SelfReference.link self ms') =
      (linking (some self)).methods true ms' := by
    rw [Relabeling.methods_eq (linking_onlyLinks none), SelfReference.link_eq]
  have methods : untyped.methods false ((linking none).methods false
      (SelfReference.link self ms')) = untyped.methods false ms := by
    rw [linked]
    exact hmethods
  exact (congr (congrArg₂ Class.mk hname hfields) methods :)

end Agrees

/-! ## States -/

/-- A step that emits no event and gives no class a number. -/
structure Still (st later : State) : Prop where
  surveying : later.surveying = st.surveying
  nextClass : later.nextClass = st.nextClass
  events : later.events = st.events

namespace State

theorem events_of_journal {st later : State} (h : later.journal = st.journal) :
    later.events = st.events :=
  congrArg (fun journal : Array Entry => journal.toList.filterMap Entry.event?) h

/-- A note adds its event, if it is one. -/
theorem events_note (e : Entry) (st : State) :
    (st.note e).events = st.events ++ e.event?.toList := by
  unfold events note
  rw [Array.toList_push, List.filterMap_append]
  cases hevent : e.event? <;> simp [hevent]

/-- Outside of a survey events are written down. -/
theorem emit_of_real {st : State} (real : st.surveying = false) (e : Event) :
    st.emit e = st.note (.event e) := by
  rw [emit, real]
  rfl

end State

namespace Still

variable {st : State}

theorem trans {a b c : State} (h₁ : Still a b) (h₂ : Still b c) : Still a c :=
  ⟨h₂.surveying.trans h₁.surveying, h₂.nextClass.trans h₁.nextClass, h₂.events.trans h₁.events⟩

/-- Binding a symbol is no event. -/
theorem bind (symbol : Option Symbol) (t : Ty) : Still st (st.bind symbol t) :=
  ⟨State.bind_surveying symbol t st, State.bind_nextClass symbol t st,
    State.events_of_journal (State.bind_journal symbol t st)⟩

/-- What a check notes on the way is no event. -/
theorem note {e : Entry} (he : Noted e) : Still st (st.note e) := by
  refine ⟨rfl, rfl, ?_⟩
  rw [State.events_note, he.event?]
  exact List.append_nil _

/-- Records are no events. -/
theorem record (slot : Option TypeId) (t : Ty) : Still st (st.record slot t).2 := by
  unfold State.record
  split <;> exact ⟨rfl, rfl, rfl⟩

/-- Assignments are no events. -/
theorem assigned (receiver : Receiver) (target : Expr) (t : Ty) :
    Still st ((st.noteAssignment receiver target t).rebind receiver target t) := by
  have noted : Still st (st.noteAssignment receiver target t) :=
    ⟨State.noteAssignment_surveying receiver target t st,
      State.noteAssignment_nextClass receiver target t st,
      State.events_of_journal (State.noteAssignment_journal receiver target t st)⟩
  unfold State.rebind
  split
  · rename_i i
    exact noted.trans ((note (e := .rebound i.name t.widen) trivial).trans (bind _ _))
  · exact noted

theorem announceFunction (name : Option (Node Ident)) (types : List Ty) (declared : Option Ty) :
    Still st (Checker.announceFunction name types declared st) := by
  cases name with
  | none => exact ⟨rfl, rfl, rfl⟩
  | some n => exact bind _ _

/-- Outside of a survey the second pass over methods begins without an event. -/
theorem beginMethods (self : Symbol) (name : Option (Node Ident)) (found signatures : List Field)
    (real : st.surveying = false) : Still st (st.beginMethods self name found signatures) := by
  have noted : Still st (st.note (.selfTyped self (.object (found ++ signatures)))) := note trivial
  have bound := (noted.trans (bind (some self) (.object (found ++ signatures)))).trans
    (bind (name.bind (·.value.symbol)) (.object (found ++ signatures)))
  exact ⟨real.symm, bound.nextClass, bound.events⟩

end Still

/-- Nothing is surveyed, and the next class gets the number `k`. -/
structure Ready (k : Nat) (st : State) : Prop where
  real : st.surveying = false
  nextClass : st.nextClass = UInt32.ofNat k

/-- A step without events keeps the number of the next class. -/
theorem Ready.of_still {k : Nat} {st later : State} (ready : Ready k st) (still : Still st later) :
    Ready k later :=
  ⟨still.surveying.trans ready.real, still.nextClass.trans ready.nextClass⟩

theorem Ready.push {k : Nat} {st : State} (ready : Ready k st) : Ready k st.push :=
  ⟨ready.real, ready.nextClass⟩

/-- From `st`, where the next class gets the number `k`, the events of the parts were emitted and
their classes numbered. -/
structure Traced (parts : List Part) (k : Nat) (st later : State) : Prop where
  ready : Ready (nextClass k parts) later
  events : later.events = st.events ++ Parts.events k parts

namespace Traced

variable {p : Part} {parts parts' : List Part} {k : Nat} {a b c : State}

theorem refl (ready : Ready k a) : Traced [] k a a := ⟨ready, (List.append_nil _).symm⟩

/-- Parts in a row; the numbers of the second go on where the first stopped. -/
theorem trans (h₁ : Traced parts k a b) (h₂ : Traced parts' (nextClass k parts) b c) :
    Traced (parts ++ parts') k a c := by
  have counted : nextClass k (parts ++ parts') = nextClass (nextClass k parts) parts' :=
    Parts.nextClass_append k parts parts'
  refine ⟨counted ▸ h₂.ready, ?_⟩
  rw [h₂.events, h₁.events, Parts.events_append, List.append_assoc]

/-- A step without events may come before. -/
theorem after (still : Still a b) (h : Traced parts k b c) : Traced parts k a c :=
  ⟨h.ready, still.events ▸ h.events⟩

/-- A step without events may come after. -/
theorem andStill (h : Traced parts k a b) (still : Still b c) : Traced parts k a c :=
  ⟨h.ready.of_still still, still.events.trans h.events⟩

/-- A binding form was entered. -/
theorem binding {span : Span} {kind : BindingKind} {bs : List Binding} {body : List (Node Stmt)}
    {slot : Option TypeId} (ready : Ready k a) :
    Traced [.stmt ⟨span, .binding kind bs body, slot⟩] k a
      (a.emit (.bindings span kind (bs.map fun b => b.name.value.name))) := by
  rw [State.emit_of_real ready.real]
  exact ⟨⟨ready.real, ready.nextClass⟩, State.events_note _ a⟩

/-- A class was entered: it took its number and reported the references to its instance. -/
theorem enterClass {span : Span} {c : Class} {slot : Option TypeId} (ready : Ready k a) :
    Traced [.expr ⟨span, .classDef c, slot⟩] k a (a.enterClass c.methods) := by
  have self : a.nextSelf = .ofClass k := congrArg Symbol.classSelf ready.nextClass
  have events : (a.enterClass c.methods).events =
      a.events ++ (SelfReference.spans a.nextSelf c.methods).map
        (Event.selfReference · a.nextSelf) := by
    rw [State.enterClass_eq, if_neg (Bool.eq_false_iff.mp ready.real)]
    simp [State.events, Function.comp_def, Entry.event?]
  refine ⟨⟨rfl, ?_⟩, ?_⟩
  · calc (a.enterClass c.methods).nextClass
        = a.nextClass + 1 := State.enterClass_nextClass c.methods a
      _ = UInt32.ofNat (k + 1) := by rw [ready.nextClass, UInt32.ofNat_add]; rfl
  · calc (a.enterClass c.methods).events
        = a.events ++ (SelfReference.spans a.nextSelf c.methods).map
            (Event.selfReference · a.nextSelf) := events
      _ = _ := by rw [SelfReference.spans_eq, self]; simp [Parts.events, Part.events]

end Traced

/-! ## Checks -/

/-- If the check succeeds, it traced the parts, and what came of the tree satisfies `P`. -/
def Traces (parts : List Part) (k : Nat) (st : State) (P : τ → Prop) (e : Checked τ α) : Prop :=
  ∀ a, e.result = .ok a → Traced parts k st e.state ∧ P e.tree

namespace Traces

variable {p : Part} {parts parts' : List Part} {k : Nat} {st : State} {P : τ → Prop} {Q : υ → Prop}
  {W : ω → Prop} {e : Checked τ α}

/-- A step that changes nothing traces no parts. -/
theorem succeed {a : α} {t : τ} (ready : Ready k st) (h : P t) :
    Traces [] k st P (.succeed a t st) :=
  fun _ _ => ⟨.refl ready, h⟩

/-- Only successful checks are traced. -/
theorem fail {f : Failure} {t : τ} {later : State} :
    Traces parts k st P (.fail f t later : Checked τ α) := by
  intro a h
  cases h

theorem concludeWith (h : Traces parts k st P e) (f : α → State → Except Failure β) :
    Traces parts k st P (e.concludeWith f) := by
  intro b hb
  obtain ⟨a, ha, -⟩ := exists_of_bind_eq_ok hb
  exact h a ha

theorem conclude (h : Traces parts k st P e) (f : α → Except Failure β) :
    Traces parts k st P (e.conclude f) :=
  h.concludeWith fun a _ => f a

theorem rebuild (h : Traces parts k st P e) {build : τ → ω} (hW : ∀ t, P t → W (build t)) :
    Traces parts k st W (e.rebuild build) :=
  fun a ha => ⟨(h a ha).1, hW _ (h a ha).2⟩

/-- Two checks in a row trace their parts in a row. -/
theorem andThen {rest : υ} {next : α → State → Checked υ β} {build : τ → υ → ω}
    (h₁ : Traces parts k st P e)
    (h₂ : ∀ a st, Ready (nextClass k parts) st →
      Traces parts' (nextClass k parts) st Q (next a st))
    (hW : ∀ t u, P t → Q u → W (build t u)) :
    Traces (parts ++ parts') k st W (e.andThen rest next build) := by
  intro b hb
  obtain ⟨a, ha, hb, whole⟩ := Edit.exists_of_andThen_ok hb
  obtain ⟨traced₁, tree₁⟩ := h₁ a ha
  obtain ⟨traced₂, tree₂⟩ := h₂ a e.state traced₁.ready b hb
  rw [whole]
  exact ⟨traced₁.trans traced₂, hW _ _ tree₁ tree₂⟩

/-- Two parts in a row. -/
theorem andPair {rest : υ} {next : α → State → Checked υ β} (h₁ : Traces parts k st P e)
    (h₂ : ∀ a st, Ready (nextClass k parts) st →
      Traces parts' (nextClass k parts) st Q (next a st)) :
    Traces (parts ++ parts') k st (fun p => P p.1 ∧ Q p.2) (e.andThen rest next Prod.mk) :=
  h₁.andThen h₂ fun _ _ => And.intro

/-- A part with a name behind it. -/
theorem andName {rest : υ} {next : α → State → Checked υ β} {build : τ → υ → ω}
    (h₁ : Traces parts k st P e)
    (h₂ : ∀ a st, Ready (nextClass k parts) st → Traces [] (nextClass k parts) st Q (next a st))
    (hW : ∀ t u, P t → Q u → W (build t u)) :
    Traces parts k st W (e.andThen rest next build) := by
  have h : Traces (parts ++ []) k st W (e.andThen rest next build) := h₁.andThen h₂ hW
  rwa [List.append_nil] at h

/-- A last step that emits nothing and leaves the tree alone. -/
theorem whenDone {next : α → τ → State → Checked τ β} (h : Traces parts k st P e)
    (still : ∀ a b, (next a e.tree e.state).result = .ok b →
      (next a e.tree e.state).tree = e.tree ∧ Still e.state (next a e.tree e.state).state) :
    Traces parts k st P (e.whenDone next) := by
  intro b hb
  unfold Edit.whenDone at hb ⊢
  cases hr : e.result with
  | error f => rw [hr] at hb; cases hb
  | ok a =>
    rw [hr] at hb
    obtain ⟨traced, tree⟩ := h a hr
    obtain ⟨same, quiet⟩ := still a b hb
    exact ⟨traced.andStill quiet, same.symm ▸ tree⟩

/-- Scopes are no events. -/
theorem inScope {work : State → Checked τ α} (h : Traces parts k st.push P (work st.push)) :
    Traces parts k st P (Checker.inScope work st) :=
  fun a ha => ⟨⟨⟨(h a ha).1.ready.real, (h a ha).1.ready.nextClass⟩, (h a ha).1.events⟩, (h a ha).2⟩

/-- Leaving a class brings back the survey around it. -/
theorem leaveClass {st₁ : State} (real : st.surveying = false) (h : Traces parts k st₁ P e) :
    Traces parts k st₁ P (e.mapState fun after => { after with survey := st.survey }) :=
  fun a ha => ⟨⟨⟨real, (h a ha).1.ready.nextClass⟩, (h a ha).1.events⟩, (h a ha).2⟩

/-- A record is no event, and the slot it fills is not compared. -/
theorem recorded {W : Node τ → Prop} {e : Checked τ Ty} {span : Span} {slot : Option TypeId}
    (h : Traces parts k st P e) (hW : ∀ t slot, P t → W ⟨span, t, slot⟩) :
    Traces parts k st W (Checker.recorded span slot e) := by
  intro u hu
  unfold Checker.recorded at hu ⊢
  cases hr : e.result with
  | error f => rw [hr] at hu; cases hu
  | ok t =>
    obtain ⟨traced, tree⟩ := h t hr
    exact ⟨traced.andStill (.record slot t), hW _ _ tree⟩

theorem after {st₁ : State} (still : Still st st₁) (h : Traces parts k st₁ P e) :
    Traces parts k st P e :=
  fun a ha => ⟨(h a ha).1.after still, (h a ha).2⟩

/-- A part was entered whose beginning was traced. -/
theorem entered {st₁ : State} (entry : Traced [p] k st st₁)
    (h : Traces parts (nextClass k [p]) st₁ P e) : Traces (p :: parts) k st P e :=
  fun a ha => ⟨entry.trans (h a ha).1, (h a ha).2⟩

/-- A part without events at its beginning was entered. -/
theorem within (p : Part) (h : Traces parts k st P e) (silent : p.events k = [] := by rfl)
    (number : nextClass k [p] = k := by rfl) : Traces (p :: parts) k st P e := by
  intro a ha
  obtain ⟨traced, tree⟩ := h a ha
  have counted : nextClass k (p :: parts) = nextClass k parts := by
    rw [← List.singleton_append, Parts.nextClass_append, number]
  refine ⟨⟨counted ▸ traced.ready, ?_⟩, tree⟩
  rw [Parts.events, silent, number, List.nil_append]
  exact traced.events

/-- A name is bound and recorded before the rest of the part is checked. -/
theorem afterName {name : Node Ident} {t : Ty} (tail : State → Checked υ β)
    (build : Node Ident → υ → ω) (ready : Ready k st)
    (h : ∀ st, Ready k st → Traces parts k st Q (tail st))
    (hW : ∀ slot u, Q u → W (build ⟨name.span, name.value, slot⟩ u)) :
    Traces parts k st W
      ((tail (st.recordName name t).2).rebuild (build (st.recordName name t).1)) := by
  have still : Still st (st.recordName name t).2 := .record name.ty t
  exact after still ((h _ (ready.of_still still)).rebuild fun u => hW _ u)

theorem named (receiver : Receiver) (name : Option (Node Ident)) (t : Ty) (ready : Ready k st) :
    Traces [] k st (Agrees (fun ρ _ => ρ.optionalName) receiver name)
      (Checker.named name t st) := by
  cases name with
  | none => exact succeed ready rfl
  | some n =>
    have still : Still st (st.bind n.value.symbol t) := .bind _ _
    have bound : Ready k (st.bind n.value.symbol t) := ready.of_still still
    exact after still <| afterName (fun st => (Edit.succeed t () st : Checked Unit Ty))
      (fun n _ => some n) bound (fun _ ready => succeed (P := fun _ => True) ready trivial)
      fun _ _ _ => rfl

/-- Parameters trace nothing, and only their slots change. -/
theorem checkParams (receiver : Receiver) (params : List Param) (ready : Ready k st) :
    Traces [] k st (Agrees (fun ρ _ => ρ.params) receiver params)
      (Checker.checkParams params st) := by
  induction params generalizing st with
  | nil => exact succeed ready rfl
  | cons p rest ih =>
    obtain ⟨name, declaredAs⟩ := p
    unfold Checker.checkParams
    split
    · exact fail
    · rename_i t _
      have still : Still st (st.bind name.value.symbol t) := .bind _ _
      refine after still <| afterName
        (fun st => (Checker.checkParams rest st).conclude fun ts => .ok (t :: ts))
        (fun n rest => Param.mk n declaredAs :: rest) (ready.of_still still)
        (fun _ ready => (ih ready).conclude _) fun slot rest' hrest => ?_
      exact congrArg₂ List.cons
        (congrArg (Param.mk _) (Agrees.optionalTypeExpr receiver declaredAs)) hrest

/-- Parameters and body of a function or method. -/
theorem checkCallable (receiver : Receiver) {typeParams : List (Node Ident)} {params : List Param}
    {returns : Option (Node TypeExpr)} {body : List (Node Stmt)}
    {announce : List Ty → Option Ty → State → State}
    {checkBody : State → Checked (List (Node Stmt)) Ty} {P : List (Node Stmt) → Prop}
    (hannounce : ∀ types declared st, Still st (announce types declared st))
    (hbody : ∀ st, Ready k st → Traces (Parts.stmts body) k st P (checkBody st))
    (ready : Ready k st) :
    Traces (Parts.stmts body) k st
      (fun p => Agrees (fun ρ _ => ρ.params) receiver params p.1 ∧ P p.2)
      (Checker.checkCallable typeParams params returns body announce checkBody st) := by
  have opened : Still st.push (st.push.bindTypeParams typeParams) := ⟨rfl, rfl, rfl⟩
  have inside : Ready k (st.push.bindTypeParams typeParams) := ⟨ready.real, ready.nextClass⟩
  refine inScope (after opened ((checkParams receiver params inside).andThen (Q := P)
    (fun types st ready => ?_) fun _ _ hparams hbody => ⟨hparams, hbody⟩))
  split
  · exact fail
  · rename_i declared _
    have announced := hannounce types declared st
    refine whenDone (after announced (hbody _ (ready.of_still announced))) fun _ _ _ => ?_
    exact ⟨rfl, rfl, rfl, rfl⟩

/-- The methods of a class: the survey leaves nothing behind, so the second pass traces them. -/
theorem checkInstance (self : Symbol) (name : Option (Node Ident)) (declared : List Field)
    {ms : List (Node Method)} {P : List (Node Method) → Prop}
    (hmethods : ∀ found st, Ready k st →
      Traces (Parts.methods ms) k st P (checkMethods self found ms st))
    (ready : Ready k st) :
    Traces (Parts.methods ms) k st P (Checker.checkInstance self name declared ms st) := by
  have hushed : Hushed (st.beginSurvey self (Field.merge declared))
      (surveyMethods self ms (st.beginSurvey self (Field.merge declared))) :=
    hushed_stepClosed.surveyMethods self ms _ rfl
  have surveyed : Still st
      (surveyMethods self ms (st.beginSurvey self (Field.merge declared))).endSurvey :=
    ⟨ready.real.symm, hushed.nextClass, hushed.events⟩
  unfold Checker.checkInstance
  dsimp only
  split
  · exact fail
  · rename_i signatures _
    refine whenDone (P := P) ?_ fun _ _ _ => ⟨rfl, rfl, rfl, rfl⟩
    have begun (found : List Field) := surveyed.trans
      (.beginMethods self name found signatures (surveyed.surveying.trans ready.real))
    exact after (begun _) (hmethods _ _ (ready.of_still (begun _)))

/-- Fields are traced before methods; the survey in between traces nothing. -/
theorem checkMembers {self : Symbol} (name : Option (Node Ident)) {fields : List FieldDecl}
    {ms : List (Node Method)} {P : List FieldDecl → Prop} {Q : List (Node Method) → Prop}
    (hfields : Traces (Parts.fieldDecls fields) k st P (checkFields fields st))
    (hmethods : ∀ found st, Ready (nextClass k (Parts.fieldDecls fields)) st →
      Traces (Parts.methods ms) (nextClass k (Parts.fieldDecls fields)) st Q
        (checkMethods self found ms st)) :
    Traces (Parts.fieldDecls fields ++ Parts.methods ms) k st (fun p => P p.1 ∧ Q p.2)
      (Checker.checkMembers self name fields ms st) :=
  hfields.andPair fun declared _ ready => checkInstance self name declared hmethods ready

mutual

/-- A check for real leaves the events of its parts, and a tree linked by its class numbers. -/
theorem checkExpr (receiver : Receiver) : ∀ (n : Node Expr) (k : Nat) (st : State), Ready k st →
    Traces (Parts.node n) k st (Agrees Relabeling.node receiver (Linked.node receiver k n))
      (Checker.checkExpr receiver n st)
  | ⟨span, e, slot⟩, k, st, ready =>
    (checkForm receiver span slot e k st ready).recorded fun _ _ h =>
      congrArg (Node.mk span · none) h

theorem checkForm (receiver : Receiver) (span : Span) (slot : Option TypeId) :
    ∀ (e : Expr) (k : Nat) (st : State), Ready k st →
      Traces (Parts.node ⟨span, e, slot⟩) k st
        (Agrees Relabeling.inside receiver (Linked.inside receiver k e))
        (Checker.checkForm receiver span e st)
  | .literal _, _, _, ready => within _ (succeed ready rfl)
  | .ident i, _, _, ready => within _ (succeed ready (Agrees.ident receiver i))
  | .call callee args, k, st, ready =>
    within _ <| (checkExpr receiver callee k st ready).andThen
      (fun _ st ready => (checkExprs receiver args _ st ready).conclude _)
      fun _ _ => congrArg₂ Expr.call
  | .conditional test consequent alternate, k, st, ready => by
    unfold Checker.checkForm
    refine within _ <| ((checkExpr receiver test k st ready).conclude _).andThen
      (fun _ st ready => (checkStmt receiver consequent _ st ready).andPair fun _ st ready =>
        (checkOptionalStmt receiver alternate _ st ready).conclude _) ?_
    rintro test' ⟨consequent', alternate'⟩ htest ⟨hconsequent, halternate⟩
    exact (congr (congrArg₂ Expr.conditional htest hconsequent) halternate :)
  | .member base property, k, st, ready => by
    unfold Checker.checkForm
    refine within _ <| (checkExpr receiver base k st ready).andName
      (Q := Agrees (fun ρ _ => ρ.name) receiver property) (fun t st ready => ?_)
      fun _ _ => congrArg₂ Expr.member
    -- only the slot of the property's name changes
    refine recorded (P := (· = property.value)) (fun _ _ => ⟨.refl ready, rfl⟩) ?_
    rintro _ _ rfl
    rfl
  | .index base position, k, st, ready =>
    within _ <| (checkExpr receiver base k st ready).andThen
      (fun _ st ready => (checkExpr receiver position _ st ready).conclude _)
      fun _ _ => congrArg₂ Expr.index
  | .function f, k, st, ready =>
    within _ <| (checkFunction f k st ready).rebuild fun _ => Agrees.function receiver
  | .classDef c, k, st, ready =>
    -- a class has events of its own, so it is not within a part without any
    (checkClass span slot c k st ready).rebuild fun _ => Agrees.classDef receiver
  | .assertion e ty, k, st, ready =>
    within _ <| ((checkExpr receiver e k st ready).concludeWith _).rebuild fun _ h =>
      congrArg₂ Expr.assertion h (Agrees.typeExpr receiver ty)
  | .throwing value, k, st, ready =>
    within _ <| ((checkExpr receiver value k st ready).conclude _).rebuild fun _ =>
      congrArg Expr.throwing
  | .whileLoop test body, k, st, ready =>
    within _ <| ((checkExpr receiver test k st ready).conclude _).andThen
      (fun _ st ready => (inScope (checkStmts receiver _ body _ st.push ready.push)).conclude _)
      fun _ _ => congrArg₂ Expr.whileLoop
  | .forLoop bindings test update body, k, st, ready => by
    unfold Checker.checkForm
    refine within _ <| inScope <|
      (checkBindings receiver bindings k st.push ready.push).andThen
        (fun _ st ready => ((checkOptional receiver test _ st ready).conclude _).andPair
          fun _ st ready => (checkOptional receiver update _ st ready).andPair
            fun _ st ready =>
              (inScope (checkStmts receiver _ body _ st.push ready.push)).conclude _) ?_
    rintro bindings' ⟨test', update', body'⟩ hbindings ⟨htest, hupdate, hbody⟩
    exact (congr (congr (congrArg₂ Expr.forLoop hbindings htest) hupdate) hbody :)
  | .returning value, k, st, ready =>
    within _ <| ((checkOptional receiver value k st ready).conclude _).rebuild fun _ =>
      congrArg Expr.returning
  | .attempt body handler cleanup, k, st, ready => by
    unfold Checker.checkForm
    refine within _ <|
      (inScope (checkStmts receiver _ body k st.push ready.push)).andThen
        (fun _ st ready => (checkHandler receiver handler _ st ready).andPair
          fun _ st ready => checkCleanup receiver cleanup _ st ready) ?_
    rintro body' ⟨handler', cleanup'⟩ hbody ⟨hhandler, hcleanup⟩
    exact (congr (congrArg₂ Expr.attempt hbody hhandler) hcleanup :)
  | .array items, k, st, ready =>
    within _ <| ((checkExprs receiver items k st ready).conclude _).rebuild fun _ =>
      congrArg Expr.array
  | .object properties, k, st, ready =>
    within _ <| ((checkProperties receiver properties k st ready).conclude _).rebuild fun _ =>
      congrArg Expr.object
  | .assignment target value, k, st, ready => by
    unfold Checker.checkForm
    split
    · refine within _ <| (checkExpr receiver target k st ready).andThen
        (fun targetTy st ready => ?_) fun _ _ => congrArg₂ Expr.assignment
      refine (checkExpr receiver value _ st ready).whenDone fun t u hu => ?_
      split at hu
      · cases hu
      · exact ⟨rfl, .assigned receiver target.value t⟩
    · exact fail

theorem checkFunction : ∀ (f : Function) (k : Nat) (st : State), Ready k st →
    Traces (Parts.inside (.function f)) k st
      (Agrees (fun ρ _ => ρ.function) none (Linked.function k f)) (Checker.checkFunction f st)
  | ⟨name, typeParams, params, returns, body⟩, k, st, ready => by
    rw [Checker.checkFunction, if_neg (Bool.eq_false_iff.mp ready.real)]
    refine (checkCallable none (fun _ _ _ => .announceFunction name _ _)
      (fun st ready => checkStmts none .undefined body k st ready) ready).andName
      (fun t st ready => named none name t ready) ?_
    rintro ⟨params', body'⟩ name' ⟨hparams, hbody⟩ hname
    have htypeParams := Agrees.names none typeParams
    have hreturns := Agrees.optionalTypeExpr none returns
    unfold Agrees at hname hparams hbody htypeParams hreturns
    exact (congr (congr (congr (congrArg₂ Function.mk hname htypeParams) hparams) hreturns) hbody :)

theorem checkClass (span : Span) (slot : Option TypeId) :
    ∀ (c : Class) (k : Nat) (st : State), Ready k st →
      Traces (Parts.node ⟨span, .classDef c, slot⟩) k st
        (Agrees (fun ρ _ => ρ.classDef) none (Linked.classDef k c)) (Checker.checkClass c st)
  | ⟨name, fields, methods⟩, k, st, ready => by
    have self : st.nextSelf = .ofClass k := congrArg Symbol.classSelf ready.nextClass
    have entry : Traced [.expr ⟨span, .classDef ⟨name, fields, methods⟩, slot⟩] k st
        (st.enterClass methods) := .enterClass ready
    have members := checkMembers name
      (checkFields fields _ (st.enterClass methods).push entry.ready.push)
      fun found st ready => checkMethods (.ofClass k) found methods _ st ready
    rw [checkClass_of_real name fields methods ready.real, self]
    refine entered entry (andName (leaveClass ready.real (inScope members))
      (fun t st ready => named none name t ready) ?_)
    rintro ⟨fields', methods'⟩ name' ⟨hfields, hmethods⟩ hname
    exact .ofMembers hname hfields hmethods

theorem checkExprs (receiver : Receiver) :
    ∀ (es : List (Node Expr)) (k : Nat) (st : State), Ready k st →
      Traces (Parts.nodes es) k st (Agrees Relabeling.nodes receiver (Linked.nodes receiver k es))
        (Checker.checkExprs receiver es st)
  | [], _, _, ready => succeed ready rfl
  | e :: rest, k, st, ready =>
    (checkExpr receiver e k st ready).andThen
      (fun _ st ready => (checkExprs receiver rest _ st ready).conclude _)
      fun _ _ => congrArg₂ List.cons

theorem checkOptional (receiver : Receiver) :
    ∀ (e : Option (Node Expr)) (k : Nat) (st : State), Ready k st →
      Traces (Parts.optional e) k st
        (Agrees Relabeling.optional receiver (Linked.optional receiver k e))
        (Checker.checkOptional receiver e st)
  | none, _, _, ready => succeed ready rfl
  | some e, k, st, ready =>
    ((checkExpr receiver e k st ready).conclude _).rebuild fun _ => congrArg some

theorem checkStmt (receiver : Receiver) : ∀ (n : Node Stmt) (k : Nat) (st : State), Ready k st →
    Traces (Parts.stmt n) k st (Agrees Relabeling.stmt receiver (Linked.stmt receiver k n))
      (Checker.checkStmt receiver n st)
  | ⟨span, .expr e, _⟩, k, st, ready =>
    within _ <| recorded
      (P := Agrees Relabeling.insideStmt receiver (.expr (Linked.node receiver k e)))
      ((checkExpr receiver e k st ready).rebuild fun _ => congrArg Stmt.expr)
      fun _ _ h => congrArg (Node.mk span · none) h
  | ⟨span, .block body, _⟩, k, st, ready =>
    within _ <| recorded
      (P := Agrees Relabeling.insideStmt receiver (.block (Linked.stmts receiver k body)))
      ((inScope (checkStmts receiver _ body k st.push ready.push)).rebuild
        fun _ => congrArg Stmt.block)
      fun _ _ h => congrArg (Node.mk span · none) h
  | ⟨span, .binding kind bindings body, slot⟩, k, st, ready => by
    have entry : Traced [.stmt ⟨span, .binding kind bindings body, slot⟩] k st
        (st.emit (.bindings span kind (bindings.map fun b => b.name.value.name))) := .binding ready
    unfold Checker.checkStmt
    refine entered entry <| recorded (P := Agrees Relabeling.insideStmt receiver
      (Linked.insideStmt receiver k (.binding kind bindings body))) (inScope ?_)
      fun _ _ h => congrArg (Node.mk span · none) h
    refine (checkBindings receiver bindings k _ entry.ready.push).andThen
      (fun _ st ready => checkStmts receiver _ body _ st ready) ?_
    exact fun _ _ hbindings hbody => congrArg₂ (Stmt.binding kind) hbindings hbody
  | ⟨span, .typeAlias name typeParams ty, slot⟩, k, st, ready => by
    unfold Checker.checkStmt
    split
    · exact fail
    · rename_i t _
      have htypeParams := Agrees.names receiver typeParams
      have hty := Agrees.typeExpr receiver ty
      unfold Agrees at htypeParams hty
      have still :
          Still st ((st.note (.aliased name.value.name t)).defineAlias name.value.name t) := by
        have noted : Still st (st.note (.aliased name.value.name t)) := .note trivial
        exact ⟨noted.surveying, noted.nextClass, noted.events⟩
      refine within _ (after still (succeed (ready.of_still still) ?_))
      exact congrArg (Node.mk span · none)
        (congrArg₂ (Stmt.typeAlias (untyped.name name)) htypeParams hty)

theorem checkOptionalStmt (receiver : Receiver) :
    ∀ (n : Option (Node Stmt)) (k : Nat) (st : State), Ready k st →
      Traces (Parts.optionalStmt n) k st
        (Agrees Relabeling.optionalStmt receiver (Linked.optionalStmt receiver k n))
        (Checker.checkOptionalStmt receiver n st)
  | none, _, _, ready => succeed ready rfl
  | some n, k, st, ready =>
    ((checkStmt receiver n k st ready).conclude _).rebuild fun _ => congrArg some

theorem checkStmts (receiver : Receiver) (last : Ty) :
    ∀ (body : List (Node Stmt)) (k : Nat) (st : State), Ready k st →
      Traces (Parts.stmts body) k st
        (Agrees Relabeling.stmts receiver (Linked.stmts receiver k body))
        (Checker.checkStmts receiver last body st)
  | [], _, _, ready => succeed ready rfl
  | n :: rest, k, st, ready =>
    (checkStmt receiver n k st ready).andThen
      (fun t st ready => checkStmts receiver t rest _ st ready) fun _ _ => congrArg₂ List.cons

theorem checkCleanup (receiver : Receiver) :
    ∀ (body : Option (List (Node Stmt))) (k : Nat) (st : State), Ready k st →
      Traces (Parts.optionalBody body) k st
        (Agrees Relabeling.optionalBody receiver (Linked.optionalBody receiver k body))
        (Checker.checkCleanup receiver body st)
  | none, _, _, ready => succeed ready rfl
  | some body, k, st, ready =>
    ((inScope (checkStmts receiver _ body k st.push ready.push)).conclude
      _).rebuild fun _ => congrArg some

theorem checkHandler (receiver : Receiver) :
    ∀ (handler : Option Handler) (k : Nat) (st : State), Ready k st →
      Traces (Parts.optionalHandler handler) k st
        (Agrees Relabeling.optionalHandler receiver (Linked.optionalHandler receiver k handler))
        (Checker.checkHandler receiver handler st)
  | none, _, _, ready => succeed ready rfl
  | some ⟨param, body⟩, k, st, ready => by
    unfold Checker.checkHandler
    refine inScope ((named receiver param _ ready.push).andThen
      (fun _ st ready => checkStmts receiver _ body _ st ready) ?_)
    intro param' body' hparam hbody
    unfold Agrees at hparam hbody
    exact congrArg some (congrArg₂ Handler.mk hparam hbody)

theorem checkBindings (receiver : Receiver) :
    ∀ (bs : List Binding) (k : Nat) (st : State), Ready k st →
      Traces (Parts.bindings bs) k st
        (Agrees Relabeling.bindings receiver (Linked.bindings receiver k bs))
        (Checker.checkBindings receiver bs st)
  | [], _, _, ready => succeed ready rfl
  | ⟨name, declaredAs, init⟩ :: rest, k, st, ready => by
    unfold Checker.checkBindings
    refine (checkExpr receiver init k st ready).andThen
      (Q := fun p => Agrees (fun ρ _ => ρ.name) receiver name p.1 ∧
        Agrees Relabeling.bindings receiver
          (Linked.bindings receiver (nextClass k (Parts.node init)) rest) p.2)
      (fun initTy st ready => ?_) ?_
    · split
      · exact fail
      · rename_i t _
        have noted : Still st (st.note (.bound name.value.name t)) := .note trivial
        have still := noted.trans (.bind name.value.symbol t)
        exact after still <| afterName (Checker.checkBindings receiver rest) Prod.mk
          (ready.of_still still) (fun st ready => checkBindings receiver rest _ st ready)
          fun _ _ hrest => ⟨rfl, hrest⟩
    · rintro init' ⟨name', rest'⟩ hinit ⟨hname, hrest⟩
      have hdeclared := Agrees.optionalTypeExpr receiver declaredAs
      unfold Agrees at hname hdeclared hinit
      exact congrArg₂ List.cons (congr (congrArg₂ Binding.mk hname hdeclared) hinit :) hrest

theorem checkFields : ∀ (fs : List FieldDecl) (k : Nat) (st : State), Ready k st →
    Traces (Parts.fieldDecls fs) k st
      (Agrees (fun ρ _ => ρ.fieldDecls) none (Linked.fieldDecls k fs)) (Checker.checkFields fs st)
  | [], _, _, ready => succeed ready rfl
  | ⟨name, declaredAs, init⟩ :: rest, k, st, ready => by
    unfold Checker.checkFields
    refine (checkOptional none init k st ready).andThen
      (Q := fun p => Agrees (fun ρ _ => ρ.name) none name p.1 ∧
        Agrees (fun ρ _ => ρ.fieldDecls) none
          (Linked.fieldDecls (nextClass k (Parts.optional init)) rest) p.2)
      (fun initTy st ready => ?_) ?_
    · split
      · exact fail
      · rename_i t _
        refine afterName
          (fun st => (Checker.checkFields rest st).conclude fun entries =>
            .ok (⟨name.value.name, t⟩ :: entries))
          Prod.mk ready (fun st ready => (checkFields rest _ st ready).conclude _) ?_
        exact fun _ _ hrest => ⟨rfl, hrest⟩
    · rintro init' ⟨name', rest'⟩ hinit ⟨hname, hrest⟩
      have hdeclared := Agrees.optionalTypeExpr none declaredAs
      unfold Agrees at hname hdeclared hinit
      exact congrArg₂ List.cons (congr (congrArg₂ FieldDecl.mk hname hdeclared) hinit :) hrest

theorem checkMethods (self : Symbol) (fields : List Field) :
    ∀ (ms : List (Node Method)) (k : Nat) (st : State), Ready k st →
      Traces (Parts.methods ms) k st
        (Agrees Relabeling.methods (some self) (Linked.methods (some self) k ms))
        (Checker.checkMethods self fields ms st)
  | [], _, _, ready => succeed ready rfl
  | ⟨span, ⟨name, kind, typeParams, params, returns, body⟩, slot⟩ :: rest, k, st, ready => by
    rw [checkMethods_cons]
    split
    · exact fail
    · refine (recorded
        (P := Agrees Relabeling.method (some self)
          ⟨name, kind, typeParams, params, returns, Linked.stmts (some self) k body⟩)
        (W := Agrees (fun ρ reach n => Node.mk n.span (ρ.method reach n.value) (ρ.ty n.ty))
          (some self)
          ⟨span, ⟨name, kind, typeParams, params, returns, Linked.stmts (some self) k body⟩, slot⟩)
        ((checkCallable (some self) (fun _ _ _ => ⟨rfl, rfl, rfl⟩)
          (fun st ready => checkStmts (some self) .undefined body k st ready) ready).rebuild ?_)
        fun _ _ h => congrArg (Node.mk span · none) h).andThen
        (fun _ st ready => (checkMethods self fields rest _ st ready).conclude _)
        fun _ _ hmethod hrest => congrArg₂ List.cons hmethod hrest
      rintro ⟨params', body'⟩ ⟨hparams, hbody⟩
      have htypeParams := Agrees.names (some self) typeParams
      have hreturns := Agrees.optionalTypeExpr (some self) returns
      unfold Agrees at hparams hbody htypeParams hreturns
      exact (congr (congr (congrArg₂ (Method.mk (untyped.name name) kind) htypeParams hparams)
        hreturns) hbody :)

theorem checkProperties (receiver : Receiver) :
    ∀ (ps : List Property) (k : Nat) (st : State), Ready k st →
      Traces (Parts.properties ps) k st
        (Agrees Relabeling.properties receiver (Linked.properties receiver k ps))
        (Checker.checkProperties receiver ps st)
  | [], _, _, ready => succeed ready rfl
  | ⟨key, value⟩ :: rest, k, st, ready => by
    unfold Checker.checkProperties
    exact (checkExpr receiver value k st ready).andThen
      (fun _ st ready => (checkProperties receiver rest _ st ready).conclude _)
      fun _ _ hvalue hrest => congrArg₂ List.cons (congrArg (Property.mk _) hvalue) hrest

end

end Traces

end Checker

/-! ## Sessions -/

namespace Session

open Checker

/-- A statement without a diagnostic is traced. -/
theorem traced_checkStmt (file : String) (n : Node Stmt) {k : Nat} {s : Session}
    (ready : Ready k s.state)
    (clean : (s.checkStmt file n).2.diagnostics.size ≤ s.diagnostics.size) :
    Traced (Parts.stmt n) k s.state (s.checkStmt file n).2.state ∧
      Agrees Relabeling.stmt none (Linked.stmt none k n) (s.checkStmt file n).1 := by
  have h := Traces.checkStmt none n k s.state ready
  unfold Session.checkStmt at clean ⊢
  dsimp only at clean ⊢
  split
  · rename_i t ht
    exact h t ht
  · rename_i f hf
    simp only [hf, Array.size_push] at clean
    omega

/-- A body without diagnostics is traced statement by statement. -/
theorem traced_checkBody (file : String) (body : List (Node Stmt)) {k : Nat} (s : Session)
    (ready : Ready k s.state)
    (clean : (checkBody file body s).2.diagnostics.size ≤ s.diagnostics.size) :
    Traced (Parts.stmts body) k s.state (checkBody file body s).2.state ∧
      Agrees Relabeling.stmts none (Linked.stmts none k body) (checkBody file body s).1 := by
  induction body generalizing k s with
  | nil => exact ⟨.refl ready, rfl⟩
  | cons n rest ih =>
    -- diagnostics are only ever added, so neither the statement nor the rest added one
    have first := size_diagnostics_checkStmt file n s
    have later := size_diagnostics_checkBody file rest (s.checkStmt file n).2
    obtain ⟨traced, tree⟩ := traced_checkStmt file n ready (Nat.le_trans later clean)
    obtain ⟨tracedRest, treeRest⟩ := ih _ traced.ready (Nat.le_trans clean first)
    exact ⟨traced.trans tracedRest, congrArg₂ List.cons tree treeRest⟩

/-- **Events and links are those of the tree.**  A check of a program without diagnostics emits the
events of the parts of the program, each at the beginning of its part and with classes numbered in
that order, and then the final tree and table.  The final tree is the linked program, type ids
apart.  The order of the parts is that in which a tour reaches the expressions. -/
theorem trace_exact {p : Program} (clean : (({} : Session).check p).2.diagnostics = #[]) :
    (({} : Session).check p).2.events = Parts.events 0 p.parts ++
      [.finished (({} : Session).check p).1 (({} : Session).check p).2.table] ∧
    (({} : Session).check p).1.untyped = p.linked.untyped ∧
    Tour.reached p.body = p.parts.filterMap Part.expr? := by
  have fresh : Ready 0 ({} : Session).state := ⟨rfl, rfl⟩
  obtain ⟨traced, tree⟩ := traced_checkBody p.file p.body {} fresh
    (Nat.le_of_eq (congrArg Array.size clean))
  refine ⟨?_, ?_, Tour.reached_eq p.body⟩
  · rw [events_check p]
    exact congrArg (· ++ _) traced.events
  · -- outside of classes there is nothing to link
    unfold Agrees at tree
    rw [Option.isSome_none, Relabeling.stmts_eq (Relabeling.linking_onlyLinks none)] at tree
    exact congrArg (fun body => { p with body }) tree

/-- A class with a class in the initial value of its field and another one in its method, and
references to `self` in all of them and in a function.  The lines tell the references apart. -/
def nested : Program where
  file := "nested"
  body :=
    [⟨line 0, .binding .letBinding
      [⟨⟨line 0, ⟨"outer", some (.resolved 0)⟩, none⟩, none,
        ⟨line 0, .classDef
          { name := none
            fields :=
              [⟨⟨line 1, ⟨"part", none⟩, none⟩, none,
                some ⟨line 1, .classDef ⟨none, [], [method [self 2]]⟩, none⟩⟩]
            methods :=
              [method
                [self 3,
                  ⟨line 4, .expr ⟨line 4, .function ⟨none, [], [], none, [self 4]⟩, none⟩, none⟩,
                  ⟨line 5, .expr ⟨line 5, .classDef ⟨none, [], [method [self 5]]⟩, none⟩, none⟩,
                  self 6]] },
          none⟩⟩]
      [], none⟩]
where
  line (n : UInt32) : Span := ⟨0, 0, n, 0⟩
  self (n : UInt32) : Node Stmt :=
    ⟨line n, .expr ⟨line n, .ident ⟨"self", none⟩, none⟩, none⟩
  method (body : List (Node Stmt)) : Node Method :=
    ⟨line 0, ⟨⟨line 0, ⟨"m", none⟩, none⟩, .method, [], [], none, body⟩, none⟩

/-- The class in the initial value takes its number before the one in the method. -/
theorem trace_exact_nested :
    (({} : Session).check nested).2.diagnostics = #[] ∧
    (({} : Session).check nested).2.events =
      [.bindings (nested.line 0) .letBinding ["outer"],
        .selfReference (nested.line 3) (.classSelf 0),
        .selfReference (nested.line 6) (.classSelf 0),
        .selfReference (nested.line 2) (.classSelf 1),
        .selfReference (nested.line 5) (.classSelf 2),
        .finished (({} : Session).check nested).1 (({} : Session).check nested).2.table] ∧
    (({} : Session).check nested).1.untyped = nested.linked.untyped := by
  have clean : (({} : Session).check nested).2.diagnostics = #[] :=
    Array.size_eq_zero_iff.mp (by decide +kernel)
  obtain ⟨events, tree, -⟩ := trace_exact clean
  exact ⟨clean, events, tree⟩

end Session
end StructuralTyping
