import StructuralTyping.Checker.Check
import StructuralTyping.Proofs.NodeSpans

/-! # Where the rules of single constructs fail

A rule is given the spans of the nodes that it may blame.  `Blames S` says of a computation that it
fails only at spans in `S`, and never for want of a type in the table; here it is proved of every
rule but that of returns, from the spans that the rule is given.
-/
namespace StructuralTyping

variable {α β : Type} {S : Span → Prop}

/-- The failure shows at a place in `S`, and its cause is not an id without a type. -/
structure Failure.At (S : Span → Prop) (f : Failure) : Prop where
  span : S f.span
  issued : ∀ id, f.fault ≠ .unissuedType id

/-- A computation that fails only at places in `S`. -/
def Blames (S : Span → Prop) (x : Except Failure α) : Prop := ∀ f, x = .error f → f.At S

namespace Blames

/-- A success blames nothing. -/
theorem ok (a : α) : Blames S (.ok a) := by
  intro f h
  cases h

/-- An error blames its span. -/
theorem error {fault : Fault} {span : Span} (place : S span)
    (issued : ∀ id, fault ≠ .unissuedType id) :
    Blames S (.error ⟨fault, span⟩ : Except Failure α) := by
  rintro _ ⟨⟩
  exact ⟨place, issued⟩

/-- What a failed computation is blamed for, whatever it was to compute. -/
theorem failed {x : Except Failure α} {f : Failure} (h : Blames S x) (hx : x = .error f) :
    Blames S (.error f : Except Failure β) :=
  fun g hg => h g (hx.trans (congrArg Except.error (Except.error.inj hg)))

/-- Either of two steps may be the one that fails. -/
theorem bind {x : Except Failure α} {f : α → Except Failure β} (hx : Blames S x)
    (hf : ∀ a, Blames S (f a)) : Blames S (x.bind f) := by
  cases x with
  | error e => exact hx.failed rfl
  | ok a => exact hf a

theorem map {x : Except Failure α} (hx : Blames S x) (f : α → β) : Blames S (x.map f) := by
  cases x with
  | error e => exact hx.failed rfl
  | ok a => exact ok _

/-- Any of the elements may be the one that fails. -/
theorem mapM {γ : Type} {xs : List γ} {f : γ → Except Failure β}
    (h : ∀ x ∈ xs, Blames S (f x)) : Blames S (xs.mapM f) := by
  induction xs with
  | nil => exact ok _
  | cons x rest ih =>
    obtain ⟨hx, hrest⟩ := List.forall_mem_cons.mp h
    rw [List.mapM_cons]
    exact bind hx fun y => bind (ih hrest) fun ys => ok (y :: ys)

theorem forM {γ : Type} {xs : List γ} {f : γ → Except Failure Unit}
    (h : ∀ x ∈ xs, Blames S (f x)) : Blames S (xs.forM f) := by
  induction xs with
  | nil => exact ok _
  | cons x rest ih =>
    obtain ⟨hx, hrest⟩ := List.forall_mem_cons.mp h
    exact bind hx fun _ => ih hrest

/-- A condition that is not met blames the given place. -/
theorem ensured {condition : Bool} {fault : Fault} {span : Span} (place : S span)
    (issued : ∀ id, fault ≠ .unissuedType id) :
    Blames S (Failure.unless condition fault span) := by
  unfold Failure.unless
  split
  · exact ok _
  · exact error place issued

theorem unlessAssignable (found expected : Ty) {span : Span} (place : S span) :
    Blames S (Failure.unlessAssignable found expected span) :=
  ensured place (by simp)

/-! ## Annotations -/

mutual

/-- An unknown name is blamed at the node that mentions it. -/
theorem resolve (s : Scopes) : ∀ t : Node TypeExpr, (∀ x ∈ Spans.typeExpr t, S x) →
    Blames S (s.resolve t)
  | ⟨_, .keyword k, _⟩, _ => by
    rw [Scopes.resolve]
    exact ok k.toTy
  | ⟨span, .named name, _⟩, h => by
    rw [Scopes.resolve]
    split
    · exact ok _
    · exact error (h span List.mem_cons_self) (by simp)
  | ⟨_, .literal v, _⟩, _ => by
    rw [Scopes.resolve]
    exact ok (Ty.literal v)
  | ⟨_, .array element, _⟩, h => by
    rw [Scopes.resolve]
    exact (resolve s element (List.forall_mem_cons.mp h).2).map Ty.array
  | ⟨_, .object fields, _⟩, h => by
    rw [Scopes.resolve]
    exact (resolveFields s fields (List.forall_mem_cons.mp h).2).map Ty.object
  | ⟨_, .function params returns, _⟩, h => by
    obtain ⟨hparams, hreturns⟩ := List.forall_mem_append.mp (List.forall_mem_cons.mp h).2
    rw [Scopes.resolve]
    exact (resolveAll s params hparams).bind fun ps =>
      (resolve s returns hreturns).bind fun r => ok (Ty.function ps r)
  | ⟨_, .union members, _⟩, h => by
    rw [Scopes.resolve]
    exact (resolveAll s members (List.forall_mem_cons.mp h).2).map Ty.union
  | ⟨_, .intersection members, _⟩, h => by
    rw [Scopes.resolve]
    exact (resolveAll s members (List.forall_mem_cons.mp h).2).map Ty.intersection
  | ⟨_, .apply base _, _⟩, h => by
    rw [Scopes.resolve]
    exact resolve s base (List.forall_mem_append.mp (List.forall_mem_cons.mp h).2).1

theorem resolveAll (s : Scopes) : ∀ ts : List (Node TypeExpr), (∀ x ∈ Spans.typeExprs ts, S x) →
    Blames S (s.resolveAll ts)
  | [], _ => by
    rw [Scopes.resolveAll]
    exact ok []
  | t :: rest, h => by
    obtain ⟨ht, hrest⟩ := List.forall_mem_append.mp h
    rw [Scopes.resolveAll]
    exact (resolve s t ht).bind fun ty => (resolveAll s rest hrest).bind fun tys => ok (ty :: tys)

theorem resolveFields (s : Scopes) : ∀ fs : List TypeField, (∀ x ∈ Spans.typeFields fs, S x) →
    Blames S (s.resolveFields fs)
  | [], _ => by
    rw [Scopes.resolveFields]
    exact ok []
  | ⟨name, t⟩ :: rest, h => by
    obtain ⟨ht, hrest⟩ := List.forall_mem_append.mp h
    rw [Scopes.resolveFields]
    exact (resolve s t ht).bind fun ty =>
      (resolveFields s rest hrest).bind fun fields => ok (Field.mk name ty :: fields)

end

/-- An annotation is blamed at a node inside it. -/
theorem resolveOptional (s : Scopes) (t : Option (Node TypeExpr))
    (h : ∀ x ∈ Spans.optionalTypeExpr t, S x) : Blames S (s.resolveOptional t) := by
  cases t with
  | none => exact ok none
  | some t => exact (resolve s t h).map some

theorem param (s : Scopes) (t : Option (Node TypeExpr))
    (h : ∀ x ∈ Spans.optionalTypeExpr t, S x) : Blames S (Rule.param s t) := by
  cases t with
  | none => exact ok Ty.unknown
  | some t => exact resolve s t h

theorem params (s : Scopes) (ps : List Param) (h : ∀ x ∈ Spans.params ps, S x) :
    Blames S (Rule.params s ps) := by
  induction ps with
  | nil => exact ok []
  | cons p rest ih =>
    obtain ⟨hdeclared, hrest⟩ := List.forall_mem_append.mp (List.forall_mem_cons.mp h).2
    exact (param s p.declaredAs hdeclared).bind fun t => (ih hrest).bind fun ts => ok (t :: ts)

/-- A signature is blamed at an annotation in it. -/
theorem signature (s : Scopes) (typeParams : List (Node Ident)) (ps : List Param)
    (returns : Option (Node TypeExpr)) (h : ∀ x ∈ Spans.signature typeParams ps returns, S x) :
    Blames S (Rule.signature s typeParams ps returns) := by
  obtain ⟨hparams, hreturns⟩ := List.forall_mem_append.mp (List.forall_mem_append.mp h).2
  exact (params _ ps hparams).bind fun types =>
    (resolveOptional _ returns hreturns).bind fun result =>
      ok (Ty.function types (result.getD .unknown))

/-- A binding is blamed at its annotation or at its initial value. -/
theorem binding (s : Scopes) {declaredAs : Option (Node TypeExpr)} (init : Ty) {initSpan : Span}
    (h : ∀ x ∈ Spans.optionalTypeExpr declaredAs, S x) (place : S initSpan) :
    Blames S (Rule.binding s declaredAs init initSpan) := by
  cases declaredAs with
  | none => exact ok init.widen
  | some a =>
    exact (resolve s a h).bind fun declared =>
      (unlessAssignable init declared place).bind fun _ => ok declared

/-- A field is blamed at its annotation or at its initial value. -/
theorem field (s : Scopes) {declaredAs : Option (Node TypeExpr)} {init : Option (Node Expr)}
    (initTy : Option Ty) (h : ∀ x ∈ Spans.optionalTypeExpr declaredAs, S x)
    (place : ∀ e ∈ init, S e.span) : Blames S (Rule.field s declaredAs init initTy) := by
  have declared : Blames S (Rule.field s declaredAs none none) := by
    cases declaredAs with
    | none => exact ok Ty.unknown
    | some a => exact resolve s a h
  cases init with
  | none => exact declared
  | some e =>
    cases initTy with
    | none => exact declared
    | some t => exact binding s t h (place e rfl)

/-- The signatures of a class are blamed at an annotation of one of its methods. -/
theorem memberSignatures (s : Scopes) (fields : List Field) (ms : List (Node Method))
    (h : ∀ x ∈ Spans.methods ms, S x) : Blames S (Checker.memberSignatures s fields ms) := by
  induction ms with
  | nil => exact ok []
  | cons m rest ih =>
    obtain ⟨-, h⟩ := List.forall_mem_cons.mp h
    obtain ⟨hsignature, hrest⟩ := List.forall_mem_append.mp (List.forall_mem_cons.mp h).2
    unfold Checker.memberSignatures
    split
    · exact (signature s _ _ _ hsignature).bind fun t =>
        (ih hrest).bind fun members => ok (Field.mk m.value.name.value.name t :: members)
    · exact ih hrest

/-! ## Reading, asserting and calling -/

theorem condition {span : Span} (place : S span) (t : Ty) :
    Blames S (Rule.condition span t) := by
  unfold Rule.condition
  split
  · exact ok t
  · exact error place (by simp)

theorem optionalCondition {test : Option (Node Expr)} (place : ∀ e ∈ test, S e.span)
    (t : Option Ty) : Blames S (Rule.optionalCondition test t) := by
  unfold Rule.optionalCondition
  split
  · exact (condition (place _ rfl) _).map _
  · exact ok ()

/-- An access is blamed at its base or at the name of the property. -/
theorem property {baseSpan propertySpan : Span} (base : S baseSpan) (property : S propertySpan)
    (t : Ty) (name : String) : Blames S (Rule.property baseSpan propertySpan t name) := by
  unfold Rule.property
  dsimp only
  split
  · split
    · exact ok _
    · exact error property (by simp)
  · exact ok _
  · exact ok _
  · split
    · exact ok _
    · split
      · exact ok _
      · exact error property (by simp)
  · exact error base (by simp)

/-- An access by position is blamed at its base or at the position. -/
theorem index {baseSpan positionSpan : Span} (base : S baseSpan) (position : S positionSpan)
    (t u : Ty) : Blames S (Rule.index baseSpan positionSpan t u) := by
  unfold Rule.index
  split
  · split
    · exact ok _
    · exact ok _
    · exact error base (by simp)
  · exact error position (by simp)

theorem assertion {span : Span} (place : S span) (found asserted : Ty) :
    Blames S (Rule.assertion span found asserted) := by
  unfold Rule.assertion
  split
  · exact ok asserted
  · exact error place (by simp)

theorem require (name : String) (position : Nat) (expected : Ty) {a : Operand} (place : S a.span) :
    Blames S (OperatorForm.require name position expected a) :=
  ensured place (by simp)

theorem requireBoth (name : String) (expected : Ty) {a b : Operand} (ha : S a.span)
    (hb : S b.span) : Blames S (OperatorForm.requireBoth name expected a b) :=
  (require name 1 expected ha).bind fun _ => require name 2 expected hb

/-- An operator is blamed at its operand. -/
theorem unaryTy (name : String) {a : Operand} (place : S a.span) (op : UnaryOperator) :
    Blames S (OperatorForm.unaryTy name a op) := by
  cases op with
  | truth => exact ok _
  | typeName => exact ok _
  | step =>
    exact (ensured place (by simp)).bind fun _ =>
      (require name 1 .number place).bind fun _ => ok _
  | negation => exact (require name 1 .boolean place).bind fun _ => ok _

/-- An operator is blamed at one of its operands. -/
theorem binaryTy (name : String) {a b : Operand} (ha : S a.span) (hb : S b.span)
    (op : BinaryOperator) : Blames S (OperatorForm.binaryTy name a b op) := by
  cases op with
  | comparison => exact (requireBoth name .number ha hb).bind fun _ => ok _
  | equality => exact ok _
  | logical => exact (requireBoth name .boolean ha hb).bind fun _ => ok _
  | bitwise => exact (requireBoth name .number ha hb).bind fun _ => ok _
  | instanceTest =>
    rw [OperatorForm.binaryTy]
    split
    · exact ok _
    · exact ok _
    · exact error hb (by simp)
  | coalescing => exact ok _
  | compoundAssignment =>
    rw [OperatorForm.binaryTy]
    split
    · exact ok _
    · exact (unlessAssignable b.ty a.ty hb).bind fun _ => ok _

/-- An operator form fails at one of its operands. -/
theorem operatorForm {name : String} {operands : List Operand} {form : OperatorForm}
    (h : ∀ a ∈ operands, S a.span) (hform : OperatorForm.of? name operands = some form) :
    Blames S (form.ty name) := by
  unfold OperatorForm.of? at hform
  split at hform
  · obtain ⟨op, -, rfl⟩ := Option.map_eq_some_iff.mp hform
    exact unaryTy name (h _ (by simp)) op
  · obtain ⟨op, -, rfl⟩ := Option.map_eq_some_iff.mp hform
    exact binaryTy name (h _ (by simp)) (h _ (by simp)) op
  · split at hform
    · obtain rfl := Option.some.inj hform
      rw [OperatorForm.ty]
      split
      · exact ok _
      · exact error (h _ (by simp)) (by simp)
    · cases hform
  · cases hform

/-- Arguments are blamed one by one. -/
theorem arguments {operands : List Operand} (h : ∀ a ∈ operands, S a.span) (position : Nat)
    (ps : List Ty) : Blames S (Rule.arguments position ps operands) := by
  induction ps generalizing position operands with
  | nil => exact ok ()
  | cons p ps ih =>
    cases operands with
    | nil => exact ok ()
    | cons a as =>
      obtain ⟨ha, has⟩ := List.forall_mem_cons.mp h
      unfold Rule.arguments
      split
      · exact ih has (position + 1)
      · exact error ha (by simp)

/-- An application is blamed as a whole, at its callee or at an argument. -/
theorem application {span calleeSpan : Span} {operands : List Operand} (place : S span)
    (callee : S calleeSpan) (h : ∀ a ∈ operands, S a.span) (t : Ty) :
    Blames S (Rule.application span calleeSpan t operands) := by
  unfold Rule.application
  split
  · split
    · exact (arguments h 1 _).map _
    · exact error place (by simp)
  · exact ok _
  · exact error callee (by simp)

theorem call {span : Span} {callee : Node Expr} {args : List (Node Expr)} (place : S span)
    (hcallee : S callee.span) (hargs : ∀ e ∈ args, S e.span) (t : Ty) (tys : List Ty) :
    Blames S (Rule.call span callee args t tys) := by
  have operands : ∀ a ∈ args.zipWith (fun e t => (⟨e.span, e.value.isTarget, t⟩ : Operand)) tys,
      S a.span := by
    intro a ha
    rw [← List.map_uncurry_zip_eq_zipWith] at ha
    obtain ⟨⟨e, u⟩, he, rfl⟩ := List.mem_map.mp ha
    exact hargs e (List.of_mem_zip he).1
  unfold Rule.call
  dsimp only
  split
  · rename_i result hresult
    obtain ⟨name, -, found⟩ := Option.bind_eq_some_iff.mp hresult
    obtain ⟨form, hform, rfl⟩ := Option.map_eq_some_iff.mp found
    exact operatorForm operands hform
  · exact application place hcallee operands t

end Blames

end StructuralTyping
