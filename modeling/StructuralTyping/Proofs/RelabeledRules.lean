import StructuralTyping.Checker.Check
import StructuralTyping.Proofs.OwnExpressions

/-! # Rules do not read marks

The rules of the constructs look at the names, the spans and the annotations of a tree, and at the
symbols of its identifiers.  None of them reads a type slot, and `self` means its receiver whatever
symbol it carries.  So each of them gives the same answer for a relabeled part, as long as symbols
are changed in the reach of a receiver only (`Receiver.symbolOf_relabeled`).
-/
namespace StructuralTyping

variable (ρ : Relabeling) (r : Bool)

namespace Relabeling

@[simp] theorem node_span (n : Node Expr) : (ρ.node r n).span = n.span := by
  cases n; rfl

@[simp] theorem node_value (n : Node Expr) : (ρ.node r n).value = ρ.inside r n.value := by
  cases n; rfl

/-- Marks have no part in what can be assigned to. -/
@[simp] theorem inside_isTarget (e : Expr) : (ρ.inside r e).isTarget = e.isTarget := by
  cases e <;> rfl

/-- Marks have no part in the name of an expression. -/
@[simp] theorem inside_name? (e : Expr) : (ρ.inside r e).name? = e.name? := by
  cases e with
  | ident i => exact congrArg some (ρ.ident_name r i)
  | _ => rfl

theorem nodes_eq_map (es : List (Node Expr)) : ρ.nodes r es = es.map (ρ.node r) := by
  induction es with
  | nil => rfl
  | cons e rest ih => exact congrArg (ρ.node r e :: ·) ih

theorem bindings_names (bs : List Binding) :
    ((ρ.bindings r bs).map fun b => b.name.value.name) = bs.map fun b => b.name.value.name := by
  induction bs with
  | nil => rfl
  | cons b rest ih =>
    obtain ⟨name, _, _⟩ := b
    exact congrArg (name.value.name :: ·) ih

end Relabeling

/-! ## Annotations -/

namespace Scopes

variable (s : Scopes)

mutual

/-- An annotation stands for the same type whatever its slots hold. -/
theorem resolve_relabeled : ∀ t : Node TypeExpr, s.resolve (ρ.typeExpr t) = s.resolve t
  | ⟨_, .keyword _, _⟩ => by simp only [Relabeling.typeExpr, Relabeling.insideTypeExpr, resolve]
  | ⟨_, .named _, _⟩ => by simp only [Relabeling.typeExpr, Relabeling.insideTypeExpr, resolve]
  | ⟨_, .literal _, _⟩ => by simp only [Relabeling.typeExpr, Relabeling.insideTypeExpr, resolve]
  | ⟨_, .array element, _⟩ => by
    simp only [Relabeling.typeExpr, Relabeling.insideTypeExpr, resolve, resolve_relabeled element]
  | ⟨_, .object fields, _⟩ => by
    simp only [Relabeling.typeExpr, Relabeling.insideTypeExpr, resolve,
      resolveFields_relabeled fields]
  | ⟨_, .function params returns, _⟩ => by
    simp only [Relabeling.typeExpr, Relabeling.insideTypeExpr, resolve,
      resolveAll_relabeled params, resolve_relabeled returns]
  | ⟨_, .union members, _⟩ => by
    simp only [Relabeling.typeExpr, Relabeling.insideTypeExpr, resolve,
      resolveAll_relabeled members]
  | ⟨_, .intersection members, _⟩ => by
    simp only [Relabeling.typeExpr, Relabeling.insideTypeExpr, resolve,
      resolveAll_relabeled members]
  | ⟨_, .apply base _, _⟩ => by
    simp only [Relabeling.typeExpr, Relabeling.insideTypeExpr, resolve, resolve_relabeled base]

theorem resolveAll_relabeled :
    ∀ ts : List (Node TypeExpr), s.resolveAll (ρ.typeExprs ts) = s.resolveAll ts
  | [] => rfl
  | t :: rest => by
    simp only [Relabeling.typeExprs, resolveAll, resolve_relabeled t, resolveAll_relabeled rest]

theorem resolveFields_relabeled :
    ∀ fs : List TypeField, s.resolveFields (ρ.typeFields fs) = s.resolveFields fs
  | [] => rfl
  | ⟨_, t⟩ :: rest => by
    simp only [Relabeling.typeFields, resolveFields, resolve_relabeled t,
      resolveFields_relabeled rest]

end

/-- The slots of annotations are not read when they are resolved. -/
theorem resolveOptional_relabeled (t : Option (Node TypeExpr)) :
    s.resolveOptional (ρ.optionalTypeExpr t) = s.resolveOptional t := by
  cases t with
  | none => rfl
  | some t => exact congrArg (Except.map some) (resolve_relabeled ρ s t)

end Scopes

theorem foldl_bindTypeParam_relabeled (names : List (Node Ident)) (s : Scopes) :
    (ρ.names names).foldl (fun s n => s.bindTypeParam n.value.name .unknown) s =
      names.foldl (fun s n => s.bindTypeParam n.value.name .unknown) s := by
  rw [Relabeling.names, List.foldl_map]
  rfl

namespace Rule

variable (s : Scopes)

theorem param_relabeled (t : Option (Node TypeExpr)) :
    param s (ρ.optionalTypeExpr t) = param s t := by
  cases t with
  | none => rfl
  | some t => exact s.resolve_relabeled ρ t

theorem params_relabeled (ps : List Param) : params s (ρ.params ps) = params s ps := by
  induction ps with
  | nil => rfl
  | cons p rest ih => simp only [Relabeling.params, params, param_relabeled, ih]

/-- Nor are they in a signature. -/
theorem signature_relabeled (typeParams : List (Node Ident)) (ps : List Param)
    (returns : Option (Node TypeExpr)) :
    signature s (ρ.names typeParams) (ρ.params ps) (ρ.optionalTypeExpr returns) =
      signature s typeParams ps returns := by
  simp only [signature, foldl_bindTypeParam_relabeled, params_relabeled,
    Scopes.resolveOptional_relabeled]

theorem aliased_relabeled (typeParams : List (Node Ident)) (t : Node TypeExpr) :
    aliased s (ρ.names typeParams) (ρ.typeExpr t) = aliased s typeParams t := by
  simp only [aliased, foldl_bindTypeParam_relabeled, Scopes.resolve_relabeled]

/-- Nor are they in a binding. -/
theorem binding_relabeled (declaredAs : Option (Node TypeExpr)) (init : Ty) (span : Span) :
    binding s (ρ.optionalTypeExpr declaredAs) init span = binding s declaredAs init span := by
  cases declaredAs with
  | none => rfl
  | some t =>
    simp only [Relabeling.optionalTypeExpr, Option.map_some, binding, Scopes.resolve_relabeled]

/-- Nor are they in a declared field, whose initial value is asked for its span only. -/
theorem field_relabeled (declaredAs : Option (Node TypeExpr)) (init : Option (Node Expr))
    (initTy : Option Ty) :
    field s (ρ.optionalTypeExpr declaredAs) (ρ.optional r init) initTy =
      field s declaredAs init initTy := by
  have declared : field s (ρ.optionalTypeExpr declaredAs) none none =
      field s declaredAs none none := by
    cases declaredAs with
    | none => rfl
    | some t => exact s.resolve_relabeled ρ t
  cases init with
  | none => exact declared
  | some e =>
    cases initTy with
    | none => exact declared
    | some t =>
      simp only [Relabeling.optional, field, binding_relabeled, Relabeling.node_span]

theorem optionalCondition_relabeled (test : Option (Node Expr)) :
    optionalCondition (ρ.optional r test) = optionalCondition test := by
  funext t
  cases test with
  | none => rfl
  | some e =>
    cases t with
    | none => rfl
    | some t => simp only [Relabeling.optional, optionalCondition, Relabeling.node_span]

/-- A call is settled by the spans, names and types of its parts. -/
theorem call_relabeled (span : Span) (callee : Node Expr) (args : List (Node Expr)) :
    call span (ρ.node r callee) (ρ.nodes r args) = call span callee args := by
  funext calleeTy argTys
  simp only [call, Relabeling.nodes_eq_map, List.zipWith_map_left, Relabeling.node_span,
    Relabeling.node_value, Relabeling.inside_isTarget, Relabeling.inside_name?]

end Rule

/-! ## Assignments and classes -/

namespace Checker

/-- What an identifier refers to is the same for any symbols of `self` in the reach of a
receiver. -/
theorem Receiver.symbolOf_relabeled (receiver : Receiver) (i : Ident) :
    receiver.symbolOf (ρ.ident receiver.isSome i) = receiver.symbolOf i := by
  cases receiver with
  | none => rfl
  | some self =>
    by_cases h : i.name = SelfReference.name <;>
      simp [Receiver.symbolOf, Relabeling.ident, h]

/-- The field that an expression in reach denotes is found by the name `self`, not by a symbol. -/
theorem Receiver.field?_relabeled (receiver : Receiver) (self : Symbol) (e : Expr) :
    receiver.field? self (ρ.inside receiver.isSome e) = receiver.field? self e := by
  cases e with
  | member base property =>
    obtain ⟨_, base, _⟩ := base
    cases base with
    | ident i =>
      show (if receiver.symbolOf (ρ.ident receiver.isSome i) = some self then _ else _) = _
      rw [Receiver.symbolOf_relabeled]
      rfl
    | _ => rfl
  | _ => rfl

namespace State

/-- So the same assignments are noted. -/
theorem noteAssignment_relabeled (receiver : Receiver) (target : Expr) (t : Ty) (st : State) :
    st.noteAssignment receiver (ρ.inside receiver.isSome target) t =
      st.noteAssignment receiver target t := by
  simp only [noteAssignment, Receiver.field?_relabeled]

/-- And the same symbols are bound again. -/
theorem rebind_relabeled (receiver : Receiver) (target : Expr) (t : Ty) (st : State) :
    st.rebind receiver (ρ.inside receiver.isSome target) t = st.rebind receiver target t := by
  cases target with
  | ident i =>
    simp only [Relabeling.inside, rebind, Receiver.symbolOf_relabeled, Relabeling.ident_name]
  | _ => rfl

theorem bindTypeParams_relabeled (names : List (Node Ident)) (st : State) :
    st.bindTypeParams (ρ.names names) = st.bindTypeParams names := by
  simp only [bindTypeParams, foldl_bindTypeParam_relabeled]

/-- A class is entered with the same events, since they name its references by their places. -/
theorem enterClass_relabeled (ms : List (Node Method)) (st : State) :
    st.enterClass (ρ.methods r ms) = st.enterClass ms := by
  have at? (n : Node Expr) : SelfReference.at? (ρ.node r n) = SelfReference.at? n := by
    obtain ⟨span, e, ty⟩ := n
    cases e with
    | ident i => simp only [Relabeling.node, Relabeling.inside, SelfReference.at?, ρ.ident_name]
    | _ => rfl
  have spans (self : Symbol) :
      SelfReference.spans self (ρ.methods r ms) = SelfReference.spans self ms := by
    rw [SelfReference.spans_eq, SelfReference.spans_eq, Own.methods_relabeled, List.filterMap_map]
    exact congrArg (List.filterMap · _) (funext at?)
  simp only [enterClass, spans]

theorem beginMethods_relabeled (self : Symbol) (name : Option (Node Ident))
    (fields signatures : List Field) (st : State) :
    st.beginMethods self (ρ.optionalName name) fields signatures =
      st.beginMethods self name fields signatures := by
  cases name <;> rfl

end State

theorem announceFunction_relabeled (name : Option (Node Ident)) :
    announceFunction (ρ.optionalName name) = announceFunction name := by
  cases name <;> rfl

theorem isMember_relabeled (fields : List Field) (m : Method) :
    isMember fields (ρ.method r m) = isMember fields m := by
  cases m; rfl

/-- The signatures of a class do not depend on its marks. -/
theorem memberSignatures_relabeled (scopes : Scopes) (fields : List Field)
    (ms : List (Node Method)) :
    memberSignatures scopes fields (ρ.methods r ms) = memberSignatures scopes fields ms := by
  induction ms with
  | nil => rfl
  | cons m rest ih =>
    obtain ⟨_, ⟨_, _, _, _, _, _⟩, _⟩ := m
    simp only [Relabeling.methods, memberSignatures, isMember_relabeled, ih]
    simp only [Relabeling.method, Rule.signature_relabeled, Relabeling.name]

end Checker
end StructuralTyping
