import StructuralTyping.Proofs.TypeCertificate

/-! # What the rules of single constructs allow

A rule that succeeds says something about the types it was given: which of them fit which, and how
the type that it found comes about.  These are the readings of the rules in the terms of
certificates, without the order in which a rule looks at its types and without its faults.
-/
namespace StructuralTyping

theorem exists_of_map_eq_ok {ε α β : Type} {x : Except ε α} {f : α → β} {b : β}
    (h : x.map f = .ok b) : ∃ a, x = .ok a ∧ f a = b := by
  cases x with
  | error _ => nomatch h
  | ok a => exact ⟨a, rfl, Except.ok.inj h⟩

theorem exists_of_bind_eq_ok {ε α β : Type} {x : Except ε α} {f : α → Except ε β} {b : β}
    (h : x.bind f = .ok b) : ∃ a, x = .ok a ∧ f a = .ok b := by
  cases x with
  | error _ => nomatch h
  | ok a => exact ⟨a, rfl, h⟩

/-! ## Types that a list shares -/

namespace Ty

/-- A common type is the one type of a list that is not empty. -/
theorem common?_eq_some_iff {ts : List Ty} {u : Ty} :
    common? ts = some u ↔ ts ≠ [] ∧ ∀ t ∈ ts, t = u := by
  cases ts with
  | nil => simp [common?]
  | cons t rest =>
    simp only [common?, List.all_eq_true, decide_eq_true_eq, ne_eq, reduceCtorEq,
      not_false_eq_true, true_and, List.forall_mem_cons]
    constructor
    · intro h
      split at h
      · rename_i same
        obtain rfl : t = u := Option.some.inj h
        exact ⟨rfl, same⟩
      · exact absurd h.symm (Option.some_ne_none u)
    · rintro ⟨rfl, same⟩
      rw [if_pos same]

/-- The common widened type is the one that all types widen to. -/
theorem common?_map_widen_iff {ts : List Ty} {u : Ty} :
    common? (ts.map widen) = some u ↔ WidenTo ts u := by
  simp [common?_eq_some_iff, WidenTo]

end Ty

/-! ## Calls -/

/-- Whether a call is an operator form shows in its name and the number of its operands. -/
theorem OperatorForm.isSome_of? (name : String) (operands : List Operand) :
    (OperatorForm.of? name operands).isSome = OperatorForm.isNamed name operands.length := by
  match operands with
  | [] => rfl
  | [_] => simp [OperatorForm.of?, OperatorForm.isNamed]
  | [_, _] => simp [OperatorForm.of?, OperatorForm.isNamed]
  | [_, _, _] =>
    simp only [OperatorForm.of?, OperatorForm.isNamed, List.length_cons, List.length_nil]
    split <;> simp_all
  | _ :: _ :: _ :: _ :: _ => rfl

namespace Rule

/-- Accepted arguments fit their parameters. -/
theorem assignable_of_arguments {position : Nat} {params : List Ty} {args : List Operand}
    (h : arguments position params args = .ok ()) :
    ∀ x ∈ (args.map (·.ty)).zip params, x.1.assignable x.2 = true := by
  induction args generalizing position params with
  | nil => simp
  | cons a as ih =>
    cases params with
    | nil => simp
    | cons p ps =>
      simp only [arguments] at h
      split at h
      · rename_i fits
        simp only [List.map_cons, List.zip_cons_cons, List.forall_mem_cons]
        exact ⟨fits, ih h⟩
      · nomatch h

/-- An accepted application has the type that the callee gives to these arguments. -/
theorem applies_of_application {span calleeSpan : Span} {f t : Ty} {args : List Operand}
    (h : application span calleeSpan f args = .ok t) : f.Applies (args.map (·.ty)) t := by
  unfold application at h
  split at h
  · rename_i params returns
    split at h
    · rename_i arity
      obtain ⟨_, hargs, rfl⟩ := exists_of_map_eq_ok h
      exact .inl ⟨params, rfl, by simpa using arity, assignable_of_arguments hargs⟩
    · nomatch h
  · exact .inr ⟨rfl, (Except.ok.inj h).symm⟩
  · nomatch h

/-- A call is that of an operator, or its type comes from what is called. -/
theorem applies_of_call {span : Span} {callee : Node Expr} {args : List (Node Expr)} {f t : Ty}
    {ts : List Ty} (arity : ts.length = args.length) (h : call span callee args f ts = .ok t) :
    IsOperatorCall callee.value args.length ∨ f.Applies ts t := by
  unfold call at h
  dsimp only at h
  split at h
  · rename_i result hform
    obtain ⟨name, hname, hform⟩ := Option.bind_eq_some_iff.mp hform
    obtain ⟨form, hform, -⟩ := Option.map_eq_some_iff.mp hform
    refine .inl ⟨name, hname, ?_⟩
    have := OperatorForm.isSome_of? name
      (args.zipWith (fun e t => ⟨e.span, e.value.isTarget, t⟩) ts)
    rw [hform, List.length_zipWith, arity, Nat.min_self] at this
    exact this.symm
  · have types := List.map_snd_zip (Nat.le_of_eq arity)
    rw [List.zip, List.map_zipWith] at types
    have applies := applies_of_application h
    rw [List.map_zipWith, types] at applies
    exact .inr applies

/-! ## Other constructs -/

/-- An accepted access by position has a number and an array, or a base of unknown type. -/
theorem index_ok {baseSpan positionSpan : Span} {b p t : Ty}
    (h : index baseSpan positionSpan b p = .ok t) :
    p.isNumeric = true ∧ (b = .array t ∨ b = .unknown ∧ t = .unknown) := by
  unfold index at h
  split at h
  · rename_i numeric
    refine ⟨numeric, ?_⟩
    split at h
    · exact .inl (congrArg Ty.array (Except.ok.inj h))
    · exact .inr ⟨rfl, (Except.ok.inj h).symm⟩
    · nomatch h
  · nomatch h

/-- An accepted assertion asserts a type that the expression fits. -/
theorem assertion_ok {span : Span} {found asserted t : Ty}
    (h : assertion span found asserted = .ok t) : found.assignable t = true := by
  unfold assertion at h
  split at h
  · rename_i fits
    rw [← Except.ok.inj h]
    exact fits
  · nomatch h

/-- An array literal has the type that its items widen to, or else unknown items. -/
theorem array_eq (ts : List Ty) :
    ∃ u, array ts = .array u ∧ (Ty.WidenTo ts u ∨ (∀ v, ¬Ty.WidenTo ts v) ∧ u = .unknown) := by
  unfold array
  cases h : Ty.common? (ts.map Ty.widen) with
  | some u => exact ⟨u, rfl, .inl (Ty.common?_map_widen_iff.mp h)⟩
  | none =>
    refine ⟨.unknown, rfl, .inr ⟨fun v hv => ?_, rfl⟩⟩
    rw [Ty.common?_map_widen_iff.mpr hv] at h
    nomatch h

/-- The type of a conditional is certified by those of its branches. -/
theorem certified_branches {table : TypeTable} {test : Node Expr} {consequent : Node Stmt}
    {alternate : Option (Node Stmt)} {t : Ty} {u : Option Ty}
    (ht : table.typeOfStmt consequent = some t) (hu : alternate.map table.typeOfStmt = u.map some) :
    (Expr.conditional test consequent alternate).Certified table (branches t u) := by
  cases alternate with
  | none =>
    obtain rfl : u = none := by simpa using hu.symm
    exact ht
  | some n =>
    obtain ⟨u, rfl, hn⟩ : ∃ u', u = some u' ∧ some u' = table.typeOfStmt n := by
      simpa [eq_comm] using hu.symm
    by_cases same : t = u
    · exact ⟨t, u, ht, hn.symm, .inl ⟨same, if_pos same⟩⟩
    · exact ⟨t, u, ht, hn.symm, .inr ⟨same, if_neg same⟩⟩

end Rule

/-- A `return` has the type of its value, and without one it is undefined. -/
theorem certified_returning {table : TypeTable} {value : Option (Node Expr)} {t : Option Ty}
    (ht : value.map (fun n => table.typeOf n.ty) = t.map some) :
    (Expr.returning value).Certified table (t.getD .undefined) := by
  cases value with
  | none =>
    obtain rfl : t = none := by simpa using ht.symm
    rfl
  | some n =>
    obtain ⟨t, rfl, hn⟩ : ∃ t', t = some t' ∧ some t' = table.typeOf n.ty := by
      simpa [eq_comm] using ht.symm
    exact hn.symm

theorem Failure.assignable_of_unlessAssignable {found expected : Ty} {span : Span} {u : Unit}
    (h : Failure.unlessAssignable found expected span = .ok u) :
    found.assignable expected = true := by
  unfold Failure.unlessAssignable Failure.unless at h
  split at h
  · assumption
  · nomatch h

/-- A binding with an annotation has the type that the annotation stands for, if the initial value
fits it. -/
theorem Rule.binding_eq_ok_iff {scopes : Scopes} {a : Node TypeExpr} {init u : Ty} {span : Span} :
    Rule.binding scopes (some a) init span = .ok u ↔
      scopes.resolve a = .ok u ∧ init.assignable u = true := by
  constructor
  · intro ok
    obtain ⟨declared, hdeclared, ok⟩ := exists_of_bind_eq_ok ok
    obtain ⟨_, fits, ok⟩ := exists_of_bind_eq_ok ok
    cases ok
    exact ⟨hdeclared, Failure.assignable_of_unlessAssignable fits⟩
  · rintro ⟨hdeclared, fits⟩
    simp [Rule.binding, hdeclared, Failure.unlessAssignable, Failure.unless, fits, bind,
      Except.bind]

end StructuralTyping
