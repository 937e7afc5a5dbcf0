import StructuralTyping.Proofs.RelabeledRules
import StructuralTyping.Proofs.TypeParts
import StructuralTyping.Proofs.TypeTableGrowth

/-! # The fields that methods assign

An assignment to a field of `self` is noted: a new field is added, an unknown one takes the type of
the value, any other keeps the type that it has.  `Settled` says what comes of a number of
assignments that were checked against a frozen type of `self`: every value fits the type that its
field has there, every field that was assigned is among the noted ones, and a noted field has its
type from before or from one of the assignments, and the latter only if it was new or unknown.

It speaks of the assignments through the types that stand on the tree, and not of their order.
-/
namespace StructuralTyping

/-! ## Assignments to fields of `self` -/

namespace Expr

/-- The field of `self` that an expression reads. -/
def selfField? : Expr → Option String
  | .member base property =>
    if base.value.name? = some SelfReference.name then some property.value.name else none
  | _ => none

/-- Whether an expression assigns to `self` itself. -/
def assignsSelf : Expr → Bool
  | .assignment target _ => target.value.name? = some SelfReference.name
  | _ => false

/-- Marks have no part in which field of `self` is meant. -/
theorem selfField?_relabeled (ρ : Relabeling) (r : Bool) (e : Expr) :
    (ρ.inside r e).selfField? = e.selfField? := by
  cases e with
  | member base property =>
    obtain ⟨span, base, ty⟩ := base
    have reads := ρ.inside_name? r base
    simp only [Relabeling.inside, Relabeling.node, selfField?, reads]
    rfl
  | _ => rfl

end Expr

/-- An assignment to a field of `self`: the field, and the slots of the target and of the value. -/
structure FieldAssignment where
  field : String
  target : Option TypeId
  value : Option TypeId
deriving DecidableEq

namespace FieldAssignment

/-- The assignment to a field of `self` that an expression makes itself. -/
def of? : Expr → Option FieldAssignment
  | .assignment target value =>
    target.value.selfField?.map fun field => ⟨field, target.ty, value.ty⟩
  | _ => none

/-- The assignments to fields of `self` among expressions. -/
def among (es : List (Node Expr)) : List FieldAssignment := es.filterMap fun n => of? n.value

/-- The assignments of a row are those of its parts. -/
theorem among_append (xs ys : List (Node Expr)) : among (xs ++ ys) = among xs ++ among ys :=
  List.filterMap_append

/-- An assignment does not depend on where it stands, nor on its own slot. -/
theorem among_node (n : Node Expr) (span : Span) (slot : Option TypeId) :
    among (Own.node n) = among (Own.node ⟨span, n.value, slot⟩) := by
  cases n
  rfl

/-- Linking leaves the slots and the names. -/
theorem of?_linking (self : Option Symbol) (r : Bool) (e : Expr) :
    of? ((Relabeling.linking self).inside r e) = of? e := by
  cases e with
  | assignment target value =>
    obtain ⟨_, target, _⟩ := target
    obtain ⟨_, value, _⟩ := value
    simp only [Relabeling.inside, Relabeling.node, of?, Expr.selfField?_relabeled]
    rfl
  | _ => rfl

/-- Linking changes no assignment. -/
theorem among_link (self : Symbol) (ms : List (Node Method)) :
    among (Own.methods (SelfReference.link self ms)) = among (Own.methods ms) := by
  rw [SelfReference.link_eq, Own.methods_relabeled, among, List.filterMap_map]
  refine congrArg (List.filterMap · _) (funext fun n => ?_)
  rw [Function.comp_apply, Relabeling.node_value, of?_linking]

end FieldAssignment

/-! ## Looking up noted fields -/

namespace Field

theorem lookup_cons (name : String) (f : Field) (fs : List Field) :
    lookup name (f :: fs) = if f.name = name then some f.ty else lookup name fs := by
  cases f
  rfl

/-- The first of two lists wins. -/
theorem lookup_append (name : String) (fs gs : List Field) :
    lookup name (fs ++ gs) = (lookup name fs).or (lookup name gs) := by
  induction fs with
  | nil => rfl
  | cons f fs ih =>
    rw [List.cons_append, lookup_cons, lookup_cons]
    split
    · rfl
    · exact ih

end Field

namespace FieldSurvey

/-- Noting a field leaves the others. -/
theorem lookup_note_of_ne {name other : String} (h : other ≠ name) (t : Ty) (fs : List Field) :
    Field.lookup other (note name t fs) = Field.lookup other fs := by
  induction fs with
  | nil => simp [note, Field.lookup_cons, h.symm]
  | cons f fs ih =>
    by_cases hname : f.name = name
    · by_cases hty : f.ty = .unknown <;>
        simp [note, Field.lookup_cons, hname, hty, h.symm]
    · simp [note, Field.lookup_cons, hname, ih]

/-- A field that is noted keeps its type if that is known, and takes the noted one otherwise. -/
theorem lookup_note (name : String) (t : Ty) (fs : List Field) :
    (∃ u, Field.lookup name fs = some u ∧ Field.lookup name (note name t fs) = some u) ∨
      (∀ u, Field.lookup name fs = some u → u = .unknown) ∧
        Field.lookup name (note name t fs) = some t := by
  induction fs with
  | nil => exact .inr ⟨(fun _ h => nomatch h), by simp [note, Field.lookup_cons]⟩
  | cons f fs ih =>
    by_cases hname : f.name = name
    · by_cases hty : f.ty = .unknown
      · exact .inr (by simp [note, Field.lookup_cons, hname, hty])
      · exact .inl ⟨f.ty, by simp [note, Field.lookup_cons, hname, hty]⟩
    · simpa [note, Field.lookup_cons, hname] using ih

end FieldSurvey

/-! ## What comes of assignments -/

/-- The fields `before` have become `after` by assignments that were checked against `frozen`. -/
structure Settled (table : TypeTable) (frozen before after : List Field)
    (assigned : List FieldAssignment) : Prop where
  fits : ∀ a ∈ assigned, ∃ u v, table.typeOf a.target = some u ∧ table.typeOf a.value = some v ∧
    v.assignable u = true ∧ Field.lookup a.field frozen = some u
  noted : ∀ a ∈ assigned, (Field.lookup a.field after).isSome
  kept : ∀ name, Field.lookup name after = Field.lookup name before ∨
    (∀ t, Field.lookup name before = some t → t = .unknown) ∧
      ∃ a ∈ assigned, a.field = name ∧
        ∃ v, table.typeOf a.value = some v ∧ Field.lookup name after = some v.widen

namespace Settled

variable {table : TypeTable} {frozen before mid after : List Field}
  {as bs : List FieldAssignment}

/-- Where nothing is assigned, nothing changes. -/
theorem nil : Settled table frozen before before [] where
  fits _ h := nomatch h
  noted _ h := nomatch h
  kept _ := .inl rfl

/-- The order of the assignments does not matter. -/
theorem of_mem (h : Settled table frozen before after as) (same : ∀ a, a ∈ as ↔ a ∈ bs) :
    Settled table frozen before after bs where
  fits a ha := h.fits a ((same a).mpr ha)
  noted a ha := h.noted a ((same a).mpr ha)
  kept name := (h.kept name).imp_right fun ⟨unknown, a, ha, rest⟩ =>
    ⟨unknown, a, (same a).mp ha, rest⟩

/-- A field that is there stays there. -/
theorem isSome (h : Settled table frozen before after as) {name : String}
    (there : (Field.lookup name before).isSome) : (Field.lookup name after).isSome := by
  obtain same | ⟨-, a, -, -, v, -, found⟩ := h.kept name
  · rw [same]
    exact there
  · rw [found]
    rfl

/-- More assignments after the first ones. -/
theorem append (h₁ : Settled table frozen before mid as) (h₂ : Settled table frozen mid after bs) :
    Settled table frozen before after (as ++ bs) where
  fits := List.forall_mem_append.mpr ⟨h₁.fits, h₂.fits⟩
  noted := List.forall_mem_append.mpr ⟨fun a ha => h₂.isSome (h₁.noted a ha), h₂.noted⟩
  kept name := by
    obtain same₂ | ⟨unknown₂, b, hb, named₂, taken₂⟩ := h₂.kept name
    · rw [same₂]
      obtain same₁ | ⟨unknown₁, a, ha, taken₁⟩ := h₁.kept name
      · exact .inl same₁
      · exact .inr ⟨unknown₁, a, List.mem_append_left _ ha, taken₁⟩
    · -- what is still unknown in the middle was new or unknown before
      refine .inr ⟨fun t ht => ?_, b, List.mem_append_right _ hb, named₂, taken₂⟩
      obtain same₁ | ⟨unknown₁, -⟩ := h₁.kept name
      · exact unknown₂ t (same₁.trans ht)
      · exact unknown₁ t ht

/-- One assignment, noted with the widened type of its value. -/
theorem note {a : FieldAssignment} {u v : Ty} (target : table.typeOf a.target = some u)
    (value : table.typeOf a.value = some v) (fits : v.assignable u = true)
    (known : Field.lookup a.field frozen = some u) (fields : List Field) :
    Settled table frozen fields (FieldSurvey.note a.field v.widen fields) [a] where
  fits := List.forall_mem_singleton.mpr ⟨u, v, target, value, fits, known⟩
  noted := by
    refine List.forall_mem_singleton.mpr ?_
    obtain ⟨_, -, found⟩ | ⟨-, found⟩ := FieldSurvey.lookup_note a.field v.widen fields
    · exact Option.isSome_of_eq_some found
    · exact Option.isSome_of_eq_some found
  kept name := by
    by_cases hname : name = a.field
    · subst hname
      obtain ⟨_, before, after⟩ | ⟨unknown, found⟩ := FieldSurvey.lookup_note a.field v.widen fields
      · exact .inl (after.trans before.symm)
      · exact .inr ⟨unknown, a, List.mem_singleton_self a, rfl, v, value, found⟩
    · exact .inl (FieldSurvey.lookup_note_of_ne hname v.widen fields)

end Settled

/-- One of the assignments gives the field a value of the type `w`, widened. -/
def FieldAssignment.Supplied (table : TypeTable) (assigned : List FieldAssignment) (field : String)
    (w : Ty) : Prop :=
  ∃ b ∈ assigned, b.field = field ∧ ∃ v, table.typeOf b.value = some v ∧ w = v.widen

/-- The fields after the second pass are members of the instance, in front of its methods.  The type
of an assigned field is the frozen one, unless that was unknown or the signature of a method. -/
theorem Settled.agrees {table : TypeTable} {found signatures after : List Field}
    {assigned : List FieldAssignment}
    (h : Settled table (found ++ signatures) found after assigned) (entries : List Field)
    {a : FieldAssignment} (ha : a ∈ assigned) :
    ∃ u v w, table.typeOf a.target = some u ∧ table.typeOf a.value = some v ∧
      v.assignable u = true ∧ (Ty.object (after ++ entries)).field? a.field = some w ∧
      (w = u ∨ (u = .unknown ∨ ∃ f ∈ signatures, f.name = a.field) ∧
        FieldAssignment.Supplied table assigned a.field w) := by
  obtain ⟨u, v, target, value, fits, known⟩ := h.fits a ha
  obtain ⟨w, hw⟩ := Option.isSome_iff_exists.mp (h.noted a ha)
  have member : (Ty.object (after ++ entries)).field? a.field = some w := by
    rw [Ty.field?, Field.lookup_append, hw, Option.some_or]
  refine ⟨u, v, w, target, value, fits, member, ?_⟩
  rw [Field.lookup_append] at known
  obtain same | ⟨unknown, b, hb, named, x, hx, taken⟩ := h.kept a.field
  · -- the assignment was noted without effect, so the field was there before the second pass
    rw [← same, hw, Option.some_or] at known
    exact .inl (Option.some.inj known)
  · refine .inr ⟨?_, b, hb, named, x, hx, Option.some.inj (hw.symm.trans taken)⟩
    cases hfound : Field.lookup a.field found with
    | some t =>
      rw [hfound, Option.some_or] at known
      exact .inl ((Option.some.inj known).symm.trans (unknown t hfound))
    | none =>
      rw [hfound, Option.none_or] at known
      exact .inr ⟨_, Field.mem_of_lookup known, rfl⟩

end StructuralTyping
