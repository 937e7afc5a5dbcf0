import Mathlib.Data.List.Nodup
import StructuralTyping.Checker.Call
import StructuralTyping.Checker.Rules
import StructuralTyping.Proofs.AssignabilityRules
import StructuralTyping.Proofs.RuleOutcomes

/-! # Vague types

A type is *vaguer* than another one when it is that type with `unknown` in the place of some of its
parts: of elements, results, fields of an object type, or of the whole.  A vaguer type passes
wherever the type itself passes, as what is supplied and as what is expected, both at once
(`Ty.Vaguer.assignable`).  So the rules that only ask whether one type fits another, or take a type
apart, accept vaguer types and give a vaguer type in return.

Parameters, and the members of unions and intersections, are not made vague.  Neither are object
types with a repeated name: such a type fits itself by being the same, but its first field of a name
has to fit all the others as soon as one of them is made vague.
-/
namespace StructuralTyping

namespace Field

theorem isSome_lookup_iff {name : String} {fs : List Field} :
    (lookup name fs).isSome ↔ name ∈ fs.map Field.name := by
  induction fs with
  | nil => simp [lookup]
  | cons f fs ih =>
    obtain ⟨n, t⟩ := f
    by_cases same : n = name
    · simp [lookup, same]
    · simp [lookup, same, ih, Ne.symm same]

end Field

namespace Ty

theorem Fits.zip_refl (ps : List Ty) : ∀ x ∈ ps.zip ps, Fits x.1 x.2 := by
  induction ps with
  | nil => exact List.forall_mem_nil _
  | cons p ps ih => exact List.forall_mem_cons.2 ⟨.refl p, ih⟩

/-- The first type is the second one with some of its parts unknown. -/
inductive Vaguer : Ty → Ty → Prop
  | refl (t : Ty) : Vaguer t t
  | unknown (t : Ty) : Vaguer .unknown t
  | array {a b : Ty} (h : Vaguer a b) : Vaguer (.array a) (.array b)
  | function (ps : List Ty) {r s : Ty} (h : Vaguer r s) : Vaguer (.function ps r) (.function ps s)
  | object {fs gs : List Field} (names : fs.map Field.name = gs.map Field.name)
      (nodup : (gs.map Field.name).Nodup)
      (h : ∀ name t u, Field.lookup name fs = some t → Field.lookup name gs = some u →
        Vaguer t u) :
      Vaguer (.object fs) (.object gs)

namespace Vaguer

theorem eq_unknown {a : Ty} (h : Vaguer a .unknown) : a = .unknown := by
  cases h <;> rfl

/-- What is vaguer than an array is unknown or an array of vaguer elements. -/
theorem array_cases {a e : Ty} (h : Vaguer a (.array e)) :
    a = .unknown ∨ ∃ d, a = .array d ∧ Vaguer d e := by
  cases h with
  | refl => exact .inr ⟨e, rfl, .refl e⟩
  | unknown => exact .inl rfl
  | array h => exact .inr ⟨_, rfl, h⟩

/-- What is vaguer than a function is unknown or a function with the same parameters. -/
theorem function_cases {a s : Ty} {ps : List Ty} (h : Vaguer a (.function ps s)) :
    a = .unknown ∨ ∃ r, a = .function ps r ∧ Vaguer r s := by
  cases h with
  | refl => exact .inr ⟨s, rfl, .refl s⟩
  | unknown => exact .inl rfl
  | function _ h => exact .inr ⟨_, rfl, h⟩

/-- The fields of a vaguer object type, one by one: same names, and vaguer types. -/
theorem object_cases {a : Ty} {gs : List Field} (h : Vaguer a (.object gs)) :
    a = .unknown ∨ ∃ fs, a = .object fs ∧
      (∀ name u, Field.lookup name gs = some u → ∃ t, Field.lookup name fs = some t ∧ Vaguer t u) ∧
      (∀ f ∈ fs, ∃ g ∈ gs, g.name = f.name ∧ Vaguer f.ty g.ty) := by
  cases h with
  | refl =>
    exact .inr ⟨gs, rfl, fun _ u found => ⟨u, found, .refl u⟩, fun f hf => ⟨f, hf, rfl, .refl _⟩⟩
  | unknown => exact .inl rfl
  | @object fs _ names nodup h =>
    refine .inr ⟨fs, rfl, fun name u found => ?_, fun f hf => ?_⟩
    · have there : name ∈ fs.map Field.name := by
        rw [names, ← Field.isSome_lookup_iff, found]
        rfl
      obtain ⟨t, ht⟩ := Option.isSome_iff_exists.1 (Field.isSome_lookup_iff.2 there)
      exact ⟨t, ht, h name t u ht found⟩
    · have there : f.name ∈ gs.map Field.name := names ▸ List.mem_map_of_mem hf
      obtain ⟨u, hu⟩ := Option.isSome_iff_exists.1 (Field.isSome_lookup_iff.2 there)
      have ht := Field.lookup_of_mem (names ▸ nodup) hf
      exact ⟨⟨f.name, u⟩, Field.mem_of_lookup hu, rfl, h f.name f.ty u ht hu⟩

/-- A type without parts to be made vague. -/
theorem eq_or_unknown {a b : Ty} (h : Vaguer a b) (array : ∀ e, b ≠ .array e)
    (function : ∀ ps r, b ≠ .function ps r) (object : ∀ fs, b ≠ .object fs) :
    a = b ∨ a = .unknown := by
  cases h with
  | refl => exact .inl rfl
  | unknown => exact .inr rfl
  | array => exact absurd rfl (array _)
  | function => exact absurd rfl (function _ _)
  | object => exact absurd rfl (object _)

/-- Widening keeps vagueness. -/
theorem widen {a b : Ty} (h : Vaguer a b) : Vaguer a.widen b.widen := by
  cases h with
  | refl => exact .refl _
  | unknown t => exact .unknown _
  | array h => exact .array h
  | function ps h => exact .function ps h
  | object names nodup h => exact .object names nodup h

/-! ## Assignability -/

/-- A type fits a vaguer one. -/
theorem fits {a t : Ty} (h : Vaguer a t) : Fits t a := by
  induction h with
  | refl t => exact .refl t
  | unknown t => exact .toUnknown t
  | array _ ih => exact .array ih
  | function ps _ ih =>
    exact .function rfl (Fits.zip_refl ps) ih
  | @object fs gs names nodup _ ih =>
    refine .object (fun f hf => ?_) fun f hf t found => ?_
    · rw [Field.isSome_lookup_iff, ← names]
      exact List.mem_map_of_mem hf
    · exact ih f.name f.ty t (Field.lookup_of_mem (names ▸ nodup) hf) found

/-- Two vaguer versions of one type fit each other. -/
theorem fits_of_common {a b t : Ty} (ha : Vaguer a t) (hb : Vaguer b t) : Fits a b := by
  induction ha generalizing b with
  | refl t => exact hb.fits
  | unknown t => exact .fromUnknown b
  | array _ ih =>
    rcases hb.array_cases with rfl | ⟨e, rfl, he⟩
    · exact .toUnknown _
    · exact .array (ih he)
  | function ps _ ih =>
    rcases hb.function_cases with rfl | ⟨r, rfl, hr⟩
    · exact .toUnknown _
    · exact .function rfl (Fits.zip_refl ps) (ih hr)
  | @object fs gs names nodup _ ih =>
    rcases hb.object_cases with rfl | ⟨hs, rfl, -, hhs⟩
    · exact .toUnknown _
    · refine .object (fun f hf => ?_) fun f hf t found => ?_
      · obtain ⟨g, hg, hname, -⟩ := hhs f hf
        rw [Field.isSome_lookup_iff, names, ← hname]
        exact List.mem_map_of_mem hg
      · obtain ⟨g, hg, hname, hty⟩ := hhs f hf
        exact ih f.name t g.ty found (hname ▸ Field.lookup_of_mem nodup hg) hty

end Vaguer

/-- Whatever fits still does when both sides get vaguer.  The induction is on the derivation; where
a union, an intersection or a literal is taken apart, the vaguer type is the same one or unknown. -/
theorem Fits.of_vaguer {a b a' b' : Ty} (h : Fits a b) (ha : Vaguer a' a) (hb : Vaguer b' b) :
    Fits a' b' := by
  induction h generalizing a' b' with
  | refl t => exact ha.fits_of_common hb
  | fromUnknown t =>
    obtain rfl := ha.eq_unknown
    exact .fromUnknown b'
  | toUnknown t =>
    obtain rfl := hb.eq_unknown
    exact .toUnknown a'
  | unionLeft _ ih =>
    -- a union gets no vaguer inside: it is kept or it is unknown
    rcases ha.eq_or_unknown (by simp) (by simp) (by simp) with rfl | rfl
    · exact .unionLeft fun m hm => ih m hm (.refl m) hb
    · exact .fromUnknown b'
  | widening _ ih =>
    rcases ha.eq_or_unknown (by simp) (by simp) (by simp) with rfl | rfl
    · exact .widening (ih (.refl _) hb)
    · exact .fromUnknown b'
  | unionRight hm _ ih =>
    rcases hb.eq_or_unknown (by simp) (by simp) (by simp) with rfl | rfl
    · exact .unionRight hm (ih ha (.refl _))
    · exact .toUnknown a'
  | intersectionRight _ ih =>
    rcases hb.eq_or_unknown (by simp) (by simp) (by simp) with rfl | rfl
    · exact .intersectionRight fun m hm => ih m hm ha (.refl m)
    · exact .toUnknown a'
  | object found _ ih =>
    rcases ha.object_cases with rfl | ⟨fs', rfl, hfs, -⟩
    · exact .fromUnknown b'
    rcases hb.object_cases with rfl | ⟨gs', rfl, -, hgs⟩
    · exact .toUnknown _
    -- an expected field comes from one before it got vaguer, and so does the actual one it meets
    have each : ∀ f ∈ gs', ∃ t, Field.lookup f.name fs' = some t ∧ Fits t f.ty := by
      intro f hf
      obtain ⟨g, hg, hname, hty⟩ := hgs f hf
      obtain ⟨u, hu⟩ := Option.isSome_iff_exists.1 (found g hg)
      obtain ⟨t, ht, hvague⟩ := hfs g.name u hu
      exact ⟨t, hname ▸ ht, ih g hg u hu hvague hty⟩
    refine .object (fun f hf => ?_) fun f hf t ht => ?_
    · obtain ⟨t, ht, -⟩ := each f hf
      exact Option.isSome_of_eq_some ht
    · obtain ⟨u, hu, fits⟩ := each f hf
      obtain rfl := Option.some.inj (ht.symm.trans hu)
      exact fits
  | array _ ih =>
    rcases ha.array_cases with rfl | ⟨d, rfl, hd⟩
    · exact .fromUnknown b'
    rcases hb.array_cases with rfl | ⟨e, rfl, he⟩
    · exact .toUnknown _
    exact .array (ih hd he)
  | function arity hp _ _ ih =>
    rcases ha.function_cases with rfl | ⟨r, rfl, hr⟩
    · exact .fromUnknown b'
    rcases hb.function_cases with rfl | ⟨s, rfl, hs⟩
    · exact .toUnknown _
    exact .function arity hp (ih hr hs)

namespace Vaguer

variable {a b a' b' : Ty}

/-- Vaguer types on both sides are assignable if the precise ones are. -/
theorem assignable (ha : Vaguer a' a) (hb : Vaguer b' b) (h : a.assignable b = true) :
    a'.assignable b' = true :=
  ((fits_of_assignable h).of_vaguer ha hb).assignable

theorem assignableTo (ha : Vaguer a' a) (h : a.assignable b = true) : a'.assignable b = true :=
  ha.assignable (.refl b) h

/-! ## Rules that take a type apart -/

/-- A property of a vaguer type is vaguer. -/
theorem property {baseSpan propertySpan : Span} {name : String} {u : Ty} (h : Vaguer a b)
    (ok : Rule.property baseSpan propertySpan b name = .ok u) :
    ∃ t, Rule.property baseSpan propertySpan a name = .ok t ∧ Vaguer t u := by
  cases h with
  | refl => exact ⟨u, ok, .refl u⟩
  | unknown => exact ⟨.unknown, rfl, .unknown u⟩
  | array => exact ⟨u, ok, .refl u⟩
  | function => nomatch ok
  | @object fs gs names nodup h =>
    have whole : Vaguer (.object fs) (.object gs) := .object names nodup h
    rcases whole.object_cases with impossible | ⟨fs', same, hfs, -⟩
    · nomatch impossible
    obtain rfl := Ty.object.inj same
    cases found : Field.lookup name gs with
    | none =>
      simp only [Rule.property, field?, found] at ok
      nomatch ok
    | some w =>
      obtain ⟨t, ht, hvague⟩ := hfs name w found
      simp only [Rule.property, field?, found, Except.ok.injEq] at ok
      subst ok
      exact ⟨t, by simp only [Rule.property, field?, ht], hvague⟩

theorem element {baseSpan positionSpan : Span} {position u : Ty} (h : Vaguer a b)
    (ok : Rule.index baseSpan positionSpan b position = .ok u) :
    ∃ t, Rule.index baseSpan positionSpan a position = .ok t ∧ Vaguer t u := by
  unfold Rule.index at ok ⊢
  split at ok
  · rename_i numeric
    rw [if_pos numeric]
    split at ok
    · obtain rfl := Except.ok.inj ok
      rcases h.array_cases with rfl | ⟨d, rfl, hd⟩
      · exact ⟨.unknown, rfl, .unknown _⟩
      · exact ⟨d, rfl, hd⟩
    · obtain rfl := h.eq_unknown
      exact ⟨u, ok, .refl u⟩
    · nomatch ok
  · nomatch ok

/-- A call of a vaguer function has a vaguer type. -/
theorem application {span calleeSpan : Span} {args : List Operand} {u : Ty} (h : Vaguer a b)
    (ok : Rule.application span calleeSpan b args = .ok u) :
    ∃ t, Rule.application span calleeSpan a args = .ok t ∧ Vaguer t u := by
  unfold Rule.application at ok
  split at ok
  · rcases h.function_cases with rfl | ⟨r, rfl, hr⟩
    · exact ⟨.unknown, rfl, .unknown u⟩
    split at ok
    · rename_i arity
      obtain ⟨_, fit, rfl⟩ := exists_of_map_eq_ok ok
      exact ⟨r, by simp [Rule.application, arity, fit, Except.map], hr⟩
    · nomatch ok
  · obtain rfl := h.eq_unknown
    exact ⟨u, ok, .refl u⟩
  · nomatch ok

/-- What can be tested for is a function or unknown. -/
theorem instanceTest {name : String} {x y x' y' : Operand} {u : Ty} (h : Vaguer y'.ty y.ty)
    (ok : OperatorForm.binaryTy name x y .instanceTest = .ok u) :
    OperatorForm.binaryTy name x' y' .instanceTest = .ok u := by
  simp only [OperatorForm.binaryTy] at ok ⊢
  split at ok
  · rename_i unknown
    rw [unknown] at h
    rw [h.eq_unknown]
    exact ok
  · rename_i function
    rw [function] at h
    rcases h.function_cases with same | ⟨r, same, -⟩ <;> rw [same] <;> exact ok
  · nomatch ok

end Vaguer
end Ty
end StructuralTyping
