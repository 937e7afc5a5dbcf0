import StructuralTyping.Proofs.AssignabilityRules

/-! # Transitivity of assignability

Everything is assignable to `unknown` and `unknown` to everything, so assignability is not
transitive: a number would be assignable to a string.  That is the only obstacle.  Through a middle
type in which `unknown` occurs nowhere, at no depth, assignability composes
(`Ty.assignable_trans_of_tracked`), whatever the outer types hold.

The argument works on derivations.  A union in the middle is split on its actual side
(`Fits.of_union`), and an intersection in the middle, which no rule splits there, is carried along
while the derivation behind it takes the expected type apart.  Parameters exchange the outer types,
so the induction is on the size of all three types together.
-/
namespace StructuralTyping
namespace Ty

/-- The type says something about every part of a value: `unknown` occurs nowhere inside it. -/
def Tracked (t : Ty) : Prop := t.anyPart isUnknown = false

instance (t : Ty) : Decidable t.Tracked := inferInstanceAs (Decidable (_ = _))

theorem not_tracked_unknown : ¬ Tracked .unknown := by
  decide

/-- The parts of a tracked type are tracked. -/
theorem Component.tracked {c t : Ty} (hc : Component c t) (h : t.Tracked) : c.Tracked :=
  hc.anyPart_eq_false h

/-- What a union fits, each of its members fits. -/
theorem Fits.of_union {ms : List Ty} {m t : Ty} (h : Fits (.union ms) t) (hm : m ∈ ms) :
    Fits m t :=
  fits_of_assignable (union_assignable_iff.mp h.assignable m hm)

/-- Pairs of the same position in the first and the last of three lists have a common partner in
the middle list. -/
theorem exists_zip_zip {ts qs ps : List Ty} (h₁ : qs.length = ps.length)
    (h₂ : ts.length = qs.length) {x : Ty × Ty} (hx : x ∈ ts.zip ps) :
    ∃ q, (x.1, q) ∈ ts.zip qs ∧ (q, x.2) ∈ qs.zip ps := by
  obtain ⟨i, hi, rfl⟩ := List.mem_iff_getElem.mp hx
  rw [List.length_zip] at hi
  refine ⟨qs[i], List.mem_iff_getElem.mpr ⟨i, ?_, ?_⟩, List.mem_iff_getElem.mpr ⟨i, ?_, ?_⟩⟩
  · rw [List.length_zip]; omega
  · simp
  · rw [List.length_zip]; omega
  · simp

/-- Transitivity for three types of bounded size together. -/
def TransitiveUpTo (n : Nat) : Prop :=
  ∀ {a b c : Ty}, sizeOf a + sizeOf b + sizeOf c ≤ n → b.Tracked → Fits a b → Fits b c → Fits a c

variable {n : Nat}

/-- Objects: the fields are composed one by one. -/
theorem TransitiveUpTo.object (ih : TransitiveUpTo n) {fs gs hs : List Field}
    (hn : sizeOf (Ty.object fs) + sizeOf (Ty.object gs) + sizeOf (Ty.object hs) ≤ n + 1)
    (hb : Tracked (.object gs))
    (found₁ : ∀ g ∈ gs, (Field.lookup g.name fs).isSome)
    (h₁ : ∀ g ∈ gs, ∀ t, Field.lookup g.name fs = some t → Fits t g.ty)
    (found₂ : ∀ h ∈ hs, (Field.lookup h.name gs).isSome)
    (h₂ : ∀ h ∈ hs, ∀ t, Field.lookup h.name gs = some t → Fits t h.ty) :
    Fits (.object fs) (.object hs) := by
  refine .object (fun h hh => ?_) (fun h hh t ht => ?_)
  · obtain ⟨u, hu⟩ := Option.isSome_iff_exists.mp (found₂ h hh)
    exact found₁ ⟨h.name, u⟩ (Field.mem_of_lookup hu)
  · obtain ⟨u, hu⟩ := Option.isSome_iff_exists.mp (found₂ h hh)
    have := (Component.lookup ht).sizeOf_lt
    have := (Component.lookup hu).sizeOf_lt
    have := (Component.field hh).sizeOf_lt
    exact ih (by omega) ((Component.lookup hu).tracked hb)
      (h₁ ⟨h.name, u⟩ (Field.mem_of_lookup hu) t ht) (h₂ h hh u hu)

/-- Functions: results are composed as they come, parameters from the last function to the
first. -/
theorem TransitiveUpTo.function (ih : TransitiveUpTo n) {ps qs ts : List Ty} {r s u : Ty}
    (hn : sizeOf (Ty.function ps r) + sizeOf (Ty.function qs s) + sizeOf (Ty.function ts u) ≤ n + 1)
    (hb : Tracked (.function qs s))
    (arity₁ : qs.length = ps.length) (hp₁ : ∀ x ∈ qs.zip ps, Fits x.1 x.2) (hr₁ : Fits r s)
    (arity₂ : ts.length = qs.length) (hp₂ : ∀ x ∈ ts.zip qs, Fits x.1 x.2) (hr₂ : Fits s u) :
    Fits (.function ps r) (.function ts u) := by
  refine .function (arity₂.trans arity₁) (fun x hx => ?_) ?_
  · obtain ⟨q, htq, hqp⟩ := exists_zip_zip arity₁ arity₂ hx
    obtain ⟨ht, hq⟩ := List.of_mem_zip htq
    have := (Component.param ht u).sizeOf_lt
    have := (Component.param hq s).sizeOf_lt
    have := (Component.param (List.of_mem_zip hqp).2 r).sizeOf_lt
    exact ih (by omega) ((Component.param hq s).tracked hb) (hp₂ _ htq) (hp₁ _ hqp)
  · have := (Component.result ps r).sizeOf_lt
    have := (Component.result qs s).sizeOf_lt
    have := (Component.result ts u).sizeOf_lt
    exact ih (by omega) ((Component.result qs s).tracked hb) hr₁ hr₂

/-- A union on the far side is reached through the member that the middle type fits. -/
theorem TransitiveUpTo.union (ih : TransitiveUpTo n) {a b m : Ty} {ms : List Ty}
    (hn : sizeOf a + sizeOf b + sizeOf (Ty.union ms) ≤ n + 1) (hb : b.Tracked) (h₁ : Fits a b)
    (hm : m ∈ ms) (h₂ : Fits b m) : Fits a (.union ms) := by
  have := (Component.unionMember hm).sizeOf_lt
  exact .unionRight hm (ih (by omega) hb h₁ h₂)

/-- An intersection on the far side is reached through all members. -/
theorem TransitiveUpTo.intersection (ih : TransitiveUpTo n) {a b : Ty} {ms : List Ty}
    (hn : sizeOf a + sizeOf b + sizeOf (Ty.intersection ms) ≤ n + 1) (hb : b.Tracked)
    (h₁ : Fits a b) (h₂ : ∀ m ∈ ms, Fits b m) : Fits a (.intersection ms) := by
  refine .intersectionRight fun m hm => ?_
  have := (Component.intersectionMember hm).sizeOf_lt
  exact ih (by omega) hb h₁ (h₂ m hm)

/-- Transitivity for types of any size.  The bound is on all three because a rule may take any of
them apart. -/
theorem transitiveUpTo (n : Nat) : TransitiveUpTo n := by
  induction n with
  | zero =>
    intro a b c hn
    have := sizeOf_pos a
    omega
  | succ n ih =>
    intro a b c hn hb h₁ h₂
    -- rules that take the first type apart need nothing of the second derivation; below them the
    -- middle type has a shape, and the second derivation is one that starts from that shape
    cases h₁ with
    | refl => exact h₂
    | fromUnknown => exact .fromUnknown _
    | toUnknown => exact absurd hb not_tracked_unknown
    | unionLeft h =>
      refine .unionLeft fun m hm => ih ?_ hb (h m hm) h₂
      have := (Component.unionMember hm).sizeOf_lt
      omega
    | @widening v _ h =>
      refine .widening (ih ?_ hb h h₂)
      have := LiteralValue.sizeOf_primitive_lt v
      rw [widen]
      omega
    | unionRight hm h =>
      have := (Component.unionMember hm).sizeOf_lt
      exact ih (by omega) ((Component.unionMember hm).tracked hb) h (h₂.of_union hm)
    | intersectionRight h =>
      cases h₂ with
      | refl => exact .intersectionRight h
      | toUnknown => exact .toUnknown _
      | unionRight hm h' => exact ih.union hn hb (.intersectionRight h) hm h'
      | intersectionRight h' => exact ih.intersection hn hb (.intersectionRight h) h'
    | object found h =>
      cases h₂ with
      | refl => exact .object found h
      | toUnknown => exact .toUnknown _
      | unionRight hm h' => exact ih.union hn hb (.object found h) hm h'
      | intersectionRight h' => exact ih.intersection hn hb (.object found h) h'
      | object found' h' => exact ih.object hn hb found h found' h'
    | @array x y h =>
      cases h₂ with
      | refl => exact .array h
      | toUnknown => exact .toUnknown _
      | unionRight hm h' => exact ih.union hn hb (.array h) hm h'
      | intersectionRight h' => exact ih.intersection hn hb (.array h) h'
      | @array _ z h' =>
        have := (Component.element x).sizeOf_lt
        have := (Component.element y).sizeOf_lt
        have := (Component.element z).sizeOf_lt
        exact .array (ih (by omega) ((Component.element y).tracked hb) h h')
    | function arity hp hr =>
      cases h₂ with
      | refl => exact .function arity hp hr
      | toUnknown => exact .toUnknown _
      | unionRight hm h' => exact ih.union hn hb (.function arity hp hr) hm h'
      | intersectionRight h' => exact ih.intersection hn hb (.function arity hp hr) h'
      | function arity' hp' hr' => exact ih.function hn hb arity hp hr arity' hp' hr'

/-- Derivations compose as long as the type in the middle is tracked. -/
theorem Fits.trans {a b c : Ty} (hb : b.Tracked) (h₁ : Fits a b) (h₂ : Fits b c) : Fits a c :=
  transitiveUpTo _ (Nat.le_refl _) hb h₁ h₂

/-- **Assignability is transitive away from `unknown`.**  The middle type must not mention `unknown`
at any depth; the outer types may. -/
theorem assignable_trans_of_tracked {a b c : Ty} (hb : b.Tracked) (h₁ : a.assignable b = true)
    (h₂ : b.assignable c = true) : a.assignable c = true :=
  ((fits_of_assignable h₁).trans hb (fits_of_assignable h₂)).assignable

/-- Callbacks that take a union, through a middle callback with a wider parameter. -/
theorem assignable_trans_of_tracked_callback :
    (function [.unknown] (.literal (.string "a"))).assignable
      (function [.union [.number, .string]] (.union [.string, .null])) = true ∧
    (function [.union [.number, .string]] (.union [.string, .null])).assignable
      (function [.literal (.string "b")] (.union [.null, .unknown, .string])) = true ∧
    (function [.unknown] (.literal (.string "a"))).assignable
      (function [.literal (.string "b")] (.union [.null, .unknown, .string])) = true := by
  have h₁ : (function [.unknown] (.literal (.string "a"))).assignable
      (function [.union [.number, .string]] (.union [.string, .null])) = true := by decide +kernel
  have h₂ : (function [.union [.number, .string]] (.union [.string, .null])).assignable
      (function [.literal (.string "b")] (.union [.null, .unknown, .string])) = true := by
    decide +kernel
  exact ⟨h₁, h₂, assignable_trans_of_tracked (by decide) h₁ h₂⟩

/-- Through `unknown` it fails. -/
example : number.assignable unknown = true ∧ unknown.assignable string = true ∧
    number.assignable string = false := by
  decide +kernel

end Ty
end StructuralTyping
