import StructuralTyping.Proofs.TypeParts

/-! # The rules of assignability

`Ty.assignable` looks at its two types in a fixed order and commits to the first rule that
applies.  `Ty.Fits` is the same relation as a set of rules that may be applied in any order: it is
the least relation that is closed under them.  This module proves that the two agree
(`Ty.assignable_iff_fits`), so the fixed order loses no derivation.

`Ty.Step` says what one step of the function accepts.  One direction reads each row of the function
as a rule (`Ty.derivableUpTo`).  The other one shows that the function is closed under every rule;
only the two rules for the expected side take an argument, since the function splits a union on the
actual side first.
-/
namespace StructuralTyping
namespace Ty

/-- A value of the first type may stand where the second is expected. -/
inductive Fits : Ty → Ty → Prop
  | refl (t : Ty) : Fits t t
  | fromUnknown (t : Ty) : Fits .unknown t
  | toUnknown (t : Ty) : Fits t .unknown
  | unionLeft {ms : List Ty} {t : Ty} (h : ∀ m ∈ ms, Fits m t) : Fits (.union ms) t
  | widening {v : LiteralValue} {t : Ty} (h : Fits (widen (.literal v)) t) : Fits (.literal v) t
  | unionRight {t m : Ty} {ms : List Ty} (hm : m ∈ ms) (h : Fits t m) : Fits t (.union ms)
  | intersectionRight {t : Ty} {ms : List Ty} (h : ∀ m ∈ ms, Fits t m) :
      Fits t (.intersection ms)
  /-- Every expected field is there, and the first actual field of its name fits it. -/
  | object {fs gs : List Field} (found : ∀ g ∈ gs, (Field.lookup g.name fs).isSome)
      (h : ∀ g ∈ gs, ∀ t, Field.lookup g.name fs = some t → Fits t g.ty) :
      Fits (.object fs) (.object gs)
  | array {a b : Ty} (h : Fits a b) : Fits (.array a) (.array b)
  /-- The expected parameters fit the actual ones, and the actual result the expected one. -/
  | function {ps qs : List Ty} {r s : Ty} (arity : qs.length = ps.length)
      (hp : ∀ x ∈ qs.zip ps, Fits x.1 x.2) (hr : Fits r s) :
      Fits (.function ps r) (.function qs s)

/-! ## Lists of types and fields -/

/-- The loop over the members of a union on the left is a universal statement. -/
theorem allAssignable_iff {as : List Ty} {e : Ty} :
    allAssignable as e = true ↔ ∀ a ∈ as, a.assignable e = true := by
  induction as with
  | nil => simp [allAssignable]
  | cons a as ih => simp [allAssignable, ih]

/-- The loop over the members of a union on the right is an existential statement. -/
theorem assignableToAny_iff {a : Ty} {es : List Ty} :
    assignableToAny a es = true ↔ ∃ e ∈ es, a.assignable e = true := by
  induction es with
  | nil => simp [assignableToAny]
  | cons e es ih => simp [assignableToAny, ih]

/-- The loop over the members of an intersection is a universal statement. -/
theorem assignableToAll_iff {a : Ty} {es : List Ty} :
    assignableToAll a es = true ↔ ∀ e ∈ es, a.assignable e = true := by
  induction es with
  | nil => simp [assignableToAll]
  | cons e es ih => simp [assignableToAll, ih]

/-- Every expected field has to be there, by name, with a type that fits. -/
theorem fieldsAssignable_iff {fs gs : List Field} :
    fieldsAssignable fs gs = true ↔
      ∀ g ∈ gs, ∃ t, Field.lookup g.name fs = some t ∧ t.assignable g.ty = true := by
  induction gs with
  | nil => simp [fieldsAssignable]
  | cons g gs ih =>
    obtain ⟨name, e⟩ := g
    rw [fieldsAssignable, List.forall_mem_cons]
    split
    · rename_i a found
      simp [found, ih]
    · rename_i missing
      simp [missing]

/-- Parameters are compared one by one, and there must be as many on both sides. -/
theorem paramsAssignable_iff {ss ts : List Ty} :
    paramsAssignable ss ts = true ↔
      ss.length = ts.length ∧ ∀ x ∈ ss.zip ts, x.1.assignable x.2 = true := by
  induction ss generalizing ts with
  | nil => cases ts <;> simp [paramsAssignable]
  | cons s ss ih =>
    cases ts with
    | nil => simp [paramsAssignable]
    | cons t ts => simp [paramsAssignable, ih, and_left_comm]

/-! ## What one step of the function accepts -/

/-- The rows of the function that accept, without the order in which they are tried. -/
inductive Step : Ty → Ty → Prop
  | shortcut {a b : Ty} (h : a = b ∨ a = .unknown ∨ b = .unknown) : Step a b
  | unionLeft {as : List Ty} {b : Ty} (h : allAssignable as b = true) : Step (.union as) b
  | widening {v : LiteralValue} {b : Ty} (h : v.primitive.assignable b = true) : Step (.literal v) b
  | unionRight {a : Ty} {bs : List Ty} (ha : ∀ as, a ≠ .union as)
      (h : assignableToAny a bs = true) : Step a (.union bs)
  | intersectionRight {a : Ty} {bs : List Ty} (ha : ∀ as, a ≠ .union as)
      (h : assignableToAll a bs = true) : Step a (.intersection bs)
  | object {fs gs : List Field} (h : fieldsAssignable fs gs = true) : Step (.object fs) (.object gs)
  | array {a b : Ty} (h : a.assignable b = true) : Step (.array a) (.array b)
  | function {ps qs : List Ty} {r s : Ty} (hp : paramsAssignable qs ps = true)
      (hr : r.assignable s = true) : Step (.function ps r) (.function qs s)

/-- Whatever the algorithm accepts, one rule accepts in terms of the algorithm. -/
theorem step_of_assignable {a b : Ty} (h : a.assignable b = true) : Step a b := by
  by_cases shortcut : a = b ∨ a = .unknown ∨ b = .unknown
  · exact .shortcut shortcut
  -- one case for each row of the function, in its order; only a literal has two rows to try
  rw [assignable.eq_def, if_neg shortcut] at h
  split at h
  · exact .unionLeft h
  · rcases Bool.or_eq_true_iff.mp h with h | h
    · exact .widening h
    · exact .unionRight (by simp) h
  · rcases Bool.or_eq_true_iff.mp h with h | h
    · exact .widening h
    · exact .intersectionRight (by simp) h
  · exact .widening h
  · rename_i notUnion _
    exact .unionRight notUnion h
  · rename_i notUnion _
    exact .intersectionRight notUnion h
  · exact .object h
  · exact .array h
  · obtain ⟨hp, hr⟩ := Bool.and_eq_true_iff.mp h
    exact .function hp hr
  · exact absurd h Bool.false_ne_true

/-- The algorithm accepts whatever one rule does. -/
theorem Step.assignable {a b : Ty} (h : Step a b) : a.assignable b = true := by
  by_cases shortcut : a = b ∨ a = .unknown ∨ b = .unknown
  · rw [Ty.assignable.eq_def, if_pos shortcut]
  rw [Ty.assignable.eq_def, if_neg shortcut]
  cases h with
  | shortcut h => exact absurd h shortcut
  | unionLeft h => exact h
  | @widening v b h => cases b <;> simp [h]
  | @unionRight a bs ha h =>
    cases a with
    | union as => exact absurd rfl (ha as)
    | _ => simp [h]
  | @intersectionRight a bs ha h =>
    cases a with
    | union as => exact absurd rfl (ha as)
    | _ => simp [h]
  | object h => exact h
  | array h => exact h
  | function hp hr => exact Bool.and_eq_true_iff.mpr ⟨hp, hr⟩

/-! ## Every step of the function is a rule -/

/-- What the function accepts is derivable, for two types of bounded size together.  The bound is on
both because parameters change sides. -/
def DerivableUpTo (n : Nat) : Prop :=
  ∀ {a b : Ty}, sizeOf a + sizeOf b ≤ n → a.assignable b = true → Fits a b

namespace DerivableUpTo

variable {n : Nat} (ih : DerivableUpTo n)
include ih

theorem unionLeft {as : List Ty} {b : Ty} (hn : sizeOf (Ty.union as) + sizeOf b ≤ n + 1)
    (h : allAssignable as b = true) : Fits (.union as) b := by
  refine .unionLeft fun m hm => ih ?_ (allAssignable_iff.mp h m hm)
  have := (Component.unionMember hm).sizeOf_lt
  omega

theorem widening {v : LiteralValue} {b : Ty} (hn : sizeOf (Ty.literal v) + sizeOf b ≤ n + 1)
    (h : v.primitive.assignable b = true) : Fits (.literal v) b := by
  have := LiteralValue.sizeOf_primitive_lt v
  exact .widening (ih (by rw [widen]; omega) h)

theorem unionRight {a : Ty} {bs : List Ty} (hn : sizeOf a + sizeOf (Ty.union bs) ≤ n + 1)
    (h : assignableToAny a bs = true) : Fits a (.union bs) := by
  obtain ⟨m, hm, h⟩ := assignableToAny_iff.mp h
  have := (Component.unionMember hm).sizeOf_lt
  exact .unionRight hm (ih (by omega) h)

theorem intersectionRight {a : Ty} {bs : List Ty}
    (hn : sizeOf a + sizeOf (Ty.intersection bs) ≤ n + 1) (h : assignableToAll a bs = true) :
    Fits a (.intersection bs) := by
  refine .intersectionRight fun m hm => ih ?_ (assignableToAll_iff.mp h m hm)
  have := (Component.intersectionMember hm).sizeOf_lt
  omega

theorem object {fs gs : List Field} (hn : sizeOf (Ty.object fs) + sizeOf (Ty.object gs) ≤ n + 1)
    (h : fieldsAssignable fs gs = true) : Fits (.object fs) (.object gs) := by
  have h := fieldsAssignable_iff.mp h
  refine .object (fun g hg => ?_) (fun g hg t found => ?_)
  · obtain ⟨t, found, -⟩ := h g hg
    exact Option.isSome_of_eq_some found
  · obtain ⟨u, found', h⟩ := h g hg
    obtain rfl : t = u := Option.some.inj (found.symm.trans found')
    have := (Component.lookup found).sizeOf_lt
    have := (Component.field hg).sizeOf_lt
    exact ih (by omega) h

theorem array {a b : Ty} (hn : sizeOf (Ty.array a) + sizeOf (Ty.array b) ≤ n + 1)
    (h : a.assignable b = true) : Fits (.array a) (.array b) := by
  have := (Component.element a).sizeOf_lt
  have := (Component.element b).sizeOf_lt
  exact .array (ih (by omega) h)

theorem function {ps qs : List Ty} {r s : Ty}
    (hn : sizeOf (Ty.function ps r) + sizeOf (Ty.function qs s) ≤ n + 1)
    (hp : paramsAssignable qs ps = true) (hr : r.assignable s = true) :
    Fits (.function ps r) (.function qs s) := by
  obtain ⟨arity, hp⟩ := paramsAssignable_iff.mp hp
  refine .function arity (fun x hx => ih ?_ (hp x hx)) (ih ?_ hr)
  · obtain ⟨hq, hp⟩ := List.of_mem_zip hx
    have := (Component.param hq s).sizeOf_lt
    have := (Component.param hp r).sizeOf_lt
    omega
  · have := (Component.result ps r).sizeOf_lt
    have := (Component.result qs s).sizeOf_lt
    omega

end DerivableUpTo

/-- Everything accepted is derivable, by induction on the size of the two types. -/
theorem derivableUpTo (n : Nat) : DerivableUpTo n := by
  induction n with
  | zero =>
    intro a b hn
    have := sizeOf_pos a
    omega
  | succ n ih =>
    intro a b hn accepted
    cases step_of_assignable accepted with
    | shortcut h =>
      rcases h with rfl | rfl | rfl
      · exact .refl _
      · exact .fromUnknown _
      · exact .toUnknown _
    | unionLeft h => exact ih.unionLeft hn h
    | widening h => exact ih.widening hn h
    | unionRight _ h => exact ih.unionRight hn h
    | intersectionRight _ h => exact ih.intersectionRight hn h
    | object h => exact ih.object hn h
    | array h => exact ih.array hn h
    | function hp hr => exact ih.function hn hp hr

/-- Completeness of the rules: what the algorithm accepts is derivable. -/
theorem fits_of_assignable {a b : Ty} (h : a.assignable b = true) : Fits a b :=
  derivableUpTo _ (Nat.le_refl _) h

/-! ## The function is closed under every rule -/

@[simp] theorem assignable_refl (t : Ty) : t.assignable t = true :=
  (Step.shortcut (.inl rfl)).assignable

@[simp] theorem unknown_assignable (t : Ty) : unknown.assignable t = true :=
  (Step.shortcut (.inr (.inl rfl))).assignable

@[simp] theorem assignable_unknown (t : Ty) : t.assignable .unknown = true :=
  (Step.shortcut (.inr (.inr rfl))).assignable

/-- A union may stand wherever all its members may. -/
theorem assignable_of_members {ms : List Ty} {t : Ty} (h : ∀ m ∈ ms, m.assignable t = true) :
    (union ms).assignable t = true :=
  (Step.unionLeft (allAssignable_iff.mpr h)).assignable

/-- A literal may stand wherever its primitive type may. -/
theorem assignable_of_widen {v : LiteralValue} {t : Ty}
    (h : (widen (.literal v)).assignable t = true) : (literal v).assignable t = true :=
  (Step.widening h).assignable

/-- What is not a union reaches an expected union through one member. -/
theorem assignable_union_of_not_union {a m : Ty} {ms : List Ty} (ha : ∀ as, a ≠ .union as)
    (hm : m ∈ ms) (h : a.assignable m = true) : a.assignable (union ms) = true :=
  (Step.unionRight ha (assignableToAny_iff.mpr ⟨m, hm, h⟩)).assignable

/-- What is not a union reaches an expected intersection through all members. -/
theorem assignable_intersection_of_not_union {a : Ty} {ms : List Ty} (ha : ∀ as, a ≠ .union as)
    (h : ∀ m ∈ ms, a.assignable m = true) : a.assignable (intersection ms) = true :=
  (Step.intersectionRight ha (assignableToAll_iff.mpr h)).assignable

/-- `assignable_union` for actual types up to a size. -/
theorem assignable_union_of_size_le (n : Nat) :
    ∀ {a m : Ty} {ms : List Ty}, sizeOf a ≤ n → m ∈ ms → a.assignable m = true →
      a.assignable (union ms) = true := by
  induction n with
  | zero =>
    intro a m ms hn
    have := sizeOf_pos a
    omega
  | succ n ih =>
    intro a m ms hn hm h
    cases a with
    | union as =>
      -- the function has split `as` already, so each of its members has to reach `ms`
      refine assignable_of_members fun x hx => ?_
      have hsize : sizeOf x ≤ n := by
        have := (Component.unionMember hx).sizeOf_lt
        omega
      cases step_of_assignable h with
      | shortcut h =>
        rcases h with rfl | h | rfl
        · exact ih hsize hm (ih hsize hx (assignable_refl x))
        · exact absurd h (by simp)
        · exact ih hsize hm (assignable_unknown x)
      | unionLeft h => exact ih hsize hm (allAssignable_iff.mp h x hx)
      | unionRight ha _ => exact absurd rfl (ha as)
      | intersectionRight ha _ => exact absurd rfl (ha as)
    | _ => exact assignable_union_of_not_union (by simp) hm h

/-- What fits one member of a union fits the union. -/
theorem assignable_union {a m : Ty} {ms : List Ty} (hm : m ∈ ms) (h : a.assignable m = true) :
    a.assignable (union ms) = true :=
  assignable_union_of_size_le _ (Nat.le_refl _) hm h

/-- Splitting a union on the actual side loses nothing. -/
theorem union_assignable_iff {ms : List Ty} {t : Ty} :
    (union ms).assignable t = true ↔ ∀ m ∈ ms, m.assignable t = true := by
  refine ⟨fun h m hm => ?_, assignable_of_members⟩
  cases step_of_assignable h with
  | shortcut h =>
    rcases h with rfl | h | rfl
    · exact assignable_union hm (assignable_refl m)
    · exact absurd h (by simp)
    · exact assignable_unknown m
  | unionLeft h => exact allAssignable_iff.mp h m hm
  | unionRight ha _ => exact absurd rfl (ha ms)
  | intersectionRight ha _ => exact absurd rfl (ha ms)

/-- `assignable_intersection` for actual types up to a size. -/
theorem assignable_intersection_of_size_le (n : Nat) :
    ∀ {a : Ty} {ms : List Ty}, sizeOf a ≤ n → (∀ m ∈ ms, a.assignable m = true) →
      a.assignable (intersection ms) = true := by
  induction n with
  | zero =>
    intro a ms hn
    have := sizeOf_pos a
    omega
  | succ n ih =>
    intro a ms hn h
    cases a with
    | union as =>
      refine assignable_of_members fun x hx => ih ?_ fun m hm => ?_
      · have := (Component.unionMember hx).sizeOf_lt
        omega
      · exact union_assignable_iff.mp (h m hm) x hx
    | _ => exact assignable_intersection_of_not_union (by simp) h

/-- What fits every member of an intersection fits the intersection. -/
theorem assignable_intersection {a : Ty} {ms : List Ty} (h : ∀ m ∈ ms, a.assignable m = true) :
    a.assignable (intersection ms) = true :=
  assignable_intersection_of_size_le _ (Nat.le_refl _) h

/-- An object may have more fields than are asked for, and in another order. -/
theorem object_assignable {fs gs : List Field}
    (h : ∀ g ∈ gs, ∃ t, Field.lookup g.name fs = some t ∧ t.assignable g.ty = true) :
    (object fs).assignable (object gs) = true :=
  (Step.object (fieldsAssignable_iff.mpr h)).assignable

/-- Arrays are covariant. -/
theorem array_assignable {a b : Ty} (h : a.assignable b = true) :
    (array a).assignable (array b) = true :=
  (Step.array h).assignable

/-- Functions are contravariant in their parameters and covariant in their result. -/
theorem function_assignable {ps qs : List Ty} {r s : Ty} (arity : qs.length = ps.length)
    (hp : ∀ x ∈ qs.zip ps, x.1.assignable x.2 = true) (hr : r.assignable s = true) :
    (function ps r).assignable (function qs s) = true :=
  (Step.function (paramsAssignable_iff.mpr ⟨arity, hp⟩) hr).assignable

/-- Soundness of the rules: what is derivable is accepted. -/
theorem Fits.assignable {a b : Ty} (h : Fits a b) : a.assignable b = true := by
  induction h with
  | refl t => exact assignable_refl t
  | fromUnknown t => exact unknown_assignable t
  | toUnknown t => exact assignable_unknown t
  | unionLeft _ ih => exact assignable_of_members ih
  | widening _ ih => exact assignable_of_widen ih
  | unionRight hm _ ih => exact assignable_union hm ih
  | intersectionRight _ ih => exact assignable_intersection ih
  | object found _ ih =>
    refine object_assignable fun g hg => ?_
    obtain ⟨t, ht⟩ := Option.isSome_iff_exists.mp (found g hg)
    exact ⟨t, ht, ih g hg t ht⟩
  | array _ ih => exact array_assignable ih
  | function arity _ _ ihp ihr => exact function_assignable arity ihp ihr

/-- **Assignability is derivability.**  The function answers yes exactly when the rules, applied in
any order, derive it. -/
theorem assignable_iff_fits (a b : Ty) : a.assignable b = true ↔ Fits a b :=
  ⟨fits_of_assignable, Fits.assignable⟩

end Ty
end StructuralTyping
