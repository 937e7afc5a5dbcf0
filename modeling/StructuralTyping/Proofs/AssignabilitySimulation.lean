import Mathlib.Data.List.Nodup
import Mathlib.Data.List.Zip
import StructuralTyping.Proofs.AssignabilityTransitivity

/-! # Assignability between rewritten types

Two types that are assignable may be rewritten, each in its own way, and the question is whether the
results are assignable still.  A way to rewrite is a relation; `L` rewrites what stands in an
actual position and `M` what stands in an expected one, so the two change places at parameters.

`Ty.Corresponds` says for one layer of a type what a rewriting must respect: every part goes over
into a part in the same role, and every part of the result comes from one.  If both relations do so
and agree on intersections, which assignability compares by equality alone, then what fits before
fits afterwards (`Ty.Simulation.fits`).

The crux is reflexivity.  A type fits itself without a look at its parts, but two rewritings of it
are two different types, so there the parts must be gone through after all
(`Ty.Simulation.fits_of_common`).
-/
namespace StructuralTyping

section Pairs

variable {α β : Type} {as : List α} {bs : List β}

theorem exists_mem_zip_left (length : bs.length = as.length) {a : α} (ha : a ∈ as) :
    ∃ b, (a, b) ∈ as.zip bs := by
  obtain ⟨i, hi, rfl⟩ := List.mem_iff_getElem.mp ha
  have hb : i < bs.length := by omega
  refine ⟨bs[i], List.mem_iff_getElem.mpr ⟨i, ?_, ?_⟩⟩
  · rw [List.length_zip]
    omega
  · simp

theorem mem_zip_swap {a : α} {b : β} (h : (a, b) ∈ as.zip bs) : (b, a) ∈ bs.zip as := by
  rw [← List.zip_swap]
  exact List.mem_map_of_mem (f := Prod.swap) h

theorem exists_mem_zip_right (length : bs.length = as.length) {b : β} (hb : b ∈ bs) :
    ∃ a, (a, b) ∈ as.zip bs := by
  obtain ⟨a, h⟩ := exists_mem_zip_left length.symm hb
  exact ⟨a, mem_zip_swap h⟩

end Pairs

/-- Members that were paired off and then put in another order still have their partners. -/
theorem exists_partner {α : Type} {R : α → α → Prop} {ms ns ks : List α}
    (length : ns.length = ms.length) (h : ∀ x ∈ ms.zip ns, R x.1 x.2) (order : ns.Perm ks) :
    (∀ m ∈ ms, ∃ k ∈ ks, R m k) ∧ ∀ k ∈ ks, ∃ m ∈ ms, R m k := by
  constructor
  · intro m hm
    obtain ⟨n, hn⟩ := exists_mem_zip_left length hm
    exact ⟨n, order.mem_iff.mp (List.of_mem_zip hn).2, h _ hn⟩
  · intro k hk
    obtain ⟨m, hm⟩ := exists_mem_zip_right length (order.mem_iff.mpr hk)
    exact ⟨m, (List.of_mem_zip hm).1, h _ hm⟩

/-- Lists of fields have the same names when they do so position by position. -/
theorem Field.names_eq_iff {fs gs : List Field} :
    gs.map Field.name = fs.map Field.name ↔
      gs.length = fs.length ∧ ∀ x ∈ fs.zip gs, x.2.name = x.1.name := by
  induction fs generalizing gs with
  | nil => simp
  | cons f fs ih =>
    cases gs with
    | nil => simp
    | cons g gs => simp [ih, and_left_comm]

/-- Fields that were paired off and then put in another order still have their partners. -/
theorem Field.exists_partner {R : Ty → Ty → Prop} {fs gs hs : List Field}
    (names : gs.map Field.name = fs.map Field.name) (h : ∀ x ∈ fs.zip gs, R x.1.ty x.2.ty)
    (order : gs.Perm hs) :
    (∀ f ∈ fs, ∃ g ∈ hs, g.name = f.name ∧ R f.ty g.ty) ∧
      ∀ g ∈ hs, ∃ f ∈ fs, g.name = f.name ∧ R f.ty g.ty := by
  obtain ⟨length, names⟩ := Field.names_eq_iff.mp names
  exact StructuralTyping.exists_partner (R := fun f g => g.name = f.name ∧ R f.ty g.ty) length
    (fun x hx => ⟨names x hx, h x hx⟩) order

namespace Ty

/-- Types without parts. -/
def isAtom : Ty → Bool
  | .array _ => false
  | .object _ => false
  | .function _ _ => false
  | .union _ => false
  | .intersection _ => false
  | _ => true

theorem isAtom_primitive (v : LiteralValue) : v.primitive.isAtom = true := by
  cases v <;> rfl

/-- An atom has no part but itself. -/
theorem anyPart_eq_false_of_isAtom {p : Ty → Bool} {t : Ty} (h : t.isAtom = true)
    (here : p t = false) : t.anyPart p = false := by
  refine anyPart_eq_false_of_components here fun c hc => ?_
  cases hc <;> cases h

/-- Whether a type is an object type in which a field name occurs twice. -/
def repeatsField : Ty → Bool
  | .object fs => !decide (fs.map Field.name).Nodup
  | _ => false

/-- No object type repeats a field name, at any depth. -/
def DistinctFields (t : Ty) : Prop := t.anyPart repeatsField = false

instance (t : Ty) : Decidable t.DistinctFields := inferInstanceAs (Decidable (_ = _))

namespace DistinctFields

theorem of_isAtom {t : Ty} (h : t.isAtom = true) : t.DistinctFields :=
  anyPart_eq_false_of_isAtom h (by cases t <;> simp_all [isAtom, repeatsField])

/-- The parts of a type with distinct fields have distinct fields. -/
theorem component {c t : Ty} (h : t.DistinctFields) (hc : Component c t) : c.DistinctFields :=
  hc.anyPart_eq_false h

theorem nodup {fs : List Field} (h : (Ty.object fs).DistinctFields) :
    (fs.map Field.name).Nodup := by
  have here := (Bool.or_eq_false_iff.mp h).1
  simpa [repeatsField] using here

end DistinctFields

/-- Object types fit when every expected field is met by the actual one that is looked up. -/
theorem Fits.object_of_met {fs gs : List Field}
    (met : ∀ g ∈ gs, ∃ u, Field.lookup g.name fs = some u ∧ Fits u g.ty) :
    Fits (.object fs) (.object gs) := by
  refine .object (fun g hg => ?_) (fun g hg u hu => ?_)
  · obtain ⟨u, hu, -⟩ := met g hg
    exact Option.isSome_of_eq_some hu
  · obtain ⟨v, hv, fits⟩ := met g hg
    obtain rfl : u = v := Option.some.inj (hu.symm.trans hv)
    exact fits

/-- One layer of a type `t` and what it was rewritten to: the parts in the role of `t` are related
by `L`, parameters by `M`, and a part may have been forgotten. -/
inductive Corresponds (L M : Ty → Ty → Prop) : Ty → Ty → Prop
  | forgotten (t : Ty) : Corresponds L M t .unknown
  | atom {t : Ty} (h : t.isAtom = true) : Corresponds L M t t
  | array {a a' : Ty} (h : L a a') : Corresponds L M (.array a) (.array a')
  | object {fs fs' : List Field} (distinct : (fs'.map Field.name).Nodup)
      (forth : ∀ f ∈ fs, ∃ f' ∈ fs', f'.name = f.name ∧ L f.ty f'.ty)
      (back : ∀ f' ∈ fs', ∃ f ∈ fs, f.name = f'.name ∧ L f.ty f'.ty) :
      Corresponds L M (.object fs) (.object fs')
  | function {ps ps' : List Ty} {r r' : Ty} (arity : ps'.length = ps.length)
      (hp : ∀ x ∈ ps.zip ps', M x.1 x.2) (hr : L r r') :
      Corresponds L M (.function ps r) (.function ps' r')
  | union {ms ms' : List Ty} (forth : ∀ m ∈ ms, ∃ m' ∈ ms', L m m')
      (back : ∀ m' ∈ ms', ∃ m ∈ ms, L m m') : Corresponds L M (.union ms) (.union ms')
  | intersection {ms ms' : List Ty} (back : ∀ m' ∈ ms', ∃ m ∈ ms, L m m') :
      Corresponds L M (.intersection ms) (.intersection ms')

/-- `L` rewrites types in actual positions and `M` those in expected positions, layer by layer.  Two
rewritings of an intersection fit, since there is no rule that would look into the actual one. -/
structure Simulation (L M : Ty → Ty → Prop) : Prop where
  actual : ∀ {t t' : Ty}, L t t' → Corresponds L M t t'
  expected : ∀ {t t' : Ty}, M t t' → Corresponds M L t t'
  atoms : ∀ {t : Ty}, t.isAtom = true → L t t
  intersections : ∀ {ms : List Ty} {t' t'' : Ty}, L (.intersection ms) t' →
    M (.intersection ms) t'' → Fits t' t''

namespace Simulation

variable {L M : Ty → Ty → Prop} (sim : Simulation L M)
include sim

/-- `fits_of_common` for types up to a size. -/
theorem fits_of_common_of_size_le (n : Nat) :
    ∀ {t t' t'' : Ty}, sizeOf t ≤ n → L t t' → M t t'' → Fits t' t'' := by
  induction n with
  | zero =>
    intro t t' t'' hn
    have := sizeOf_pos t
    omega
  | succ n ih =>
    intro t t' t'' hn hL hM
    have part {c c' c'' : Ty} (hc : Component c t) (hL : L c c') (hM : M c c'') : Fits c' c'' := by
      refine ih ?_ hL hM
      have := hc.sizeOf_lt
      omega
    cases sim.actual hL with
    | forgotten => exact .fromUnknown _
    | atom atomic =>
      cases sim.expected hM with
      | forgotten => exact .toUnknown _
      | atom => exact .refl _
      | _ => cases atomic
    | @array a a' h =>
      cases sim.expected hM with
      | forgotten => exact .toUnknown _
      | atom atomic => cases atomic
      | array h' => exact .array (part (.element a) h h')
    | object distinct forth _ =>
      cases sim.expected hM with
      | forgotten => exact .toUnknown _
      | atom atomic => cases atomic
      | object _ _ back =>
        -- an expected field comes from a field of `t`, which went over into an actual one
        refine .object_of_met fun g hg => ?_
        obtain ⟨f, hf, name, h'⟩ := back g hg
        obtain ⟨f', hf', name', h⟩ := forth f hf
        refine ⟨f'.ty, ?_, part (.field hf) h h'⟩
        rw [← name, ← name']
        exact Field.lookup_of_mem distinct hf'
    | @function ps ps' r r' arity hp hr =>
      cases sim.expected hM with
      | forgotten => exact .toUnknown _
      | atom atomic => cases atomic
      | @function _ ps'' _ r'' arity' hp' hr' =>
        refine .function (arity'.trans arity.symm) (fun x hx => ?_) (part (.result ps r) hr hr')
        obtain ⟨p, hx₁, hx₂⟩ := exists_zip_zip arity.symm arity' hx
        exact part (.param (List.of_mem_zip hx₂).1 r) (hp' _ (mem_zip_swap hx₁)) (hp _ hx₂)
    | union _ back =>
      cases sim.expected hM with
      | forgotten => exact .toUnknown _
      | atom atomic => cases atomic
      | union forth _ =>
        refine .unionLeft fun m' hm' => ?_
        obtain ⟨m, hm, h⟩ := back m' hm'
        obtain ⟨m'', hm'', h'⟩ := forth m hm
        exact .unionRight hm'' (part (.unionMember hm) h h')
    | intersection => exact sim.intersections hL hM

/-- Two rewritings of one type fit. -/
theorem fits_of_common {t t' t'' : Ty} (hL : L t t') (hM : M t t'') : Fits t' t'' :=
  sim.fits_of_common_of_size_le _ (Nat.le_refl _) hL hM

/-- **What fits before a rewriting fits afterwards.** -/
theorem fits {a b : Ty} (h : Fits a b) : ∀ {a' b' : Ty}, L a a' → M b b' → Fits a' b' := by
  induction h with
  | refl t => exact sim.fits_of_common
  | fromUnknown t =>
    intro a' b' ha _
    cases sim.actual ha <;> exact .fromUnknown _
  | toUnknown t =>
    intro a' b' _ hb
    cases sim.expected hb <;> exact .toUnknown _
  | unionLeft _ ih =>
    intro a' b' ha hb
    cases sim.actual ha with
    | forgotten => exact .fromUnknown _
    | atom atomic => cases atomic
    | union _ back =>
      refine .unionLeft fun m' hm' => ?_
      obtain ⟨m, hm, h⟩ := back m' hm'
      exact ih m hm h hb
  | @widening v t _ ih =>
    intro a' b' ha hb
    cases sim.actual ha with
    | forgotten => exact .fromUnknown _
    | atom => exact .widening (ih (sim.atoms (isAtom_primitive v)) hb)
  | unionRight hm _ ih =>
    intro a' b' ha hb
    cases sim.expected hb with
    | forgotten => exact .toUnknown _
    | atom atomic => cases atomic
    | union forth _ =>
      obtain ⟨m', hm', h⟩ := forth _ hm
      exact .unionRight hm' (ih ha h)
  | intersectionRight _ ih =>
    intro a' b' ha hb
    cases sim.expected hb with
    | forgotten => exact .toUnknown _
    | atom atomic => cases atomic
    | intersection back =>
      refine .intersectionRight fun m' hm' => ?_
      obtain ⟨m, hm, h⟩ := back m' hm'
      exact ih m hm ha h
  | object found _ ih =>
    intro a' b' ha hb
    cases sim.actual ha with
    | forgotten => exact .fromUnknown _
    | atom atomic => cases atomic
    | object distinct forth _ =>
      cases sim.expected hb with
      | forgotten => exact .toUnknown _
      | atom atomic => cases atomic
      | object _ _ back =>
        refine .object_of_met fun g' hg' => ?_
        obtain ⟨g, hg, name, h⟩ := back g' hg'
        obtain ⟨t, ht⟩ := Option.isSome_iff_exists.mp (found g hg)
        obtain ⟨f', hf', name', h'⟩ := forth _ (Field.mem_of_lookup ht)
        refine ⟨f'.ty, ?_, ih g hg t ht h' h⟩
        rw [← name, ← name']
        exact Field.lookup_of_mem distinct hf'
  | array _ ih =>
    intro a' b' ha hb
    cases sim.actual ha with
    | forgotten => exact .fromUnknown _
    | atom atomic => cases atomic
    | array h =>
      cases sim.expected hb with
      | forgotten => exact .toUnknown _
      | atom atomic => cases atomic
      | array h' => exact .array (ih h h')
  | @function ps qs r s arity _ _ ihp ihr =>
    intro a' b' ha hb
    cases sim.actual ha with
    | forgotten => exact .fromUnknown _
    | atom atomic => cases atomic
    | @function _ ps' _ r' arity₁ hp₁ hr₁ =>
      cases sim.expected hb with
      | forgotten => exact .toUnknown _
      | atom atomic => cases atomic
      | @function _ qs' _ s' arity₂ hp₂ hr₂ =>
        refine .function (by omega) (fun x hx => ?_) (ihr hr₁ hr₂)
        -- the partners of a pair of new parameters stand at the same position
        have arity' : qs'.length = ps.length := arity₂.trans arity
        obtain ⟨p, hqp, hp⟩ := exists_zip_zip arity₁.symm arity' hx
        obtain ⟨q, hq, hpair⟩ := exists_zip_zip arity arity₂ hqp
        exact ihp _ hpair (hp₂ _ (mem_zip_swap hq)) (hp₁ _ hp)

end Simulation
end Ty
end StructuralTyping
