import Mathlib.Data.List.Forall2
import Mathlib.Data.List.Perm.Basic
import StructuralTyping.Proofs.AssignabilitySimulation

/-! # Types in another order

Types are equal only when they are written in the same order.  Assignability does not look at the
order of members and fields, except where it falls back on equality: a type is assignable to itself,
and for an intersection on the actual side there is no other rule.  So reordering both sides
leaves the answer as it is (`Ty.assignable_reordered`) as long as it neither makes two such
intersections differ nor makes them the same; an intersection that is reordered on one side alone is
no longer assignable to itself (`Ty.reordered_intersection_refused`).
-/
namespace StructuralTyping

/-- Pairing off and then reordering is reordering and then pairing off. -/
theorem exists_perm_zip {α : Type} {R : α → α → Prop} {ms ns ks : List α}
    (length : ns.length = ms.length) (h : ∀ x ∈ ms.zip ns, R x.1 x.2) (order : ns.Perm ks) :
    ∃ ls, ls.length = ks.length ∧ (∀ x ∈ ks.zip ls, R x.2 x.1) ∧ ls.Perm ms := by
  have pairs : Relation.Comp (List.Forall₂ R) List.Perm ms ks :=
    ⟨ns, List.forall₂_iff_zip.mpr ⟨length.symm, fun hx => h _ hx⟩, order⟩
  rw [List.forall₂_comp_perm_eq_perm_comp_forall₂] at pairs
  obtain ⟨ls, order, pairs⟩ := pairs
  obtain ⟨length, h⟩ := List.forall₂_iff_zip.mp pairs
  exact ⟨ls, length, fun x hx => h (mem_zip_swap hx), order.symm⟩

namespace Ty

/-- The second type is the first one with the members of its unions and intersections and the fields
of its objects in another order, at any depth.  What becomes of an intersection is limited to `ρ`
where it stands in the role of the whole type, and to `σ` where it stands in the opposite role, that
is, within an odd number of parameters. -/
inductive Reordered : (ρ σ : Ty → Ty → Prop) → Ty → Ty → Prop
  | atom {ρ σ : Ty → Ty → Prop} {t : Ty} (h : t.isAtom = true) : Reordered ρ σ t t
  | array {ρ σ : Ty → Ty → Prop} {a b : Ty} (h : Reordered ρ σ a b) :
      Reordered ρ σ (.array a) (.array b)
  | object {ρ σ : Ty → Ty → Prop} {fs gs hs : List Field}
      (names : gs.map Field.name = fs.map Field.name)
      (h : ∀ x ∈ fs.zip gs, Reordered ρ σ x.1.ty x.2.ty) (order : gs.Perm hs) :
      Reordered ρ σ (.object fs) (.object hs)
  | function {ρ σ : Ty → Ty → Prop} {ps qs : List Ty} {r s : Ty} (arity : qs.length = ps.length)
      (hp : ∀ x ∈ ps.zip qs, Reordered σ ρ x.1 x.2) (hr : Reordered ρ σ r s) :
      Reordered ρ σ (.function ps r) (.function qs s)
  | union {ρ σ : Ty → Ty → Prop} {ms ns ks : List Ty} (length : ns.length = ms.length)
      (h : ∀ x ∈ ms.zip ns, Reordered ρ σ x.1 x.2) (order : ns.Perm ks) :
      Reordered ρ σ (.union ms) (.union ks)
  | intersection {ρ σ : Ty → Ty → Prop} {ms ns ks : List Ty} (length : ns.length = ms.length)
      (h : ∀ x ∈ ms.zip ns, Reordered ρ σ x.1 x.2) (order : ns.Perm ks)
      (allowed : ρ (.intersection ms) (.intersection ks)) :
      Reordered ρ σ (.intersection ms) (.intersection ks)

namespace Reordered

variable {ρ σ : Ty → Ty → Prop} {t t' : Ty}

/-- Distinct field names stay distinct. -/
def Keeps (t t' : Ty) : Prop := t.DistinctFields → t'.DistinctFields

/-- A type with distinct fields still has them after reordering. -/
theorem keeps (h : Reordered ρ σ t t') : Keeps t t' := by
  intro distinct
  induction h with
  | atom => exact distinct
  | array _ ih =>
    refine anyPart_eq_false_of_components rfl fun c hc => ?_
    cases hc
    exact ih (distinct.component (.element _))
  | object names _ order ih =>
    refine anyPart_eq_false_of_components ?_ fun c hc => ?_
    · -- the names are the same up to their order
      have nodup := distinct.nodup
      rw [← names, (order.map _).nodup_iff] at nodup
      simpa [repeatsField] using nodup
    · cases hc with
      | field hg =>
        obtain ⟨f, hf, -, h⟩ := (Field.exists_partner (R := Keeps) names ih order).2 _ hg
        exact h (distinct.component (.field hf))
  | function arity _ _ ihp ihr =>
    refine anyPart_eq_false_of_components rfl fun c hc => ?_
    cases hc with
    | param hq =>
      obtain ⟨p, hp⟩ := exists_mem_zip_right arity hq
      exact ihp _ hp (distinct.component (.param (List.of_mem_zip hp).1 _))
    | result => exact ihr (distinct.component (.result _ _))
  | union length _ order ih =>
    refine anyPart_eq_false_of_components rfl fun c hc => ?_
    cases hc with
    | unionMember hk =>
      obtain ⟨m, hm, h⟩ := (exists_partner (R := Keeps) length ih order).2 _ hk
      exact h (distinct.component (.unionMember hm))
  | intersection length _ order _ ih =>
    refine anyPart_eq_false_of_components rfl fun c hc => ?_
    cases hc with
    | intersectionMember hk =>
      obtain ⟨m, hm, h⟩ := (exists_partner (R := Keeps) length ih order).2 _ hk
      exact h (distinct.component (.intersectionMember hm))

/-- Every layer of a reordered type corresponds to a layer of the type. -/
theorem corresponds (h : Reordered ρ σ t t') (distinct : t'.DistinctFields) :
    Corresponds (fun t t' => Reordered ρ σ t t' ∧ t'.DistinctFields)
      (fun t t' => Reordered σ ρ t t' ∧ t'.DistinctFields) t t' := by
  cases h with
  | atom atomic => exact .atom atomic
  | array h => exact .array ⟨h, distinct.component (.element _)⟩
  | object names h order =>
    obtain ⟨forth, back⟩ := Field.exists_partner names h order
    refine .object distinct.nodup (fun f hf => ?_) (fun g hg => ?_)
    · obtain ⟨g, hg, name, h⟩ := forth f hf
      exact ⟨g, hg, name, h, distinct.component (.field hg)⟩
    · obtain ⟨f, hf, name, h⟩ := back g hg
      exact ⟨f, hf, name.symm, h, distinct.component (.field hg)⟩
  | function arity hp hr =>
    refine .function arity (fun x hx => ⟨hp x hx, ?_⟩) ⟨hr, distinct.component (.result _ _)⟩
    exact distinct.component (.param (List.of_mem_zip hx).2 _)
  | union length h order =>
    obtain ⟨forth, back⟩ := exists_partner length h order
    refine .union (fun m hm => ?_) (fun k hk => ?_)
    · obtain ⟨k, hk, h⟩ := forth m hm
      exact ⟨k, hk, h, distinct.component (.unionMember hk)⟩
    · obtain ⟨m, hm, h⟩ := back k hk
      exact ⟨m, hm, h, distinct.component (.unionMember hk)⟩
  | intersection length h order _ =>
    refine .intersection fun k hk => ?_
    obtain ⟨m, hm, h⟩ := (exists_partner length h order).2 k hk
    exact ⟨m, hm, h, distinct.component (.intersectionMember hk)⟩

/-- Reordering can be undone. -/
theorem symm (h : Reordered ρ σ t t') : Reordered (flip ρ) (flip σ) t' t := by
  induction h with
  | atom atomic => exact .atom atomic
  | array _ ih => exact .array ih
  | @object ρ σ _ _ _ names _ order ih =>
    obtain ⟨length, names⟩ := Field.names_eq_iff.mp names
    obtain ⟨gs, length, pairs, order⟩ := exists_perm_zip
      (R := fun f g => g.name = f.name ∧ Reordered (flip ρ) (flip σ) g.ty f.ty) length
      (fun x hx => ⟨names x hx, ih x hx⟩) order
    exact .object (Field.names_eq_iff.mpr ⟨length, fun x hx => (pairs x hx).1.symm⟩)
      (fun x hx => (pairs x hx).2) order
  | function arity _ _ ihp ihr =>
    exact .function arity.symm (fun x hx => ihp _ (mem_zip_swap hx)) ihr
  | union length _ order ih =>
    obtain ⟨ls, length, pairs, order⟩ := exists_perm_zip (R := flip _) length ih order
    exact .union length pairs order
  | intersection length _ order allowed ih =>
    obtain ⟨ls, length, pairs, order⟩ := exists_perm_zip (R := flip _) length ih order
    exact .intersection length pairs order allowed

/-- Reordering is a simulation if the intersections on both sides stay the same or stay apart. -/
theorem simulation
    (apart : ∀ {j j' k k' : Ty}, ρ j j' → σ k k' → (j = k ↔ j' = k')) :
    Simulation (fun t t' => Reordered ρ σ t t' ∧ t'.DistinctFields)
      (fun t t' => Reordered σ ρ t t' ∧ t'.DistinctFields) where
  actual h := h.1.corresponds h.2
  expected h := h.1.corresponds h.2
  atoms atomic := ⟨.atom atomic, .of_isAtom atomic⟩
  intersections h h' := by
    obtain ⟨h, -⟩ := h
    obtain ⟨h', -⟩ := h'
    cases h with
    | atom atomic => cases atomic
    | intersection _ _ _ allowed =>
      cases h' with
      | atom atomic => cases atomic
      | intersection _ _ _ allowed' =>
        rw [(apart allowed allowed').mp rfl]
        exact .refl _

end Reordered

/-- Reordering keeps what is assignable assignable. -/
theorem assignable_of_reordered {ρ σ : Ty → Ty → Prop} {a a' b b' : Ty}
    (apart : ∀ {j j' k k' : Ty}, ρ j j' → σ k k' → (j = k ↔ j' = k')) (ha : a'.DistinctFields)
    (hb : b'.DistinctFields) (ra : Reordered ρ σ a a') (rb : Reordered σ ρ b b')
    (h : a.assignable b = true) : a'.assignable b' = true :=
  ((Reordered.simulation apart).fits (fits_of_assignable h) ⟨ra, ha⟩ ⟨rb, hb⟩).assignable

/-- **Order matters for equality only.**  Reordering members and fields at any depth does not change
whether a type is assignable to another, as long as an intersection on the actual side and one on
the expected side are the same afterwards exactly if they were the same before. -/
theorem assignable_reordered {ρ σ : Ty → Ty → Prop} {a a' b b' : Ty}
    (apart : ∀ {j j' k k' : Ty}, ρ j j' → σ k k' → (j = k ↔ j' = k')) (ha : a.DistinctFields)
    (hb : b.DistinctFields) (ra : Reordered ρ σ a a') (rb : Reordered σ ρ b b') :
    a'.assignable b' = a.assignable b := by
  rw [Bool.eq_iff_iff]
  constructor
  · exact assignable_of_reordered (fun hj hk => (apart hj hk).symm) ha hb ra.symm rb.symm
  · exact assignable_of_reordered apart (ra.keeps ha) (rb.keeps hb) ra rb

/-! ## Two members or fields in the other order -/

/-- What has two fields, as an intersection. -/
def bothFields (f g : Field) : Ty := .intersection [.object [f], .object [g]]

section Swapped

variable {ρ σ : Ty → Ty → Prop} {t u : Ty} {f g : Field}

/-- The members of a union may change places. -/
theorem reordered_union_pair (ht : t.isAtom = true) (hu : u.isAtom = true) :
    Reordered ρ σ (.union [t, u]) (.union [u, t]) := by
  refine .union rfl (fun x hx => ?_) (.swap _ _ _)
  rcases List.mem_pair.mp hx with rfl | rfl
  · exact .atom ht
  · exact .atom hu

/-- The fields of an object may change places. -/
theorem reordered_object_pair (hf : f.ty.isAtom = true) (hg : g.ty.isAtom = true) :
    Reordered ρ σ (.object [f, g]) (.object [g, f]) := by
  refine .object rfl (fun x hx => ?_) (.swap _ _ _)
  rcases List.mem_pair.mp hx with rfl | rfl
  · exact .atom hf
  · exact .atom hg

theorem reordered_bothFields (hf : f.ty.isAtom = true) (hg : g.ty.isAtom = true)
    (allowed : ρ (bothFields f g) (bothFields g f)) :
    Reordered ρ σ (bothFields f g) (bothFields g f) := by
  have single {h : Field} (hh : h.ty.isAtom = true) :
      Reordered ρ σ (.object [h]) (.object [h]) := by
    refine .object rfl (fun x hx => ?_) (.refl _)
    obtain rfl := List.mem_singleton.mp hx
    exact .atom hh
  refine .intersection rfl (fun x hx => ?_) (.swap _ _ _) allowed
  rcases List.mem_pair.mp hx with rfl | rfl
  · exact single hf
  · exact single hg

end Swapped

/-- Callbacks whose parameters and results are reordered; the intersection among them stands on the
expected side only, so it is free to change. -/
theorem assignable_reordered_callback :
    let x : Field := ⟨"x", .number⟩
    let y : Field := ⟨"y", .string⟩
    let a := function [bothFields x y] (.union [.number, .string])
    let a' := function [bothFields y x] (.union [.string, .number])
    let b := function [.object [x, y]] (.union [.string, .number])
    let b' := function [.object [y, x]] (.union [.number, .string])
    a.DistinctFields ∧ b.DistinctFields ∧ a.assignable b = true ∧
      a'.assignable b' = a.assignable b := by
  intro x y a a' b b'
  have ha : a.DistinctFields := by decide
  have hb : b.DistinctFields := by decide
  have ra : Reordered (fun _ _ => False) (fun _ _ => True) a a' := by
    refine .function rfl (fun z hz => ?_) (reordered_union_pair rfl rfl)
    obtain rfl := List.mem_singleton.mp hz
    exact reordered_bothFields rfl rfl trivial
  have rb : Reordered (fun _ _ => True) (fun _ _ => False) b b' := by
    refine .function rfl (fun z hz => ?_) (reordered_union_pair rfl rfl)
    obtain rfl := List.mem_singleton.mp hz
    exact reordered_object_pair rfl rfl
  exact ⟨ha, hb, by decide +kernel, assignable_reordered (fun h => h.elim) ha hb ra rb⟩

/-- An intersection is assignable to itself, but not in another order. -/
theorem reordered_intersection_refused :
    let t := bothFields ⟨"x", .number⟩ ⟨"y", .string⟩
    let t' := bothFields ⟨"y", .string⟩ ⟨"x", .number⟩
    t.DistinctFields ∧ Reordered (fun _ _ => True) (fun _ _ => True) t t' ∧
      t.assignable t = true ∧ t'.assignable t = false := by
  refine ⟨by decide, reordered_bothFields rfl rfl trivial, by decide +kernel, by decide +kernel⟩

end Ty
end StructuralTyping
