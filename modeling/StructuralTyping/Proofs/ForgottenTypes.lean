import StructuralTyping.Proofs.AssignabilitySimulation
import StructuralTyping.Proofs.CombinedTypes

/-! # Types with forgotten parts

`unknown` is assignable both ways, and it is so at every depth: if any parts of two types are
replaced by `unknown`, on each side others, what was assignable still is
(`Ty.assignable_of_forgets`).  A part may stand anywhere, in a parameter as well as in a result.

Two kinds of types are left out, since they are assignable to themselves only by being the same.  An
intersection on the actual side has no rule of its own, and in an object type with a repeated name
all fields of that name are looked up as the first one.
-/
namespace StructuralTyping
namespace Ty

/-- The second type is the first one with some parts, at any depth, replaced by `unknown`. -/
inductive Forgets : Ty → Ty → Prop
  | unknown (t : Ty) : Forgets t .unknown
  | atom {t : Ty} (h : t.isAtom = true) : Forgets t t
  | array {a b : Ty} (h : Forgets a b) : Forgets (.array a) (.array b)
  | object {fs gs : List Field} (names : gs.map Field.name = fs.map Field.name)
      (h : ∀ x ∈ fs.zip gs, Forgets x.1.ty x.2.ty) : Forgets (.object fs) (.object gs)
  | function {ps qs : List Ty} {r s : Ty} (arity : qs.length = ps.length)
      (hp : ∀ x ∈ ps.zip qs, Forgets x.1 x.2) (hr : Forgets r s) :
      Forgets (.function ps r) (.function qs s)
  | union {ms ns : List Ty} (length : ns.length = ms.length)
      (h : ∀ x ∈ ms.zip ns, Forgets x.1 x.2) : Forgets (.union ms) (.union ns)
  | intersection {ms ns : List Ty} (length : ns.length = ms.length)
      (h : ∀ x ∈ ms.zip ns, Forgets x.1 x.2) : Forgets (.intersection ms) (.intersection ns)

theorem not_intersectionFree_intersection (ms : List Ty) :
    ¬ (intersection ms).IntersectionFree := by
  intro free
  have here := (Bool.or_eq_false_iff.mp free).1
  exact absurd here (by simp [isIntersection])

/-- The first type has neither intersections nor repeated names, and parts of it were forgotten. -/
structure ForgetsWithin (t t' : Ty) : Prop where
  forgets : Forgets t t'
  distinct : t.DistinctFields
  free : t.IntersectionFree

namespace ForgetsWithin

variable {t t' : Ty}

/-- Forgetting within a type forgets within its parts. -/
theorem part {c c' : Ty} (h : ForgetsWithin t t') (hc : Component c t) (forgets : Forgets c c') :
    ForgetsWithin c c' :=
  ⟨forgets, h.distinct.component hc, hc.intersectionFree h.free⟩

/-- Every layer of the type corresponds to what is left of it. -/
theorem corresponds (h : ForgetsWithin t t') : Corresponds ForgetsWithin ForgetsWithin t t' := by
  cases h.forgets with
  | unknown => exact .forgotten t
  | atom atomic => exact .atom atomic
  | array he => exact .array (h.part (.element _) he)
  | object names hf =>
    obtain ⟨forth, back⟩ := Field.exists_partner names hf (.refl _)
    refine .object (names ▸ h.distinct.nodup) (fun f hf => ?_) (fun g hg => ?_)
    · obtain ⟨g, hg, name, hfg⟩ := forth f hf
      exact ⟨g, hg, name, h.part (.field hf) hfg⟩
    · obtain ⟨f, hf, name, hfg⟩ := back g hg
      exact ⟨f, hf, name.symm, h.part (.field hf) hfg⟩
  | function arity hp hr =>
    refine .function arity (fun x hx => ?_) (h.part (.result _ _) hr)
    exact h.part (.param (List.of_mem_zip hx).1 _) (hp x hx)
  | union length hm =>
    obtain ⟨forth, back⟩ := exists_partner length hm (.refl _)
    refine .union (fun m hm => ?_) (fun n hn => ?_)
    · obtain ⟨n, hn, hmn⟩ := forth m hm
      exact ⟨n, hn, h.part (.unionMember hm) hmn⟩
    · obtain ⟨m, hm, hmn⟩ := back n hn
      exact ⟨m, hm, h.part (.unionMember hm) hmn⟩
  | intersection => exact absurd h.free (not_intersectionFree_intersection _)

/-- Forgetting on both sides is a simulation of assignability. -/
theorem simulation : Simulation ForgetsWithin ForgetsWithin where
  actual h := h.corresponds
  expected h := h.corresponds
  atoms {t} atomic :=
    ⟨.atom atomic, .of_isAtom atomic,
      anyPart_eq_false_of_isAtom atomic (by cases t <;> simp_all [isAtom, isIntersection])⟩
  intersections h _ := absurd h.free (not_intersectionFree_intersection _)

end ForgetsWithin

/-- **Unknown is an escape hatch at every depth.**  Whatever parts of an actual and an expected type
are forgotten, the one stays assignable to the other. -/
theorem assignable_of_forgets {a a' b b' : Ty} (da : a.DistinctFields) (db : b.DistinctFields)
    (ia : a.IntersectionFree) (ib : b.IntersectionFree) (fa : Forgets a a') (fb : Forgets b b')
    (h : a.assignable b = true) : a'.assignable b' = true :=
  (ForgetsWithin.simulation.fits (fits_of_assignable h) ⟨fa, da, ia⟩ ⟨fb, db, ib⟩).assignable

/-- A task that takes one of two types and lists another. -/
def task (p q element tag : Ty) : Ty :=
  .object [⟨"run", .function [.union [p, q]] (.array element)⟩, ⟨"tag", tag⟩]

theorem forgets_task {p q element tag p' q' element' tag' : Ty} (hp : Forgets p p')
    (hq : Forgets q q') (he : Forgets element element') (ht : Forgets tag tag') :
    Forgets (task p q element tag) (task p' q' element' tag') := by
  refine .object rfl fun x hx => ?_
  rcases List.mem_pair.mp hx with rfl | rfl
  · refine .function rfl (fun y hy => ?_) (.array he)
    obtain rfl := List.mem_singleton.mp hy
    refine .union rfl fun z hz => ?_
    rcases List.mem_pair.mp hz with rfl | rfl
    · exact hp
    · exact hq
  · exact ht

/-- A type and itself, with parts of both forgotten that have nothing to do with each other. -/
theorem assignable_of_forgets_task :
    let a := task .number .string .number (.literal (.string "a"))
    let a' := task .unknown .string .number (.literal (.string "a"))
    let b' := task .number .string .unknown .unknown
    a.DistinctFields ∧ a.IntersectionFree ∧ Forgets a a' ∧ Forgets a b' ∧ a ≠ a' ∧ a ≠ b' ∧
      a.assignable a = true ∧ a'.assignable b' = true := by
  intro a a' b'
  have distinct : a.DistinctFields := by decide
  have free : a.IntersectionFree := by decide
  have fa : Forgets a a' := forgets_task (.unknown _) (.atom rfl) (.atom rfl) (.atom rfl)
  have fb : Forgets a b' := forgets_task (.atom rfl) (.atom rfl) (.unknown _) (.unknown _)
  exact ⟨distinct, free, fa, fb, by decide, by decide, assignable_refl a,
    assignable_of_forgets distinct distinct free free fa fb (assignable_refl a)⟩

end Ty
end StructuralTyping
