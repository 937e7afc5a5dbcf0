import Mathlib.Data.List.Nodup
import StructuralTyping.Proofs.AssignabilityTransitivity
import StructuralTyping.Ty.Combine

/-! # Joins of types

Where several types come together, a union is formed.  Under assignability the union of a list is
its join: it fits wherever all of its types fit, and every one of them fits it (`Ty.unionOf_join`).

The type of a value with a fallback is a join too, of what is left of the type of the value without
null and undefined and of the type of the fallback (`Ty.coalesce_join`).  A fallback that fits what
is left is not mentioned in the join, so that the join is the least one rests on transitivity, and
`unknown` must not occur.

Null and undefined are taken out of the members of a union, but not out of the unions among its
members.  So what is left accepts them exactly if one of those unions does
(`Ty.withoutNullish_exact`).
-/
namespace StructuralTyping
namespace Ty

/-! ## The distinct types of a list -/

/-- `ds` has the types of `ts`, each of them once, in the order of their first occurrence. -/
structure FirstOccurrences (ts ds : List Ty) : Prop where
  mem : ∀ t, t ∈ ds ↔ t ∈ ts
  nodup : ds.Nodup
  order : ds.Pairwise fun a b => ts.idxOf a < ts.idxOf b

namespace FirstOccurrences

variable {ts ds : List Ty} {t : Ty}

theorem nil : FirstOccurrences [] [] where
  mem _ := Iff.rfl
  nodup := .nil
  order := .nil

/-- More types behind `ts` do not change where its types occur first. -/
theorem order_append (h : FirstOccurrences ts ds) (later : List Ty) :
    ds.Pairwise fun a b => (ts ++ later).idxOf a < (ts ++ later).idxOf b := by
  refine h.order.imp_of_mem fun {a b} ha hb hab => ?_
  rw [List.idxOf_append_of_mem ((h.mem a).mp ha), List.idxOf_append_of_mem ((h.mem b).mp hb)]
  exact hab

/-- A type that occurred before is passed over. -/
theorem seen (h : FirstOccurrences ts ds) (ht : t ∈ ds) : FirstOccurrences (ts ++ [t]) ds where
  mem u := by
    rw [List.mem_append, List.mem_singleton, h.mem]
    refine ⟨Or.inl, fun hu => ?_⟩
    rcases hu with hu | rfl
    · exact hu
    · exact (h.mem _).mp ht
  nodup := h.nodup
  order := h.order_append [t]

/-- A type that did not occur before comes last. -/
theorem fresh (h : FirstOccurrences ts ds) (ht : t ∉ ds) :
    FirstOccurrences (ts ++ [t]) (ds ++ [t]) where
  mem u := by simp only [List.mem_append, h.mem]
  nodup := by
    refine List.nodup_append.mpr ⟨h.nodup, List.nodup_singleton t, fun a ha b hb => ?_⟩
    obtain rfl := List.mem_singleton.mp hb
    exact fun hab => ht (hab ▸ ha)
  order := by
    refine List.pairwise_append.mpr ⟨h.order_append [t], List.pairwise_singleton _ t,
      fun a ha b hb => ?_⟩
    obtain rfl := List.mem_singleton.mp hb
    have first := List.idxOf_lt_length_of_mem ((h.mem a).mp ha)
    have new : b ∉ ts := fun hb => ht ((h.mem b).mpr hb)
    rw [List.idxOf_append_of_mem ((h.mem a).mp ha), List.idxOf_append_of_notMem new]
    omega

/-- Going on through a list keeps what it finds in order. -/
theorem distinct (h : FirstOccurrences ts ds) (rest : List Ty) :
    FirstOccurrences (ts ++ rest) (Ty.distinct ds rest) := by
  induction rest generalizing ts ds with
  | nil => rwa [List.append_nil]
  | cons t rest ih =>
    rw [Ty.distinct, List.append_cons]
    split
    · rename_i ht
      exact ih (h.seen ht)
    · rename_i ht
      exact ih (h.fresh ht)

end FirstOccurrences

/-- The loop that leaves out repetitions keeps the first occurrences. -/
theorem distinct_firstOccurrences (ts : List Ty) : FirstOccurrences ts (distinct [] ts) :=
  FirstOccurrences.nil.distinct ts

/-! ## Unions of members -/

section Members

variable {ms : List Ty} {a m t u : Ty}

/-- Only no members at all make no type. -/
theorem ofMembers_eq_none (h : ofMembers ms = none) : ms = [] := by
  match ms with
  | [] => rfl
  | [_] => cases h
  | _ :: _ :: _ => cases h

/-- Members that stand for one type are that type, or the members of a union. -/
theorem ofMembers_eq_some (h : ofMembers ms = some u) : ms = [u] ∨ u = .union ms := by
  match ms with
  | [] => cases h
  | [m] =>
    obtain rfl := Option.some.inj h
    exact .inl rfl
  | _ :: _ :: _ => exact .inr (Option.some.inj h).symm

/-- What members make fits exactly where all of them fit. -/
theorem ofMembers_assignable_iff (h : ofMembers ms = some u) :
    u.assignable t = true ↔ ∀ m ∈ ms, m.assignable t = true := by
  rcases ofMembers_eq_some h with rfl | rfl
  · rw [List.forall_mem_singleton]
  · exact union_assignable_iff

/-- What fits one member fits what the members make. -/
theorem assignable_ofMembers (h : ofMembers ms = some u) (hm : m ∈ ms)
    (fits : a.assignable m = true) : a.assignable u = true := by
  rcases ofMembers_eq_some h with rfl | rfl
  · rwa [← List.mem_singleton.mp hm]
  · exact assignable_union hm fits

end Members

/-- **The union of a list is its join.**  It is assignable to the types that all of the list are
assignable to, and all of the list are assignable to it.  If at least two types of the list differ,
it is the union of the types of the list, each once and in the order of first occurrence. -/
theorem unionOf_join (ts : List Ty) :
    (∀ t, (unionOf ts).assignable t = true ↔ ∀ u ∈ ts, u.assignable t = true) ∧
    (∀ u ∈ ts, u.assignable (unionOf ts) = true) ∧
    ((∃ a ∈ ts, ∃ b ∈ ts, a ≠ b) → ∃ ds, unionOf ts = .union ds ∧ FirstOccurrences ts ds) := by
  have found := distinct_firstOccurrences ts
  unfold unionOf
  cases hu : ofMembers (distinct [] ts) with
  | none =>
    -- without types the union is unknown, which is assignable both ways
    have empty : ∀ u, u ∉ ts := by
      intro u hts
      have hd := (found.mem u).mpr hts
      rw [ofMembers_eq_none hu] at hd
      exact List.not_mem_nil hd
    refine ⟨fun t => ?_, fun u hts => absurd hts (empty u), ?_⟩
    · exact ⟨fun _ u hts => absurd hts (empty u), fun _ => unknown_assignable t⟩
    · rintro ⟨a, ha, -⟩
      exact absurd ha (empty a)
  | some u =>
    rw [Option.getD_some]
    refine ⟨fun t => ?_, fun v hv => ?_, ?_⟩
    · rw [ofMembers_assignable_iff hu]
      exact forall_congr' fun m => imp_congr_left (found.mem m)
    · exact assignable_ofMembers hu ((found.mem v).mpr hv) (assignable_refl v)
    · rintro ⟨a, ha, b, hb, differ⟩
      rcases ofMembers_eq_some hu with single | rfl
      · have ha := (found.mem a).mpr ha
        have hb := (found.mem b).mpr hb
        rw [single, List.mem_singleton] at ha hb
        exact absurd (ha.trans hb.symm) differ
      · exact ⟨_, rfl, found⟩

/-- A list with a repeated type and a union among its types. -/
def repeating : List Ty := [.string, .union [.null, .number], .string, .null]

/-- Four types with one repetition make a union of three. -/
theorem unionOf_join_repeating :
    (∃ a ∈ repeating, ∃ b ∈ repeating, a ≠ b) ∧
    ∃ ds, unionOf repeating = .union ds ∧ FirstOccurrences repeating ds := by
  have differ : ∃ a ∈ repeating, ∃ b ∈ repeating, a ≠ b :=
    ⟨.string, by decide, .null, by decide, by decide⟩
  exact ⟨differ, (unionOf_join repeating).2.2 differ⟩

/-! ## Values with a fallback -/

section Fallback

variable {l r k t : Ty}

/-- Tracked members make a tracked type. -/
theorem tracked_ofMembers {ms : List Ty} {u : Ty} (h : ofMembers ms = some u)
    (tracked : ∀ m ∈ ms, m.Tracked) : u.Tracked := by
  rcases ofMembers_eq_some h with rfl | rfl
  · exact tracked u (List.mem_singleton_self u)
  · exact Bool.or_eq_false_iff.mpr ⟨rfl, anyPartOfList_eq_false_iff.mpr tracked⟩

/-- Taking null and undefined out brings no unknown type in. -/
theorem tracked_withoutNullish (h : l.withoutNullish? = some k) (tracked : l.Tracked) :
    k.Tracked := by
  unfold withoutNullish? at h
  split at h
  · rename_i ms
    refine tracked_ofMembers h fun m hm => ?_
    exact (Component.unionMember (List.mem_filter.mp hm).1).tracked tracked
  · split at h
    · cases h
    · obtain rfl := Option.some.inj h
      exact tracked

/-- What a fallback makes of the rest of the type on its left. -/
theorem coalesce_cases (h : l.withoutNullish? = some k) :
    (k = .unknown ∨ r = .unknown) ∧ l.coalesce r = .unknown ∨
    r.assignable k = true ∧ l.coalesce r = k ∨
    l.coalesce r = .union [k, r] := by
  simp only [coalesce, h]
  by_cases vague : k = .unknown ∨ r = .unknown
  · rw [if_pos vague]
    exact .inl ⟨vague, rfl⟩
  · rw [if_neg vague]
    by_cases fits : r.assignable k = true
    · rw [if_pos fits]
      exact .inr (.inl ⟨fits, rfl⟩)
    · rw [if_neg fits]
      exact .inr (.inr rfl)

/-- Where nothing is left besides `null` and `undefined`, the right operand decides. -/
theorem coalesce_of_none (h : l.withoutNullish? = none) : l.coalesce r = r := by
  simp only [coalesce, h]

/-- Both sides fit the type of a value with a fallback. -/
theorem assignable_coalesce (h : l.withoutNullish? = some k) :
    r.assignable (l.coalesce r) = true ∧ k.assignable (l.coalesce r) = true := by
  rcases coalesce_cases h with ⟨-, same⟩ | ⟨fits, same⟩ | same
  · rw [same]
    exact ⟨assignable_unknown r, assignable_unknown k⟩
  · rw [same]
    exact ⟨fits, assignable_refl k⟩
  · rw [same]
    exact ⟨assignable_union (List.mem_cons_of_mem k List.mem_cons_self) (assignable_refl r),
      assignable_union List.mem_cons_self (assignable_refl k)⟩

/-- Where `unknown` does not occur, the type of a value with a fallback is no wider than needed. -/
theorem coalesce_assignable_iff (h : l.withoutNullish? = some k) (hl : l.Tracked)
    (hr : r.Tracked) :
    (l.coalesce r).assignable t = true ↔ r.assignable t = true ∧ k.assignable t = true := by
  have hk := tracked_withoutNullish h hl
  rcases coalesce_cases (r := r) h with ⟨rfl | rfl, -⟩ | ⟨fits, same⟩ | same
  · exact absurd hk not_tracked_unknown
  · exact absurd hr not_tracked_unknown
  · rw [same]
    refine ⟨fun hkt => ⟨?_, hkt⟩, And.right⟩
    exact ((fits_of_assignable fits).trans hk (fits_of_assignable hkt)).assignable
  · rw [same, union_assignable_iff, List.forall_mem_cons, List.forall_mem_singleton]
    exact and_comm

end Fallback

/-- **A value with a fallback has the join of its two types.**  The fallback fits it, and so does
what is left of the type on the left without null and undefined.  Where `unknown` occurs on neither
side, it is assignable to the types that these two are assignable to. -/
theorem coalesce_join (l r : Ty) :
    r.assignable (l.coalesce r) = true ∧
    (∀ k, l.withoutNullish? = some k → k.assignable (l.coalesce r) = true) ∧
    (l.Tracked → r.Tracked → ∀ t, (l.coalesce r).assignable t = true ↔
      r.assignable t = true ∧ ∀ k, l.withoutNullish? = some k → k.assignable t = true) := by
  cases h : l.withoutNullish? with
  | none =>
    rw [coalesce_of_none h]
    refine ⟨assignable_refl r, fun k hk => ?_, fun _ _ t => ?_⟩
    · cases hk
    · exact ⟨fun hrt => ⟨hrt, fun k hk => by cases hk⟩, And.left⟩
  | some k =>
    have bounds := assignable_coalesce (r := r) h
    refine ⟨bounds.1, fun k' hk => ?_, fun hl hr t => ?_⟩
    · rw [← Option.some.inj hk]
      exact bounds.2
    · rw [coalesce_assignable_iff h hl hr]
      refine and_congr_right fun _ => ⟨fun hkt k' hk => ?_, fun hkt => hkt k rfl⟩
      rw [← Option.some.inj hk]
      exact hkt

/-- A fallback that the left side does not cover. -/
theorem coalesce_join_optional :
    (union [.number, .null]).Tracked ∧ (literal (.boolean true)).Tracked ∧
    (union [.number, .null]).withoutNullish? = some .number ∧
    ((coalesce (.union [.number, .null]) (.literal (.boolean true))).assignable
        (.union [.boolean, .number]) = true ↔
      (literal (.boolean true)).assignable (.union [.boolean, .number]) = true ∧
      ∀ k, (union [.number, .null]).withoutNullish? = some k →
        k.assignable (.union [.boolean, .number]) = true) :=
  ⟨by decide, by decide, by decide, (coalesce_join _ _).2.2 (by decide) (by decide) _⟩

/-! ## What accepts null and undefined -/

/-- Whether a type is an intersection itself, not merely made of some. -/
def isIntersection : Ty → Bool
  | .intersection _ => true
  | _ => false

/-- No intersection occurs inside the type, at any depth. -/
def IntersectionFree (t : Ty) : Prop := t.anyPart isIntersection = false

instance (t : Ty) : Decidable t.IntersectionFree := inferInstanceAs (Decidable (_ = _))

/-- The parts of a type without intersections have none. -/
theorem Component.intersectionFree {c t : Ty} (hc : Component c t) (h : t.IntersectionFree) :
    c.IntersectionFree :=
  hc.anyPart_eq_false h

/-- Whether a type is a union itself, not merely made of some. -/
def isUnion : Ty → Bool
  | .union _ => true
  | _ => false

/-- The unions among the members of a union. -/
def innerUnions : Ty → List Ty
  | .union ms => ms.filter isUnion
  | _ => []

section Nullish

variable {n t r : Ty}

/-- A literal null or undefined has the type of null or undefined. -/
theorem isNullish_primitive {v : LiteralValue} (h : (literal v).isNullish = true) :
    v.primitive.isNullish = true := by
  cases v with
  | null => rfl
  | undefined => rfl
  | _ => cases h

theorem nullish_assignable (hn : n.isNullish = true) :
    n.assignable (.union [.null, .undefined]) = true := by
  have null : Ty.null.assignable (.union [.null, .undefined]) = true :=
    assignable_union List.mem_cons_self (assignable_refl _)
  have undefined : Ty.undefined.assignable (.union [.null, .undefined]) = true :=
    assignable_union (List.mem_cons_of_mem _ List.mem_cons_self) (assignable_refl _)
  cases n with
  | null => exact null
  | undefined => exact undefined
  | literal v =>
    cases v with
    | null => exact assignable_of_widen null
    | undefined => exact assignable_of_widen undefined
    | _ => cases hn
  | _ => cases hn

/-- What accepts null or undefined, and is neither of them, is a union. -/
theorem isUnion_of_nullish_fits (h : Fits n t) (hn : n.isNullish = true)
    (ht : t.isNullish = false) (tracked : t.Tracked) (plain : t.IntersectionFree) :
    t.isUnion = true := by
  induction h with
  | refl => cases hn.symm.trans ht
  | toUnknown => exact absurd tracked not_tracked_unknown
  | widening _ ih => exact ih (isNullish_primitive hn) ht tracked plain
  | unionRight _ _ => rfl
  | intersectionRight _ => cases plain
  | _ => cases hn

/-- A union accepts null or undefined through one of its members. -/
theorem exists_member_of_nullish_fits {ms : List Ty} (h : Fits n (.union ms))
    (hn : n.isNullish = true) : ∃ m ∈ ms, n.assignable m = true := by
  generalize hu : Ty.union ms = u at h
  induction h with
  | refl => subst hu; cases hn
  | toUnknown => cases hu
  | widening _ ih =>
    obtain ⟨m, hm, fits⟩ := ih (isNullish_primitive hn) hu
    exact ⟨m, hm, assignable_of_widen fits⟩
  | unionRight hm h =>
    cases hu
    exact ⟨_, hm, h.assignable⟩
  | intersectionRight _ => cases hu
  | _ => cases hn

/-- If a nullish type fits what the members make, it fits one of them. -/
theorem exists_member_of_nullish_ofMembers {ms : List Ty} (h : ofMembers ms = some r)
    (hn : n.isNullish = true) (fits : n.assignable r = true) :
    ∃ m ∈ ms, n.assignable m = true := by
  rcases ofMembers_eq_some h with rfl | rfl
  · exact ⟨r, List.mem_singleton_self r, fits⟩
  · exact exists_member_of_nullish_fits (fits_of_assignable fits) hn

theorem exists_of_isUnion (h : t.isUnion = true) : ∃ ms, t = .union ms := by
  cases t with
  | union ms => exact ⟨ms, rfl⟩
  | _ => cases h

/-- A type that is no union is taken away as a whole or not at all. -/
theorem withoutNullish_of_not_union (h : t.isUnion = false) :
    t.withoutNullish? = if t.isNullish then none else some t := by
  cases t with
  | union _ => cases h
  | _ => rfl

theorem innerUnions_of_not_union (h : t.isUnion = false) : t.innerUnions = [] := by
  cases t with
  | union _ => cases h
  | _ => rfl

/-- A union without its null and undefined members accepts these through the unions among its
members. -/
theorem nullish_assignable_ofMembers_iff {ms : List Ty}
    (h : ofMembers (ms.filter fun m => !m.isNullish) = some r) (tracked : (union ms).Tracked)
    (plain : (union ms).IntersectionFree) (hn : n.isNullish = true) :
    n.assignable r = true ↔ ∃ m ∈ ms.filter isUnion, n.assignable m = true := by
  constructor
  · intro fits
    obtain ⟨m, hm, fits⟩ := exists_member_of_nullish_ofMembers h hn fits
    obtain ⟨hm, proper⟩ := List.mem_filter.mp hm
    have component := Component.unionMember hm
    have isUnion : m.isUnion = true :=
      isUnion_of_nullish_fits (fits_of_assignable fits) hn (by simpa using proper)
        (component.tracked tracked) (component.intersectionFree plain)
    exact ⟨m, List.mem_filter.mpr ⟨hm, isUnion⟩, fits⟩
  · rintro ⟨m, hm, fits⟩
    obtain ⟨hm, isUnion⟩ := List.mem_filter.mp hm
    obtain ⟨inner, rfl⟩ := exists_of_isUnion isUnion
    exact assignable_ofMembers h (List.mem_filter.mpr ⟨hm, rfl⟩) fits

end Nullish

/-- **What is left without null and undefined.**  Take a type in which neither `unknown` nor an
intersection occurs.  If something is left of it without null and undefined, these are assignable to
what is left exactly through the unions among its members.  If nothing is left, the type is
assignable to the union of null and undefined. -/
theorem withoutNullish_exact {t : Ty} (tracked : t.Tracked) (plain : t.IntersectionFree) :
    (∀ r, t.withoutNullish? = some r → ∀ n : Ty, n.isNullish = true →
      (n.assignable r = true ↔ ∃ m ∈ t.innerUnions, n.assignable m = true)) ∧
    (t.withoutNullish? = none → t.assignable (.union [.null, .undefined]) = true) := by
  cases hu : t.isUnion with
  | true =>
    obtain ⟨ms, rfl⟩ := exists_of_isUnion hu
    refine ⟨fun r h n hn => nullish_assignable_ofMembers_iff h tracked plain hn, fun h => ?_⟩
    refine union_assignable_iff.mpr fun m hm => nullish_assignable ?_
    -- a member that is not nullish would be left over
    by_contra proper
    have left : m ∈ ms.filter fun m => !m.isNullish :=
      List.mem_filter.mpr ⟨hm, by simpa using proper⟩
    rw [ofMembers_eq_none h] at left
    exact List.not_mem_nil left
  | false =>
    rw [withoutNullish_of_not_union hu, innerUnions_of_not_union hu]
    by_cases nullish : t.isNullish = true
    · rw [if_pos nullish]
      refine ⟨fun r h => ?_, fun _ => nullish_assignable nullish⟩
      cases h
    · rw [if_neg nullish]
      refine ⟨fun r h n hn => ?_, fun h => ?_⟩
      · obtain rfl := Option.some.inj h
        refine ⟨fun fits => ?_, fun ⟨_, hm, _⟩ => absurd hm List.not_mem_nil⟩
        -- a nullish type fits a type that is not nullish only through a union
        have isUnion := isUnion_of_nullish_fits (fits_of_assignable fits) hn
          (Bool.eq_false_iff.mpr nullish) tracked plain
        cases hu.symm.trans isUnion
      · cases h

/-- A union with a union among its members that accepts undefined, but not null. -/
def partlyOptional : Ty := .union [.null, .string, .union [.undefined, .number]]

/-- A union inside a union keeps its `undefined`. -/
theorem withoutNullish_exact_partlyOptional :
    partlyOptional.Tracked ∧ partlyOptional.IntersectionFree ∧
    partlyOptional.withoutNullish? = some (.union [.string, .union [.undefined, .number]]) ∧
    ∀ n : Ty, n.isNullish = true →
      (n.assignable (.union [.string, .union [.undefined, .number]]) = true ↔
        ∃ m ∈ partlyOptional.innerUnions, n.assignable m = true) := by
  have tracked : partlyOptional.Tracked := by decide
  have plain : partlyOptional.IntersectionFree := by decide
  exact ⟨tracked, plain, rfl, (withoutNullish_exact tracked plain).1 _ rfl⟩

/-- **A union among the members keeps its null.**  Nothing but null and undefined fits the type, and
yet something is left of it, which accepts null. -/
theorem inner_null_kept :
    (union [.union [.null, .undefined], .null]).Tracked ∧
    (union [.union [.null, .undefined], .null]).IntersectionFree ∧
    (union [.union [.null, .undefined], .null]).withoutNullish? =
      some (.union [.null, .undefined]) ∧
    null.assignable (.union [.null, .undefined]) = true := by
  refine ⟨by decide, by decide, rfl, by decide +kernel⟩

end Ty
end StructuralTyping
