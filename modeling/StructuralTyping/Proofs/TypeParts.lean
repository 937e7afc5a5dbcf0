import StructuralTyping.Ty.Assignable

/-! # The parts of a type

A `Ty.Component` of a type stands directly inside it: an element, a field, a parameter, a result or
a member.  Components are smaller than the type (`Ty.Component.sizeOf_lt`), which is what every
induction over two or three types at once runs on.  `Ty.anyPart` looks for a property at any depth;
what holds of no part of a type holds of no part of a component
(`Ty.Component.anyPart_eq_false`).
-/
namespace StructuralTyping

/-- The field that a lookup finds is one of the fields. -/
theorem Field.mem_of_lookup {name : String} {fs : List Field} {t : Ty}
    (found : Field.lookup name fs = some t) : ⟨name, t⟩ ∈ fs := by
  induction fs with
  | nil => exact absurd found (by simp [Field.lookup])
  | cons f fs ih =>
    obtain ⟨n, u⟩ := f
    rw [Field.lookup] at found
    split at found
    · rename_i hn
      rw [hn, Option.some.inj found]
      exact List.mem_cons_self
    · exact List.mem_cons_of_mem _ (ih found)

/-- When no name is repeated, a lookup finds every field. -/
theorem Field.lookup_of_mem {f : Field} {fs : List Field} (nodup : (fs.map Field.name).Nodup)
    (hf : f ∈ fs) : Field.lookup f.name fs = some f.ty := by
  induction fs with
  | nil => exact absurd hf List.not_mem_nil
  | cons g fs ih =>
    obtain ⟨n, u⟩ := g
    obtain ⟨fresh, nodup⟩ := List.nodup_cons.mp nodup
    rcases List.mem_cons.mp hf with rfl | later
    · exact if_pos rfl
    · have there : f.name ∈ fs.map Field.name := List.mem_map_of_mem later
      have other : n ≠ f.name := by
        rintro rfl
        exact fresh there
      rw [Field.lookup, if_neg other]
      exact ih nodup later

namespace Ty

/-- The first type stands directly inside the second. -/
inductive Component : Ty → Ty → Prop
  | element (e : Ty) : Component e (.array e)
  | field {f : Field} {fs : List Field} (hf : f ∈ fs) : Component f.ty (.object fs)
  | param {p : Ty} {ps : List Ty} (hp : p ∈ ps) (r : Ty) : Component p (.function ps r)
  | result (ps : List Ty) (r : Ty) : Component r (.function ps r)
  | unionMember {m : Ty} {ms : List Ty} (hm : m ∈ ms) : Component m (.union ms)
  | intersectionMember {m : Ty} {ms : List Ty} (hm : m ∈ ms) : Component m (.intersection ms)

/-- The type that a lookup finds stands directly inside the object type. -/
theorem Component.lookup {name : String} {fs : List Field} {t : Ty}
    (found : Field.lookup name fs = some t) : Component t (.object fs) :=
  Component.field (Field.mem_of_lookup found)

theorem sizeOf_pos (t : Ty) : 0 < sizeOf t := by
  cases t <;> grind

/-- Parts are smaller, which bounds every induction over types. -/
theorem Component.sizeOf_lt {c t : Ty} (h : Component c t) : sizeOf c < sizeOf t := by
  cases h with
  | element => simp
  | @field f fs hf =>
    have hlt := List.sizeOf_lt_of_mem hf
    obtain ⟨name, u⟩ := f
    rw [Field.mk.sizeOf_spec] at hlt
    rw [object.sizeOf_spec]
    show sizeOf u < _
    omega
  | param hp =>
    have := List.sizeOf_lt_of_mem hp
    rw [function.sizeOf_spec]
    omega
  | result => rw [function.sizeOf_spec]; omega
  | unionMember hm =>
    have := List.sizeOf_lt_of_mem hm
    rw [union.sizeOf_spec]
    omega
  | intersectionMember hm =>
    have := List.sizeOf_lt_of_mem hm
    rw [intersection.sizeOf_spec]
    omega

mutual

/-- Whether a type, or one at any depth inside it, has a property. -/
def anyPart (p : Ty → Bool) : Ty → Bool
  | .array e => p (.array e) || anyPart p e
  | .object fs => p (.object fs) || anyPartOfFields p fs
  | .function ps r => p (.function ps r) || anyPartOfList p ps || anyPart p r
  | .union ms => p (.union ms) || anyPartOfList p ms
  | .intersection ms => p (.intersection ms) || anyPartOfList p ms
  | t => p t

/-- Whether a part of one of the types has the property. -/
def anyPartOfList (p : Ty → Bool) : List Ty → Bool
  | [] => false
  | t :: rest => anyPart p t || anyPartOfList p rest

/-- Whether a part of the type of one of the fields has the property. -/
def anyPartOfFields (p : Ty → Bool) : List Field → Bool
  | [] => false
  | ⟨_, t⟩ :: rest => anyPart p t || anyPartOfFields p rest

end

/-- No type of a list has such a part exactly if none of them has. -/
theorem anyPartOfList_eq_false_iff {p : Ty → Bool} {ts : List Ty} :
    anyPartOfList p ts = false ↔ ∀ t ∈ ts, anyPart p t = false := by
  induction ts with
  | nil => simp [anyPartOfList]
  | cons t ts ih => simp [anyPartOfList, ih]

theorem anyPartOfFields_eq_false_iff {p : Ty → Bool} {fs : List Field} :
    anyPartOfFields p fs = false ↔ ∀ f ∈ fs, anyPart p f.ty = false := by
  induction fs with
  | nil => simp [anyPartOfFields]
  | cons f fs ih => cases f; simp [anyPartOfFields, ih]

/-- What no part of a type has, no part of its parts has. -/
theorem Component.anyPart_eq_false {p : Ty → Bool} {c t : Ty} (hc : Component c t)
    (h : t.anyPart p = false) : c.anyPart p = false := by
  cases hc with
  | element => exact (Bool.or_eq_false_iff.mp h).2
  | field hf => exact anyPartOfFields_eq_false_iff.mp (Bool.or_eq_false_iff.mp h).2 _ hf
  | param hp =>
    have hps := (Bool.or_eq_false_iff.mp (Bool.or_eq_false_iff.mp h).1).2
    exact anyPartOfList_eq_false_iff.mp hps _ hp
  | result => exact (Bool.or_eq_false_iff.mp h).2
  | unionMember hm => exact anyPartOfList_eq_false_iff.mp (Bool.or_eq_false_iff.mp h).2 _ hm
  | intersectionMember hm =>
    exact anyPartOfList_eq_false_iff.mp (Bool.or_eq_false_iff.mp h).2 _ hm

/-- A type without the property whose parts are free of it is free of it. -/
theorem anyPart_eq_false_of_components {p : Ty → Bool} {t : Ty} (here : p t = false)
    (h : ∀ c, Component c t → c.anyPart p = false) : t.anyPart p = false := by
  cases t with
  | array e => exact Bool.or_eq_false_iff.mpr ⟨here, h e (.element e)⟩
  | object fs =>
    have fields := anyPartOfFields_eq_false_iff.mpr fun f hf => h f.ty (.field hf)
    exact Bool.or_eq_false_iff.mpr ⟨here, fields⟩
  | function ps r =>
    have params := anyPartOfList_eq_false_iff.mpr fun q hq => h q (.param hq r)
    have first := Bool.or_eq_false_iff.mpr ⟨here, params⟩
    exact Bool.or_eq_false_iff.mpr ⟨first, h r (.result ps r)⟩
  | union ms =>
    have members := anyPartOfList_eq_false_iff.mpr fun m hm => h m (.unionMember hm)
    exact Bool.or_eq_false_iff.mpr ⟨here, members⟩
  | intersection ms =>
    have members := anyPartOfList_eq_false_iff.mpr fun m hm => h m (.intersectionMember hm)
    exact Bool.or_eq_false_iff.mpr ⟨here, members⟩
  | _ => exact here

end Ty
end StructuralTyping
