import StructuralTyping.Proofs.ScopeDiscipline

/-! # What annotations mean

`Scopes.resolve` goes through a written type and stops at the first name that stands for nothing.
The names that count are its *references*, from left to right; those in the arguments of an
application are not among them.  This module says what comes of the references alone
(`Scopes.annotation_meaning`): the first one without a meaning is at fault, and if there is none the
type is what is written, with each reference read as what it stands for.

`Scopes.Means` is the meaning of a name as a set of rules: a keyword, else the innermost type
parameter, else the alias.  Since a meaning is a type, in which there are no names any more, it
stays what it is when aliases are defined anew.  Scopes in which the references stand for the same
types agree on the annotation (`Scopes.resolve_congr_of_references`).
-/
namespace StructuralTyping

/-- A name in a written type. -/
structure TypeReference where
  span : Span
  name : String

namespace TypeExpr

mutual

/-- The names in a written type, from left to right, without those in the arguments of an
application. -/
def references : Node TypeExpr → List TypeReference
  | ⟨_, .keyword _, _⟩ => []
  | ⟨span, .named name, _⟩ => [⟨span, name⟩]
  | ⟨_, .literal _, _⟩ => []
  | ⟨_, .array element, _⟩ => references element
  | ⟨_, .object fields, _⟩ => fieldReferences fields
  | ⟨_, .function params returns, _⟩ => allReferences params ++ references returns
  | ⟨_, .union members, _⟩ => allReferences members
  | ⟨_, .intersection members, _⟩ => allReferences members
  | ⟨_, .apply base _, _⟩ => references base

/-- The mentions in a list of annotations, from left to right. -/
def allReferences : List (Node TypeExpr) → List TypeReference
  | [] => []
  | t :: rest => references t ++ allReferences rest

/-- The mentions in the annotations of fields. -/
def fieldReferences : List TypeField → List TypeReference
  | [] => []
  | ⟨_, t⟩ :: rest => references t ++ fieldReferences rest

end

mutual

/-- The type that is written, with each reference read as `meaning` says. -/
def reading (meaning : String → Ty) : Node TypeExpr → Ty
  | ⟨_, .keyword k, _⟩ => k.toTy
  | ⟨_, .named name, _⟩ => meaning name
  | ⟨_, .literal v, _⟩ => .literal v
  | ⟨_, .array element, _⟩ => .array (reading meaning element)
  | ⟨_, .object fields, _⟩ => .object (fieldReadings meaning fields)
  | ⟨_, .function params returns, _⟩ =>
    .function (allReadings meaning params) (reading meaning returns)
  | ⟨_, .union members, _⟩ => .union (allReadings meaning members)
  | ⟨_, .intersection members, _⟩ => .intersection (allReadings meaning members)
  | ⟨_, .apply base _, _⟩ => reading meaning base

/-- The types that annotations in a list stand for. -/
def allReadings (meaning : String → Ty) : List (Node TypeExpr) → List Ty
  | [] => []
  | t :: rest => reading meaning t :: allReadings meaning rest

/-- The types that the annotations of fields stand for, under the names of the fields. -/
def fieldReadings (meaning : String → Ty) : List TypeField → List Field
  | [] => []
  | ⟨name, t⟩ :: rest => ⟨name, reading meaning t⟩ :: fieldReadings meaning rest

end

mutual

/-- Only the meanings of the references enter into a reading. -/
theorem reading_congr {m m' : String → Ty} : ∀ t : Node TypeExpr,
    (∀ r ∈ references t, m r.name = m' r.name) → reading m t = reading m' t
  | ⟨_, .keyword _, _⟩, _ => by rw [reading, reading]
  | ⟨span, .named name, _⟩, same => by
    rw [references] at same
    rw [reading, reading]
    exact same ⟨span, name⟩ List.mem_cons_self
  | ⟨_, .literal _, _⟩, _ => by rw [reading, reading]
  | ⟨_, .array element, _⟩, same => by
    rw [references] at same
    rw [reading, reading, reading_congr element same]
  | ⟨_, .object fields, _⟩, same => by
    rw [references] at same
    rw [reading, reading, fieldReadings_congr fields same]
  | ⟨_, .function params returns, _⟩, same => by
    rw [references, List.forall_mem_append] at same
    rw [reading, reading, allReadings_congr params same.1, reading_congr returns same.2]
  | ⟨_, .union members, _⟩, same => by
    rw [references] at same
    rw [reading, reading, allReadings_congr members same]
  | ⟨_, .intersection members, _⟩, same => by
    rw [references] at same
    rw [reading, reading, allReadings_congr members same]
  | ⟨_, .apply base _, _⟩, same => by
    rw [references] at same
    rw [reading, reading, reading_congr base same]

theorem allReadings_congr {m m' : String → Ty} : ∀ ts : List (Node TypeExpr),
    (∀ r ∈ allReferences ts, m r.name = m' r.name) → allReadings m ts = allReadings m' ts
  | [], _ => by rw [allReadings, allReadings]
  | t :: rest, same => by
    rw [allReferences, List.forall_mem_append] at same
    rw [allReadings, allReadings, reading_congr t same.1, allReadings_congr rest same.2]

theorem fieldReadings_congr {m m' : String → Ty} : ∀ fs : List TypeField,
    (∀ r ∈ fieldReferences fs, m r.name = m' r.name) → fieldReadings m fs = fieldReadings m' fs
  | [], _ => by rw [fieldReadings, fieldReadings]
  | ⟨_, t⟩ :: rest, same => by
    rw [fieldReferences, List.forall_mem_append] at same
    rw [fieldReadings, fieldReadings, reading_congr t same.1, fieldReadings_congr rest same.2]

end

end TypeExpr

namespace Scopes

open TypeExpr

/-! ## The meaning of a name -/

/-- What a name stands for. -/
inductive Means (s : Scopes) (name : String) : Ty → Prop where
  | keyword {k : Keyword} (found : Keyword.ofName? name = some k) : Means s name k.toTy
  /-- The innermost scope that has a type parameter of that name counts. -/
  | typeParam {inside around : List Frame} {f : Frame} {t : Ty}
      (none : Keyword.ofName? name = none) (frames : s.frames = inside ++ f :: around)
      (hidden : ∀ g ∈ inside, g.typeParams.lookup name = Option.none)
      (found : f.typeParams.lookup name = some t) : Means s name t
  | aliased {t : Ty} (none : Keyword.ofName? name = none)
      (unbound : ∀ f ∈ s.frames, f.typeParams.lookup name = Option.none)
      (found : s.aliases.lookup name = some t) : Means s name t

/-- The lookup finds exactly what the name means. -/
theorem typeNamed?_eq_some_iff {s : Scopes} {name : String} {t : Ty} :
    s.typeNamed? name = some t ↔ s.Means name t := by
  unfold typeNamed?
  cases keyword : Keyword.ofName? name with
  | some k =>
    constructor
    · rintro ⟨⟩
      exact .keyword keyword
    · rintro (found | ⟨none, -⟩ | ⟨none, -⟩)
      · rw [Option.some.inj (keyword.symm.trans found)]
      · simp [keyword] at none
      · simp [keyword] at none
  | none =>
    cases param : s.typeParam? name with
    | some u =>
      obtain ⟨inside, f, around, frames, found, hidden⟩ := List.findSome?_eq_some_iff.mp param
      constructor
      · rintro ⟨⟩
        exact .typeParam keyword frames hidden found
      · rintro (found | ⟨-, frames', hidden', found'⟩ | ⟨-, unbound, -⟩)
        · simp [keyword] at found
        · exact param.symm.trans
            (List.findSome?_eq_some_iff.mpr ⟨_, _, _, frames', found', hidden'⟩)
        · have free := unbound f (by simp [frames])
          simp [free] at found
    | none =>
      have unbound := List.findSome?_eq_none_iff.mp param
      constructor
      · exact .aliased keyword unbound
      · rintro (found | ⟨-, frames, -, found⟩ | ⟨-, -, found⟩)
        · simp [keyword] at found
        · have free := unbound _ (frames ▸ List.mem_append_right _ List.mem_cons_self)
          simp [free] at found
        · exact found

/-- The lookup fails exactly if the name means nothing. -/
theorem typeNamed?_eq_none_iff {s : Scopes} {name : String} :
    s.typeNamed? name = none ↔ ∀ t, ¬ s.Means name t := by
  rw [Option.eq_none_iff_forall_ne_some]
  exact forall_congr' fun t => not_congr typeNamed?_eq_some_iff

section Congruence

variable {s s' : Scopes}

/-- A type parameter hides whatever the scopes around it say about its name. -/
theorem typeNamed?_bindTypeParam_self (s s' : Scopes) (name : String) (t : Ty) :
    (s.bindTypeParam name t).typeNamed? name = (s'.bindTypeParam name t).typeNamed? name := by
  rw [typeNamed?, typeNamed?, typeParam?_bindTypeParam, typeParam?_bindTypeParam]

/-- A type parameter says nothing about other names. -/
theorem typeNamed?_bindTypeParam_of_ne {name other : String} (ne : other ≠ name) (s : Scopes)
    (t : Ty) : (s.bindTypeParam name t).typeNamed? other = s.typeNamed? other := by
  rw [typeNamed?, typeNamed?, typeParam?_bindTypeParam_of_ne _ ne]
  rfl

/-- Within the reach of type parameters these stand for the same types in any case. -/
theorem typeNamed?_bindTypeParams_congr {names : List (Node Ident)} {name : String}
    (same : name ∉ names.map (·.value.name) → s.typeNamed? name = s'.typeNamed? name) :
    (names.foldl (fun s n => s.bindTypeParam n.value.name .unknown) s).typeNamed? name =
      (names.foldl (fun s n => s.bindTypeParam n.value.name .unknown) s').typeNamed? name := by
  induction names generalizing s s' with
  | nil => exact same List.not_mem_nil
  | cons n names ih =>
    refine ih fun later => ?_
    by_cases here : name = n.value.name
    · subst here
      exact typeNamed?_bindTypeParam_self s s' _ _
    · rw [typeNamed?_bindTypeParam_of_ne here, typeNamed?_bindTypeParam_of_ne here]
      refine same ?_
      rw [List.map_cons, List.mem_cons]
      rintro (first | rest)
      · exact here first
      · exact later rest

end Congruence

/-! ## The meaning of an annotation -/

/-- What comes of the references: the first one that stands for nothing is at fault. -/
def fault? (s : Scopes) (refs : List TypeReference) : Option Failure :=
  (refs.find? fun r => (s.typeNamed? r.name).isNone).map fun r => ⟨.unknownTypeName r.name, r.span⟩

/-- A name is read as what it stands for. -/
def meaning (s : Scopes) (name : String) : Ty := (s.typeNamed? name).getD .unknown

/-- A fault, or else a value. -/
def orFault {α : Type} (fault : Option Failure) (a : α) : Except Failure α :=
  match fault with
  | some f => .error f
  | none => .ok a

/-- Mentions in a row: the fault is that of the first row that has one. -/
theorem fault?_append (s : Scopes) (refs refs' : List TypeReference) :
    s.fault? (refs ++ refs') = (s.fault? refs).or (s.fault? refs') := by
  rw [fault?, List.find?_append, Option.map_or]
  rfl

/-- The fault of two parts is that of the first one, if it has one. -/
theorem orFault_bind {α β γ : Type} (fault fault' : Option Failure) (a : α) (b : β)
    (build : α → β → γ) :
    ((orFault fault a).bind fun a => (orFault fault' b).bind fun b => .ok (build a b)) =
      orFault (fault.or fault') (build a b) := by
  cases fault <;> cases fault' <;> rfl

theorem orFault_map {α β : Type} (fault : Option Failure) (a : α) (build : α → β) :
    (orFault fault a).map build = orFault fault (build a) := by
  cases fault <;> rfl

mutual

/-- The references decide whether an annotation fails, and its reading is the type. -/
theorem resolve_eq (s : Scopes) : ∀ t : Node TypeExpr,
    s.resolve t = orFault (s.fault? (references t)) (reading s.meaning t)
  | ⟨_, .keyword _, _⟩ => by
    rw [resolve, references, reading]
    rfl
  | ⟨_, .named name, _⟩ => by
    rw [resolve, references, reading, fault?, meaning]
    cases h : s.typeNamed? name <;> simp [h, orFault]
  | ⟨_, .literal _, _⟩ => by
    rw [resolve, references, reading]
    rfl
  | ⟨_, .array element, _⟩ => by
    rw [resolve, references, reading, resolve_eq s element, orFault_map]
  | ⟨_, .object fields, _⟩ => by
    rw [resolve, references, reading, resolveFields_eq s fields, orFault_map]
  | ⟨_, .function params returns, _⟩ => by
    rw [resolve, references, reading, resolveAll_eq s params, resolve_eq s returns, fault?_append]
    exact orFault_bind _ _ _ _ Ty.function
  | ⟨_, .union members, _⟩ => by
    rw [resolve, references, reading, resolveAll_eq s members, orFault_map]
  | ⟨_, .intersection members, _⟩ => by
    rw [resolve, references, reading, resolveAll_eq s members, orFault_map]
  | ⟨_, .apply base _, _⟩ => by rw [resolve, references, reading, resolve_eq s base]

theorem resolveAll_eq (s : Scopes) : ∀ ts : List (Node TypeExpr),
    s.resolveAll ts = orFault (s.fault? (allReferences ts)) (allReadings s.meaning ts)
  | [] => by
    rw [resolveAll, allReferences, allReadings]
    rfl
  | t :: rest => by
    rw [resolveAll, allReferences, allReadings, resolve_eq s t, resolveAll_eq s rest, fault?_append]
    exact orFault_bind _ _ _ _ List.cons

theorem resolveFields_eq (s : Scopes) : ∀ fs : List TypeField,
    s.resolveFields fs = orFault (s.fault? (fieldReferences fs)) (fieldReadings s.meaning fs)
  | [] => by
    rw [resolveFields, fieldReferences, fieldReadings]
    rfl
  | ⟨name, t⟩ :: rest => by
    rw [resolveFields, fieldReferences, fieldReadings, resolve_eq s t, resolveFields_eq s rest,
      fault?_append]
    exact orFault_bind _ _ _ _ fun t fs => Field.mk name t :: fs

end

/-- The fault is at the first mention without a meaning, and all mentions before it have one. -/
theorem fault?_eq_some_iff {s : Scopes} {refs : List TypeReference} {f : Failure} :
    s.fault? refs = some f ↔
      ∃ before r after, refs = before ++ r :: after ∧ (∀ q ∈ before, ∃ t, s.Means q.name t) ∧
        (∀ t, ¬ s.Means r.name t) ∧ f = ⟨.unknownTypeName r.name, r.span⟩ := by
  have means (q : TypeReference) :
      (!(s.typeNamed? q.name).isNone) = true ↔ ∃ t, s.Means q.name t := by
    rw [Bool.not_eq_true', Option.isNone_eq_false_iff, Option.isSome_iff_exists]
    exact exists_congr fun _ => typeNamed?_eq_some_iff
  simp only [fault?, Option.map_eq_some_iff, List.find?_eq_some_iff_append,
    Option.isNone_iff_eq_none, typeNamed?_eq_none_iff, means]
  constructor
  · rintro ⟨r, ⟨nothing, before, after, rfl, known⟩, rfl⟩
    exact ⟨before, r, after, rfl, known, nothing, rfl⟩
  · rintro ⟨before, r, after, rfl, known, nothing, rfl⟩
    exact ⟨r, ⟨nothing, before, after, rfl, known⟩, rfl⟩

/-- There is no fault exactly if every mention has a meaning. -/
theorem fault?_eq_none_iff {s : Scopes} {refs : List TypeReference} :
    s.fault? refs = none ↔ ∀ r ∈ refs, s.Means r.name (s.meaning r.name) := by
  simp only [fault?, Option.map_eq_none_iff, List.find?_eq_none, Option.isNone_iff_eq_none]
  refine forall₂_congr fun r _ => ?_
  rw [← typeNamed?_eq_some_iff, meaning]
  cases s.typeNamed? r.name <;> simp

theorem orFault_eq_ok_iff {α : Type} {fault : Option Failure} {a b : α} :
    orFault fault a = .ok b ↔ fault = none ∧ a = b := by
  cases fault <;> simp [orFault]

theorem orFault_eq_error_iff {α : Type} {fault : Option Failure} {a : α} {f : Failure} :
    orFault fault a = .error f ↔ fault = some f := by
  cases fault <;> simp [orFault]

/-- An annotation that does not fail is its reading, whatever names other than its references may
stand for. -/
theorem resolve_eq_ok_iff {s : Scopes} {e : Node TypeExpr} {t : Ty} :
    s.resolve e = .ok t ↔
      ∃ m : String → Ty, (∀ r ∈ references e, s.Means r.name (m r.name)) ∧ t = reading m e := by
  rw [resolve_eq, orFault_eq_ok_iff, fault?_eq_none_iff]
  constructor
  · rintro ⟨known, rfl⟩
    exact ⟨s.meaning, known, rfl⟩
  · rintro ⟨m, means, rfl⟩
    have same (r : TypeReference) (hr : r ∈ references e) : s.meaning r.name = m r.name := by
      rw [meaning, typeNamed?_eq_some_iff.mpr (means r hr), Option.getD_some]
    exact ⟨fun r hr => same r hr ▸ means r hr, reading_congr e same⟩

section Congruence

variable {s s' : Scopes}

/-- Only the meanings of the mentioned names decide about a fault. -/
theorem fault?_congr {refs : List TypeReference}
    (same : ∀ r ∈ refs, s.typeNamed? r.name = s'.typeNamed? r.name) :
    s.fault? refs = s'.fault? refs := by
  induction refs with
  | nil => rfl
  | cons r refs ih =>
    obtain ⟨here, later⟩ := List.forall_mem_cons.mp same
    rw [← List.singleton_append, fault?_append, fault?_append, ih later]
    simp [fault?, here]

/-- Where the references of an annotation stand for the same types, the annotation does. -/
theorem resolve_congr_of_references {t : Node TypeExpr}
    (same : ∀ r ∈ references t, s.typeNamed? r.name = s'.typeNamed? r.name) :
    s.resolve t = s'.resolve t := by
  rw [resolve_eq, resolve_eq, fault?_congr same]
  congr 1
  exact reading_congr t fun r hr => by rw [meaning, meaning, same r hr]

end Congruence

/-! ## Aliases that are defined later -/

/-- Defines aliases one after the other. -/
def defineAliases (later : List (String × Ty)) (s : Scopes) : Scopes :=
  later.foldl (fun s d => s.defineAlias d.1 d.2) s

/-- Aliases leave the frames alone. -/
theorem frames_defineAliases (later : List (String × Ty)) (s : Scopes) :
    (s.defineAliases later).frames = s.frames := by
  induction later generalizing s with
  | nil => rfl
  | cons d later ih => exact ih _

/-- Later aliases of other names do not change what a name stands for. -/
theorem alias?_defineAliases {later : List (String × Ty)} {name : String}
    (other : ∀ d ∈ later, d.1 ≠ name) (s : Scopes) :
    (s.defineAliases later).alias? name = s.alias? name := by
  induction later generalizing s with
  | nil => rfl
  | cons d later ih =>
    obtain ⟨here, other⟩ := List.forall_mem_cons.mp other
    exact (ih other _).trans (alias?_defineAlias_of_ne here.symm d.2)

/-- An alias means the type that it was defined with. -/
theorem Means.defineAlias {s : Scopes} {name : String} (free : Keyword.ofName? name = none)
    (unbound : s.typeParam? name = none) (t : Ty) {later : List (String × Ty)}
    (other : ∀ d ∈ later, d.1 ≠ name) :
    ((s.defineAlias name t).defineAliases later).Means name t := by
  refine .aliased free ?_ ?_
  · rw [frames_defineAliases]
    exact List.findSome?_eq_none_iff.mp unbound
  · exact (alias?_defineAliases other _).trans (alias?_defineAlias s name t)

/-- **What an annotation means.**  It fails exactly if one of its references stands for nothing, at
the first one that does.  Otherwise it is what is written, with each reference read as what it
stands for: a keyword, else the innermost type parameter, else an alias.  The type that it stands
for stays the same when aliases are defined later, those it mentions among them: an alias and a
symbol that were given the type still have it. -/
theorem annotation_meaning (s : Scopes) (e : Node TypeExpr) :
    (∀ f, s.resolve e = .error f ↔
      ∃ before r after, references e = before ++ r :: after ∧
        (∀ q ∈ before, ∃ t, s.Means q.name t) ∧ (∀ t, ¬ s.Means r.name t) ∧
        f = ⟨.unknownTypeName r.name, r.span⟩) ∧
    (∀ t, s.resolve e = .ok t ↔
      ∃ m : String → Ty, (∀ r ∈ references e, s.Means r.name (m r.name)) ∧ t = reading m e) ∧
    ∀ t, s.resolve e = .ok t → ∀ later : List (String × Ty),
      (∀ symbol, ((s.bind symbol t).defineAliases later).symbol? symbol = some t) ∧
      ∀ name, Keyword.ofName? name = none → s.typeParam? name = none →
        (∀ d ∈ later, d.1 ≠ name) → ∀ span slot,
          ((s.defineAlias name t).defineAliases later).resolve ⟨span, .named name, slot⟩ =
            .ok t := by
  refine ⟨fun f => ?_, fun t => resolve_eq_ok_iff, fun t _ later => ⟨fun symbol => ?_, ?_⟩⟩
  · rw [resolve_eq, orFault_eq_error_iff]
    exact fault?_eq_some_iff
  · rw [symbol?, frames_defineAliases]
    simp [frames, bind]
  · intro name free unbound other span slot
    rw [resolve, typeNamed?_eq_some_iff.mpr (Means.defineAlias free unbound t other)]

end Scopes
end StructuralTyping
