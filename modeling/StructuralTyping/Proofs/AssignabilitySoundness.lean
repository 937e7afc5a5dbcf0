import Mathlib.Data.Finset.Insert
import StructuralTyping.Proofs.AssignabilityTransitivity

/-! # Assignability is sound for values

Types are read here as sets of values: an array type admits the arrays whose items it all admits, an
object type the objects that have every listed name with a value of the listed type, a union what
one member admits, an intersection what all of them do, and `unknown` everything.  Whatever is
assignable is then included (`Ty.admits_of_assignable`): a value of the actual type is a value of
the expected one.

`unknown` is assignable to every type and admits every value, so it must not occur in the actual
type; it may occur in the expected one.  Nothing is said about values that are functions.  Which
values a function type admits is left open, and the actual type must not mention one.
-/
namespace StructuralTyping

/-- A value that is not a function.  An object is a finite map from names to values. -/
inductive Value where
  | number (x : Binary64)
  | string (s : String)
  | boolean (b : Bool)
  | null
  | undefined
  | array (items : List Value)
  | object (names : Finset String) (entry : {name // name ∈ names} → Value)

namespace Value

/-- The value that a literal writes. -/
def ofLiteral : LiteralValue → Value
  | .number x => .number x
  | .string s => .string s
  | .boolean b => .boolean b
  | .null => .null
  | .undefined => .undefined

/-- The value is an object whose entry of that name is `x`. -/
def Holds : Value → String → Value → Prop
  | .object names entry, name, x => ∃ h : name ∈ names, entry ⟨name, h⟩ = x
  | _, _, _ => False

end Value

namespace Ty

/-- Functions are the one kind of type that values here say nothing about. -/
def isFunction : Ty → Bool
  | .function _ _ => true
  | _ => false

/-- No function type occurs in the type, at any depth. -/
def FunctionFree (t : Ty) : Prop := t.anyPart isFunction = false

instance (t : Ty) : Decidable t.FunctionFree := inferInstanceAs (Decidable (_ = _))

theorem Component.functionFree {c t : Ty} (hc : Component c t) (h : t.FunctionFree) :
    c.FunctionFree :=
  hc.anyPart_eq_false h

/-! ## Values of a type -/

section Admits

variable (callable : List Ty → Ty → Value → Prop)

mutual

/-- The value is one of the values of the type.  `callable` says which values a function type
has. -/
def Admits : Ty → Value → Prop
  | .number, v => ∃ x, v = .number x
  | .string, v => ∃ s, v = .string s
  | .boolean, v => ∃ b, v = .boolean b
  | .null, v => v = .null
  | .undefined, v => v = .undefined
  | .unknown, _ => True
  | .literal l, v => v = .ofLiteral l
  | .array e, v => ∃ items, v = .array items ∧ ∀ x ∈ items, Admits e x
  | .object fs, v => (∃ names entry, v = .object names entry) ∧ AdmitsFields fs v
  | .function ps r, v => callable ps r v
  | .union ms, v => AdmitsSome ms v
  | .intersection ms, v => AdmitsEvery ms v

/-- The value has every listed name with a value of the listed type. -/
def AdmitsFields : List Field → Value → Prop
  | [], _ => True
  | ⟨name, t⟩ :: rest, v => (∃ x, v.Holds name x ∧ Admits t x) ∧ AdmitsFields rest v

/-- At least one of the types admits the value. -/
def AdmitsSome : List Ty → Value → Prop
  | [], _ => False
  | t :: rest, v => Admits t v ∨ AdmitsSome rest v

/-- Every one of the types admits the value. -/
def AdmitsEvery : List Ty → Value → Prop
  | [], _ => True
  | t :: rest, v => Admits t v ∧ AdmitsEvery rest v

end

variable {callable}

/-- A value has to hold every field with a value that its type admits. -/
theorem admitsFields_iff {fs : List Field} {v : Value} :
    AdmitsFields callable fs v ↔ ∀ f ∈ fs, ∃ x, v.Holds f.name x ∧ Admits callable f.ty x := by
  induction fs with
  | nil => simp [AdmitsFields]
  | cons f fs ih => cases f; simp [AdmitsFields, ih]

/-- The recursion over a union's members is an existential statement. -/
theorem admitsSome_iff {ts : List Ty} {v : Value} :
    AdmitsSome callable ts v ↔ ∃ t ∈ ts, Admits callable t v := by
  induction ts with
  | nil => simp [AdmitsSome]
  | cons t ts ih => simp [AdmitsSome, ih]

/-- The recursion over an intersection's members is a universal statement. -/
theorem admitsEvery_iff {ts : List Ty} {v : Value} :
    AdmitsEvery callable ts v ↔ ∀ t ∈ ts, Admits callable t v := by
  induction ts with
  | nil => simp [AdmitsEvery]
  | cons t ts ih => simp [AdmitsEvery, ih]

/-! ## Inclusion -/

/-- A literal is a value of its primitive type. -/
theorem admits_primitive {l : LiteralValue} {v : Value} (h : Admits callable (.literal l) v) :
    Admits callable l.primitive v := by
  have h : v = .ofLiteral l := h
  subst h
  cases l with
  | number x => exact ⟨x, rfl⟩
  | string s => exact ⟨s, rfl⟩
  | boolean b => exact ⟨b, rfl⟩
  | null => rfl
  | undefined => rfl

theorem tracked_primitive (l : LiteralValue) : l.primitive.Tracked := by
  cases l <;> rfl

theorem functionFree_primitive (l : LiteralValue) : l.primitive.FunctionFree := by
  cases l <;> rfl

/-- An object that has the actual fields has the expected ones.  An actual name that is listed twice
does no harm: the value meets all of its types, and the first is the one that counts. -/
theorem admits_object {fs gs : List Field} {v : Value} (found : ∀ g ∈ gs,
      (Field.lookup g.name fs).isSome)
    (fits : ∀ g ∈ gs, ∀ t, Field.lookup g.name fs = some t → ∀ x, Admits callable t x →
      Admits callable g.ty x)
    (h : Admits callable (.object fs) v) : Admits callable (.object gs) v := by
  obtain ⟨shape, entries⟩ := h
  have entries := admitsFields_iff.mp entries
  refine ⟨shape, admitsFields_iff.mpr fun g hg => ?_⟩
  obtain ⟨t, ht⟩ := Option.isSome_iff_exists.mp (found g hg)
  obtain ⟨x, holds, hx⟩ := entries ⟨g.name, t⟩ (Field.mem_of_lookup ht)
  exact ⟨x, holds, fits g hg t ht x hx⟩

/-- A derivation carries values along, rule by rule. -/
theorem Fits.admits {a b : Ty} (h : Fits a b) (tracked : a.Tracked) (data : a.FunctionFree) :
    ∀ v, Admits callable a v → Admits callable b v := by
  induction h with
  | refl => exact fun _ hv => hv
  | fromUnknown => exact absurd tracked not_tracked_unknown
  | toUnknown => exact fun _ _ => trivial
  | unionLeft _ ih =>
    intro v hv
    obtain ⟨m, hm, hv⟩ := admitsSome_iff.mp hv
    -- what is asked of the actual type passes on to its components
    have part := Component.unionMember hm
    exact ih m hm (part.tracked tracked) (part.functionFree data) v hv
  | @widening l _ _ ih =>
    intro v hv
    exact ih (tracked_primitive l) (functionFree_primitive l) v (admits_primitive hv)
  | unionRight hm _ ih => exact fun v hv => admitsSome_iff.mpr ⟨_, hm, ih tracked data v hv⟩
  | intersectionRight _ ih =>
    exact fun v hv => admitsEvery_iff.mpr fun m hm => ih m hm tracked data v hv
  | object found _ ih =>
    intro v hv
    refine admits_object found (fun g hg t ht => ?_) hv
    have part := Component.lookup ht
    exact ih g hg t ht (part.tracked tracked) (part.functionFree data)
  | @array e _ _ ih =>
    rintro v ⟨items, rfl, hitems⟩
    have part := Component.element e
    refine ⟨items, rfl, fun x hx => ?_⟩
    exact ih (part.tracked tracked) (part.functionFree data) x (hitems x hx)
  | function => exact absurd data (by simp [FunctionFree, anyPart, isFunction])

/-- **Assignability is sound for values.**  If a type that mentions neither `unknown` nor a function
type is assignable to another, every value of the first is a value of the second.  What values
function types have does not matter. -/
theorem admits_of_assignable (callable : List Ty → Ty → Value → Prop) {a b : Ty}
    (tracked : a.Tracked) (data : a.FunctionFree) (h : a.assignable b = true) (v : Value)
    (hv : Admits callable a v) : Admits callable b v :=
  (fits_of_assignable h).admits tracked data v hv

/-- A record with a list of marks, some of them missing. -/
def marked : Ty :=
  .object [⟨"name", .literal (.string "n")⟩,
    ⟨"marks", .array (.union [.literal (.boolean true), .null])⟩, ⟨"name", .string⟩]

/-- Marks, or else nothing. -/
def optionalMarks : Ty :=
  .union [.undefined, .intersection [.object [⟨"marks", .array (.union [.null, .boolean])⟩],
    .object [⟨"name", .union [.string, .unknown]⟩]]]

/-- A value of an object type with an array inside. -/
def markedValue : Value :=
  .object {"marks", "name", "age"} fun entry =>
    if entry.val = "marks" then .array [.null, .boolean true]
    else if entry.val = "name" then .string "n"
    else .null

theorem admits_of_assignable_marked :
    marked.assignable optionalMarks = true ∧ Admits (fun _ _ _ => False) marked markedValue ∧
      Admits (fun _ _ _ => False) optionalMarks markedValue := by
  have fits : marked.assignable optionalMarks = true := by decide +kernel
  have value : Admits (fun _ _ _ => False) marked markedValue := by
    simp [marked, markedValue, Admits, AdmitsFields, AdmitsSome, Value.Holds, Value.ofLiteral]
  exact ⟨fits, value, admits_of_assignable _ (by decide) (by decide) fits _ value⟩

end Admits

end Ty
end StructuralTyping
