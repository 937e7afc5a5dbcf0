import StructuralTyping.Ty.Basic

/-! # Assignability

`actual.assignable expected` decides whether a value of the one type may stand where the other is
expected.  `unknown` is assignable both ways; a union is assignable when all of its members are; a
literal is assignable wherever its primitive type is; a union is reached through one of its members
and an intersection through all of them; objects may have more fields than expected; arrays and
results are covariant, parameters contravariant.

The two sides change places at parameters, so the recursion is on the size of both types together.
-/

namespace StructuralTyping

theorem LiteralValue.sizeOf_pos (v : LiteralValue) : 0 < sizeOf v := by
  cases v with
  | null => exact Nat.zero_lt_one
  | undefined => exact Nat.zero_lt_one
  | _ => exact Nat.lt_of_lt_of_le Nat.zero_lt_one (Nat.le_add_right 1 _)

theorem LiteralValue.sizeOf_primitive_lt (v : LiteralValue) :
    sizeOf v.primitive < sizeOf (Ty.literal v) := by
  have one : sizeOf v.primitive = 1 := by cases v <;> rfl
  have := v.sizeOf_pos
  rw [one, Ty.literal.sizeOf_spec]
  omega

namespace Ty

theorem sizeOf_lookup_lt {name : String} {fields : List Field} {t : Ty}
    (h : Field.lookup name fields = some t) : sizeOf t < sizeOf fields := by
  induction fields with
  | nil => simp [Field.lookup] at h
  | cons f rest ih =>
    obtain ⟨n, u⟩ := f
    by_cases hn : n = name
    · simp only [Field.lookup, hn, if_true, Option.some.injEq] at h
      subst h
      rw [List.cons.sizeOf_spec, Field.mk.sizeOf_spec]
      omega
    · simp only [Field.lookup, hn, if_false] at h
      have := ih h
      rw [List.cons.sizeOf_spec]
      omega

mutual

/-- Whether a value of type `actual` may stand where `expected` is expected. -/
def assignable (actual expected : Ty) : Bool :=
  if actual = expected ∨ actual = .unknown ∨ expected = .unknown then true
  else
    match actual, expected with
    | .union as, e => allAssignable as e
    | .literal v, .union es => assignable v.primitive (.union es) || assignableToAny (.literal v) es
    | .literal v, .intersection es =>
      assignable v.primitive (.intersection es) || assignableToAll (.literal v) es
    | .literal v, e => assignable v.primitive e
    | a, .union es => assignableToAny a es
    | a, .intersection es => assignableToAll a es
    | .object fs, .object gs => fieldsAssignable fs gs
    | .array a, .array e => assignable a e
    | .function ps r, .function qs s => paramsAssignable qs ps && assignable r s
    | _, _ => false
termination_by sizeOf actual + sizeOf expected
decreasing_by
  all_goals simp only [union.sizeOf_spec, intersection.sizeOf_spec, literal.sizeOf_spec,
    object.sizeOf_spec, array.sizeOf_spec, function.sizeOf_spec]
  all_goals try
    have hv := LiteralValue.sizeOf_primitive_lt v
    rw [literal.sizeOf_spec] at hv
  all_goals omega

/-- Whether every one of the types may stand where `expected` is asked for. -/
def allAssignable (actuals : List Ty) (expected : Ty) : Bool :=
  match actuals with
  | [] => true
  | a :: rest => assignable a expected && allAssignable rest expected
termination_by sizeOf actuals + sizeOf expected

/-- Whether a type may stand where at least one of the others is asked for. -/
def assignableToAny (actual : Ty) (expecteds : List Ty) : Bool :=
  match expecteds with
  | [] => false
  | e :: rest => assignable actual e || assignableToAny actual rest
termination_by sizeOf actual + sizeOf expecteds

/-- Whether a type may stand where any of the others is asked for. -/
def assignableToAll (actual : Ty) (expecteds : List Ty) : Bool :=
  match expecteds with
  | [] => true
  | e :: rest => assignable actual e && assignableToAll actual rest
termination_by sizeOf actual + sizeOf expecteds

/-- Every expected field is met by the first actual field of its name. -/
def fieldsAssignable (actuals expecteds : List Field) : Bool :=
  match expecteds with
  | [] => true
  | ⟨name, e⟩ :: rest =>
    match _found : Field.lookup name actuals with
    | some a => assignable a e && fieldsAssignable actuals rest
    | none => false
termination_by sizeOf actuals + sizeOf expecteds
decreasing_by
  · have := sizeOf_lookup_lt _found
    rw [List.cons.sizeOf_spec, Field.mk.sizeOf_spec]
    omega
  · rw [List.cons.sizeOf_spec]
    omega

/-- Parameters agree in number, and each of `sources` is assignable to the one in its place. -/
def paramsAssignable (sources targets : List Ty) : Bool :=
  match sources, targets with
  | [], [] => true
  | s :: ss, t :: ts => assignable s t && paramsAssignable ss ts
  | _, _ => false
termination_by sizeOf sources + sizeOf targets

end

/-- Whether a type may stand where a number is asked for. -/
def isNumeric (t : Ty) : Bool := t.assignable .number

/-- Whether a type may stand where a boolean is asked for. -/
def isBoolean (t : Ty) : Bool := t.assignable .boolean

end Ty

end StructuralTyping
