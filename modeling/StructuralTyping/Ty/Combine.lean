import StructuralTyping.Ty.Assignable

/-! # Combining types

The types of constructs that bring several types together: the type that a list of types shares, the
union of a list, and the type of a value with a fallback for null and undefined. -/

namespace StructuralTyping.Ty

/-- The type that all of a list are; none for an empty list. -/
def common? : List Ty → Option Ty
  | [] => none
  | t :: rest => if rest.all (fun u => decide (u = t)) then some t else none

/-- The distinct types of a list, in order of first occurrence, after those of `seen`. -/
def distinct (seen : List Ty) : List Ty → List Ty
  | [] => seen
  | t :: rest => if t ∈ seen then distinct seen rest else distinct (seen ++ [t]) rest

/-- The union of a list of members: a single member stands for itself. -/
def ofMembers : List Ty → Option Ty
  | [] => none
  | [t] => some t
  | ts => some (.union ts)

/-- The union of the distinct types of a list; unknown for an empty list. -/
def unionOf (ts : List Ty) : Ty := (ofMembers (distinct [] ts)).getD .unknown

/-- Whether a type is that of null or undefined. -/
def isNullish : Ty → Bool
  | .null => true
  | .undefined => true
  | .literal .null => true
  | .literal .undefined => true
  | _ => false

/-- A type without null and undefined; none when nothing is left. -/
def withoutNullish? : Ty → Option Ty
  | .union ms => ofMembers (ms.filter fun m => !m.isNullish)
  | t => if t.isNullish then none else some t

/-- The type of a value of type `left` with the fallback `right` for null and undefined. -/
def coalesce (left right : Ty) : Ty :=
  match left.withoutNullish? with
  | none => right
  | some l =>
    if l = .unknown ∨ right = .unknown then .unknown
    else if right.assignable l then l
    else .union [l, right]

end StructuralTyping.Ty
