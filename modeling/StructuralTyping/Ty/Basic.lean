import StructuralTyping.Number.Binary64

/-! # Types

The types of the checked language are structural: an object type is its fields, a function type its
parameters and result, and two types are the same exactly when they are written the same, the order
of fields and members included.  A literal is a type of its own; number literals are told apart by
their words, so the two zeros differ and a NaN is the same as itself.
-/

namespace StructuralTyping

/-- The value of a literal. -/
inductive LiteralValue where
  | number (x : Binary64)
  | string (s : String)
  | boolean (b : Bool)
  | null
  | undefined
deriving DecidableEq

mutual

/-- A structural type. -/
inductive Ty where
  | number
  | string
  | boolean
  | null
  | undefined
  /-- The type of everything that is not tracked; it is assignable both ways. -/
  | unknown
  | literal (value : LiteralValue)
  | array (element : Ty)
  | object (fields : List Field)
  | function (params : List Ty) (returns : Ty)
  | union (members : List Ty)
  | intersection (members : List Ty)

/-- A named field of an object type. -/
structure Field where
  name : String
  ty : Ty

end

instance : Inhabited Ty := ⟨.unknown⟩

instance : Inhabited Field := ⟨⟨"", .unknown⟩⟩

namespace Ty

/-! ### Equality -/

mutual

/-- Whether two types are written the same. -/
def same : Ty → Ty → Bool
  | .number, .number => true
  | .string, .string => true
  | .boolean, .boolean => true
  | .null, .null => true
  | .undefined, .undefined => true
  | .unknown, .unknown => true
  | .literal v, .literal w => decide (v = w)
  | .array a, .array b => same a b
  | .object fs, .object gs => sameFields fs gs
  | .function ps r, .function qs s => sameAll ps qs && same r s
  | .union ms, .union ns => sameAll ms ns
  | .intersection ms, .intersection ns => sameAll ms ns
  | _, _ => false

/-- Whether two lists hold the same types in the same order. -/
def sameAll : List Ty → List Ty → Bool
  | [], [] => true
  | a :: as, b :: bs => same a b && sameAll as bs
  | _, _ => false

/-- Whether two lists hold the same fields, by name and type, in the same order. -/
def sameFields : List Field → List Field → Bool
  | [], [] => true
  | ⟨n, a⟩ :: fs, ⟨m, b⟩ :: gs => decide (n = m) && same a b && sameFields fs gs
  | _, _ => false

end

mutual

theorem same_iff : ∀ a b : Ty, same a b = true ↔ a = b
  | .literal v, b => by cases b <;> simp [same]
  | .array a, b => by cases b <;> simp [same, same_iff a]
  | .object fs, b => by cases b <;> simp [same, sameFields_iff fs]
  | .function ps r, b => by cases b <;> simp [same, sameAll_iff ps, same_iff r]
  | .union ms, b => by cases b <;> simp [same, sameAll_iff ms]
  | .intersection ms, b => by cases b <;> simp [same, sameAll_iff ms]
  | .number, b => by cases b <;> simp [same]
  | .string, b => by cases b <;> simp [same]
  | .boolean, b => by cases b <;> simp [same]
  | .null, b => by cases b <;> simp [same]
  | .undefined, b => by cases b <;> simp [same]
  | .unknown, b => by cases b <;> simp [same]

theorem sameAll_iff : ∀ as bs : List Ty, sameAll as bs = true ↔ as = bs
  | [], bs => by cases bs <;> simp [sameAll]
  | a :: as, bs => by cases bs <;> simp [sameAll, same_iff a, sameAll_iff as]

theorem sameFields_iff : ∀ fs gs : List Field, sameFields fs gs = true ↔ fs = gs
  | [], gs => by cases gs <;> simp [sameFields]
  | ⟨n, a⟩ :: fs, gs => by
    cases gs with
    | nil => simp [sameFields]
    | cons g gs => cases g; simp [sameFields, same_iff a, sameFields_iff fs]

end

instance : DecidableEq Ty := fun a b => decidable_of_iff _ (same_iff a b)

/-! ### Shapes -/

/-- Whether nothing is known about a value of the type. -/
def isUnknown (t : Ty) : Bool := decide (t = .unknown)

end Ty

/-- The type of the first field of that name. -/
def Field.lookup (name : String) : List Field → Option Ty
  | [] => none
  | ⟨n, t⟩ :: rest => if n = name then some t else lookup name rest

/-- The type of the first field of that name; only object types have fields. -/
def Ty.field? (t : Ty) (name : String) : Option Ty :=
  match t with
  | .object fields => Field.lookup name fields
  | _ => none

/-- The primitive type that a literal belongs to. -/
def LiteralValue.primitive : LiteralValue → Ty
  | .number _ => .number
  | .string _ => .string
  | .boolean _ => .boolean
  | .null => .null
  | .undefined => .undefined

namespace Ty

/-- A literal type gives way to its primitive type; other types stay. -/
def widen : Ty → Ty
  | .literal v => v.primitive
  | t => t

end Ty

namespace Field

/-- Sets the type of the first field of that name in place, or adds a field at the end. -/
def put (name : String) (t : Ty) : List Field → List Field
  | [] => [⟨name, t⟩]
  | f :: rest => if f.name = name then ⟨name, t⟩ :: rest else f :: put name t rest

/-- The fields of a list of entries: a repeated name keeps its first position and its last type. -/
def merge (entries : List Field) : List Field :=
  entries.foldl (fun fields e => put e.name e.ty fields) []

end Field

end StructuralTyping
