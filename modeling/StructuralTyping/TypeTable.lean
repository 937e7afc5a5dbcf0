import StructuralTyping.Syntax.Show

/-! # The type table

The types found by checking, in the order in which they were found.  An id is a position in the
table; entries are only ever added, so an id keeps its type. -/

namespace StructuralTyping

/-- The types of checked nodes, each under the number at which it was added. -/
structure TypeTable where
  entries : Array Ty := #[]

namespace TypeTable

/-- How many types the table holds, which is the number of the next one. -/
def size (t : TypeTable) : Nat := t.entries.size

/-- The id that the next type to be added will have. -/
def nextId (t : TypeTable) : TypeId := ⟨UInt32.ofNat t.size⟩

/-- Adds a type at the end, whether or not the table holds an equal one. -/
def add (t : TypeTable) (ty : Ty) : TypeTable := ⟨t.entries.push ty⟩

/-- The type with this id; none for an id that was never given out. -/
def get? (t : TypeTable) (id : TypeId) : Option Ty := t.entries[id.index.toNat]?

/-- The ids that were given out, with their types, in order. -/
def toList (t : TypeTable) : List (TypeId × Ty) :=
  t.entries.toList.zipIdx.map fun (ty, i) => (⟨UInt32.ofNat i⟩, ty)

@[simp] theorem size_add (t : TypeTable) (ty : Ty) : (t.add ty).size = t.size + 1 := by
  simp [add, size]

/-- One line for each entry. -/
def listing (t : TypeTable) : String :=
  String.join (t.toList.map fun (id, ty) => id.display ++ ": " ++ ty.display ++ "\n")

end TypeTable

end StructuralTyping
