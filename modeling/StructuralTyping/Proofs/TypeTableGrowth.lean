import StructuralTyping.TypeTable

/-! # Tables that grow

A table is only ever added to, so an id that was given out keeps its type in every later table
(`TypeTable.Extends.get?`).  Ids are 32 bits wide: up to that many entries, the id given out for an
entry is its position and finds it again (`TypeTable.Extends.get?_nextId`).  `TypeTable.idsFrom` are
the ids given out while a table grows from one size to another.
-/
namespace StructuralTyping
namespace TypeTable

/-- The later table has the entries of the earlier one in their places. -/
def Extends (later earlier : TypeTable) : Prop := earlier.entries.toList <+: later.entries.toList

/-- The number of entries that have an id of their own. -/
def capacity : Nat := UInt32.size

/-- The type that a slot stands for in a table. -/
def typeOf (table : TypeTable) (slot : Option TypeId) : Option Ty := slot.bind table.get?

/-- The next id is the size of the table, as long as ids do not run out. -/
theorem toNat_nextId {table : TypeTable} (h : table.size < capacity) :
    table.nextId.index.toNat = table.size :=
  UInt32.toNat_ofNat_of_lt' h

namespace Extends

theorem refl (table : TypeTable) : table.Extends table := List.prefix_refl _

theorem trans {a b c : TypeTable} (h₁ : a.Extends b) (h₂ : b.Extends c) : a.Extends c :=
  List.IsPrefix.trans h₂ h₁

theorem add (table : TypeTable) (t : Ty) : (table.add t).Extends table := by
  simp [Extends, TypeTable.add]

variable {later earlier : TypeTable}

theorem size_le (h : later.Extends earlier) : earlier.size ≤ later.size := by
  simpa [TypeTable.size] using h.length_le

/-- An id keeps its type. -/
theorem get? (h : later.Extends earlier) {id : TypeId} {t : Ty}
    (ht : earlier.get? id = some t) : later.get? id = some t := by
  unfold TypeTable.get? at ht ⊢
  rw [← Array.getElem?_toList] at ht ⊢
  obtain ⟨hi, rfl⟩ := List.getElem?_eq_some_iff.mp ht
  exact List.getElem?_eq_some_iff.mpr ⟨Nat.lt_of_lt_of_le hi h.length_le, (h.getElem hi).symm⟩

/-- The id given out for a type finds it in every later table that has room for the id. -/
theorem get?_nextId {t : Ty} (h : later.Extends (earlier.add t)) (room : later.size ≤ capacity) :
    later.get? earlier.nextId = some t := by
  refine h.get? ?_
  have hsize := h.size_le
  rw [size_add] at hsize
  rw [TypeTable.get?, toNat_nextId (by omega)]
  simp [TypeTable.add, TypeTable.size]

end Extends

/-! ## The ids given out between two sizes -/

/-- The ids given out while a table grows from `start` to `stop` entries. -/
def idsFrom (start stop : Nat) : List TypeId :=
  (List.range' start (stop - start)).map fun i => ⟨UInt32.ofNat i⟩

@[simp] theorem idsFrom_self (n : Nat) : idsFrom n n = [] := by
  simp [idsFrom]

/-- The ids of two stretches in a row are those of the whole. -/
theorem idsFrom_append {a b c : Nat} (hab : a ≤ b) (hbc : b ≤ c) :
    idsFrom a b ++ idsFrom b c = idsFrom a c := by
  obtain ⟨m, rfl⟩ := Nat.exists_eq_add_of_le hab
  obtain ⟨n, rfl⟩ := Nat.exists_eq_add_of_le hbc
  have h₁ : a + m - a = m := by omega
  have h₂ : a + m + n - (a + m) = n := by omega
  have h₃ : a + m + n - a = m + n := by omega
  rw [idsFrom, idsFrom, idsFrom, h₁, h₂, h₃, ← List.map_append, List.range'_append_1]

/-- Adding one more type gives out the next id. -/
theorem idsFrom_add {start : Nat} {table : TypeTable} (h : start ≤ table.size) (t : Ty) :
    idsFrom start (table.add t).size = idsFrom start table.size ++ [table.nextId] := by
  rw [size_add, ← idsFrom_append h (Nat.le_succ _)]
  congr 1
  have : table.size + 1 - table.size = 1 := by omega
  rw [idsFrom, this]
  rfl

/-- Without wrapping around, the ids are the positions. -/
theorem map_toNat_idsFrom {stop : Nat} (h : stop ≤ capacity) :
    (idsFrom 0 stop).map (fun id => id.index.toNat) = List.range stop := by
  rw [idsFrom, Nat.sub_zero, List.map_map, ← List.range_eq_range']
  refine Eq.trans (List.map_congr_left (g := id) fun i hi => ?_) (List.map_id _)
  exact UInt32.toNat_ofNat_of_lt' (Nat.lt_of_lt_of_le (List.mem_range.mp hi) h)

end TypeTable
end StructuralTyping
