import StructuralTyping.Json.Basic
import StructuralTyping.Number.Layout

/-! # Numbers in JSON documents -/

namespace StructuralTyping.Json

/-- Doubles between `10 ^ (-5)` and `10 ^ 16` are written without an exponent and always show a
fraction; of two equally short and near decimals the even one is taken. -/
def numberLayout : Layout :=
  { tie := .toEven
    positional := fun e => decide (-5 ≤ e ∧ e ≤ 15)
    showsFraction := true }

/-- A double as a document; the infinities and NaNs have no numeral and become null. -/
def ofBinary64 (x : Binary64) : Json :=
  if x.isFinite then .number (numberLayout.numeral x) else .null

/-- A word of 32 bits as a JSON number. -/
def ofUInt32 (n : UInt32) : Json := ofNat n.toNat

/-- A word of 64 bits as a JSON number. -/
def ofUInt64 (n : UInt64) : Json := ofNat n.toNat

end StructuralTyping.Json
