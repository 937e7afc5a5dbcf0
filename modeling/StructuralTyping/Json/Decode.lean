import StructuralTyping.Json.Basic
import StructuralTyping.Number.Reading

/-! # Reading records and alternatives

How domain values are laid out in JSON.

* A **record** is an object with its fields by name, or an array with its fields in order.  In an
  object unknown names are passed over and a known name must not repeat; an array may stop before
  fields that have a default, and must not be longer than the record.
* An **alternative** is a name, or an object whose only member has that name and holds what the
  alternative carries.

Readers of nested values take a number, the *room*: how many containers may still be opened.  A
reader that opens a container needs room for it and hands on one less, which bounds how deep a
document may nest, not counting the parts that are passed over.
-/

namespace StructuralTyping.Json

/-- The room of a whole document. -/
def fullRoom : Nat := 127

/-- What a record says of one of its fields. -/
inductive Slot where
  | given (j : Json)
  /-- An object does not name the field. -/
  | unnamed
  /-- An array stops before the field. -/
  | leftOff

/-- The members of an object with their names read. -/
def named? : List (List Piece × Json) → Option (List (String × Json))
  | [] => some []
  | (k, j) :: rest =>
    match content? k, named? rest with
    | some name, some members => some ((name, j) :: members)
    | _, _ => none

/-- What an object says of a field; none when it names the field twice. -/
def slot? (members : List (String × Json)) (name : String) : Option Slot :=
  match members.filter (·.1 == name) with
  | [] => some .unnamed
  | [m] => some (.given m.2)
  | _ => none

/-- The fields of a record, in the order of `names`. -/
def fields? (names : List String) : Json → Option (List Slot)
  | .object members => (named? members).bind fun ms => names.mapM (slot? ms)
  | .array items =>
    if items.length ≤ names.length then
      some (items.map .given ++ List.replicate (names.length - items.length) .leftOff)
    else none
  | _ => none

/-- An alternative: its name and what it carries. -/
def alternative? : Json → Option (String × Option Json)
  | .string s => (content? s).map (·, none)
  | .object [(k, j)] => (content? k).map (·, some j)
  | _ => none

/-- The alternative among those that carry nothing.  Written as an object it carries null and needs
room. -/
def bare? {α : Type} (choose : String → Option α) (room : Nat) (j : Json) : Option α :=
  match alternative? j with
  | some (name, none) => choose name
  | some (name, some .null) => if room = 0 then none else choose name
  | _ => none

section Readers

variable {α : Type}

/-- A value or null. -/
def nullable? (read : Json → Option α) : Json → Option (Option α)
  | .null => some none
  | j => (read j).map some

/-- A list, each item read by `read`. -/
def items? (read : Json → Option α) : Json → Option (List α)
  | .array items => items.mapM read
  | _ => none

namespace Slot

/-- Reads a slot that has to be filled. -/
def required? (read : Json → Option α) : Slot → Option α
  | .given j => read j
  | _ => none

/-- A field that an object need not name. -/
def optional? (read : Json → Option α) : Slot → Option (Option α)
  | .given j => nullable? read j
  | .unnamed => some none
  | .leftOff => none

/-- A field with a default. -/
def orElse? (default : α) (read : Json → Option α) : Slot → Option α
  | .given j => read j
  | _ => some default

end Slot

end Readers

/-- Reads a truth value. -/
def bool? : Json → Option Bool
  | .bool b => some b
  | _ => none

/-- Reads a string of whole characters. -/
def string? : Json → Option String
  | .string s => content? s
  | _ => none

/-- Reads a number written with digits alone. -/
def nat? : Json → Option Nat
  | .number n => n.toNat?
  | _ => none

/-- Reads a natural number that fits in 32 bits. -/
def uint32? (j : Json) : Option UInt32 :=
  (nat? j).bind fun n => if n < UInt32.size then some (UInt32.ofNat n) else none

/-- Reads a natural number that fits in 64 bits. -/
def uint64? (j : Json) : Option UInt64 :=
  (nat? j).bind fun n => if n < UInt64.size then some (UInt64.ofNat n) else none

/-- Reads a number, rounded to the nearest double. -/
def binary64? : Json → Option Binary64
  | .number n => Binary64.ofNumeral? n
  | _ => none

end StructuralTyping.Json
