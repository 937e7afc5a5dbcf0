import Mathlib.Data.List.Forall2
import StructuralTyping.Json.Decode
import StructuralTyping.Proofs.DocumentText
import StructuralTyping.Syntax.Encode

/-! # Documents that hold a value

`Stores read j a` says that a document holds a value: its text can be read, and `read` gives the
value back wherever there is room for the containers of the document (`depth`).  There is one rule
for each way of laying out a value, which are records, alternatives, lists, absent parts and the
scalars; a record gives its fields whatever they are, as long as their names differ
(`fields?_record`). -/

namespace StructuralTyping

namespace Json

/-! ### Nesting -/

mutual

/-- How deep objects and arrays nest in a document. -/
def depth : Json → Nat
  | .array items => itemsDepth items + 1
  | .object members => membersDepth members + 1
  | _ => 0

/-- The depth of the deepest item. -/
def itemsDepth : List Json → Nat
  | [] => 0
  | j :: rest => max (depth j) (itemsDepth rest)

/-- The depth of the deepest value of a member. -/
def membersDepth : List (List Piece × Json) → Nat
  | [] => 0
  | (_, j) :: rest => max (depth j) (membersDepth rest)

end

/-- A bound on all items is a bound on each. -/
theorem itemsDepth_le {items : List Json} {room : Nat} :
    itemsDepth items ≤ room ↔ ∀ j ∈ items, j.depth ≤ room := by
  induction items with
  | nil => simp [itemsDepth]
  | cons j items ih => rw [itemsDepth, Nat.max_le, ih, List.forall_mem_cons]

theorem membersDepth_le {members : List (List Piece × Json)} {room : Nat} :
    membersDepth members ≤ room ↔ ∀ m ∈ members, m.2.depth ≤ room := by
  induction members with
  | nil => simp [membersDepth]
  | cons m members ih => rw [membersDepth, Nat.max_le, ih, List.forall_mem_cons]

/-- A container needs room for itself and hands on one less. -/
theorem exists_room_of_array {items : List Json} {room : Nat}
    (h : (Json.array items).depth ≤ room) :
    ∃ inner, room = inner + 1 ∧ ∀ j ∈ items, j.depth ≤ inner := by
  rw [depth] at h
  exact ⟨room - 1, by omega, itemsDepth_le.1 (by omega)⟩

/-- A record takes one level of room, and its members have the rest. -/
theorem exists_room_of_record {members : List (String × Json)} {room : Nat}
    (h : (record members).depth ≤ room) :
    ∃ inner, room = inner + 1 ∧ ∀ m ∈ members, m.2.depth ≤ inner := by
  rw [record, depth] at h
  have inside := membersDepth_le.1 (Nat.le_sub_one_of_lt h)
  exact ⟨room - 1, by omega, fun m member => inside _ (List.mem_map_of_mem member)⟩

/-! ### Names, records and alternatives -/

/-- A string is the content of its pieces. -/
theorem content?_pieces (s : String) : content? (pieces s) = some s := by
  have characters : ∀ cs : List Char, characters? (cs.map .char) = some cs := by
    intro cs
    induction cs with
    | nil => rfl
    | cons c cs ih => rw [List.map_cons, characters?, ih, Option.map_some]
  rw [content?, pieces, characters, Option.map_some, String.ofList_toList]

theorem named?_record (members : List (String × Json)) :
    named? (members.map fun m => (pieces m.1, m.2)) = some members := by
  induction members with
  | nil => rfl
  | cons m members ih => simp only [List.map_cons, named?, content?_pieces, ih]

/-- With distinct names, the slot of a member holds its value. -/
theorem slot?_eq_given {members : List (String × Json)} (distinct : (members.map Prod.fst).Nodup)
    {m : String × Json} (h : m ∈ members) : slot? members m.1 = some (.given m.2) := by
  have single : members.filter (·.1 == m.1) = [m] := by
    induction members with
    | nil => cases h
    | cons k members ih =>
      obtain ⟨fresh, distinct⟩ := List.nodup_cons.1 distinct
      rcases List.mem_cons.1 h with rfl | later
      · -- Another member with this name would repeat it.
        have others : members.filter (·.1 == m.1) = [] := by
          rw [List.filter_eq_nil_iff]
          intro k member same
          exact fresh (List.mem_map.2 ⟨k, member, eq_of_beq same⟩)
        simp [others]
      · have other : k.1 ≠ m.1 := fun same => fresh (List.mem_map.2 ⟨m, later, same.symm⟩)
        simp [other, ih distinct later]
  rw [slot?, single]

/-- A record that names all of its fields gives them. -/
theorem fields?_record {members : List (String × Json)}
    (distinct : (members.map Prod.fst).Nodup) :
    fields? (members.map Prod.fst) (record members) =
      some (members.map fun m => .given m.2) := by
  have slots : ∀ part : List (String × Json), (∀ m ∈ part, m ∈ members) →
      (part.map Prod.fst).mapM (slot? members) = some (part.map fun m => .given m.2) := by
    intro part within
    induction part with
    | nil => rfl
    | cons m part ih =>
      obtain ⟨head, tail⟩ := List.forall_mem_cons.1 within
      simp [slot?_eq_given distinct head, ih tail]
  rw [record, fields?, named?_record]
  exact slots members fun _ h => h

/-- A tag is read back with what it carries. -/
theorem alternative?_tag (name : String) (j : Json) :
    alternative? (tag name j) = some (name, some j) := by
  simp [tag, record, alternative?, content?_pieces]

theorem alternative?_ofString (name : String) :
    alternative? (ofString name) = some (name, none) := by
  simp [ofString, alternative?, content?_pieces]

/-! ### Documents that hold a value -/

section Stores

variable {α β γ δ : Type}

/-- The document holds `a`: its text can be read, and `read` gives `a` back whenever there is room
for the containers of the document. -/
structure Stores (read : Nat → Json → Option α) (j : Json) (a : α) : Prop where
  proper : j.Proper
  back : ∀ {room : Nat}, j.depth ≤ room → read room j = some a

namespace Stores

/-- A record with these fields, each of which fits into the room inside. -/
theorem record {read : Nat → Json → Option α} {members : List (String × Json)} {a : α}
    (names : List String) (labels : members.map Prod.fst = names) (distinct : names.Nodup)
    (proper : ∀ m ∈ members, m.2.Proper)
    (opened : ∀ room, (∀ m ∈ members, m.2.depth ≤ room) →
      fields? names (.record members) = some (members.map fun m => .given m.2) →
      read (room + 1) (.record members) = some a) :
    Stores read (.record members) a where
  proper := by
    refine .object (fun m h => ?_) fun m h => ?_
    · obtain ⟨k, -, rfl⟩ := List.mem_map.1 h
      exact proper_pieces k.1
    · obtain ⟨k, member, rfl⟩ := List.mem_map.1 h
      exact proper k member
  back fits := by
    obtain ⟨room, rfl, inside⟩ := exists_room_of_record fits
    subst labels
    exact opened room inside (fields?_record distinct)

/-- A record of two members is read back from them. -/
theorem pair {r₁ : Nat → Json → Option α} {r₂ : Nat → Json → Option β}
    {read : Nat → Json → Option γ} {n₁ n₂ : String} {j₁ j₂ : Json} {a : α} {b : β} {c : γ}
    (s₁ : Stores r₁ j₁ a) (s₂ : Stores r₂ j₂ b) (distinct : [n₁, n₂].Nodup)
    (opened : ∀ room, fields? [n₁, n₂] (.record [(n₁, j₁), (n₂, j₂)]) =
      some [.given j₁, .given j₂] → r₁ room j₁ = some a → r₂ room j₂ = some b →
      read (room + 1) (.record [(n₁, j₁), (n₂, j₂)]) = some c) :
    Stores read (.record [(n₁, j₁), (n₂, j₂)]) c := by
  refine .record [n₁, n₂] rfl distinct ?_ fun room fits fields => ?_
  · simp [s₁.proper, s₂.proper]
  · simp only [List.forall_mem_cons] at fits
    exact opened room fields (s₁.back fits.1) (s₂.back fits.2.1)

/-- A record of three members is read back from them. -/
theorem triple {r₁ : Nat → Json → Option α} {r₂ : Nat → Json → Option β}
    {r₃ : Nat → Json → Option γ} {read : Nat → Json → Option δ} {n₁ n₂ n₃ : String}
    {j₁ j₂ j₃ : Json} {a : α} {b : β} {c : γ} {d : δ} (s₁ : Stores r₁ j₁ a)
    (s₂ : Stores r₂ j₂ b) (s₃ : Stores r₃ j₃ c) (distinct : [n₁, n₂, n₃].Nodup)
    (opened : ∀ room, fields? [n₁, n₂, n₃] (.record [(n₁, j₁), (n₂, j₂), (n₃, j₃)]) =
      some [.given j₁, .given j₂, .given j₃] → r₁ room j₁ = some a → r₂ room j₂ = some b →
      r₃ room j₃ = some c →
      read (room + 1) (.record [(n₁, j₁), (n₂, j₂), (n₃, j₃)]) = some d) :
    Stores read (.record [(n₁, j₁), (n₂, j₂), (n₃, j₃)]) d := by
  refine .record [n₁, n₂, n₃] rfl distinct ?_ fun room fits fields => ?_
  · simp [s₁.proper, s₂.proper, s₃.proper]
  · simp only [List.forall_mem_cons] at fits
    exact opened room fields (s₁.back fits.1) (s₂.back fits.2.1) (s₃.back fits.2.2.1)

/-- A tagged value is read back from what it carries. -/
theorem tag {inner : Nat → Json → Option β} {read : Nat → Json → Option α} {name : String}
    {j : Json} {b : β} {a : α} (stored : Stores inner j b)
    (carried : ∀ room, inner room j = some b → read (room + 1) (.tag name j) = some a) :
    Stores read (.tag name j) a := by
  refine .record [name] rfl (List.nodup_singleton name) ?_ fun room fits _ => carried room ?_
  · simpa using stored.proper
  · exact stored.back (by simpa using fits)

/-- An alternative that is made of what it carries. -/
theorem choice {inner : Nat → Json → Option β} {read : Nat → Json → Option α} {name : String}
    {j : Json} {b : β} {f : β → α} (stored : Stores inner j b)
    (chosen : ∀ room, read (room + 1) (.tag name j) = (inner room j).map f) :
    Stores read (.tag name j) (f b) :=
  stored.tag fun room carried => by rw [chosen, carried, Option.map_some]

/-- A list whose items are stored one by one. -/
theorem array {item : Nat → Json → Option α} {read : Nat → Json → Option (List α)}
    {js : List Json} {as : List α} (stored : List.Forall₂ (Stores item) js as)
    (opened : ∀ room j, read (room + 1) j = items? (item room) j) :
    Stores read (.array js) as where
  proper := by
    refine .array fun j h => ?_
    induction stored with
    | nil => cases h
    | cons first _ ih =>
      rcases List.mem_cons.1 h with rfl | later
      · exact first.proper
      · exact ih later
  back fits := by
    obtain ⟨room, rfl, inside⟩ := exists_room_of_array fits
    rw [opened, items?]
    clear fits
    induction stored with
    | nil => rfl
    | cons first _ ih =>
      obtain ⟨head, tail⟩ := List.forall_mem_cons.1 inside
      simp [first.back head, ih tail]

/-- A list is read back if every item is. -/
theorem ofList {item : Nat → Json → Option α} {read : Nat → Json → Option (List α)}
    {f : α → Json} (stored : ∀ a, Stores item (f a) a)
    (opened : ∀ room j, read (room + 1) j = items? (item room) j) (as : List α) :
    Stores read (.ofList f as) as := by
  refine array (List.forall₂_map_left_iff.2 ?_) opened
  exact List.forall₂_same.2 fun a _ => stored a

/-- What may be absent is null when it is. -/
theorem absent (read : Nat → Json → Option α) :
    Stores (fun room => nullable? (read room)) .null none where
  proper := .null
  back _ := rfl

/-- A value that is never `null` is read back where one may be missing. -/
theorem present {read : Nat → Json → Option α} {j : Json} {a : α} (stored : Stores read j a)
    (given : j ≠ .null) : Stores (fun room => nullable? (read room)) j (some a) where
  proper := stored.proper
  back {room} fits := by
    rw [nullable?]
    · rw [stored.back fits, Option.map_some]
    · exact given

/-- An optional value is read back, whether or not it is there. -/
theorem ofOption {read : Nat → Json → Option α} {f : α → Json} (stored : ∀ a, Stores read (f a) a)
    (given : ∀ a, f a ≠ .null) (a : Option α) :
    Stores (fun room => nullable? (read room)) (.ofOption f a) a := by
  cases a with
  | none => exact absent read
  | some a => exact (stored a).present (given a)

/-- A name among those that carry nothing. -/
theorem bare {choose : String → Option α} {name : String} {a : α} (h : choose name = some a) :
    Stores (bare? choose) (.ofString name) a where
  proper := .string (proper_pieces name)
  back _ := by simp only [bare?, alternative?_ofString, h]

theorem ofString (s : String) : Stores (fun _ => string?) (.ofString s) s where
  proper := .string (proper_pieces s)
  back _ := content?_pieces s

theorem ofUInt32 (n : UInt32) : Stores (fun _ => uint32?) (.ofUInt32 n) n where
  proper := .number (Numeral.canonical_ofNat _)
  back _ := by
    have small : n.toNat < UInt32.size := n.toNat_lt
    simp [uint32?, nat?, Json.ofUInt32, Json.ofNat, Numeral.toNat?_ofNat, small]

theorem ofUInt64 (n : UInt64) : Stores (fun _ => uint64?) (.ofUInt64 n) n where
  proper := .number (Numeral.canonical_ofNat _)
  back _ := by
    have small : n.toNat < UInt64.size := n.toNat_lt
    simp [uint64?, nat?, Json.ofUInt64, Json.ofNat, Numeral.toNat?_ofNat, small]

end Stores

end Stores

theorem proper_ofBinary64 (x : Binary64) : (ofBinary64 x).Proper := by
  rw [ofBinary64]
  split
  · exact .number (numberLayout.canonical_numeral x)
  · exact .null

end Json

end StructuralTyping
