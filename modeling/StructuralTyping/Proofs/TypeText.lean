import StructuralTyping.Proofs.ShortestDecimals
import StructuralTyping.Proofs.TypeParts
import StructuralTyping.Ty.Combine

/-! # The text of a type determines it

Two types with the same text are the same (`Ty.eq_of_display_eq`), as long as nothing in them is
written like something else: a union or an intersection of one member is written like the member, a
null literal like the null type, every NaN alike, and a field name with a colon could hold a whole
field.

Every lemma compares two texts together with what follows them, and concludes that the things
written and the rests are equal.  What may follow depends on the place: a word ends where a
character comes that no word has (`Text.split_inj`), a member of a union where no brackets follow, a
whole type at a comma, a closing parenthesis or a closing brace (`Ty.Closes`).
-/
namespace StructuralTyping

namespace Text

/-! ## Lists of texts -/

/-- A run of characters of one class ends where a character outside the class follows. -/
theorem split_inj {p : Char → Bool} {xs ys r r' : List Char} (hx : ∀ c ∈ xs, p c = true)
    (hy : ∀ c ∈ ys, p c = true) (hr : ∀ c s, r = c :: s → p c = false)
    (hr' : ∀ c s, r' = c :: s → p c = false) (same : xs ++ r = ys ++ r') : xs = ys ∧ r = r' := by
  induction xs generalizing ys with
  | nil =>
    cases ys with
    | nil => exact ⟨rfl, same⟩
    | cons y ys =>
      have := hr y (ys ++ r') same
      rw [hy y List.mem_cons_self] at this
      cases this
  | cons x xs ih =>
    cases ys with
    | nil =>
      have := hr' x (xs ++ r) same.symm
      rw [hx x List.mem_cons_self] at this
      cases this
    | cons y ys =>
      obtain ⟨rfl, tails⟩ := List.cons.inj same
      obtain ⟨rfl, rest⟩ := ih (fun c h => hx c (List.mem_cons_of_mem _ h))
        (fun c h => hy c (List.mem_cons_of_mem _ h)) tails
      exact ⟨rfl, rest⟩

/-- Texts with separators between them, when each is known to end where a separator or the end of
the list comes. -/
theorem intercalate_inj {α : Type} {text : α → List Char} {Ends : List Char → Prop}
    {sep sep' r r' : List Char} (starts : ∀ s, Ends (sep ++ s)) (starts' : ∀ s, Ends (sep' ++ s))
    (seps : ∀ s s', sep ++ s = sep' ++ s' → sep = sep') (hr : Ends r) (hr' : Ends r')
    (last : ∀ s, r ≠ sep' ++ s) (last' : ∀ s, r' ≠ sep ++ s) {as bs : List α} (ha : as ≠ [])
    (hb : bs ≠ [])
    (items : ∀ a ∈ as, ∀ b ∈ bs, ∀ s s', Ends s → Ends s' → text a ++ s = text b ++ s' →
      a = b ∧ s = s')
    (same : sep.intercalate (as.map text) ++ r = sep'.intercalate (bs.map text) ++ r') :
    as = bs ∧ r = r' ∧ (2 ≤ as.length → sep = sep') := by
  induction as generalizing bs with
  | nil => exact absurd rfl ha
  | cons a as ih =>
    obtain ⟨b, bs, rfl⟩ := List.exists_cons_of_ne_nil hb
    have head := items a List.mem_cons_self b List.mem_cons_self
    rcases as with - | ⟨a', as⟩ <;> rcases bs with - | ⟨b', bs⟩ <;>
      simp only [List.map_cons, List.map_nil, List.intercalate_singleton,
        List.intercalate_cons_cons, List.append_assoc] at same
    · obtain ⟨rfl, rest⟩ := head _ _ hr hr' same
      exact ⟨rfl, rest, by simp⟩
    · exact absurd (head _ _ hr (starts' _) same).2 (last _)
    · exact absurd (head _ _ (starts _) hr' same).2.symm (last' _)
    · obtain ⟨rfl, rest⟩ := head _ _ (starts _) (starts' _) same
      obtain rfl := seps _ _ rest
      obtain ⟨rest, end_, -⟩ := ih (by simp) (by simp)
        (fun c hc d hd => items c (List.mem_cons_of_mem _ hc) d (List.mem_cons_of_mem _ hd))
        (List.append_cancel_left rest)
      exact ⟨congrArg _ rest, end_, fun _ => rfl⟩

/-! ## Quotations -/

theorem digitChar_inj : ∀ a < 16, ∀ b < 16, Nat.digitChar a = Nat.digitChar b → a = b := by decide

theorem toDigits_sixteen_ne_nil (n : Nat) : Nat.toDigits 16 n ≠ [] := Nat.toDigits_ne_nil

/-- Hexadecimal digits tell numbers apart. -/
theorem toDigits_sixteen_inj {m n : Nat} (same : Nat.toDigits 16 m = Nat.toDigits 16 n) :
    m = n := by
  induction m using Nat.strongRecOn generalizing n with
  | ind m ih =>
    rw [Nat.toDigits_eq_if (by decide), Nat.toDigits_eq_if (n := n) (by decide)] at same
    split at same <;> split at same
    · exact digitChar_inj m ‹_› n ‹_› (List.singleton_inj.mp same)
    · have := congrArg List.length same
      have := List.length_pos_of_ne_nil (toDigits_sixteen_ne_nil (n / 16))
      grind
    · have := congrArg List.length same
      have := List.length_pos_of_ne_nil (toDigits_sixteen_ne_nil (m / 16))
      grind
    · obtain ⟨front, last⟩ := List.append_inj' same rfl
      have quotient := ih (m / 16) (by omega) front
      have rest := digitChar_inj _ (Nat.mod_lt m (by decide)) _ (Nat.mod_lt n (by decide))
        (List.singleton_inj.mp last)
      omega

/-- The closing brace of an escape is no digit, so it shows where the digits end. -/
theorem brace_not_mem_toDigits (n : Nat) : '\x7d' ∉ Nat.toDigits 16 n := by
  have digit : ∀ a < 16, Nat.digitChar a ≠ '\x7d' := by decide
  induction n using Nat.strongRecOn with
  | ind n ih =>
    rw [Nat.toDigits_eq_if (by decide)]
    split
    · exact fun mem => digit n ‹_› (List.mem_singleton.mp mem).symm
    · intro mem
      rcases List.mem_append.mp mem with front | last
      · exact ih (n / 16) (by omega) front
      · exact digit _ (Nat.mod_lt n (by decide)) (List.mem_singleton.mp last).symm

/-- The characters with a short escape, and the letters of these. -/
def shortEscapes : List (Char × Char) :=
  [('\x00', '0'), ('\t', 't'), ('\r', 'r'), ('\n', 'n'), ('"', '"'), ('\\', '\\')]

/-- A character is escaped by a letter, by nothing, or by its code. -/
theorem escaped_cases (c : Char) :
    (∃ x, (c, x) ∈ shortEscapes ∧ escaped c = ['\\', x]) ∨
      (c ≠ '"' ∧ c ≠ '\\' ∧ escaped c = [c]) ∨
      escaped c = '\\' :: 'u' :: '\x7b' :: Nat.toDigits 16 c.toNat ++ ['\x7d'] := by
  unfold escaped
  split
  iterate 6 exact .inl ⟨_, by decide, rfl⟩
  rename_i quote backslash
  split
  · exact .inr (.inl ⟨quote, backslash, rfl⟩)
  · exact .inr (.inr rfl)

/-- No two characters share the letter of their escape. -/
theorem shortEscapes_inj :
    ∀ p ∈ shortEscapes, ∀ q ∈ shortEscapes, p.2 = q.2 → p.1 = q.1 := by decide

theorem ne_u_of_mem_shortEscapes : ∀ p ∈ shortEscapes, p.2 ≠ 'u' := by decide

/-- A code in hexadecimal ends with its brace. -/
theorem hexadecimal_inj {m n : Nat} {r r' : List Char}
    (same : Nat.toDigits 16 m ++ '\x7d' :: r = Nat.toDigits 16 n ++ '\x7d' :: r') :
    m = n ∧ r = r' := by
  have digits : ∀ k, ∀ c ∈ Nat.toDigits 16 k, (c != '\x7d') = true := by
    intro k c mem
    exact bne_iff_ne.mpr fun brace => brace_not_mem_toDigits k (brace ▸ mem)
  have ends : ∀ (rest : List Char) c s, '\x7d' :: rest = c :: s → (c != '\x7d') = false := by
    rintro rest c s eq
    rw [← (List.cons.inj eq).1]
    rfl
  obtain ⟨eq, rest⟩ := split_inj (digits m) (digits n) (ends r) (ends r') same
  exact ⟨toDigits_sixteen_inj eq, (List.cons.inj rest).2⟩

/-- No escape begins another one. -/
theorem escaped_inj {c d : Char} {r r' : List Char} (same : escaped c ++ r = escaped d ++ r') :
    c = d ∧ r = r' := by
  rcases escaped_cases c with ⟨x, hx, short⟩ | ⟨-, plain, itself⟩ | code <;>
    rcases escaped_cases d with ⟨y, hy, short'⟩ | ⟨-, plain', itself'⟩ | code'
  · rw [short, short'] at same
    obtain ⟨-, tails⟩ := List.cons.inj same
    obtain ⟨letters, rest⟩ := List.cons.inj tails
    exact ⟨shortEscapes_inj _ hx _ hy letters, rest⟩
  · -- a plain character is no backslash
    rw [short, itself'] at same
    exact absurd (List.cons.inj same).1.symm plain'
  · -- no short escape has the letter of a code
    rw [short, code'] at same
    obtain ⟨-, tails⟩ := List.cons.inj same
    exact absurd (List.cons.inj tails).1 (ne_u_of_mem_shortEscapes _ hx)
  · rw [itself, short'] at same
    exact absurd (List.cons.inj same).1 plain
  · rw [itself, itself'] at same
    exact List.cons.inj same
  · rw [itself, code'] at same
    exact absurd (List.cons.inj same).1 plain
  · rw [code, short'] at same
    obtain ⟨-, tails⟩ := List.cons.inj same
    exact absurd (List.cons.inj tails).1.symm (ne_u_of_mem_shortEscapes _ hy)
  · rw [code, itself'] at same
    exact absurd (List.cons.inj same).1.symm plain'
  · rw [code, code'] at same
    simp only [List.cons_append, List.append_assoc, List.cons.injEq, true_and, List.nil_append]
      at same
    obtain ⟨codes, rest⟩ := hexadecimal_inj same
    exact ⟨Char.toNat_inj.mp codes, rest⟩

/-- An escape never begins with the mark that ends a quotation. -/
theorem escaped_ne_quote (c : Char) (r s : List Char) : escaped c ++ r ≠ '"' :: s := by
  rcases escaped_cases c with ⟨x, -, short⟩ | ⟨other, -, itself⟩ | code
  · rw [short]
    exact fun eq => absurd (List.cons.inj eq).1 (by decide)
  · rw [itself]
    exact fun eq => other (List.cons.inj eq).1
  · rw [code]
    exact fun eq => absurd (List.cons.inj eq).1 (by decide)

/-- The text of a string up to its closing quotation mark tells its characters. -/
theorem escapes_inj {cs ds r r' : List Char}
    (same : cs.flatMap escaped ++ '"' :: r = ds.flatMap escaped ++ '"' :: r') :
    cs = ds ∧ r = r' := by
  induction cs generalizing ds with
  | nil =>
    cases ds with
    | nil => exact ⟨rfl, (List.cons.inj same).2⟩
    | cons d ds =>
      rw [List.flatMap_cons, List.append_assoc] at same
      exact absurd same.symm (escaped_ne_quote d _ r)
  | cons c cs ih =>
    cases ds with
    | nil =>
      rw [List.flatMap_cons, List.append_assoc] at same
      exact absurd same (escaped_ne_quote c _ r')
    | cons d ds =>
      rw [List.flatMap_cons, List.flatMap_cons, List.append_assoc, List.append_assoc] at same
      obtain ⟨rfl, tails⟩ := escaped_inj same
      obtain ⟨rfl, rest⟩ := ih tails
      exact ⟨rfl, rest⟩

theorem toList_quoted (s : String) :
    (quoted s).toList = '"' :: (s.toList.flatMap escaped ++ ['"']) := String.toList_ofList

/-- A quotation ends with its mark, and what stands between the marks determines the text. -/
theorem quoted_inj {s t : String} {r r' : List Char}
    (same : (quoted s).toList ++ r = (quoted t).toList ++ r') : s = t ∧ r = r' := by
  rw [toList_quoted, toList_quoted, List.cons_append, List.cons_append, List.append_assoc,
    List.append_assoc] at same
  obtain ⟨eq, rest⟩ := escapes_inj (List.cons.inj same).2
  exact ⟨String.toList_inj.mp eq, rest⟩

end Text

namespace Ty

/-! ## Texts by form -/

/-- A type that another type is written like, whatever its components. -/
def isAmbiguous : Ty → Bool
  | .union ms => decide (ms.length < 2)
  | .intersection ms => decide (ms.length < 2)
  | .object fs => fs.any fun f => f.name.toList.contains ':'
  | .literal (.number x) => x.isNaN
  | .literal .null => true
  | .literal .undefined => true
  | _ => false

/-- No part of a type is ambiguous. -/
def Legible (t : Ty) : Prop := t.anyPart isAmbiguous = false

instance (t : Ty) : Decidable t.Legible := inferInstanceAs (Decidable (_ = _))

/-- The parts of a legible type are legible. -/
theorem Legible.component {c t : Ty} (h : t.Legible) (hc : Component c t) : c.Legible :=
  hc.anyPart_eq_false h

/-- A legible type is not ambiguous itself. -/
theorem Legible.isAmbiguous_eq_false {t : Ty} (h : t.Legible) : t.isAmbiguous = false := by
  cases t with
  | array e => rfl
  | function ps r => rfl
  | object fs => exact (Bool.or_eq_false_iff.mp h).1
  | union ms => exact (Bool.or_eq_false_iff.mp h).1
  | intersection ms => exact (Bool.or_eq_false_iff.mp h).1
  | _ => exact h

theorem Legible.colon_not_mem {fs : List Field} (h : (object fs).Legible) :
    ∀ f ∈ fs, ':' ∉ f.name.toList := by
  intro f mem colon
  have clear := List.any_eq_false.mp h.isAmbiguous_eq_false f mem
  exact clear (List.contains_iff_mem.mpr colon)

/-- The characters of the text of a type. -/
def chars (t : Ty) : List Char := t.display.toList

/-- The characters of a type inside an array, a union or an intersection. -/
def standing (t : Ty) : List Char := (parenthesized t.isCompound t.display).toList

/-- A compound type stands in parentheses among others. -/
theorem standing_of_compound {t : Ty} (h : t.isCompound = true) :
    t.standing = '(' :: (t.chars ++ [')']) := by
  simp [standing, parenthesized, h, chars]

theorem standing_of_simple {t : Ty} (h : t.isCompound = false) : t.standing = t.chars := by
  simp [standing, parenthesized, h, chars]

/-- An array is its element, in parentheses if need be, and a pair of brackets. -/
theorem chars_array (t : Ty) : (array t).chars = t.standing ++ ['[', ']'] := by
  simp [chars, display, standing]

theorem standing_array (t : Ty) : (array t).standing = t.standing ++ ['[', ']'] :=
  (standing_of_simple rfl).trans (chars_array t)

/-- Members with the separator between them. -/
theorem toList_displayMembers (separator : String) (ms : List Ty) :
    (displayMembers separator ms).toList = separator.toList.intercalate (ms.map standing) := by
  induction ms with
  | nil => rfl
  | cons m ms ih =>
    cases ms with
    | nil => simp [displayMembers, standing]
    | cons n ms => simp [displayMembers, standing, ih, List.intercalate_cons_cons]

theorem toList_displayParams (ps : List Ty) :
    (displayParams ps).toList = [',', ' '].intercalate (ps.map chars) := by
  induction ps with
  | nil => rfl
  | cons p ps ih =>
    cases ps with
    | nil => simp [displayParams, chars]
    | cons q ps => simp [displayParams, chars, ih, List.intercalate_cons_cons]

end Ty

/-- The characters of a field. -/
def Field.chars (f : Field) : List Char := f.name.toList ++ ':' :: ' ' :: f.ty.chars

namespace Ty

theorem toList_displayFields (fs : List Field) :
    (displayFields fs).toList = [',', ' '].intercalate (fs.map Field.chars) := by
  induction fs with
  | nil => rfl
  | cons f fs ih =>
    obtain ⟨name, t⟩ := f
    cases fs with
    | nil => simp [displayFields, Field.chars, chars]
    | cons g fs => simp [displayFields, Field.chars, chars, ih, List.intercalate_cons_cons]

/-- A function type, character by character. -/
theorem chars_function (ps : List Ty) (r : Ty) :
    (function ps r).chars =
      '(' :: ([',', ' '].intercalate (ps.map chars) ++
        ')' :: ' ' :: '=' :: '>' :: ' ' :: r.chars) := by
  simp [chars, display, toList_displayParams]

/-- An object type that is not empty, character by character. -/
theorem chars_object {fs : List Field} (nonempty : fs ≠ []) :
    (object fs).chars =
      '\x7b' :: ' ' :: ([',', ' '].intercalate (fs.map Field.chars) ++ [' ', '\x7d']) := by
  obtain ⟨f, fs, rfl⟩ := List.exists_cons_of_ne_nil nonempty
  simp [chars, display, toList_displayFields]

/-! ## Members -/

/-- A type as a list of members; only unions and intersections have several. -/
def members : Ty → List Ty
  | .union ms => ms
  | .intersection ms => ms
  | t => [t]

/-- What stands between the members. -/
def separator : Ty → List Char
  | .intersection _ => [' ', '&', ' ']
  | _ => [' ', '|', ' ']

/-- All types other than functions are written as their members. -/
theorem chars_members {t : Ty} (h : ∀ ps r, t ≠ function ps r) :
    t.chars = t.separator.intercalate (t.members.map standing) := by
  cases t with
  | function ps r => exact absurd rfl (h ps r)
  | union ms => exact toList_displayMembers " | " ms
  | intersection ms => exact toList_displayMembers " & " ms
  | _ => exact (standing_of_simple rfl).symm.trans List.intercalate_singleton.symm

/-- The innermost element of an array of arrays. -/
def core : Ty → Ty
  | .array t => t.core
  | t => t

/-- How many arrays are around the innermost element. -/
def rank : Ty → Nat
  | .array t => t.rank + 1
  | _ => 0

/-- The brackets after the innermost element. -/
def brackets : Nat → List Char
  | 0 => []
  | n + 1 => '[' :: ']' :: brackets n

theorem brackets_append (n : Nat) : brackets n ++ ['[', ']'] = brackets (n + 1) := by
  induction n with
  | zero => rfl
  | succ n ih => exact congrArg (['[', ']'] ++ ·) ih

/-- A type is its core followed by as many brackets as it is nested in arrays. -/
theorem standing_core (t : Ty) : t.standing = t.core.standing ++ brackets t.rank := by
  fun_induction core t with
  | case1 t ih => rw [standing_array, ih, List.append_assoc, brackets_append, rank]
  | case2 t single =>
    cases t with
    | array t => exact absurd rfl (single t)
    | _ => exact (List.append_nil _).symm

/-- A type is built from its core by making arrays. -/
theorem iterate_array (t : Ty) : Nat.iterate array t.rank t.core = t := by
  fun_induction core t with
  | case1 t ih => rw [rank, Function.iterate_succ_apply', ih]
  | case2 t single =>
    cases t with
    | array t => exact absurd rfl (single t)
    | _ => rfl

/-- A type is known by its core and its rank. -/
theorem eq_of_core {t u : Ty} (cores : t.core = u.core) (ranks : t.rank = u.rank) : t = u := by
  rw [← iterate_array t, ← iterate_array u, cores, ranks]

/-- A core is no array. -/
theorem core_ne_array (t e : Ty) : t.core ≠ array e := by
  fun_induction core t with
  | case1 t ih => exact ih
  | case2 t single => exact single e

theorem sizeOf_core_le (t : Ty) : sizeOf t.core ≤ sizeOf t := by
  fun_induction core t with
  | case1 t ih => exact ih.trans (Component.element t).sizeOf_lt.le
  | case2 => exact le_rfl

theorem sizeOf_core_lt {t : Ty} (h : t.core ≠ t) : sizeOf t.core < sizeOf t := by
  cases t with
  | array t => exact (sizeOf_core_le t).trans_lt (Component.element t).sizeOf_lt
  | _ => exact absurd rfl h

theorem Legible.core {t : Ty} (h : t.Legible) : t.core.Legible := by
  fun_induction Ty.core t with
  | case1 t ih => exact ih (h.component (.element t))
  | case2 => exact h

/-- Brackets can be counted if no other bracket follows them. -/
theorem brackets_inj {m n : Nat} {r r' : List Char} (hr : ∀ s, r ≠ '[' :: s)
    (hr' : ∀ s, r' ≠ '[' :: s) (same : brackets m ++ r = brackets n ++ r') : m = n ∧ r = r' := by
  induction m generalizing n with
  | zero =>
    cases n with
    | zero => exact ⟨rfl, same⟩
    | succ n => exact absurd same (hr _)
  | succ m ih =>
    cases n with
    | zero => exact absurd same.symm (hr' _)
    | succ n =>
      obtain ⟨eq, rest⟩ := ih (List.cons.inj (List.cons.inj same).2).2
      exact ⟨congrArg (· + 1) eq, rest⟩

/-! ## Words -/

/-- The types that are one word each, numbers apart. -/
def keywords : List Ty :=
  [number, string, boolean, null, undefined, unknown, literal (.boolean true),
    literal (.boolean false)]

/-- The characters of words and numbers. -/
def isWordChar (c : Char) : Bool := c.isAlphanum || c == '.' || c == '-'

/-- The character that a type opens with, unless it is a word. -/
def opener : Ty → Option Char
  | .array t => t.opener
  | .object _ => some '\x7b'
  | .literal (.string _) => some '"'
  | t => if t.isCompound then some '(' else none

theorem opener_core (t : Ty) : t.core.opener = t.opener := by
  fun_induction core t with
  | case1 t ih => exact ih
  | case2 => rfl

/-- What a type that is no array begins with, sort by sort. -/
theorem opener_cases {c : Ty} (single : ∀ e, c ≠ array e) :
    (c.isCompound = true ∧ c.opener = some '(') ∨
      (∃ fs, c = object fs) ∨ (∃ s, c = literal (.string s)) ∨ c.opener = none := by
  cases c with
  | array e => exact absurd rfl (single e)
  | object fs => exact .inr (.inl ⟨fs, rfl⟩)
  | literal v =>
    cases v with
    | string s => exact .inr (.inr (.inl ⟨s, rfl⟩))
    | _ => exact .inr (.inr (.inr rfl))
  | union => exact .inl ⟨rfl, rfl⟩
  | intersection => exact .inl ⟨rfl, rfl⟩
  | function => exact .inl ⟨rfl, rfl⟩
  | _ => exact .inr (.inr (.inr rfl))

theorem compound_of_opener {c : Ty} (single : ∀ e, c ≠ array e) (h : c.opener = some '(') :
    c.isCompound = true := by
  rcases opener_cases single with ⟨compound, -⟩ | ⟨fs, rfl⟩ | ⟨s, rfl⟩ | word
  · exact compound
  · simp [opener] at h
  · simp [opener] at h
  · exact absurd (word.symm.trans h) (by decide)

theorem object_of_opener {c : Ty} (single : ∀ e, c ≠ array e) (h : c.opener = some '\x7b') :
    ∃ fs, c = object fs := by
  rcases opener_cases single with ⟨-, opener⟩ | object | ⟨s, rfl⟩ | word
  · exact absurd (opener.symm.trans h) (by decide)
  · exact object
  · simp [opener] at h
  · exact absurd (word.symm.trans h) (by decide)

theorem quotation_of_opener {c : Ty} (single : ∀ e, c ≠ array e) (h : c.opener = some '"') :
    ∃ s, c = literal (.string s) := by
  rcases opener_cases single with ⟨-, opener⟩ | ⟨fs, rfl⟩ | quotation | word
  · exact absurd (opener.symm.trans h) (by decide)
  · simp [opener] at h
  · exact quotation
  · exact absurd (word.symm.trans h) (by decide)

/-- What begins with no bracket or quotation mark is a keyword or a number. -/
theorem keyword_or_number {c : Ty} (hc : c.Legible) (single : ∀ e, c ≠ array e)
    (word : c.opener = none) : c ∈ keywords ∨ ∃ x, c = literal (.number x) ∧ x.isNaN = false := by
  cases c with
  | array e => exact absurd rfl (single e)
  | literal v =>
    cases v with
    | number x => exact .inr ⟨x, rfl, hc⟩
    | string s => cases word
    | boolean b => cases b <;> exact .inl (by decide)
    | null => cases hc
    | undefined => cases hc
  | object => cases word
  | union => cases word
  | intersection => cases word
  | function => cases word
  | _ => exact .inl (by decide)

/-- The characters that numbers are written with. -/
def isNumberChar (c : Char) : Bool := c.isDigit || ['-', '.', 'i', 'n', 'f'].contains c

theorem isNumberChar_of_mem {x : Binary64} (number : x.isNaN = false) :
    ∀ c ∈ x.display.toList, isNumberChar c = true := by
  intro c mem
  by_cases finite : x.isFinite = true
  · rw [Binary64.display_of_finite finite, Numeral.text, String.toList_ofList] at mem
    rcases Layout.chars_numeral (fun _ => rfl) x c mem with digit | rfl | rfl
    · exact Bool.or_eq_true_iff.mpr (.inl digit)
    · rfl
    · rfl
  · rw [Binary64.display_of_infinite (Bool.eq_false_of_not_eq_true finite) number] at mem
    split at mem <;> exact List.all_eq_true.mp (by decide) c mem

theorem number_ne_nil {x : Binary64} (number : x.isNaN = false) : x.display.toList ≠ [] := by
  by_cases finite : x.isFinite = true
  · obtain ⟨c, ds, whole, -⟩ :=
      (Layout.canonical_numeral LiteralValue.numberLayout x).exists_whole_eq_cons
    rw [Binary64.display_of_finite finite, Numeral.text, String.toList_ofList, Numeral.chars, whole]
    simp
  · rw [Binary64.display_of_infinite (Bool.eq_false_of_not_eq_true finite) number]
    split <;> decide

theorem isWordChar_of_isNumberChar {c : Char} (h : isNumberChar c = true) :
    isWordChar c = true := by
  rcases Bool.or_eq_true_iff.mp h with digit | other
  · simp [isWordChar, Char.isAlphanum, digit]
  · have marks : ['-', '.', 'i', 'n', 'f'].all isWordChar = true := by decide
    exact List.all_eq_true.mp marks c (List.contains_iff_mem.mp other)

theorem keywords_inj : ∀ c ∈ keywords, ∀ d ∈ keywords, c.chars = d.chars → c = d := by decide

/-- No number is written like a keyword: each of these has a character that numbers lack. -/
theorem keyword_ne_number {c : Ty} (keyword : c ∈ keywords) {x : Binary64}
    (number : x.isNaN = false) : c.chars ≠ (literal (.number x)).chars := by
  have distinct : ∀ c ∈ keywords, c.chars.any (!isNumberChar ·) = true := by decide
  obtain ⟨z, mem, letter⟩ := List.any_eq_true.mp (distinct c keyword)
  intro same
  rw [same] at mem
  rw [isNumberChar_of_mem number z mem] at letter
  cases letter

theorem isWordChar_of_mem_keyword {k : Ty} (keyword : k ∈ keywords) :
    ∀ c ∈ k.chars, isWordChar c = true := by
  have words : ∀ k ∈ keywords, k.chars.all isWordChar = true := by decide
  exact List.all_eq_true.mp (words k keyword)

section Words

variable {c d : Ty}

theorem isWordChar_of_mem (hc : c.Legible) (single : ∀ e, c ≠ array e) (word : c.opener = none) :
    ∀ x ∈ c.chars, isWordChar x = true := by
  intro x mem
  rcases keyword_or_number hc single word with keyword | ⟨n, rfl, number⟩
  · exact isWordChar_of_mem_keyword keyword x mem
  · exact isWordChar_of_isNumberChar (isNumberChar_of_mem number x mem)

/-- Words tell their types apart. -/
theorem eq_of_word (hc : c.Legible) (hd : d.Legible) (single : ∀ e, c ≠ array e)
    (single' : ∀ e, d ≠ array e) (word : c.opener = none) (word' : d.opener = none)
    (same : c.chars = d.chars) : c = d := by
  rcases keyword_or_number hc single word with keyword | ⟨x, rfl, number⟩ <;>
    rcases keyword_or_number hd single' word' with keyword' | ⟨y, rfl, number'⟩
  · exact keywords_inj c keyword d keyword' same
  · exact absurd same (keyword_ne_number keyword number')
  · exact absurd same.symm (keyword_ne_number keyword' number)
  · rw [Binary64.display_inj number number' (String.toList_inj.mp same)]

theorem word_ne_nil (hc : c.Legible) (single : ∀ e, c ≠ array e) (word : c.opener = none) :
    c.chars ≠ [] := by
  rcases keyword_or_number hc single word with keyword | ⟨x, rfl, number⟩
  · have : ∀ k ∈ keywords, k.chars ≠ [] := by decide
    exact this c keyword
  · exact number_ne_nil number

end Words

theorem isCompound_of_word {c : Ty} (word : c.opener = none) : c.isCompound = false := by
  cases c with
  | union => cases word
  | intersection => cases word
  | function => cases word
  | _ => rfl

/-! ## What a type begins with -/

theorem chars_emptyObject : (object []).chars = ['\x7b', '\x7d'] := rfl

theorem chars_quotation (s : String) : (literal (.string s)).chars = (Text.quoted s).toList := rfl

/-- The first character of a member tells how it opens. -/
theorem standing_eq_cons {t : Ty} (ht : t.Legible) :
    ∃ h rest, t.standing = h :: rest ∧
      (h ∈ ['(', '\x7b', '"'] ∧ t.opener = some h ∨ isWordChar h = true ∧ t.opener = none) := by
  rw [standing_core, ← opener_core]
  have single := core_ne_array t
  have legible := ht.core
  generalize t.core = c at single legible
  rcases opener_cases single with ⟨compound, opener⟩ | ⟨fs, rfl⟩ | ⟨s, rfl⟩ | word
  · rw [standing_of_compound compound]
    exact ⟨_, _, rfl, .inl ⟨by decide, opener⟩⟩
  · rw [standing_of_simple rfl]
    cases fs with
    | nil => exact ⟨_, _, rfl, .inl ⟨by decide, rfl⟩⟩
    | cons f fs =>
      rw [chars_object (by simp)]
      exact ⟨_, _, rfl, .inl ⟨by decide, rfl⟩⟩
  · rw [standing_of_simple rfl, chars_quotation, Text.toList_quoted]
    exact ⟨_, _, rfl, .inl ⟨by decide, rfl⟩⟩
  · obtain ⟨h, rest, eq⟩ := List.exists_cons_of_ne_nil (word_ne_nil legible single word)
    rw [standing_of_simple (isCompound_of_word word), eq]
    exact ⟨_, _, rfl,
      .inr ⟨isWordChar_of_mem legible single word h (eq ▸ List.mem_cons_self), word⟩⟩

/-- Two types that begin the same text have the same opening character. -/
theorem opener_eq {t u : Ty} (ht : t.Legible) (hu : u.Legible) {r r' : List Char}
    (same : t.standing ++ r = u.standing ++ r') : t.opener = u.opener := by
  have others : ['(', '\x7b', '"'].all (isWordChar · = false) = true := by decide
  have other {o : Char} (opens : o ∈ ['(', '\x7b', '"']) : ¬isWordChar o = true :=
    Bool.eq_false_iff.mp (of_decide_eq_true (List.all_eq_true.mp others o opens))
  obtain ⟨h, rest, eq, opener⟩ := standing_eq_cons ht
  obtain ⟨h', rest', eq', opener'⟩ := standing_eq_cons hu
  rw [eq, eq'] at same
  obtain rfl := (List.cons.inj same).1
  rcases opener with ⟨opens, opener⟩ | ⟨word, opener⟩ <;>
    rcases opener' with ⟨opens', opener'⟩ | ⟨word', opener'⟩
  · rw [opener, opener']
  · exact absurd word' (other opens)
  · exact absurd word (other opens')
  · rw [opener, opener']

/-- A type is its only member, or a combination of several. -/
theorem Legible.members_cases {t : Ty} (ht : t.Legible) :
    t.members = [t] ∨ 2 ≤ t.members.length ∧
      (t = union t.members ∧ t.separator = [' ', '|', ' '] ∨
        t = intersection t.members ∧ t.separator = [' ', '&', ' ']) := by
  have clear := ht.isAmbiguous_eq_false
  cases t with
  | union ms => exact .inr ⟨not_lt.mp (of_decide_eq_false clear), .inl ⟨rfl, rfl⟩⟩
  | intersection ms => exact .inr ⟨not_lt.mp (of_decide_eq_false clear), .inr ⟨rfl, rfl⟩⟩
  | _ => exact .inl rfl

theorem members_ne_nil {t : Ty} (ht : t.Legible) : t.members ≠ [] := by
  rcases ht.members_cases with single | ⟨several, -⟩
  · rw [single]
    exact List.cons_ne_nil _ _
  · exact List.ne_nil_of_length_pos (by omega)

theorem Legible.members {t : Ty} (ht : t.Legible) : ∀ m ∈ t.members, m.Legible := by
  intro m mem
  cases t with
  | union ms => exact ht.component (.unionMember mem)
  | intersection ms => exact ht.component (.intersectionMember mem)
  | _ => exact List.mem_singleton.mp mem ▸ ht

/-- All types other than functions begin with a member, and a separator follows if more come. -/
theorem chars_first {t : Ty} (ht : t.Legible) (other : ∀ ps q, t ≠ function ps q) :
    ∃ m ∈ t.members, ∃ tail, t.chars = m.standing ++ tail ∧
      (tail = [] ∨ ∃ s, tail = t.separator ++ s) := by
  rw [chars_members other]
  obtain ⟨m, ms, eq⟩ := List.exists_cons_of_ne_nil (members_ne_nil ht)
  rw [eq]
  refine ⟨m, List.mem_cons_self, ?_⟩
  cases ms with
  | nil =>
    rw [List.map_singleton, List.intercalate_singleton]
    exact ⟨[], (List.append_nil _).symm, .inl rfl⟩
  | cons n ms =>
    rw [List.map_cons, List.map_cons, List.intercalate_cons_cons, List.append_assoc]
    exact ⟨_, rfl, .inr ⟨_, rfl⟩⟩

/-- No type begins with a closing parenthesis, so the end of a parameter list shows. -/
theorem chars_ne_paren {t : Ty} (ht : t.Legible) (r s : List Char) : t.chars ++ r ≠ ')' :: s := by
  by_cases function : ∃ ps q, t = .function ps q
  · obtain ⟨ps, q, rfl⟩ := function
    rw [chars_function]
    exact fun eq => absurd (List.cons.inj eq).1 (by decide)
  · obtain ⟨m, mem, tail, eq, -⟩ := chars_first ht fun ps q eq => function ⟨ps, q, eq⟩
    obtain ⟨h, rest, head, begins⟩ := standing_eq_cons (ht.members m mem)
    rw [eq, head]
    intro same
    obtain rfl := (List.cons.inj same).1
    rcases begins with ⟨opens, -⟩ | ⟨word, -⟩
    · exact absurd opens (by decide)
    · exact absurd word (by decide)

/-! ## What may follow a type -/

/-- What follows a whole type: nothing, the next item of a list, or the end of what it stands in. -/
inductive Closes : List Char → Prop
  | done : Closes []
  | comma (s : List Char) : Closes (',' :: s)
  | paren (s : List Char) : Closes (')' :: s)
  | brace (s : List Char) : Closes (' ' :: '\x7d' :: s)

/-- What follows a member: no character of a word and no brackets. -/
def Bounds (r : List Char) : Prop := ∀ c s, r = c :: s → isWordChar c = false ∧ c ≠ '['

theorem Closes.bounds {r : List Char} (h : Closes r) : Bounds r := by
  rintro c s rfl
  cases h <;> decide

/-- A separator ends the word before it. -/
theorem bounds_separator (t : Ty) (s : List Char) : Bounds (t.separator ++ s) := by
  rintro c rest eq
  cases t <;> obtain ⟨rfl, -⟩ := List.cons.inj eq <;> decide

/-- The separator of a union is never taken for that of an intersection. -/
theorem separator_eq (t u : Ty) (s s' : List Char) (same : t.separator ++ s = u.separator ++ s') :
    t.separator = u.separator := by
  have width : ∀ v : Ty, v.separator.length = 3 := by
    intro v
    cases v <;> rfl
  exact (List.append_inj same ((width t).trans (width u).symm)).1

/-- What closes a type is no separator. -/
theorem Closes.ne_separator {r : List Char} (h : Closes r) (t : Ty) (s : List Char) :
    r ≠ t.separator ++ s := by
  rintro rfl
  cases t <;> cases h

/-- Neither of two types can be taken for the other. -/
def Apart (a b : Ty) : Prop :=
  ∀ r r', Closes r → Closes r' → a.chars ++ r = b.chars ++ r' → a = b ∧ r = r'

theorem Apart.symm {a b : Ty} (h : Apart a b) : Apart b a := by
  intro r r' hr hr' same
  obtain ⟨eq, rest⟩ := h r' r hr' hr same.symm
  exact ⟨eq.symm, rest.symm⟩

/-- The first type stands inside the second one when this is a member: in its parentheses, or
deeper. -/
def Inside (c m : Ty) : Prop := sizeOf c < sizeOf m ∨ c = m ∧ m.isCompound = true

theorem Inside.of_core {c m : Ty} (h : Inside c m.core) : Inside c m := by
  by_cases single : m.core = m
  · rwa [single] at h
  · rcases h with smaller | ⟨rfl, -⟩
    · exact .inl (smaller.trans_le (sizeOf_core_le m))
    · exact .inl (sizeOf_core_lt single)

/-! ## Fields, parameters and members -/

/-- A field can be told apart from what follows it, since its name has no colon. -/
theorem field_inj {f g : Field} (clear : ':' ∉ f.name.toList) (clear' : ':' ∉ g.name.toList)
    (apart : Apart f.ty g.ty) {r r' : List Char} (hr : Closes r) (hr' : Closes r')
    (same : f.chars ++ r = g.chars ++ r') : f = g ∧ r = r' := by
  have name : ∀ h : Field, ':' ∉ h.name.toList → ∀ c ∈ h.name.toList, (c != ':') = true := by
    intro h clear c mem
    exact bne_iff_ne.mpr fun colon => clear (colon ▸ mem)
  have colon : ∀ (rest : List Char) c s, ':' :: rest = c :: s → (c != ':') = false := by
    rintro rest c s eq
    rw [← (List.cons.inj eq).1]
    rfl
  simp only [Field.chars, List.append_assoc, List.cons_append] at same
  obtain ⟨names, tails⟩ :=
    Text.split_inj (name f clear) (name g clear') (colon _) (colon _) same
  obtain ⟨types, rest⟩ := apart r r' hr hr' (List.cons.inj (List.cons.inj tails).2).2
  obtain ⟨n, t⟩ := f
  obtain ⟨n', t'⟩ := g
  obtain rfl : n = n' := String.toList_inj.mp names
  obtain rfl : t = t' := types
  exact ⟨rfl, rest⟩

/-- The fields of an object can be told apart, if their types can. -/
theorem object_inj {fs gs : List Field} (hf : ∀ f ∈ fs, ':' ∉ f.name.toList)
    (hg : ∀ g ∈ gs, ':' ∉ g.name.toList) (apart : ∀ f ∈ fs, ∀ g ∈ gs, Apart f.ty g.ty)
    {r r' : List Char} (same : (object fs).chars ++ r = (object gs).chars ++ r') :
    fs = gs ∧ r = r' := by
  by_cases empty : fs = [] <;> by_cases empty' : gs = []
  · subst empty empty'
    exact ⟨rfl, List.append_cancel_left same⟩
  · rw [empty, chars_emptyObject, chars_object empty'] at same
    exact absurd (List.cons.inj (List.cons.inj same).2).1 (by decide)
  · rw [empty', chars_emptyObject, chars_object empty] at same
    exact absurd (List.cons.inj (List.cons.inj same).2).1 (by decide)
  · rw [chars_object empty, chars_object empty'] at same
    simp only [List.cons_append, List.append_assoc, List.nil_append] at same
    obtain ⟨eq, rest, -⟩ := Text.intercalate_inj (fun s => Closes.comma _) (fun s => Closes.comma _)
      (fun _ _ _ => rfl) (Closes.brace r) (Closes.brace r')
      (fun s eq => absurd (List.cons.inj eq).1 (by decide))
      (fun s eq => absurd (List.cons.inj eq).1 (by decide)) empty empty'
      (fun f mem g mem' s s' hs hs' =>
        field_inj (hf f mem) (hg g mem') (apart f mem g mem') hs hs')
      (List.cons.inj (List.cons.inj same).2).2
    exact ⟨eq, (List.cons.inj (List.cons.inj rest).2).2⟩

theorem intercalate_ne_paren {qs : List Ty} (hq : ∀ q ∈ qs, q.Legible) (nonempty : qs ≠ [])
    (r s : List Char) : [',', ' '].intercalate (qs.map chars) ++ r ≠ ')' :: s := by
  obtain ⟨q, qs, rfl⟩ := List.exists_cons_of_ne_nil nonempty
  have legible := hq q List.mem_cons_self
  cases qs with
  | nil =>
    rw [List.map_singleton, List.intercalate_singleton]
    exact chars_ne_paren legible r s
  | cons q' qs =>
    rw [List.map_cons, List.map_cons, List.intercalate_cons_cons, List.append_assoc,
      List.append_assoc]
    exact chars_ne_paren legible _ s

/-- The parameters of a function can be told apart, if their types can. -/
theorem params_inj {ps qs : List Ty} (hp : ∀ p ∈ ps, p.Legible) (hq : ∀ q ∈ qs, q.Legible)
    (apart : ∀ p ∈ ps, ∀ q ∈ qs, Apart p q) {r r' : List Char}
    (same : [',', ' '].intercalate (ps.map chars) ++ ')' :: r =
      [',', ' '].intercalate (qs.map chars) ++ ')' :: r') : ps = qs ∧ r = r' := by
  by_cases empty : ps = [] <;> by_cases empty' : qs = []
  · subst empty empty'
    exact ⟨rfl, (List.cons.inj same).2⟩
  · rw [empty] at same
    exact absurd same.symm (intercalate_ne_paren hq empty' _ _)
  · rw [empty'] at same
    exact absurd same (intercalate_ne_paren hp empty _ _)
  · obtain ⟨eq, rest, -⟩ := Text.intercalate_inj (fun s => Closes.comma _) (fun s => Closes.comma _)
      (fun _ _ _ => rfl) (Closes.paren r) (Closes.paren r')
      (fun s eq => absurd (List.cons.inj eq).1 (by decide))
      (fun s eq => absurd (List.cons.inj eq).1 (by decide)) empty empty'
      (fun p mem q mem' s s' => apart p mem q mem' s s') same
    exact ⟨eq, (List.cons.inj rest).2⟩

section Members

variable {m n : Ty} {r r' : List Char}

/-- Members that are not arrays: what opens them decides how they end. -/
theorem core_inj (hm : m.Legible) (hn : n.Legible) (single : ∀ e, m ≠ array e)
    (single' : ∀ e, n ≠ array e)
    (inner : ∀ c d, Inside c m → Inside d n → c.Legible → d.Legible → Apart c d)
    (hr : ∀ c s, r = c :: s → isWordChar c = false)
    (hr' : ∀ c s, r' = c :: s → isWordChar c = false)
    (same : m.standing ++ r = n.standing ++ r') : m = n ∧ r = r' := by
  have openers := opener_eq hm hn same
  rcases opener_cases single with ⟨compound, opener⟩ | ⟨fs, rfl⟩ | ⟨s, rfl⟩ | word
  · -- both stand in parentheses, and inside these the texts are smaller
    have compound' := compound_of_opener single' (openers.symm.trans opener)
    rw [standing_of_compound compound, standing_of_compound compound'] at same
    simp only [List.cons_append, List.append_assoc] at same
    obtain ⟨eq, rest⟩ := inner m n (.inr ⟨rfl, compound⟩) (.inr ⟨rfl, compound'⟩) hm hn _ _
      (.paren r) (.paren r') (List.cons.inj same).2
    exact ⟨eq, (List.cons.inj rest).2⟩
  · obtain ⟨gs, rfl⟩ := object_of_opener single' openers.symm
    rw [standing_of_simple rfl, standing_of_simple rfl] at same
    obtain ⟨rfl, rest⟩ := object_inj hm.colon_not_mem hn.colon_not_mem (fun f mem g mem' =>
      inner _ _ (.inl (Component.field mem).sizeOf_lt) (.inl (Component.field mem').sizeOf_lt)
        (hm.component (.field mem)) (hn.component (.field mem'))) same
    exact ⟨rfl, rest⟩
  · obtain ⟨t, rfl⟩ := quotation_of_opener single' openers.symm
    obtain ⟨rfl, rest⟩ := Text.quoted_inj same
    exact ⟨rfl, rest⟩
  · -- both are words, which end where the first other character comes
    have word' : n.opener = none := openers.symm.trans word
    rw [standing_of_simple (isCompound_of_word word), standing_of_simple (isCompound_of_word word')]
      at same
    obtain ⟨eq, rest⟩ := Text.split_inj (isWordChar_of_mem hm single word)
      (isWordChar_of_mem hn single' word') hr hr' same
    exact ⟨eq_of_word hm hn single single' word word' eq, rest⟩

/-- A member ends with the brackets that follow its innermost element. -/
theorem standing_inj (hm : m.Legible) (hn : n.Legible)
    (inner : ∀ c d, Inside c m → Inside d n → c.Legible → d.Legible → Apart c d)
    (hr : Bounds r) (hr' : Bounds r') (same : m.standing ++ r = n.standing ++ r') :
    m = n ∧ r = r' := by
  have bounded : ∀ {s : List Char}, Bounds s → ∀ k c t, brackets k ++ s = c :: t →
      isWordChar c = false := by
    rintro s hs (- | k) c t eq
    · exact (hs c t eq).1
    · rw [← (List.cons.inj eq).1]
      decide
  rw [standing_core m, standing_core n, List.append_assoc, List.append_assoc] at same
  obtain ⟨cores, rest⟩ := core_inj hm.core hn.core (core_ne_array m) (core_ne_array n)
    (fun c d hc hd => inner c d hc.of_core hd.of_core) (bounded hr _) (bounded hr' _) same
  obtain ⟨ranks, rest⟩ :=
    brackets_inj (fun s eq => (hr _ s eq).2 rfl) (fun s eq => (hr' _ s eq).2 rfl) rest
  exact ⟨eq_of_core cores ranks, rest⟩

end Members

/-! ## Whole types -/

theorem Inside.sizeOf_le {c m : Ty} (h : Inside c m) : sizeOf c ≤ sizeOf m := by
  rcases h with smaller | ⟨rfl, -⟩
  · exact smaller.le
  · exact le_rfl

/-- What stands inside a member is smaller than the type, which the induction needs. -/
theorem sizeOf_lt_of_inside {t m c : Ty} (other : ∀ ps q, t ≠ function ps q) (mem : m ∈ t.members)
    (h : Inside c m) : sizeOf c < sizeOf t := by
  cases t with
  | function ps q => exact absurd rfl (other ps q)
  | union ms => exact h.sizeOf_le.trans_lt (Component.unionMember mem).sizeOf_lt
  | intersection ms => exact h.sizeOf_le.trans_lt (Component.intersectionMember mem).sizeOf_lt
  | _ =>
    obtain rfl := List.mem_singleton.mp mem
    rcases h with smaller | ⟨-, compound⟩
    · exact smaller
    · cases compound

/-- A function is not written like any other type: no other type has an arrow after the closing
parenthesis of its first member. -/
theorem function_ne_other {ps : List Ty} {q b : Ty} {r r' : List Char}
    (ha : (function ps q).Legible) (hb : b.Legible) (other : ∀ ps q, b ≠ function ps q)
    (apart : ∀ p ∈ ps, ∀ d, sizeOf d < sizeOf b → d.Legible → Apart p d) (hr' : Closes r') :
    (function ps q).chars ++ r ≠ b.chars ++ r' := by
  obtain ⟨m, mem, tail, eq, ends⟩ := chars_first hb other
  have hm := hb.members m mem
  intro same
  rw [eq, chars_function] at same
  -- the first member opens with a parenthesis, so its innermost element is a compound type
  obtain ⟨h, rest, head, begins⟩ := standing_eq_cons hm
  have opener : m.core.opener = some '(' := by
    rw [head] at same
    obtain rfl := (List.cons.inj same).1
    rcases begins with ⟨-, opener⟩ | ⟨word, -⟩
    · rw [opener_core, opener]
    · exact absurd word (by decide)
  have compound := compound_of_opener (core_ne_array m) opener
  rw [standing_core, standing_of_compound compound] at same
  simp only [List.cons_append, List.append_assoc, List.nil_append] at same
  have smaller := sizeOf_lt_of_inside other mem (Inside.of_core (.inr ⟨rfl, compound⟩))
  obtain ⟨-, rests⟩ := params_inj (fun p hp => ha.component (.param hp q))
    (List.forall_mem_singleton.mpr hm.core)
    (fun p hp d hd => List.mem_singleton.mp hd ▸ apart p hp _ smaller hm.core)
    (by rw [List.map_singleton, List.intercalate_singleton]; exact (List.cons.inj same).2)
  -- an arrow on one side; brackets, a separator or the end of the type on the other
  cases rank : m.rank with
  | succ k =>
    rw [rank] at rests
    exact absurd (List.cons.inj rests).1 (by decide)
  | zero =>
    rw [rank] at rests
    rcases ends with rfl | ⟨s, rfl⟩
    · rw [brackets, List.nil_append, List.nil_append] at rests
      subst rests
      cases hr'
    · cases b <;> exact absurd (List.cons.inj (List.cons.inj rests).2).1 (by decide)

/-- The members and what stands between them determine a type. -/
theorem eq_of_members {a b : Ty} (ha : a.Legible) (hb : b.Legible) (members : a.members = b.members)
    (separators : 2 ≤ a.members.length → a.separator = b.separator) : a = b := by
  have lengths := congrArg List.length members
  rcases ha.members_cases with single | ⟨several, kind⟩ <;>
    rcases hb.members_cases with single' | ⟨several', kind'⟩
  · rw [single, single'] at members
    exact List.singleton_inj.mp members
  · rw [single, List.length_singleton] at lengths
    omega
  · rw [single', List.length_singleton] at lengths
    omega
  · have separator := separators several
    rcases kind with ⟨union, bar⟩ | ⟨intersection, ampersand⟩ <;>
      rcases kind' with ⟨union', bar'⟩ | ⟨intersection', ampersand'⟩
    · rw [union, union', members]
    · rw [bar, ampersand'] at separator
      exact absurd separator (by decide)
    · rw [ampersand, bar'] at separator
      exact absurd separator (by decide)
    · rw [intersection, intersection', members]

/-- The step of the induction: smaller types can be told apart, so these can. -/
theorem apart_of_smaller {a b : Ty} (ha : a.Legible) (hb : b.Legible)
    (smaller : ∀ c d, sizeOf c < sizeOf a → sizeOf d < sizeOf b → c.Legible → d.Legible →
      Apart c d) : Apart a b := by
  intro r r' hr hr' same
  by_cases function : ∃ ps p, a = .function ps p <;> by_cases function' : ∃ qs q, b = .function qs q
  · -- two functions: the parameter lists end at their closing parentheses, then come the results
    obtain ⟨ps, p, rfl⟩ := function
    obtain ⟨qs, q, rfl⟩ := function'
    simp only [chars_function, List.cons_append, List.append_assoc] at same
    obtain ⟨rfl, rests⟩ := params_inj (fun c hc => ha.component (.param hc p))
      (fun d hd => hb.component (.param hd q))
      (fun c hc d hd => smaller c d (Component.param hc p).sizeOf_lt
        (Component.param hd q).sizeOf_lt (ha.component (.param hc p)) (hb.component (.param hd q))) (List.cons.inj same).2
    simp only [List.cons.injEq, true_and] at rests
    obtain ⟨rfl, rest⟩ := smaller p q (Component.result ps p).sizeOf_lt
      (Component.result ps q).sizeOf_lt (ha.component (.result ps p)) (hb.component (.result ps q))
      r r' hr hr' rests
    exact ⟨rfl, rest⟩
  · obtain ⟨ps, p, rfl⟩ := function
    exact absurd same (function_ne_other ha hb (fun qs q eq => function' ⟨qs, q, eq⟩)
      (fun c hc d hd legible => smaller c d (Component.param hc p).sizeOf_lt hd
        (ha.component (.param hc p)) legible) hr')
  · obtain ⟨qs, q, rfl⟩ := function'
    exact absurd same.symm (function_ne_other hb ha (fun ps p eq => function ⟨ps, p, eq⟩)
      (fun c hc d hd legible => (smaller d c hd (Component.param hc q).sizeOf_lt legible
        (hb.component (.param hc q))).symm) hr)
  · -- no functions: both texts are members with separators between them
    have other : ∀ ps p, a ≠ .function ps p := fun ps p eq => function ⟨ps, p, eq⟩
    have other' : ∀ qs q, b ≠ .function qs q := fun qs q eq => function' ⟨qs, q, eq⟩
    rw [chars_members other, chars_members other'] at same
    obtain ⟨members, rest, separators⟩ := Text.intercalate_inj (bounds_separator a)
      (bounds_separator b) (separator_eq a b) hr.bounds hr'.bounds (hr.ne_separator b)
      (hr'.ne_separator a) (members_ne_nil ha) (members_ne_nil hb)
      (fun m hm n hn s s' hs hs' => standing_inj (ha.members m hm) (hb.members n hn)
        (fun c d hc hd => smaller c d (sizeOf_lt_of_inside other hm hc)
          (sizeOf_lt_of_inside other' hn hd)) hs hs') same
    exact ⟨eq_of_members ha hb members separators, rest⟩

/-- Legible types can be told apart wherever they stand. -/
theorem apart {a b : Ty} (ha : a.Legible) (hb : b.Legible) : Apart a b :=
  apart_of_smaller ha hb fun _ _ _ _ hc hd => apart hc hd
termination_by sizeOf a

/-- The text of a type determines it: two types with the same text are the same, if in both of them
every union and intersection has at least two members, no literal is null, undefined or a NaN, and
no field name has a colon (a word of letters, digits and underscores has none). -/
theorem eq_of_display_eq {a b : Ty} (ha : a.Legible) (hb : b.Legible)
    (same : a.display = b.display) : a = b := by
  have texts : a.chars ++ [] = b.chars ++ [] := congrArg (·.toList ++ []) same
  exact (apart ha hb [] [] .done .done texts).1

/-- A value with a fallback, and the type that its text names. -/
theorem eq_of_display_eq_fallback :
    let hook := function [literal (.string "\"x\"")]
      (object [⟨"x_1", array (union [number, null])⟩])
    let value := coalesce (union [null, array hook]) (intersection [hook, unknown])
    value.display = "((\"\\\"x\\\"\") => \x7b x_1: (number | null)[] \x7d)[] | " ++
        "(((\"\\\"x\\\"\") => \x7b x_1: (number | null)[] \x7d) & unknown)" ∧
      value.Legible ∧ value = union [array hook, intersection [hook, unknown]] := by
  refine ⟨by decide +kernel, by decide +kernel, ?_⟩
  exact eq_of_display_eq (by decide +kernel) (by decide +kernel) (by decide +kernel)

end Ty
end StructuralTyping
