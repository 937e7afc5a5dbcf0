import Mathlib.Data.List.Basic
import Mathlib.Tactic.Positivity
import StructuralTyping.Number.Layout

/-! # Numerals read back what they write

`Numeral.ofChars?` accepts one grammar, and a numeral is `Canonical` when its digits follow it: a
whole part that is a single digit or does not start with zero, and digits alone on both sides of
the point.  A canonical numeral is read back from its text unchanged (`ofChars?_chars`).

Every numeral that the library writes is canonical: those of natural numbers (`canonical_ofNat`) and
those that a layout makes of a double (`Layout.canonical_numeral`).  For the second the point is
that a decimal with zero digits must not be padded with further zeros, and `shortest` never finds
zero digits for a number other than zero: its first grid already has a step below the number
(`Basin.reaches_leading`), and finer grids keep it. -/

namespace StructuralTyping

namespace Numeral

/-! ### Decimal digits -/

theorem digits_ne_nil (n : Nat) : digits n ≠ [] := Nat.toDigits_ne_nil

theorem isDigit_of_mem_digits {n : Nat} {c : Char} (h : c ∈ digits n) : c.isDigit = true :=
  Nat.isDigit_of_mem_toDigits (by decide) (by decide) h

/-- The digits of a number stand for it. -/
theorem value_digits (n : Nat) : value (digits n) = n := Nat.ofDigitChars_ten_toDigits

/-- The digits of a number other than zero do not start with zero. -/
theorem exists_digits_eq_cons {n : Nat} (h : n ≠ 0) :
    ∃ c ds, digits n = c :: ds ∧ c ≠ '0' := by
  induction n using Nat.strong_induction_on with
  | _ n ih =>
    by_cases small : n < 10
    · refine ⟨n.digitChar, [], Nat.toDigits_of_lt_base small, ?_⟩
      rwa [Ne, Nat.digitChar_eq_zero]
    · -- Without its last digit the number is still not zero and starts with the same digit.
      obtain ⟨c, ds, eq, ne⟩ := ih (n / 10) (by omega) (by omega)
      have split : digits n = digits (n / 10) ++ [(n % 10).digitChar] :=
        Nat.toDigits_of_base_le (by decide) (by omega)
      exact ⟨c, ds ++ [(n % 10).digitChar], by rw [split, eq, List.cons_append], ne⟩

theorem isWhole_cons {c : Char} (h : c ≠ '0') (ds : List Char) : isWhole (c :: ds) = true := by
  cases ds with
  | nil => rfl
  | cons d ds => simpa [isWhole] using h

/-- The digits of a number have no leading zero. -/
theorem isWhole_digits (n : Nat) : isWhole (digits n) = true := by
  by_cases zero : n = 0
  · subst zero
    decide
  · obtain ⟨c, ds, eq, ne⟩ := exists_digits_eq_cons zero
    rw [eq]
    exact isWhole_cons ne ds

/-! ### Canonical numerals -/

/-- The digits of a numeral follow the grammar. -/
structure Canonical (n : Numeral) : Prop where
  whole : isWhole n.whole = true
  isDigit_whole : ∀ c ∈ n.whole, c.isDigit = true
  isDigit_fraction : ∀ c ∈ n.fraction, c.isDigit = true

/-- A natural number is written canonically. -/
theorem canonical_ofNat (n : Nat) : (ofNat n).Canonical where
  whole := isWhole_digits n
  isDigit_whole _ h := isDigit_of_mem_digits h
  isDigit_fraction _ h := nomatch h

/-- A natural number is read back. -/
theorem toNat?_ofNat (n : Nat) : (ofNat n).toNat? = some n := by
  simp [toNat?, ofNat, value_digits]

/-! ### Reading the parts -/

/-- The digits at the front of a text end where something else follows. -/
theorem takeWhile_isDigit {ds rest : List Char} (digits : ∀ c ∈ ds, c.isDigit = true)
    (stop : rest.takeWhile Char.isDigit = []) :
    (ds ++ rest).takeWhile Char.isDigit = ds ∧ (ds ++ rest).dropWhile Char.isDigit = rest := by
  have kept : (ds ++ rest).takeWhile Char.isDigit = ds := by
    rw [List.takeWhile_append_of_pos digits, stop, List.append_nil]
  refine ⟨kept, ?_⟩
  have all := List.takeWhile_append_dropWhile (p := Char.isDigit) (l := ds ++ rest)
  rw [kept] at all
  exact List.append_cancel_left all

/-- An exponent begins with no digit, so the digits before it end there. -/
theorem takeWhile_exponentChars (e : Option Int) :
    (exponentChars e).takeWhile Char.isDigit = [] := by
  rcases e with _ | _ | _ <;> rfl

/-- A fraction begins with its point, so the digits before it end there. -/
theorem takeWhile_fractionChars (ds : List Char) (e : Option Int) :
    (fractionChars ds ++ exponentChars e).takeWhile Char.isDigit = [] := by
  cases ds with
  | nil => exact takeWhile_exponentChars e
  | cons c ds => rfl

/-- Digits are what an exponent may be made of. -/
theorem digits_exponent (n : Nat) :
    ((digits n).isEmpty || !(digits n).all Char.isDigit) = false := by
  have all : (digits n).all Char.isDigit = true := by
    rw [List.all_eq_true]
    intro c h
    exact isDigit_of_mem_digits h
  simp [all, digits_ne_nil]

/-- An exponent is read back. -/
theorem withExponent?_exponentChars (n : Numeral) (h : n.exponent = none) (e : Option Int) :
    n.withExponent? (exponentChars e) = some { n with exponent := e } := by
  obtain ⟨negative, whole, fraction, exponent⟩ := n
  subst h
  rcases e with _ | k | k
  · rfl
  · simp [exponentChars, withExponent?, exponent?, digits_exponent, value_digits]
  · simp [exponentChars, withExponent?, exponent?, digits_exponent, value_digits,
      Int.negSucc_eq]

/-- A fraction and an exponent are read back. -/
theorem withFraction?_fractionChars (n : Numeral) (plain : n.fraction = []) (h : n.exponent = none)
    {ds : List Char} (digits : ∀ c ∈ ds, c.isDigit = true) (e : Option Int) :
    n.withFraction? (fractionChars ds ++ exponentChars e) =
      some { n with fraction := ds, exponent := e } := by
  obtain ⟨negative, whole, fraction, exponent⟩ := n
  subst plain h
  rcases ds with _ | ⟨c, ds⟩
  · -- Without a fraction the exponent follows at once, and no exponent starts with a point.
    rw [fractionChars, List.nil_append, ← withExponent?_exponentChars _ rfl]
    rcases e with _ | _ | _ <;> rfl
  · obtain ⟨kept, left⟩ := takeWhile_isDigit digits (takeWhile_exponentChars e)
    rw [fractionChars, List.cons_append, withFraction?]
    · simp only [kept, left, List.isEmpty_cons, Bool.false_eq_true, if_false]
      exact withExponent?_exponentChars _ rfl e
    · exact List.cons_ne_nil c ds

/-- A canonical numeral is read back from what follows its sign. -/
theorem unsigned?_chars {n : Numeral} (h : n.Canonical) :
    unsigned? n.negative (n.whole ++ (fractionChars n.fraction ++ exponentChars n.exponent)) =
      some n := by
  obtain ⟨kept, left⟩ := takeWhile_isDigit h.isDigit_whole
    (takeWhile_fractionChars n.fraction n.exponent)
  simp only [unsigned?, kept, left, h.whole, if_true]
  exact withFraction?_fractionChars _ rfl rfl h.isDigit_fraction _

/-- A whole part starts with a digit, so never with a sign. -/
theorem Canonical.exists_whole_eq_cons {n : Numeral} (h : n.Canonical) :
    ∃ c ds, n.whole = c :: ds ∧ c.isDigit = true := by
  rcases eq : n.whole with _ | ⟨c, ds⟩
  · have whole := h.whole
    rw [eq] at whole
    cases whole
  · exact ⟨c, ds, rfl, h.isDigit_whole c (by simp [eq])⟩

/-- A canonical numeral is read back from its text. -/
theorem ofChars?_chars {n : Numeral} (h : n.Canonical) : ofChars? n.chars = some n := by
  have unsigned := unsigned?_chars h
  rcases sign : n.negative with _ | _
  · obtain ⟨c, ds, eq, digit⟩ := h.exists_whole_eq_cons
    have plain : c ≠ '-' := by
      rintro rfl
      cases digit
    rw [sign, eq] at unsigned
    rw [chars, sign, eq]
    simp only [Bool.false_eq_true, if_false, List.nil_append, List.append_assoc,
      List.cons_append] at unsigned ⊢
    rw [ofChars?]
    · exact unsigned
    · intro rest start
      exact plain (List.cons.inj start).1
  · rw [sign] at unsigned
    simpa [chars, sign, ofChars?] using unsigned

end Numeral

/-! ### Layouts -/

namespace Layout

/-- What `placed` needs of the digits: they start with zero only when they are the single digit of
zero itself. -/
theorem isWhole_placed (l : Layout) {ds : List Char} {e : Int} (nonempty : ds ≠ [])
    (lead : ∀ tail, ds = '0' :: tail → tail = [] ∧ e = 0) :
    Numeral.isWhole (l.placed ds e).1 = true := by
  obtain ⟨c, tail, rfl⟩ := List.exists_cons_of_ne_nil nonempty
  rcases e with k | k
  · by_cases zero : c = '0'
    · subst zero
      obtain ⟨rfl, at_one⟩ := lead tail rfl
      obtain rfl : k = 0 := by simpa using at_one
      rfl
    · -- Zeros come after the digits or the point comes among them: the first digit stays first.
      simp only [placed]
      split
      · exact Numeral.isWhole_cons zero _
      · exact Numeral.isWhole_cons zero _
  · rfl

/-- Placing the point leaves digits on both sides of it. -/
theorem isDigit_placed (l : Layout) {ds : List Char} (digits : ∀ c ∈ ds, c.isDigit = true)
    (e : Int) :
    (∀ c ∈ (l.placed ds e).1, c.isDigit = true) ∧ ∀ c ∈ (l.placed ds e).2, c.isDigit = true := by
  have zeros : ∀ k, ∀ c ∈ List.replicate k '0', c.isDigit = true := by
    intro k c h
    rw [List.eq_of_mem_replicate h]
    rfl
  rcases e with k | k
  · simp only [placed]
    split
    · refine ⟨List.forall_mem_append.2 ⟨digits, zeros _⟩, fun c h => ?_⟩
      rw [wholeFraction] at h
      split at h
      · rw [List.mem_singleton.1 h]
        rfl
      · cases h
    · exact ⟨fun c h => digits c (List.mem_of_mem_take h),
        fun c h => digits c (List.mem_of_mem_drop h)⟩
  · exact ⟨zeros 1, List.forall_mem_append.2 ⟨zeros k, digits⟩⟩

/-- A decimal is set out canonically, provided that zero has no exponent. -/
theorem canonical_ofDecimal (l : Layout) (negative : Bool) {d : Decimal}
    (zero : d.digits = 0 → d.exponent = 0) : (l.ofDecimal negative d).Canonical := by
  have digits : ∀ c ∈ Numeral.digits d.digits, c.isDigit = true :=
    fun _ => Numeral.isDigit_of_mem_digits
  simp only [ofDecimal]
  split
  · -- only zero begins with the digit zero, and zero is the single digit at the point
    have lead : ∀ tail, Numeral.digits d.digits = '0' :: tail →
        tail = [] ∧ d.exponent + ((Numeral.digits d.digits).length : Int) - 1 = 0 := by
      intro tail start
      by_cases none : d.digits = 0
      · have single : Numeral.digits d.digits = ['0'] := by
          rw [none]
          rfl
        rw [single] at start ⊢
        exact ⟨(List.cons.inj start).2.symm, by rw [zero none]; rfl⟩
      · obtain ⟨c, ds, eq, ne⟩ := Numeral.exists_digits_eq_cons none
        rw [eq] at start
        exact absurd (List.cons.inj start).1 ne
    obtain ⟨whole, fraction⟩ := l.isDigit_placed digits
      (d.exponent + ((Numeral.digits d.digits).length : Int) - 1)
    exact ⟨l.isWhole_placed (Numeral.digits_ne_nil _) lead, whole, fraction⟩
  · obtain ⟨c, ds, eq⟩ := List.exists_cons_of_ne_nil (Numeral.digits_ne_nil d.digits)
    refine ⟨?_, fun c h => digits c (List.mem_of_mem_take h),
      fun c h => digits c (List.mem_of_mem_drop h)⟩
    rw [eq]
    rfl

end Layout

/-! ### The shortest digits of a number other than zero -/

/-- Without trailing zeros, digits that are not zero are still not zero. -/
theorem Decimal.digits_strip_ne_zero (d : Decimal) (h : d.digits ≠ 0) : d.strip.digits ≠ 0 := by
  fun_induction Decimal.strip d with
  | case1 d more ih => exact ih (by dsimp only; omega)
  | case2 => exact h

namespace Binary64

namespace Basin

variable {b : Basin}

/-- The value is at least one step of the grid. -/
def Reaches (b : Basin) (grid : Int) : Prop :=
  0 < (b.inSteps grid).denominator ∧ (b.inSteps grid).denominator ≤ (b.inSteps grid).value

theorem Reaches.one_le {grid : Int} (h : b.Reaches grid) :
    1 ≤ (b.inSteps grid).value / (b.inSteps grid).denominator :=
  (Nat.one_le_div_iff h.1).2 h.2

/-- A finer grid has a step below the value too. -/
theorem Reaches.pred {grid : Int} (h : b.Reaches grid) : b.Reaches (grid - 1) := by
  rcases grid with (_ | k) | k
  · obtain ⟨positive, le⟩ := h
    have positive : 0 < b.denominator := by simpa [inSteps] using positive
    have le : b.denominator ≤ b.value := by simpa [inSteps] using le
    exact ⟨positive, show b.denominator ≤ b.value * 10 by omega⟩
  · obtain ⟨positive, le⟩ := h
    have eq : (Int.ofNat (k + 1) - 1) = Int.ofNat k := by simp
    simp only [inSteps, Nat.pow_eq, Nat.pow_succ, ← Nat.mul_assoc] at positive le
    rw [eq]
    exact ⟨show 0 < b.denominator * 10 ^ k by omega,
      show b.denominator * 10 ^ k ≤ b.value by omega⟩
  · obtain ⟨positive, le⟩ := h
    have eq : (Int.negSucc k - 1) = Int.negSucc (k + 1) := rfl
    simp only [inSteps, Nat.pow_eq] at positive le
    refine ⟨positive, ?_⟩
    rw [eq]
    show b.denominator ≤ b.value * 10 ^ (k + 1 + 1)
    rw [Nat.pow_succ, ← Nat.mul_assoc]
    omega

/-- The nearer grid point is not zero if the lower one is not. -/
theorem one_le_nearer (tie : Tie) (h : 1 ≤ b.value / b.denominator) : 1 ≤ b.nearer tie := by
  simp only [nearer]
  split
  · exact h
  · split
    · omega
    · cases tie <;> simp only <;> omega

/-- No grid point inside the interval is zero. -/
theorem one_le_point? {tie : Tie} (h : 1 ≤ b.value / b.denominator) {point : Nat}
    (found : b.point? tie = some point) : 1 ≤ point := by
  simp only [point?] at found
  split at found
  · obtain rfl := Option.some.inj found
    exact one_le_nearer tie h
  · obtain rfl := Option.some.inj found
    exact h
  · obtain rfl := Option.some.inj found
    omega
  · cases found

/-- The search ends with digits that are not zero, since it starts on a grid that reaches the value.
-/
theorem digits_search_ne_zero (tie : Tie) (fuel : Nat) {grid : Int} (h : b.Reaches grid) :
    (b.search tie fuel grid).digits ≠ 0 := by
  induction fuel generalizing grid with
  | zero => exact Nat.one_le_iff_ne_zero.1 (one_le_nearer tie h.one_le)
  | succ fuel ih =>
    rw [search]
    split
    · next point found => exact Nat.one_le_iff_ne_zero.1 (one_le_point? h.one_le found)
    · exact ih h.pred

/-- The leading digit of the value stands at `leading`, as long as it is among the positions that
are counted. -/
theorem reaches_leading (positive : 0 < b.denominator)
    (counted : b.denominator ≤ b.value * 10 ^ 330) : b.Reaches b.leading := by
  generalize quotient : b.value * 10 ^ 330 / b.denominator = q
  generalize length : (Nat.toDigits 10 q).length = n
  have leading : b.leading = (n : Int) - 331 := by
    simp only [Basin.leading, Nat.pow_eq, quotient, length]
  have some_digit : 0 < n := length ▸ Nat.length_toDigits_pos
  -- a number with `n` digits is at least the power of ten of its leading one
  have lower : 10 ^ (n - 1) ≤ q := by
    by_cases single : n = 1
    · subst single
      rw [← quotient]
      exact (Nat.one_le_div_iff positive).2 counted
    · by_contra below
      have short := (Nat.length_toDigits_le_iff (b := 10) (by decide) (by omega)).2
        (not_le.1 below)
      omega
  have lower : 10 ^ (n - 1) * b.denominator ≤ b.value * 10 ^ 330 := by
    rw [← quotient] at lower
    exact (Nat.le_div_iff_mul_le positive).1 lower
  rw [leading]
  -- Above the point the grid is coarser than one, below it finer; both compare the same powers.
  by_cases above : 331 ≤ n
  · obtain ⟨k, rfl⟩ := Nat.exists_eq_add_of_le above
    have eq : ((331 + k : Nat) : Int) - 331 = Int.ofNat k := by simp
    have power : 10 ^ (331 + k - 1) = 10 ^ k * 10 ^ 330 := by
      rw [← Nat.pow_add]
      congr 1
      omega
    rw [eq]
    refine ⟨Nat.mul_pos positive (Nat.pow_pos (by decide)), ?_⟩
    show b.denominator * 10 ^ k ≤ b.value
    rw [power, Nat.mul_right_comm] at lower
    rw [Nat.mul_comm]
    exact Nat.le_of_mul_le_mul_right lower (by positivity)
  · obtain ⟨k, hk⟩ : ∃ k, n + k = 330 := ⟨330 - n, by omega⟩
    have eq : (n : Int) - 331 = Int.negSucc k := by omega
    have power : 10 ^ 330 = 10 ^ (k + 1) * 10 ^ (n - 1) := by
      rw [← Nat.pow_add]
      congr 1
      omega
    rw [eq]
    refine ⟨positive, ?_⟩
    show b.denominator ≤ b.value * 10 ^ (k + 1)
    rw [power, ← Nat.mul_assoc, Nat.mul_comm] at lower
    exact Nat.le_of_mul_le_mul_right lower (Nat.pow_pos (by decide))

/-- The grid of the leading digit reaches the value. -/
theorem reaches_leading_ofMagnitude {m : Nat} (h : m ≠ 0) :
    (ofMagnitude m).Reaches (ofMagnitude m).leading := by
  have significand : 0 < significand m := by
    rw [Binary64.significand]
    split
    · omega
    · exact Nat.add_pos_left (Nat.pow_pos (by decide)) _
  have units : 1 ≤ units m := Nat.mul_pos significand (Nat.pow_pos (by decide))
  have positive : 0 < unitsPerOne := by decide +kernel
  refine reaches_leading (Nat.mul_pos (by decide) positive) ?_
  have enough : unitsPerOne ≤ 10 ^ 330 := by decide +kernel
  calc 4 * unitsPerOne ≤ 4 * 10 ^ 330 := Nat.mul_le_mul_left 4 enough
    _ ≤ 4 * Binary64.units m * 10 ^ 330 := Nat.mul_le_mul_right _ (by omega)

end Basin

/-- Only zero has the digit zero for its shortest decimal. -/
theorem digits_shortest_ne_zero (tie : Tie) {m : Nat} (h : m ≠ 0) :
    (shortest tie m).digits ≠ 0 := by
  simp only [shortest, if_neg h]
  exact Decimal.digits_strip_ne_zero _
    (Basin.digits_search_ne_zero tie 16 (Basin.reaches_leading_ofMagnitude h))

end Binary64

/-- Whatever the layout, the numeral of a double is canonical. -/
theorem Layout.canonical_numeral (l : Layout) (x : Binary64) : (l.numeral x).Canonical := by
  refine l.canonical_ofDecimal x.isNegative fun none => ?_
  by_cases zero : x.magnitude = 0
  · rw [zero]
    rfl
  · exact absurd none (Binary64.digits_shortest_ne_zero l.tie zero)

end StructuralTyping
