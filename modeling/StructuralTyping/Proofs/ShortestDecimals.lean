import Mathlib.Algebra.Order.Field.Power
import Mathlib.Tactic.Linarith
import Mathlib.Tactic.NormNum
import Mathlib.Tactic.Ring
import StructuralTyping.Proofs.NumeralText
import StructuralTyping.Ty.Show

/-! # The text of a double determines it

`Binary64.shortest` looks for a decimal among the numbers that round to a magnitude.  It finds one:
seventeen digits are enough (`Basin.holds_nearer`), so the search never ends without success.  The
numbers that round to one magnitude round to no other, since the intervals of neighbours meet in one
point and never both include it (`Basin.eq_of_holds`).  So the decimal determines the magnitude, and
the text of a double that is not a NaN determines the double (`Binary64.display_inj`).

The intervals are taken as sets of rationals (`Basin.Holds`), which puts the grids of all powers of
ten on one scale.
-/
namespace StructuralTyping

/-- The number that a decimal stands for. -/
def Decimal.toRat (d : Decimal) : ℚ := d.digits * 10 ^ d.exponent

/-- Taking trailing zeros away keeps the number. -/
theorem Decimal.toRat_strip (d : Decimal) : d.strip.toRat = d.toRat := by
  fun_induction Decimal.strip d with
  | case1 d more ih =>
    rw [ih]
    have whole : (d.digits : ℚ) = (d.digits / 10 : Nat) * 10 := by
      exact_mod_cast (Nat.div_mul_cancel (Nat.dvd_of_mod_eq_zero more.2)).symm
    rw [toRat, toRat, whole, zpow_add_one₀ (by norm_num)]
    ring
  | case2 => rfl

namespace Binary64

namespace Basin

/-! ## Numbers in a basin -/

/-- A number is in the interval. -/
def Holds (b : Basin) (q : ℚ) : Prop :=
  if b.closed then b.low ≤ q * b.denominator ∧ q * b.denominator ≤ b.high
  else b.low < q * b.denominator ∧ q * b.denominator < b.high

variable {b : Basin}

/-- What an interval holds lies between its ends. -/
theorem Holds.bounds {q : ℚ} (h : b.Holds q) :
    b.low ≤ q * b.denominator ∧ q * b.denominator ≤ b.high := by
  unfold Holds at h
  split at h
  · exact h
  · exact ⟨h.1.le, h.2.le⟩

/-- An interval that holds one of its ends is closed. -/
theorem Holds.closed_of_end {q : ℚ} (h : b.Holds q)
    (atEnd : q * b.denominator = b.low ∨ q * b.denominator = b.high) : b.closed = true := by
  unfold Holds at h
  split at h
  · assumption
  · rcases atEnd with low | high
    · exact absurd low h.1.ne'
    · exact absurd high h.2.ne

theorem Holds.of_inside {q : ℚ} (low : b.low < q * b.denominator)
    (high : q * b.denominator < b.high) : b.Holds q := by
  unfold Holds
  split
  · exact ⟨low.le, high.le⟩
  · exact ⟨low, high⟩

/-- Measured in steps of a grid, the ends and the value are scaled alike, and the denominator by the
step as well. -/
theorem inSteps_scaled (b : Basin) (grid : Int) :
    ∃ c : ℚ, 0 < c ∧ ((b.inSteps grid).low : ℚ) = b.low * c ∧
      ((b.inSteps grid).value : ℚ) = b.value * c ∧ ((b.inSteps grid).high : ℚ) = b.high * c ∧
      ((b.inSteps grid).denominator : ℚ) = b.denominator * 10 ^ grid * c ∧
      (b.inSteps grid).closed = b.closed := by
  rcases grid with k | k
  · refine ⟨1, one_pos, ?_⟩
    simp [inSteps, Nat.pow_eq]
  · refine ⟨10 ^ (k + 1), by positivity, ?_⟩
    have inverse : (10 : ℚ) ^ Int.negSucc k * 10 ^ (k + 1) = 1 := by
      rw [zpow_negSucc, inv_mul_cancel₀ (by positivity)]
    simp only [inSteps, Nat.pow_eq, Nat.cast_mul, Nat.cast_pow, Nat.cast_ofNat, mul_assoc, inverse,
      mul_one, and_self]

/-- A grid point that passes the test lies in the interval. -/
theorem holds_of_contains {grid : Int} {point : Nat}
    (inside : (b.inSteps grid).contains point = true) : b.Holds (point * 10 ^ grid) := by
  obtain ⟨c, positive, low, -, high, denominator, closed⟩ := b.inSteps_scaled grid
  have place : ((point * (b.inSteps grid).denominator : Nat) : ℚ) =
      point * 10 ^ grid * b.denominator * c := by
    rw [Nat.cast_mul, denominator]
    ring
  unfold contains at inside
  unfold Holds
  rw [closed] at inside
  split at inside
  · rename_i isClosed
    obtain ⟨hlow, hhigh⟩ := of_decide_eq_true inside
    rw [← Nat.cast_le (α := ℚ), place, low] at hlow
    rw [← Nat.cast_le (α := ℚ), place, high] at hhigh
    rw [if_pos isClosed]
    exact ⟨le_of_mul_le_mul_right hlow positive, le_of_mul_le_mul_right hhigh positive⟩
  · rename_i isOpen
    obtain ⟨hlow, hhigh⟩ := of_decide_eq_true inside
    rw [← Nat.cast_lt (α := ℚ), place, low] at hlow
    rw [← Nat.cast_lt (α := ℚ), place, high] at hhigh
    rw [if_neg isOpen]
    exact ⟨lt_of_mul_lt_mul_right hlow positive.le, lt_of_mul_lt_mul_right hhigh positive.le⟩

/-! ## The search succeeds -/

/-- The nearer grid point is one of the two around the value. -/
theorem nearer_eq (b : Basin) (tie : Tie) :
    b.nearer tie = b.value / b.denominator ∨ b.nearer tie = b.value / b.denominator + 1 := by
  simp only [nearer]
  split
  · exact .inl rfl
  · split
    · exact .inr rfl
    · cases tie <;> dsimp only <;> omega

/-- The point that is found passes the test. -/
theorem contains_of_point? {tie : Tie} {point : Nat} (found : b.point? tie = some point) :
    b.contains point = true := by
  simp only [point?] at found
  split at found
  · rename_i below above
    obtain rfl := Option.some.inj found
    rcases b.nearer_eq tie with eq | eq <;> rw [eq] <;> assumption
  · obtain rfl := Option.some.inj found
    assumption
  · obtain rfl := Option.some.inj found
    assumption
  · cases found

/-- What the search finds is in the interval, if the nearest point of the finest grid is. -/
theorem holds_search (tie : Tie) (fuel : Nat) (grid : Int)
    (finest : b.Holds ((b.inSteps (grid - fuel)).nearer tie * 10 ^ (grid - fuel))) :
    b.Holds (b.search tie fuel grid).toRat := by
  induction fuel generalizing grid with
  | zero => simpa [search, Decimal.toRat] using finest
  | succ fuel ih =>
    rw [search]
    split
    · rename_i point found
      exact holds_of_contains (contains_of_point? found)
    · refine ih (grid - 1) ?_
      rwa [show grid - 1 - (fuel : Int) = grid - (fuel + 1 : Nat) by omega]

/-- The nearest whole number of steps is at most half a step away. -/
theorem two_mul_nearer (tie : Tie) (positive : 0 < b.denominator) :
    2 * b.value ≤ 2 * (b.nearer tie * b.denominator) + b.denominator ∧
      2 * (b.nearer tie * b.denominator) ≤ 2 * b.value + b.denominator := by
  have split := Nat.div_add_mod b.value b.denominator
  have small := Nat.mod_lt b.value positive
  rw [Nat.mul_comm] at split
  simp only [nearer]
  split
  · omega
  · split
    · rw [Nat.add_mul]
      omega
    · -- a tie: either neighbour is half a step away
      have half : 2 * (b.value % b.denominator) = b.denominator := by omega
      cases tie with
      | toEven =>
        dsimp only
        rcases Nat.mod_two_eq_zero_or_one (b.value / b.denominator) with even | odd
        · rw [even, Nat.add_zero]
          omega
        · rw [odd, Nat.add_mul]
          omega
      | up =>
        dsimp only
        rw [Nat.add_mul]
        omega

/-- If a step is that much smaller than the value, the nearest point is inside. -/
theorem holds_nearer (tie : Tie) {grid : Int} (positive : 0 < b.denominator)
    (low : (b.low : ℚ) + b.denominator * 10 ^ grid / 2 < b.value)
    (high : (b.value : ℚ) + b.denominator * 10 ^ grid / 2 < b.high) :
    b.Holds ((b.inSteps grid).nearer tie * 10 ^ grid) := by
  obtain ⟨c, hc, -, value, -, denominator, -⟩ := b.inSteps_scaled grid
  have step : (0 : ℚ) < 10 ^ grid := by positivity
  have positive' : 0 < (b.inSteps grid).denominator := by
    have : (0 : ℚ) < (b.inSteps grid).denominator := by
      rw [denominator]
      have : (0 : ℚ) < b.denominator := Nat.cast_pos.mpr positive
      positivity
    exact_mod_cast this
  -- the nearer grid point is at most half a step away, and the interval reaches further than that
  obtain ⟨above, below⟩ := two_mul_nearer tie positive'
  generalize (b.inSteps grid).nearer tie = d at above below ⊢
  have above : (2 : ℚ) * (b.value * c) ≤
      2 * (d * (b.denominator * 10 ^ grid * c)) + b.denominator * 10 ^ grid * c := by
    rw [← value, ← denominator]
    exact_mod_cast above
  have below : (2 : ℚ) * (d * (b.denominator * 10 ^ grid * c)) ≤
      2 * (b.value * c) + b.denominator * 10 ^ grid * c := by
    rw [← value, ← denominator]
    exact_mod_cast below
  have above : (2 : ℚ) * b.value ≤
      2 * (d * (b.denominator * 10 ^ grid)) + b.denominator * 10 ^ grid :=
    le_of_mul_le_mul_right (by linarith) hc
  have below : (2 : ℚ) * (d * (b.denominator * 10 ^ grid)) ≤
      2 * b.value + b.denominator * 10 ^ grid :=
    le_of_mul_le_mul_right (by linarith) hc
  refine .of_inside ?_ ?_ <;> rw [mul_right_comm, mul_assoc] <;> linarith

end Basin

/-! ## Neighbouring magnitudes -/

theorem significand_lt (m : Nat) : significand m < 2 ^ 53 := by
  simp only [significand, Nat.pow_eq]
  split <;> omega

/-- A magnitude and its significand are both even or both odd. -/
theorem significand_mod_two (m : Nat) : significand m % 2 = m % 2 := by
  simp only [significand, Nat.pow_eq]
  split <;> omega

theorem spacing_pos (m : Nat) : 0 < spacing m := Nat.pow_pos (by decide)

/-- How a magnitude and the next one compare: within a binade the significand goes up by one; at its
end the next binade begins, where the spacing is twice as large. -/
theorem next_cases (m : Nat) :
    (significand (m + 1) = significand m + 1 ∧ spacing (m + 1) = spacing m ∧
        ¬((m + 1) % 2 ^ 52 = 0 ∧ 2 ^ 53 ≤ m + 1)) ∨
      (significand m = 2 ^ 53 - 1 ∧ significand (m + 1) = 2 ^ 52 ∧
        spacing (m + 1) = 2 * spacing m ∧ (m + 1) % 2 ^ 52 = 0 ∧ 2 ^ 53 ≤ m + 1) := by
  simp only [significand, spacing, Nat.pow_eq]
  by_cases crosses : (m + 1) % 2 ^ 52 = 0 ∧ 2 ^ 53 ≤ m + 1
  · have quotient : (m + 1) / 2 ^ 52 - 1 = (m / 2 ^ 52 - 1) + 1 := by omega
    rw [quotient, Nat.pow_succ]
    refine .inr ⟨?_, ?_, Nat.mul_comm _ _, crosses⟩
    · rw [if_neg (by omega)]
      omega
    · rw [if_neg (by omega)]
      omega
  · have quotient : (m + 1) / 2 ^ 52 - 1 = m / 2 ^ 52 - 1 := by omega
    rw [quotient]
    refine .inl ⟨?_, rfl, crosses⟩
    split <;> split <;> omega

/-- The interval of a magnitude begins where that of the one before it ends. -/
theorem low_succ (m : Nat) : (Basin.ofMagnitude (m + 1)).low = (Basin.ofMagnitude m).high := by
  simp only [Basin.ofMagnitude, units, Nat.pow_eq]
  rcases next_cases m with ⟨next, same, within⟩ | ⟨last, first, doubled, crosses⟩
  · rw [next, same, if_neg within, Nat.add_mul]
    omega
  · rw [last, first, doubled, if_pos crosses]
    omega

theorem low_le_value (m : Nat) : (Basin.ofMagnitude m).low ≤ (Basin.ofMagnitude m).value :=
  Nat.sub_le _ _

theorem value_lt_high (m : Nat) : (Basin.ofMagnitude m).value < (Basin.ofMagnitude m).high :=
  Nat.lt_add_of_pos_right (Nat.mul_pos (by decide) (spacing_pos m))

/-- The intervals of different magnitudes do not overlap. -/
theorem high_le_low {m n : Nat} (h : m < n) :
    (Basin.ofMagnitude m).high ≤ (Basin.ofMagnitude n).low := by
  induction n, h using Nat.le_induction with
  | base => rw [low_succ]
  | succ n _ ih =>
    rw [low_succ]
    exact ih.trans ((low_le_value n).trans (value_lt_high n).le)

/-- A number rounds to one magnitude only. -/
theorem Basin.not_holds_of_lt {m n : Nat} (h : m < n) {q : ℚ} (hm : (ofMagnitude m).Holds q)
    (hn : (ofMagnitude n).Holds q) : False := by
  have ends : ((ofMagnitude m).high : ℚ) ≤ (ofMagnitude n).low := by exact_mod_cast high_le_low h
  have high : q * (ofMagnitude m).denominator ≤ (ofMagnitude m).high := hm.bounds.2
  have low : (ofMagnitude n).low ≤ q * (ofMagnitude m).denominator := hn.bounds.1
  have meets : (ofMagnitude m).high = (ofMagnitude n).low := by
    exact_mod_cast le_antisymm ends (low.trans high)
  have closed : (ofMagnitude m).closed = true :=
    hm.closed_of_end (.inr (high.antisymm (ends.trans low)))
  have closed' : (ofMagnitude n).closed = true :=
    hn.closed_of_end (.inl (low.antisymm' (high.trans ends)))
  -- the intervals meet, so the two are neighbours, and of these one is odd
  have neighbours : n = m + 1 := by
    by_contra apart
    have further := high_le_low (show m + 1 < n by omega)
    rw [← meets, ← low_succ m] at further
    exact absurd further (not_le.mpr ((low_le_value _).trans_lt (value_lt_high _)))
  simp only [ofMagnitude, decide_eq_true_eq, significand_mod_two] at closed closed'
  omega

/-- A number lies in the interval of one magnitude only: neighbours share an end, and one of them is
not closed. -/
theorem Basin.eq_of_holds {m n : Nat} {q : ℚ} (hm : (ofMagnitude m).Holds q)
    (hn : (ofMagnitude n).Holds q) : m = n := by
  rcases Nat.lt_trichotomy m n with lt | eq | gt
  · exact (not_holds_of_lt lt hm hn).elim
  · exact eq
  · exact (not_holds_of_lt gt hn hm).elim

/-! ## Seventeen digits -/

/-- Relative to the value the interval is wider than the seventeenth digit. -/
theorem Basin.wide {m : Nat} (nonzero : m ≠ 0) :
    2 * 10 ^ 16 * (ofMagnitude m).low + (ofMagnitude m).value <
        2 * 10 ^ 16 * (ofMagnitude m).value ∧
      (2 * 10 ^ 16 + 1) * (ofMagnitude m).value < 2 * 10 ^ 16 * (ofMagnitude m).high := by
  have least : spacing m ≤ units m := by
    refine Nat.le_mul_of_pos_left _ ?_
    simp only [significand, Nat.pow_eq]
    split <;> omega
  have most : units m < 2 ^ 53 * spacing m :=
    Nat.mul_lt_mul_of_pos_right (significand_lt m) (spacing_pos m)
  simp only [ofMagnitude, Nat.pow_eq]
  split
  · rename_i first
    have start : units m = 2 ^ 52 * spacing m := by
      have : significand m = 2 ^ 52 := by
        simp only [significand, Nat.pow_eq]
        rw [if_neg (by omega), first.1, Nat.add_zero]
      rw [units, this]
    omega
  · omega

/-- With seventeen digits a step of the grid is small against the interval. -/
theorem Basin.holds_finest (tie : Tie) {m : Nat} (nonzero : m ≠ 0) :
    (ofMagnitude m).Holds (((ofMagnitude m).inSteps ((ofMagnitude m).leading - 16)).nearer tie *
      10 ^ ((ofMagnitude m).leading - 16)) := by
  have reaches := (reaches_leading_ofMagnitude nonzero).2
  generalize (ofMagnitude m).leading = lead at reaches ⊢
  obtain ⟨c, hc, -, value, -, denominator, -⟩ := (ofMagnitude m).inSteps_scaled lead
  have reaches : ((ofMagnitude m).denominator : ℚ) * 10 ^ lead ≤ (ofMagnitude m).value := by
    refine le_of_mul_le_mul_right ?_ hc
    rw [← value, ← denominator]
    exact_mod_cast reaches
  have step : ((ofMagnitude m).denominator : ℚ) * 10 ^ (lead - 16) * 10 ^ 16 ≤
      (ofMagnitude m).value := by
    have power : (10 : ℚ) ^ (lead - 16) * 10 ^ 16 = 10 ^ lead := by
      rw [← zpow_natCast, ← zpow_add₀ (by norm_num)]
      congr 1
      norm_num
    rwa [mul_assoc, power]
  obtain ⟨low, high⟩ := wide nonzero
  have low : (2 * 10 ^ 16 * (ofMagnitude m).low + (ofMagnitude m).value : ℚ) <
      2 * 10 ^ 16 * (ofMagnitude m).value := by exact_mod_cast low
  have high : ((2 * 10 ^ 16 + 1) * (ofMagnitude m).value : ℚ) <
      2 * 10 ^ 16 * (ofMagnitude m).high := by exact_mod_cast high
  have positive : 0 < (ofMagnitude m).denominator := Nat.mul_pos (by decide) (by decide +kernel)
  refine holds_nearer tie positive ?_ ?_ <;> linarith

/-- The shortest decimal lies in the interval. -/
theorem holds_shortest (tie : Tie) (m : Nat) :
    (Basin.ofMagnitude m).Holds (shortest tie m).toRat := by
  unfold shortest
  split
  · rename_i zero
    subst zero
    have zero : Decimal.toRat ⟨0, 0⟩ = 0 := by simp [Decimal.toRat]
    have least : (Basin.ofMagnitude 0).low = 0 := by
      have units : units 0 = 0 := Nat.zero_mul _
      rw [Basin.ofMagnitude, units, Nat.mul_zero, Nat.zero_sub]
    refine (if_pos rfl).mpr ?_
    rw [zero, least, zero_mul]
    exact ⟨Nat.cast_zero.le, Nat.cast_nonneg _⟩
  · rename_i nonzero
    rw [Decimal.toRat_strip]
    exact Basin.holds_search tie 16 _ (Basin.holds_finest tie nonzero)

/-- So it tells magnitudes apart. -/
theorem shortest_inj (tie : Tie) {m n : Nat}
    (same : (shortest tie m).toRat = (shortest tie n).toRat) : m = n :=
  Basin.eq_of_holds (holds_shortest tie m) (same ▸ holds_shortest tie n)

end Binary64

/-! ## Numerals without an exponent -/

namespace Numeral

/-- Zeros behind the digits multiply by powers of ten. -/
theorem value_append_zeros (ds : List Char) (k : Nat) :
    value (ds ++ List.replicate k '0') = value ds * 10 ^ k := by
  show Nat.ofDigitChars 10 _ 0 = _
  rw [Nat.ofDigitChars_append, Nat.ofDigitChars_replicate_zero, Nat.mul_comm]
  rfl

/-- Zeros in front of the digits change nothing. -/
theorem value_zeros_append (k : Nat) (ds : List Char) :
    value (List.replicate k '0' ++ ds) = value ds := by
  show Nat.ofDigitChars 10 _ 0 = _
  rw [Nat.ofDigitChars_append, Nat.ofDigitChars_replicate_zero, Nat.mul_zero]
  rfl

/-- The size of the number that a numeral without an exponent stands for. -/
def size (n : Numeral) : ℚ := value (n.whole ++ n.fraction) / 10 ^ n.fraction.length

end Numeral

namespace Layout

theorem wholeFraction_eq (l : Layout) : ∃ k, l.wholeFraction = List.replicate k '0' := by
  unfold wholeFraction
  split
  · exact ⟨1, rfl⟩
  · exact ⟨0, rfl⟩

/-- Placing the point and adding zeros keeps the number: its last digit stands where it stood. -/
theorem size_placed (l : Layout) (ds : List Char) (e : Int) :
    (Numeral.value ((l.placed ds e).1 ++ (l.placed ds e).2) : ℚ) / 10 ^ (l.placed ds e).2.length =
      Numeral.value ds * 10 ^ (e + 1 - ds.length) := by
  rcases e with k | k
  · simp only [placed]
    split
    · rename_i fits
      obtain ⟨j, zeros⟩ := l.wholeFraction_eq
      have power : (k : Int) + 1 - ds.length = ((k + 1 - ds.length : Nat) : Int) := by omega
      rw [Int.ofNat_eq_natCast, zeros, Numeral.value_append_zeros, Numeral.value_append_zeros,
        List.length_replicate, power, zpow_natCast]
      push_cast
      exact mul_div_cancel_right₀ _ (by positivity)
    · rename_i longer
      have power : (k : Int) + 1 - ds.length = -((ds.length - (k + 1) : Nat) : Int) := by omega
      rw [Int.ofNat_eq_natCast, List.take_append_drop, List.length_drop, power, zpow_neg,
        zpow_natCast, div_eq_mul_inv]
  · have power : Int.negSucc k + 1 - (ds.length : Int) = -((k + ds.length : Nat) : Int) := by omega
    have digits : Numeral.value ((l.placed ds (.negSucc k)).1 ++ (l.placed ds (.negSucc k)).2) =
        Numeral.value ds := Numeral.value_zeros_append (k + 1) ds
    rw [digits, power, zpow_neg, zpow_natCast, div_eq_mul_inv]
    simp [placed]

/-- A decimal set out without an exponent keeps its value. -/
theorem size_ofDecimal {l : Layout} (positional : ∀ e, l.positional e = true) (negative : Bool)
    (d : Decimal) : (l.ofDecimal negative d).size = d.toRat := by
  simp only [ofDecimal, positional, if_true, Numeral.size]
  rw [size_placed, Numeral.value_digits, Decimal.toRat]
  congr 2
  omega

theorem negative_ofDecimal (l : Layout) (negative : Bool) (d : Decimal) :
    (l.ofDecimal negative d).negative = negative := by
  simp only [ofDecimal]
  split <;> rfl

/-- Where no exponents are written, the numeral gives away the sign and the magnitude. -/
theorem numeral_inj {l : Layout} (positional : ∀ e, l.positional e = true) {x y : Binary64}
    (same : l.numeral x = l.numeral y) :
    x.isNegative = y.isNegative ∧ x.magnitude = y.magnitude := by
  refine ⟨?_, Binary64.shortest_inj l.tie ?_⟩
  · rw [← l.negative_ofDecimal x.isNegative, ← l.negative_ofDecimal y.isNegative]
    exact congrArg Numeral.negative same
  · rw [← size_ofDecimal positional x.isNegative, ← size_ofDecimal positional y.isNegative]
    exact congrArg Numeral.size same

/-- The text of a numeral shows the whole numeral. -/
theorem text_numeral_inj {l : Layout} {x y : Binary64}
    (same : (l.numeral x).text = (l.numeral y).text) : l.numeral x = l.numeral y := by
  have chars := congrArg Numeral.ofChars? (String.ofList_inj.mp same)
  rw [Numeral.ofChars?_chars (l.canonical_numeral x),
    Numeral.ofChars?_chars (l.canonical_numeral y)]
    at chars
  exact Option.some.inj chars

/-- Where no exponents are written, a numeral has digits, a point and a sign, and no letters. -/
theorem chars_numeral {l : Layout} (positional : ∀ e, l.positional e = true) (x : Binary64) :
    ∀ c ∈ (l.numeral x).chars, c.isDigit = true ∨ c = '-' ∨ c = '.' := by
  have canonical := l.canonical_numeral x
  have exponent : (l.numeral x).exponent = none := by simp [numeral, ofDecimal, positional]
  intro c mem
  rw [Numeral.chars, exponent, Numeral.exponentChars, List.append_nil, List.mem_append,
    List.mem_append] at mem
  rcases mem with (sign | whole) | fraction
  · split at sign
    · exact .inr (.inl (List.mem_singleton.mp sign))
    · cases sign
  · exact .inl (canonical.isDigit_whole c whole)
  · revert fraction
    cases ds : (l.numeral x).fraction with
    | nil =>
      intro none
      cases none
    | cons d rest =>
      rw [Numeral.fractionChars, ← ds, List.mem_cons]
      · rintro (point | digit)
        · exact .inr (.inr point)
        · exact .inl (canonical.isDigit_fraction c digit)
      · simp

end Layout

namespace Binary64

/-- A double is its sign and its magnitude. -/
theorem ext_of_magnitude {x y : Binary64} (sign : x.isNegative = y.isNegative)
    (same : x.magnitude = y.magnitude) : x = y := by
  obtain ⟨x⟩ := x
  obtain ⟨y⟩ := y
  simp only [isNegative, magnitude, Nat.pow_eq, decide_eq_decide, Binary64.mk.injEq] at sign same ⊢
  have := x.toNat_lt
  have := y.toNat_lt
  exact UInt64.toNat_inj.mp (by omega)

/-- There is one magnitude that is neither finite nor NaN. -/
theorem magnitude_of_infinite {x : Binary64} (infinite : x.isFinite = false)
    (number : x.isNaN = false) : x.magnitude = infiniteMagnitude := by
  simp only [isFinite, isNaN, decide_eq_false_iff_not] at infinite number
  omega

theorem display_of_finite {x : Binary64} (finite : x.isFinite = true) :
    x.display = (LiteralValue.numberLayout.numeral x).text := if_pos finite

theorem display_of_infinite {x : Binary64} (infinite : x.isFinite = false)
    (number : x.isNaN = false) : x.display = if x.isNegative then "-inf" else "inf" := by
  simp [display, infinite, number]

/-- A finite number is written without letters, an infinite one with some. -/
theorem isFinite_iff_display {x : Binary64} (number : x.isNaN = false) :
    x.isFinite = true ↔ 'i' ∉ x.display.toList := by
  constructor
  · intro finite letter
    rw [display_of_finite finite, Numeral.text, String.toList_ofList] at letter
    exact absurd (Layout.chars_numeral (fun _ => rfl) x _ letter) (by decide)
  · intro absent
    by_contra infinite
    rw [display_of_infinite (Bool.eq_false_of_not_eq_true infinite) number] at absent
    split at absent <;> exact absent (by decide)

/-- The text of a double that is not a NaN determines the double. -/
theorem display_inj {x y : Binary64} (hx : x.isNaN = false) (hy : y.isNaN = false)
    (same : x.display = y.display) : x = y := by
  have alike : x.isFinite = true ↔ y.isFinite = true := by
    rw [isFinite_iff_display hx, isFinite_iff_display hy, same]
  by_cases finite : x.isFinite = true
  · rw [display_of_finite finite, display_of_finite (alike.mp finite)] at same
    obtain ⟨sign, magnitude⟩ := Layout.numeral_inj (fun _ => rfl) (Layout.text_numeral_inj same)
    exact ext_of_magnitude sign magnitude
  · have infinite := Bool.eq_false_of_not_eq_true finite
    have infinite' := Bool.eq_false_of_not_eq_true (mt alike.mpr finite)
    refine ext_of_magnitude ?_
      ((magnitude_of_infinite infinite hx).trans (magnitude_of_infinite infinite' hy).symm)
    rw [display_of_infinite infinite hx, display_of_infinite infinite' hy] at same
    revert same
    cases x.isNegative <;> cases y.isNegative <;> decide

end Binary64
end StructuralTyping
