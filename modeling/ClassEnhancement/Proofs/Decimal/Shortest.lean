import ClassEnhancement.Proofs.Decimal.Rounding
import Mathlib.Data.Nat.Cast.Order.Field

/-!
# Shortest digits

The digits that a double is written with are read back as the double: some decimal of seventeen
digits always does, and zeros at the end do not count.
-/

namespace ClassEnhancement
namespace Binary64

/-- The number that a decimal stands for. -/
def Decimal.number (decimal : Decimal) : ℚ := decimal.digits * 10 ^ decimal.power

/-- The number that a double stands for, its sign apart. -/
def absolute (value : Binary64) : ℚ := value.mantissa * 2 ^ value.exponent

theorem ratio_toFraction (value : Binary64) : ratio value.toFraction = value.absolute := by
  rw [toFraction, ratio_scale Nat.two_pos, ratio, absolute]
  simp

variable {value : Binary64} {decimal : Decimal} {fraction : Nat × Nat} {number : ℚ} {count : Nat}

/-! ## What reads back -/

/-- The lower end of what a double covers, in quarters of its last bit. -/
theorem cast_quarters (nonzero : 0 < value.mantissa) :
    ((4 * value.mantissa - (if value.mantissa = fullMantissa ∧ leastExponent < value.exponent
      then 1 else 2) : ℕ) : ℚ) = 4 * (value.mantissa - value.reach) := by
  rw [reach]
  split
  · rw [Nat.cast_sub (by omega)]
    push_cast
    ring
  · rw [Nat.cast_sub (by omega)]
    push_cast
    ring

/-- A decimal in quarters of the last bit is compared with a bound. -/
theorem mul_le_iff_of_quarters {num den count : Nat} {exponent : Int} {bound : ℚ}
    (positive : 0 < den) (quarters : (num : ℚ) = number * (4 / 2 ^ exponent) * den)
    (same : (count : ℚ) = 4 * bound) :
    (count * den ≤ num ↔ bound * 2 ^ exponent ≤ number) ∧
      (num ≤ count * den ↔ number ≤ bound * 2 ^ exponent) := by
  have den_pos : (0 : ℚ) < den := Nat.cast_pos.mpr positive
  have units : number * (4 / 2 ^ exponent) = 4 * (number / 2 ^ exponent) := by ring
  rw [← Nat.cast_le (α := ℚ), ← Nat.cast_le (α := ℚ), Nat.cast_mul, quarters, same, units,
    mul_le_mul_iff_of_pos_right den_pos, mul_le_mul_iff_of_pos_right den_pos,
    mul_le_mul_iff_of_pos_left (by norm_num), mul_le_mul_iff_of_pos_left (by norm_num),
    le_div_iff₀ (zpow_two_pos exponent), div_le_iff₀ (zpow_two_pos exponent)]
  exact ⟨.rfl, .rfl⟩

theorem readsBack_iff (nonzero : 0 < value.mantissa) (decimal : Decimal) :
    value.readsBack decimal = true ↔ value.Covers decimal.number := by
  have inner_pos := scale_pos (show 0 < 10 by decide) decimal.power
    (show 0 < ((decimal.digits, 1) : Nat × Nat).2 from Nat.one_pos)
  have positive := scale_pos Nat.two_pos (2 - value.exponent) inner_pos
  have spelled : ratio (scale 2 (2 - value.exponent) (scale 10 decimal.power (decimal.digits, 1))) =
      decimal.number * (4 / 2 ^ value.exponent) := by
    rw [ratio_scale Nat.two_pos, ratio_scale (by decide), ratio, Decimal.number,
      zpow_sub₀ (by norm_num)]
    simp
    norm_num
  have low := cast_quarters nonzero
  have high : ((4 * value.mantissa + 2 : ℕ) : ℚ) = 4 * (value.mantissa + 1 / 2) := by
    push_cast
    ring
  rw [readsBack, Covers]
  generalize scale 2 (2 - value.exponent) (scale 10 decimal.power (decimal.digits, 1)) = quarters
    at positive spelled
  obtain ⟨num, den⟩ := quarters
  rw [ratio, div_eq_iff (Nat.cast_pos.mpr positive).ne'] at spelled
  obtain ⟨low_le, le_low⟩ := mul_le_iff_of_quarters positive spelled low
  obtain ⟨high_le, le_high⟩ := mul_le_iff_of_quarters positive spelled high
  dsimp only
  split
  · rw [Bool.and_eq_true, decide_eq_true_eq, decide_eq_true_eq, low_le, le_high]
  · rw [Bool.and_eq_true, decide_eq_true_eq, decide_eq_true_eq, lt_iff_lt_of_le_iff_le le_low,
      lt_iff_lt_of_le_iff_le high_le]

/-! ## Seventeen digits -/

theorem magnitude_le (num_pos : 0 < fraction.1) (positive : 0 < fraction.2) :
    (10 : ℚ) ^ (magnitude fraction - 1) ≤ ratio fraction := by
  obtain ⟨num, den⟩ := fraction
  dsimp only at num_pos positive
  have den_pos : (0 : ℚ) < den := Nat.cast_pos.mpr positive
  rw [magnitude, ratio, le_div_iff₀ den_pos]
  dsimp only
  split
  · next large =>
      have whole_pos := Nat.div_pos large positive
      have low := ten_pow_digitCount_le whole_pos
      have some_digit : 0 < digitCount (num / den) := Nat.length_toDigits_pos
      rw [Nat.le_div_iff_mul_le positive] at low
      rw [show (digitCount (num / den) : ℤ) - 1 = (digitCount (num / den) - 1 : ℕ) by omega,
        zpow_natCast]
      exact_mod_cast low
  · next small =>
      have high := lt_ten_pow_digitCount ((den + num - 1) / num - 1)
      generalize digitCount ((den + num - 1) / num - 1) = digits at high
      have enough : den ≤ num * 10 ^ digits := by
        have rounded : den + num - 1 < num * ((den + num - 1) / num + 1) :=
          Nat.lt_mul_div_succ _ num_pos
        have less : num * ((den + num - 1) / num) ≤ num * 10 ^ digits :=
          Nat.mul_le_mul_left num (by omega)
        rw [Nat.mul_add, Nat.mul_one] at rounded
        omega
      rw [show (1 - (digits : ℤ) - 1) = -digits by ring, zpow_neg, zpow_natCast,
        inv_mul_le_iff₀ (by positivity), mul_comm]
      exact_mod_cast enough

theorem covers_of_close (above : (value.mantissa - value.reach) * 2 ^ value.exponent < number)
    (below : number < (value.mantissa + 1 / 2) * 2 ^ value.exponent) : value.Covers number := by
  rw [Covers]
  split
  · exact ⟨above.le, below.le⟩
  · exact ⟨above, below⟩

/-- Of two neighbours that are close enough one is covered. -/
theorem covers_neighbour (canonical : value.IsCanonical) {low step : ℚ}
    (fine : step * 10 ^ 16 ≤ value.absolute) (below : low ≤ value.absolute)
    (above : value.absolute < low + step) : value.Covers low ∨ value.Covers (low + step) := by
  have unit_pos := zpow_two_pos value.exponent
  have reach_pos : 0 < value.reach * 2 ^ value.exponent := by
    refine mul_pos ?_ unit_pos
    rw [reach]
    split <;> norm_num
  -- The step is smaller than the distance between the ends of what is covered.
  have less : step < (1 / 2 + value.reach) * 2 ^ value.exponent := by
    rw [absolute] at fine
    rw [reach]
    split
    · next first =>
        rw [first.1, fullMantissa_eq] at fine
        push_cast at fine
        linarith
    · have bounded := canonical.bounded
      rw [fullMantissa_eq] at bounded
      have bounded : (value.mantissa : ℚ) ≤ 2 ^ 53 := by exact_mod_cast bounded.le
      have most := mul_le_mul_of_nonneg_right bounded unit_pos.le
      linarith
  rw [absolute] at below above
  by_cases close : low + step < (value.mantissa + 1 / 2) * 2 ^ value.exponent
  · exact .inr (covers_of_close (by linarith) close)
  · exact .inl (covers_of_close (by linarith) (by linarith))

theorem covers_of_ofDigits? (nonzero : 0 < value.mantissa)
    (found : value.ofDigits? count = some decimal) : value.Covers decimal.number := by
  rw [← readsBack_iff nonzero]
  unfold ofDigits? at found
  dsimp only at found
  split_ifs at found with both lower upper
  · cases found
    rw [Bool.and_eq_true] at both
    rw [roundHalfEven]
    split
    · exact both.2
    · exact both.1
  · cases found
    exact lower
  · cases found
    exact upper

/-- There are digits when one of the two neighbours reads back. -/
theorem exists_ofDigits?_of_readsBack
    (reads : let power := magnitude value.toFraction - count
      let scaled := scale 10 (-power) value.toFraction
      value.readsBack ⟨scaled.1 / scaled.2, power⟩ = true ∨
        value.readsBack ⟨scaled.1 / scaled.2 + 1, power⟩ = true) :
    ∃ decimal, value.ofDigits? count = some decimal := by
  unfold ofDigits?
  dsimp only at reads ⊢
  split_ifs with both lower upper
  · exact ⟨_, rfl⟩
  · exact ⟨_, rfl⟩
  · exact ⟨_, rfl⟩
  · exact (reads.elim lower upper).elim

theorem exists_ofDigits?_seventeen (canonical : value.IsCanonical) (nonzero : 0 < value.mantissa) :
    ∃ decimal, value.ofDigits? 17 = some decimal := by
  have ten : (10 : ℚ) ≠ 0 := by norm_num
  have num_pos : 0 < value.toFraction.1 := by
    rw [toFraction, scale]
    split
    · exact Nat.mul_pos nonzero (Nat.pow_pos Nat.two_pos)
    · exact nonzero
  have positive : 0 < value.toFraction.2 := scale_pos Nat.two_pos _ Nat.one_pos
  have fine := magnitude_le num_pos positive
  rw [ratio_toFraction] at fine
  apply exists_ofDigits?_of_readsBack
  dsimp only
  generalize chosen : magnitude value.toFraction - (17 : ℕ) = power
  have step_pos : (0 : ℚ) < 10 ^ power := zpow_pos (by norm_num) power
  have scaled := ratio_scale (show 0 < 10 by decide) (-power) value.toFraction
  have scaled_pos := scale_pos (show 0 < 10 by decide) (-power) positive
  rw [ratio_toFraction, zpow_neg, Nat.cast_ofNat, ← div_eq_mul_inv,
    eq_div_iff step_pos.ne'] at scaled
  generalize scale 10 (-power) value.toFraction = steps at scaled scaled_pos ⊢
  obtain ⟨num, den⟩ := steps
  have den_pos : (0 : ℚ) < den := Nat.cast_pos.mpr scaled_pos
  dsimp only
  have below : ((num / den : ℕ) : ℚ) ≤ ratio (num, den) := Nat.cast_div_le
  have above : ratio (num, den) < (num / den : ℕ) + 1 := by
    rw [ratio, div_lt_iff₀ den_pos, mul_comm]
    exact_mod_cast Nat.lt_mul_div_succ num scaled_pos
  have spacing : (10 : ℚ) ^ power * 10 ^ 16 ≤ value.absolute := by
    rw [← zpow_natCast, ← zpow_add₀ ten]
    convert fine using 2
    push_cast
    omega
  rw [← mul_le_mul_iff_of_pos_right step_pos, scaled] at below
  rw [← mul_lt_mul_iff_of_pos_right step_pos, scaled, add_one_mul] at above
  rw [readsBack_iff nonzero, readsBack_iff nonzero, Decimal.number, Decimal.number]
  push_cast
  rw [add_one_mul]
  exact covers_neighbour canonical spacing below above

/-! ## The shortest decimal -/

theorem number_trim (bound : Nat) (decimal : Decimal) :
    (decimal.trim bound).number = decimal.number := by
  induction bound generalizing decimal with
  | zero => rfl
  | succ bound hypothesis =>
      rw [Decimal.trim]
      split
      · next zeros =>
          rw [hypothesis, Decimal.number, Decimal.number]
          have whole : decimal.digits = decimal.digits / 10 * 10 := by omega
          have whole : (decimal.digits : ℚ) = (decimal.digits / 10 : ℕ) * 10 := by
            exact_mod_cast whole
          rw [whole, zpow_add_one₀ (by norm_num)]
          ring
      · rfl

/-- A double covers the shortest decimal that it is written with. -/
theorem covers_shortest (canonical : value.IsCanonical) (nonzero : 0 < value.mantissa) :
    value.Covers value.shortest.number := by
  rw [shortest, number_trim]
  cases found : (List.range 17).findSome? fun index => value.ofDigits? (index + 1) with
  | none =>
      obtain ⟨decimal, seventeen⟩ := exists_ofDigits?_seventeen canonical nonzero
      have missing := List.findSome?_eq_none_iff.mp found 16 (by decide)
      cases seventeen.symm.trans missing
  | some decimal =>
      obtain ⟨index, -, here⟩ := List.exists_of_findSome?_eq_some found
      exact covers_of_ofDigits? nonzero here

theorem digits_shortest_pos (canonical : value.IsCanonical) (nonzero : 0 < value.mantissa) :
    0 < value.shortest.digits := by
  have positive := (covers_shortest canonical nonzero).pos nonzero
  refine Nat.pos_of_ne_zero fun none => ?_
  rw [Decimal.number, none, Nat.cast_zero, zero_mul] at positive
  exact positive.false

end Binary64
end ClassEnhancement
