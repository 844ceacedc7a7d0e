import ClassEnhancement.Decimal.Binary64
import Mathlib.Algebra.Order.Field.Power
import Mathlib.Data.Rat.Cast.Order
import Mathlib.Tactic.FieldSimp
import Mathlib.Tactic.Linarith
import Mathlib.Tactic.NormNum
import Mathlib.Tactic.Positivity
import Mathlib.Tactic.Ring
import Mathlib.Tactic.SplitIfs

/-!
# Rounding to doubles

A double covers the numbers that are nearer to it than to its neighbours, and those half-way when
its mantissa is even.  A decimal number that a double covers is read as that double, and every
number is read as a double whose mantissa has all its bits, unless it is among the smallest ones.
-/

namespace ClassEnhancement
namespace Binary64

/-! ## Fractions -/

/-- The number that a fraction stands for. -/
def ratio (fraction : Nat × Nat) : ℚ := fraction.1 / fraction.2

variable {fraction : Nat × Nat} {base : Nat} {number : ℚ} {value : Binary64}

theorem scale_pos (base_pos : 0 < base) (power : Int) (positive : 0 < fraction.2) :
    0 < (scale base power fraction).2 := by
  rw [scale]
  split
  · exact positive
  · exact Nat.mul_pos positive (Nat.pow_pos base_pos)

theorem ratio_scale (base_pos : 0 < base) (power : Int) (fraction : Nat × Nat) :
    ratio (scale base power fraction) = ratio fraction * (base : ℚ) ^ power := by
  have nonzero : (base : ℚ) ≠ 0 := Nat.cast_ne_zero.mpr base_pos.ne'
  rw [scale, ratio, ratio]
  split
  · next upward =>
      obtain ⟨count, rfl⟩ := Int.eq_ofNat_of_zero_le upward
      simp only [Int.toNat_natCast, Nat.pow_eq, Nat.cast_mul, Nat.cast_pow, zpow_natCast]
      ring
  · next downward =>
      obtain ⟨count, rfl⟩ : ∃ count : ℕ, power = -count := ⟨(-power).toNat, by omega⟩
      simp only [neg_neg, Int.toNat_natCast, Nat.pow_eq, Nat.cast_mul, Nat.cast_pow, zpow_neg,
        zpow_natCast]
      rw [div_mul_eq_div_div, div_eq_mul_inv]

theorem zpow_two_pos (power : ℤ) : (0 : ℚ) < 2 ^ power := zpow_pos (by norm_num) power

/-! ## Rounding to integers -/

/-- A number is rounded to an integer: it is nearer than half-way, or half-way to an even one. -/
def Nearest (number : ℚ) (integer : ℕ) : Prop :=
  if integer % 2 = 0 then integer - 1 / 2 ≤ number ∧ number ≤ integer + 1 / 2
  else integer - 1 / 2 < number ∧ number < integer + 1 / 2

theorem Nearest.le {integer : ℕ} (nearest : Nearest number integer) :
    integer - 1 / 2 ≤ number ∧ number ≤ integer + 1 / 2 := by
  rw [Nearest] at nearest
  split at nearest
  · exact nearest
  · exact ⟨nearest.1.le, nearest.2.le⟩

/-- A number that is half-way between neighbours is rounded to one of them only. -/
theorem Nearest.le_of_nearest {first second : ℕ} (nearest : Nearest number first)
    (other : Nearest number second) : first ≤ second := by
  by_contra greater
  have apart : (second : ℚ) + 1 ≤ first := by exact_mod_cast Nat.lt_of_not_le greater
  have above := nearest.le
  have below := other.le
  have next : first = second + 1 := by
    have close : (first : ℚ) ≤ second + 1 := by linarith
    have close : first ≤ second + 1 := by exact_mod_cast close
    omega
  subst next
  push_cast at above
  rw [Nearest] at nearest other
  split_ifs at nearest other with odd even
  · omega
  · linarith [other.2]
  · push_cast at nearest
    linarith [nearest.1]
  · omega

theorem Nearest.unique {first second : ℕ} (nearest : Nearest number first)
    (other : Nearest number second) : first = second :=
  Nat.le_antisymm (nearest.le_of_nearest other) (other.le_of_nearest nearest)

theorem ratio_eq_add (positive : 0 < fraction.2) :
    ratio fraction =
      (fraction.1 / fraction.2 : ℕ) + ((fraction.1 % fraction.2 : ℕ) : ℚ) / fraction.2 := by
  have den_pos : (0 : ℚ) < fraction.2 := Nat.cast_pos.mpr positive
  have whole : (fraction.2 : ℚ) * (fraction.1 / fraction.2 : ℕ) + (fraction.1 % fraction.2 : ℕ) =
      fraction.1 := by
    exact_mod_cast Nat.div_add_mod fraction.1 fraction.2
  rw [ratio, ← whole]
  field_simp

theorem half_le_div_iff {den : ℕ} (rest : ℕ) (positive : 0 < den) :
    (1 / 2 : ℚ) ≤ rest / den ↔ den ≤ 2 * rest := by
  rw [le_div_iff₀ (Nat.cast_pos.mpr positive), ← Nat.cast_le (α := ℚ)]
  push_cast
  constructor <;> intro <;> linarith

theorem div_le_half_iff {den : ℕ} (rest : ℕ) (positive : 0 < den) :
    (rest : ℚ) / den ≤ 1 / 2 ↔ 2 * rest ≤ den := by
  rw [div_le_iff₀ (Nat.cast_pos.mpr positive), ← Nat.cast_le (α := ℚ)]
  push_cast
  constructor <;> intro <;> linarith

theorem nearest_roundHalfEven (positive : 0 < fraction.2) :
    Nearest (ratio fraction) (roundHalfEven fraction) := by
  have small : fraction.1 % fraction.2 < fraction.2 := Nat.mod_lt _ positive
  have half_le := half_le_div_iff (fraction.1 % fraction.2) positive
  have le_half := div_le_half_iff (fraction.1 % fraction.2) positive
  rw [ratio_eq_add positive, roundHalfEven]
  have rest_nonneg : (0 : ℚ) ≤ ((fraction.1 % fraction.2 : ℕ) : ℚ) / fraction.2 := by positivity
  have rest_lt : ((fraction.1 % fraction.2 : ℕ) : ℚ) / fraction.2 < 1 := by
    rw [div_lt_one (Nat.cast_pos.mpr positive)]
    exact_mod_cast small
  generalize ((fraction.1 % fraction.2 : ℕ) : ℚ) / fraction.2 = part at *
  split_ifs with up
  · rw [Nearest]
    split_ifs with even
    · have := half_le.mpr (by omega)
      constructor <;> push_cast <;> linarith
    · have := (lt_iff_lt_of_le_iff_le le_half).mpr (by omega)
      constructor <;> push_cast <;> linarith
  · rw [Nearest]
    split_ifs with even
    · have := le_half.mpr (by omega)
      constructor <;> linarith
    · have := (lt_iff_lt_of_le_iff_le half_le).mpr (by omega)
      constructor <;> linarith

/-! ## The power of two -/

theorem fullMantissa_eq : fullMantissa = 2 ^ 52 := rfl

/-- A number with 53 bits before the point in units of a power of two. -/
def FitsUnit (power : Int) (number : ℚ) : Prop :=
  2 ^ 52 * 2 ^ power ≤ number ∧ number < 2 ^ 53 * 2 ^ power

theorem FitsUnit.le {first second : Int} (fits : 2 ^ 52 * 2 ^ first ≤ number)
    (less : number < 2 ^ 53 * 2 ^ second) : first ≤ second := by
  have apart : (2 : ℚ) ^ first < 2 ^ (second + 1) := by
    rw [zpow_add_one₀ (by norm_num)]
    linarith
  have := (zpow_lt_zpow_iff_right₀ (by norm_num)).mp apart
  omega

theorem FitsUnit.unique {first second : Int} (fits : FitsUnit first number)
    (other : FitsUnit second number) : first = second :=
  le_antisymm (FitsUnit.le fits.1 other.2) (FitsUnit.le other.1 fits.2)

theorem ratio_log2 (num_pos : 0 < fraction.1) (positive : 0 < fraction.2) :
    (2 : ℚ) ^ ((fraction.1.log2 : ℤ) - fraction.2.log2 - 1) < ratio fraction ∧
      ratio fraction < 2 ^ ((fraction.1.log2 : ℤ) - fraction.2.log2 + 1) := by
  obtain ⟨num, den⟩ := fraction
  dsimp only at num_pos positive ⊢
  have two : (2 : ℚ) ≠ 0 := by norm_num
  have den_pos : (0 : ℚ) < den := Nat.cast_pos.mpr positive
  have num_low : (2 : ℚ) ^ (num.log2 : ℤ) ≤ num := by
    rw [zpow_natCast]
    exact_mod_cast Nat.log2_self_le num_pos.ne'
  have num_high : (num : ℚ) < 2 ^ ((num.log2 : ℤ) + 1) := by
    exact_mod_cast Nat.lt_log2_self (n := num)
  have den_low : (2 : ℚ) ^ (den.log2 : ℤ) ≤ den := by
    rw [zpow_natCast]
    exact_mod_cast Nat.log2_self_le positive.ne'
  have den_high : (den : ℚ) < 2 ^ ((den.log2 : ℤ) + 1) := by
    exact_mod_cast Nat.lt_log2_self (n := den)
  rw [ratio, lt_div_iff₀ den_pos, div_lt_iff₀ den_pos]
  constructor
  · calc (2 : ℚ) ^ ((num.log2 : ℤ) - den.log2 - 1) * den
        < 2 ^ ((num.log2 : ℤ) - den.log2 - 1) * 2 ^ ((den.log2 : ℤ) + 1) := by
          exact mul_lt_mul_of_pos_left den_high (zpow_two_pos _)
      _ = 2 ^ (num.log2 : ℤ) := by
          rw [← zpow_add₀ two]
          congr 1
          ring
      _ ≤ num := num_low
  · calc (num : ℚ) < 2 ^ ((num.log2 : ℤ) + 1) := num_high
      _ = 2 ^ ((num.log2 : ℤ) - den.log2 + 1) * 2 ^ (den.log2 : ℤ) := by
          rw [← zpow_add₀ two]
          congr 1
          ring
      _ ≤ 2 ^ ((num.log2 : ℤ) - den.log2 + 1) * den := by
          exact mul_le_mul_of_nonneg_left den_low (zpow_two_pos _).le

theorem exponentOf_spec (num_pos : 0 < fraction.1) (positive : 0 < fraction.2) :
    ∃ power, exponentOf fraction = max leastExponent power ∧ FitsUnit power (ratio fraction) := by
  obtain ⟨low, high⟩ := ratio_log2 num_pos positive
  have two : (2 : ℚ) ≠ 0 := by norm_num
  rw [exponentOf]
  generalize estimated : (fraction.1.log2 : ℤ) - fraction.2.log2 - 52 = estimate
  have scaled_pos := scale_pos Nat.two_pos (-estimate) positive
  have scaled := ratio_scale Nat.two_pos (-estimate) fraction
  generalize scale 2 (-estimate) fraction = units at scaled scaled_pos
  obtain ⟨num, den⟩ := units
  replace scaled : ratio fraction = ratio (num, den) * 2 ^ estimate := by
    rw [scaled, mul_assoc, Nat.cast_ofNat, ← zpow_add₀ two, neg_add_cancel, zpow_zero, mul_one]
  have unit_pos := zpow_two_pos estimate
  replace low : (2 : ℚ) ^ 51 * 2 ^ estimate < ratio fraction := by
    rw [← zpow_natCast, ← zpow_add₀ two]
    convert low using 2
    push_cast
    omega
  replace high : ratio fraction < 2 ^ 53 * 2 ^ estimate := by
    rw [← zpow_natCast, ← zpow_add₀ two]
    convert high using 2
    push_cast
    omega
  have den_pos : (0 : ℚ) < den := Nat.cast_pos.mpr scaled_pos
  dsimp only at scaled_pos ⊢
  split_ifs with small
  · refine ⟨estimate - 1, rfl, ?_⟩
    rw [Nat.div_lt_iff_lt_mul scaled_pos] at small
    have less : ratio (num, den) < 2 ^ 52 := by
      rw [ratio, div_lt_iff₀ den_pos]
      exact_mod_cast small
    rw [FitsUnit, zpow_sub_one₀ two]
    constructor
    · linarith
    · rw [scaled]
      have := mul_lt_mul_of_pos_right less unit_pos
      linarith
  · refine ⟨estimate, rfl, ?_, high⟩
    rw [not_lt, Nat.le_div_iff_mul_le scaled_pos] at small
    have enough : 2 ^ 52 ≤ ratio (num, den) := by
      rw [ratio, le_div_iff₀ den_pos]
      exact_mod_cast small
    rw [scaled]
    exact mul_le_mul_of_nonneg_right enough unit_pos.le

/-! ## Doubles that are read -/

/-- A double with all bits that it can have. -/
structure IsCanonical (value : Binary64) : Prop where
  bounded : value.mantissa < 2 * fullMantissa
  least_le : leastExponent ≤ value.exponent
  le_greatest : value.exponent ≤ greatestExponent
  full : fullMantissa ≤ value.mantissa ∨ value.exponent = leastExponent

theorem isCanonical_zero (negative : Bool) : (zero negative).IsCanonical :=
  ⟨Nat.zero_lt_succ _, le_refl _, show leastExponent ≤ greatestExponent by decide, .inr rfl⟩

/-- A number in units of the power of two that is chosen for it. -/
theorem nearest_mantissa (positive : 0 < fraction.2) (exponent : ℤ) :
    Nearest (ratio fraction / 2 ^ exponent) (roundHalfEven (scale 2 (-exponent) fraction)) := by
  have nearest := nearest_roundHalfEven (scale_pos Nat.two_pos (-exponent) positive)
  rwa [ratio_scale Nat.two_pos, zpow_neg, Nat.cast_ofNat, ← div_eq_mul_inv] at nearest

/-- The mantissa that is chosen has all its bits, unless the exponent is the least one; at most it
is the first one that needs another bit. -/
theorem mantissa_spec (num_pos : 0 < fraction.1) (positive : 0 < fraction.2) :
    let mantissa := roundHalfEven (scale 2 (-exponentOf fraction) fraction)
    mantissa ≤ 2 * fullMantissa ∧ leastExponent ≤ exponentOf fraction ∧
      (fullMantissa ≤ mantissa ∨ exponentOf fraction = leastExponent) := by
  obtain ⟨power, chosen, fits⟩ := exponentOf_spec num_pos positive
  have nearest := nearest_mantissa positive (exponentOf fraction)
  dsimp only
  generalize roundHalfEven (scale 2 (-exponentOf fraction) fraction) = mantissa at nearest ⊢
  generalize exponentOf fraction = exponent at chosen nearest ⊢
  have unit_pos := zpow_two_pos exponent
  have power_le : (2 : ℚ) ^ power ≤ 2 ^ exponent :=
    zpow_le_zpow_right₀ (by norm_num) (chosen ▸ le_max_right _ _)
  rw [fullMantissa_eq]
  refine ⟨?_, chosen ▸ le_max_left _ _, ?_⟩
  · have less : ratio fraction / 2 ^ exponent < 2 ^ 53 := by
      rw [div_lt_iff₀ unit_pos]
      linarith [fits.2]
    have close := nearest.le.1
    have below : (mantissa : ℚ) < 2 ^ 53 + 1 := by linarith
    have below : mantissa < 2 ^ 53 + 1 := by exact_mod_cast below
    omega
  · rcases le_total power leastExponent with small | large
    · exact .inr (chosen.trans (max_eq_left small))
    · have same : exponent = power := chosen.trans (max_eq_right large)
      subst same
      have enough : 2 ^ 52 ≤ ratio fraction / 2 ^ exponent := by
        rw [le_div_iff₀ unit_pos]
        exact fits.1
      have close := nearest.le.2
      have above : (2 : ℚ) ^ 52 < mantissa + 1 := by linarith
      have above : 2 ^ 52 < mantissa + 1 := by exact_mod_cast above
      exact .inl (by omega)

theorem isCanonical_of_ofFraction? {negative : Bool} (positive : 0 < fraction.2)
    (read : ofFraction? negative fraction = some value) : value.IsCanonical := by
  rw [ofFraction?] at read
  split at read
  · cases read
    exact isCanonical_zero negative
  next nonzero =>
  obtain ⟨at_most, least_le, full⟩ := mantissa_spec (Nat.pos_of_ne_zero nonzero) positive
  dsimp only at read
  split at read
  · split at read
    · cases read
    · next fits_greatest =>
        cases read
        dsimp only at fits_greatest ⊢
        exact ⟨show fullMantissa < 2 * fullMantissa by decide, by dsimp only; omega,
          by dsimp only; omega, .inl (le_refl _)⟩
  · split at read
    · cases read
    · next not_carried fits_greatest =>
        cases read
        exact ⟨by dsimp only; omega, least_le, by dsimp only at fits_greatest ⊢; omega, full⟩

/-! ## Numbers that a double covers -/

/-- How far a double reaches below itself, in units of its last bit: below a power of two its
neighbour is half as far. -/
def reach (value : Binary64) : ℚ :=
  if value.mantissa = fullMantissa ∧ leastExponent < value.exponent then 1 / 4 else 1 / 2

/-- The numbers that are rounded to a double, its sign apart. -/
def Covers (value : Binary64) (number : ℚ) : Prop :=
  let low : ℚ := (value.mantissa - value.reach) * 2 ^ value.exponent
  let high : ℚ := (value.mantissa + 1 / 2) * 2 ^ value.exponent
  if value.mantissa % 2 = 0 then low ≤ number ∧ number ≤ high else low < number ∧ number < high

theorem reach_le (value : Binary64) : value.reach ≤ 1 / 2 := by
  rw [reach]
  split <;> norm_num

theorem Covers.nearest (covers : value.Covers number) :
    Nearest (number / 2 ^ value.exponent) value.mantissa := by
  have unit_pos := zpow_two_pos value.exponent
  have reaches := reach_le value
  rw [Nearest, le_div_iff₀ unit_pos, div_le_iff₀ unit_pos, lt_div_iff₀ unit_pos,
    div_lt_iff₀ unit_pos]
  dsimp only [Covers] at covers
  have closer : ((value.mantissa : ℚ) - 1 / 2) * 2 ^ value.exponent ≤
      (value.mantissa - value.reach) * 2 ^ value.exponent :=
    mul_le_mul_of_nonneg_right (by linarith) unit_pos.le
  split_ifs at covers ⊢
  · exact ⟨closer.trans covers.1, covers.2⟩
  · exact ⟨closer.trans_lt covers.1, covers.2⟩

theorem Covers.le (covers : value.Covers number) :
    (value.mantissa - value.reach) * 2 ^ value.exponent ≤ number ∧
      number ≤ (value.mantissa + 1 / 2) * 2 ^ value.exponent := by
  dsimp only [Covers] at covers
  split at covers
  · exact covers
  · exact ⟨covers.1.le, covers.2.le⟩

theorem Covers.pos (covers : value.Covers number) (nonzero : 0 < value.mantissa) : 0 < number := by
  have reaches := reach_le value
  have large : (1 : ℚ) ≤ value.mantissa := by exact_mod_cast nonzero
  have low : 0 < (value.mantissa - value.reach) * 2 ^ value.exponent :=
    mul_pos (by linarith) (zpow_two_pos _)
  exact low.trans_le covers.le.1

/-- The numbers that a double covers have the last mantissa below them. -/
theorem Covers.lt (canonical : value.IsCanonical) (covers : value.Covers number) :
    number < 2 ^ 53 * 2 ^ value.exponent := by
  have bounded := canonical.bounded
  rw [fullMantissa_eq] at bounded
  have bounded : (value.mantissa : ℚ) + 1 ≤ 2 ^ 53 := by exact_mod_cast bounded
  have less : ((value.mantissa : ℚ) + 1 / 2) * 2 ^ value.exponent < 2 ^ 53 * 2 ^ value.exponent :=
    mul_lt_mul_of_pos_right (by linarith) (zpow_two_pos _)
  exact covers.le.2.trans_lt less

/-- The power of two that is chosen for a number is the one of the double that covers it, unless
the number is just below a power of two and rounded up to it. -/
theorem Covers.exponentOf_eq (canonical : value.IsCanonical) (num_pos : 0 < fraction.1)
    (positive : 0 < fraction.2) (covers : value.Covers (ratio fraction)) :
    exponentOf fraction = value.exponent ∨
      exponentOf fraction = value.exponent - 1 ∧ value.mantissa = fullMantissa ∧
        Nearest (ratio fraction / 2 ^ (value.exponent - 1)) (2 * fullMantissa) := by
  obtain ⟨power, chosen, fits⟩ := exponentOf_spec num_pos positive
  have power_le := FitsUnit.le fits.1 (covers.lt canonical)
  by_cases least : value.exponent = leastExponent
  · exact .inl (by rw [chosen, least, max_eq_left (least ▸ power_le)])
  have above_least := lt_of_le_of_ne canonical.least_le (Ne.symm least)
  by_cases reached : 2 ^ 52 * 2 ^ value.exponent ≤ ratio fraction
  · have same := fits.unique ⟨reached, covers.lt canonical⟩
    exact .inl (by rw [chosen, same, max_eq_right canonical.least_le])
  have unit_pos := zpow_two_pos value.exponent
  have low := covers.le.1
  -- Only the least mantissa with all bits covers numbers below the power of two.
  have first : value.mantissa = fullMantissa := by
    refine Nat.le_antisymm (not_lt.mp fun more => reached ?_) (canonical.full.resolve_right least)
    have more : (2 : ℚ) ^ 52 + 1 ≤ value.mantissa := by exact_mod_cast more
    refine (mul_le_mul_of_nonneg_right ?_ unit_pos.le).trans low
    linarith [reach_le value]
  have half_unit : (2 : ℚ) ^ value.exponent = 2 ^ (value.exponent - 1) * 2 := by
    rw [← zpow_add_one₀ (by norm_num), sub_add_cancel]
  rw [reach, if_pos ⟨first, above_least⟩, first, fullMantissa_eq] at low
  rw [not_le] at reached
  rw [half_unit] at low reached
  push_cast at low
  have small_pos := zpow_two_pos (value.exponent - 1)
  have fits_small : FitsUnit (value.exponent - 1) (ratio fraction) := ⟨by linarith, by linarith⟩
  have same := fits.unique fits_small
  refine .inr ⟨by rw [chosen, same, max_eq_right (by omega)], first, ?_⟩
  rw [Nearest, if_pos (by decide), le_div_iff₀ small_pos, div_le_iff₀ small_pos, fullMantissa_eq]
  push_cast
  constructor <;> linarith

theorem ofFraction?_of_covers (canonical : value.IsCanonical) (num_pos : 0 < fraction.1)
    (positive : 0 < fraction.2) (covers : value.Covers (ratio fraction)) :
    ofFraction? value.negative fraction = some value := by
  have nearest := nearest_mantissa positive (exponentOf fraction)
  have bounded := canonical.bounded
  have fits := canonical.le_greatest
  rw [ofFraction?, if_neg num_pos.ne']
  dsimp only
  rcases covers.exponentOf_eq canonical num_pos positive with same | ⟨below, first, carried⟩
  · rw [same] at nearest ⊢
    rw [nearest.unique covers.nearest, if_neg bounded.ne, if_neg (not_lt.mpr fits)]
  · rw [below] at nearest ⊢
    rw [nearest.unique carried, if_pos rfl]
    dsimp only
    rw [sub_add_cancel, if_neg (not_lt.mpr fits), ← first]

/-! ## Decimal numbers -/

theorem lt_ten_pow_digitCount (n : Nat) : n < 10 ^ digitCount n :=
  (Nat.length_toDigits_le_iff (by decide) Nat.length_toDigits_pos).mp (le_refl _)

theorem ten_pow_digitCount_le {n : Nat} (positive : 0 < n) : 10 ^ (digitCount n - 1) ≤ n := by
  by_contra less
  rw [not_le] at less
  have some_digit : 0 < digitCount n := Nat.length_toDigits_pos
  by_cases single : digitCount n = 1
  · rw [single] at less
    omega
  · have fewer := (Nat.length_toDigits_le_iff (by decide) (by omega)).mpr less
    rw [digitCount] at fewer some_digit
    omega

/-- Numbers that a double covers are far from the powers of ten that are decided at once. -/
theorem Covers.bounds (canonical : value.IsCanonical) (nonzero : 0 < value.mantissa)
    (covers : value.Covers number) : (10 : ℚ) ^ (-400 : ℤ) ≤ number ∧ number < 10 ^ (400 : ℤ) := by
  have large : (1 : ℚ) ≤ value.mantissa := by exact_mod_cast nonzero
  have least : (2 : ℚ) ^ leastExponent ≤ 2 ^ value.exponent :=
    zpow_le_zpow_right₀ (by norm_num) canonical.least_le
  have greatest : (2 : ℚ) ^ value.exponent ≤ 2 ^ greatestExponent :=
    zpow_le_zpow_right₀ (by norm_num) canonical.le_greatest
  have two : (2 : ℚ) ≠ 0 := by norm_num
  have powers : (2 : ℚ) ^ (1200 : ℤ) ≤ 10 ^ (400 : ℤ) := by
    rw [show (1200 : ℤ) = 3 * 400 from rfl, zpow_mul]
    exact zpow_le_zpow_left₀ (by norm_num) (by norm_num) (by norm_num)
  constructor
  · calc (10 : ℚ) ^ (-400 : ℤ) ≤ 2 ^ (-1200 : ℤ) := by
          rw [zpow_neg, zpow_neg]
          exact inv_anti₀ (zpow_two_pos _) powers
      _ ≤ 2 ^ (-1 + leastExponent) := zpow_le_zpow_right₀ (by norm_num) (by decide)
      _ = 1 / 2 * 2 ^ leastExponent := by rw [zpow_add₀ two, zpow_neg_one, one_div]
      _ ≤ (value.mantissa - value.reach) * 2 ^ value.exponent :=
          mul_le_mul (by linarith [reach_le value]) least (zpow_two_pos _).le
            (by linarith [reach_le value])
      _ ≤ number := covers.le.1
  · calc number < 2 ^ 53 * 2 ^ value.exponent := covers.lt canonical
      _ ≤ 2 ^ 53 * 2 ^ greatestExponent := mul_le_mul_of_nonneg_left greatest (by norm_num)
      _ = 2 ^ (53 + greatestExponent) := by rw [zpow_add₀ two, zpow_ofNat]
      _ ≤ 2 ^ (1200 : ℤ) := zpow_le_zpow_right₀ (by norm_num) (by decide)
      _ ≤ 10 ^ (400 : ℤ) := powers

/-- A decimal number lies between powers of ten by the number of its digits. -/
theorem decimal_bounds {digits : Nat} (positive : 0 < digits) (power : Int) :
    (10 : ℚ) ^ (power + digitCount digits - 1) ≤ digits * 10 ^ power ∧
      digits * (10 : ℚ) ^ power < 10 ^ (power + digitCount digits) := by
  have ten : (10 : ℚ) ≠ 0 := by norm_num
  have ten_pos : (0 : ℚ) < 10 ^ power := zpow_pos (by norm_num) power
  have some_digit : 0 < digitCount digits := Nat.length_toDigits_pos
  constructor
  · have low : ((10 : ℚ)) ^ (digitCount digits - 1) ≤ digits := by
      exact_mod_cast ten_pow_digitCount_le positive
    calc (10 : ℚ) ^ (power + digitCount digits - 1)
        = 10 ^ (digitCount digits - 1) * 10 ^ power := by
          rw [← zpow_natCast, ← zpow_add₀ ten]
          congr 1
          omega
      _ ≤ digits * 10 ^ power := mul_le_mul_of_nonneg_right low ten_pos.le
  · have high : (digits : ℚ) < 10 ^ digitCount digits := by
      exact_mod_cast lt_ten_pow_digitCount digits
    calc digits * (10 : ℚ) ^ power < 10 ^ digitCount digits * 10 ^ power :=
          mul_lt_mul_of_pos_right high ten_pos
      _ = 10 ^ (power + digitCount digits) := by
          rw [← zpow_natCast, ← zpow_add₀ ten, add_comm]

theorem isCanonical_of_ofDecimal? {negative : Bool} {digits : Nat} {power : Int}
    (read : ofDecimal? negative digits power = some value) : value.IsCanonical := by
  rw [ofDecimal?] at read
  split at read
  · cases read
    exact isCanonical_zero negative
  split at read
  · cases read
  · exact isCanonical_of_ofFraction? (scale_pos (by decide) power Nat.one_pos) read

/-- A decimal number is read as the double that covers it. -/
theorem ofDecimal?_of_covers (canonical : value.IsCanonical) (nonzero : 0 < value.mantissa)
    {digits : Nat} {power : Int} (covers : value.Covers (digits * 10 ^ power)) :
    ofDecimal? value.negative digits power = some value := by
  have number_pos := covers.pos nonzero
  have digits_pos : 0 < digits := by
    refine Nat.pos_of_ne_zero ?_
    rintro rfl
    simp at number_pos
  have spelled : ratio (scale 10 power (digits, 1)) = digits * 10 ^ power := by
    rw [ratio_scale (by decide), ratio]
    simp
  obtain ⟨not_less, less⟩ := covers.bounds canonical nonzero
  obtain ⟨low, high⟩ := decimal_bounds digits_pos power
  have above := (zpow_lt_zpow_iff_right₀ (by norm_num)).mp (not_less.trans_lt high)
  have below := (zpow_lt_zpow_iff_right₀ (by norm_num)).mp (low.trans_lt less)
  rw [ofDecimal?, if_neg (by omega), if_neg (by omega)]
  refine ofFraction?_of_covers canonical ?_ (scale_pos (by decide) power Nat.one_pos) ?_
  · rw [scale]
    split
    · exact Nat.mul_pos digits_pos (Nat.pow_pos (by decide))
    · exact digits_pos
  · rwa [spelled]

end Binary64
end ClassEnhancement
