import Mathlib.Algebra.Order.Field.Power
import Mathlib.Tactic.Linarith
import Mathlib.Tactic.NormNum
import Mathlib.Tactic.Ring
import SchemaDdl.Binary64.Shortest

/-!
# Shortest decimals read back

The decimal that is searched for a floating point number is found, and it lies among the magnitudes
that round to the number.  No magnitude rounds to two numbers, so the decimal determines the number.
-/

namespace SchemaDdl

namespace Decimal

def value (decimal : Decimal) : ℚ :=
  decimal.digits * 10 ^ decimal.exponent

end Decimal

namespace Binary64

/-- The magnitude of mantissa times a power of two. -/
def magnitude (mantissa : Nat) (exponent : Int) : ℚ :=
  mantissa * 2 ^ exponent

theorem ratio_pos (mantissa : Nat) (exponent : Int) : 0 < (ratio mantissa exponent).2 := by
  cases exponent with
  | ofNat power => exact Nat.one_pos
  | negSucc power => exact Nat.pow_pos Nat.two_pos

theorem ratio_eq (mantissa : Nat) (exponent : Int) :
    ((ratio mantissa exponent).1 : ℚ) =
      magnitude mantissa exponent * (ratio mantissa exponent).2 := by
  cases exponent with
  | ofNat power =>
      simp [ratio, magnitude]
  | negSucc power =>
      simp [ratio, magnitude, zpow_negSucc]

theorem scaledByTen_pos (numerator : Nat) {denominator : Nat} (positive : 0 < denominator)
    (exponent : Int) : 0 < (scaledByTen numerator denominator exponent).2 := by
  cases exponent with
  | ofNat power => exact Nat.mul_pos positive (Nat.pow_pos (by decide))
  | negSucc power => exact positive

theorem scaledByTen_eq {numerator denominator : Nat} {size : ℚ}
    (isSize : (numerator : ℚ) = size * denominator) (exponent : Int) :
    ((scaledByTen numerator denominator exponent).1 : ℚ) * 10 ^ exponent =
      size * (scaledByTen numerator denominator exponent).2 := by
  cases exponent with
  | ofNat power =>
      simp [scaledByTen, isSize]
      ring
  | negSucc power =>
      simp [scaledByTen, isSize, zpow_negSucc]

theorem ten_zpow_pos (exponent : Int) : (0 : ℚ) < 10 ^ exponent :=
  zpow_pos (by norm_num) exponent

/-- A multiple of the denominator compares with the numerator as its size with that of the
fraction. -/
theorem le_multiple_iff {top bottom : Nat} {size power : ℚ} (bottomPositive : 0 < bottom)
    (powerPositive : 0 < power) (isSize : (top : ℚ) * power = size * bottom) (digits : Nat) :
    (top ≤ digits * bottom ↔ size ≤ digits * power) ∧
      (digits * bottom ≤ top ↔ (digits : ℚ) * power ≤ size) := by
  have bottomPositive : (0 : ℚ) < bottom := by exact_mod_cast bottomPositive
  have sameMultiple : ((digits * bottom : Nat) : ℚ) * power = digits * power * bottom := by
    push_cast
    ring
  constructor
  · rw [← Nat.cast_le (α := ℚ), ← mul_le_mul_iff_of_pos_right powerPositive, isSize,
      sameMultiple, mul_le_mul_iff_of_pos_right bottomPositive]
  · rw [← Nat.cast_le (α := ℚ), ← mul_le_mul_iff_of_pos_right powerPositive, isSize,
      sameMultiple, mul_le_mul_iff_of_pos_right bottomPositive]

namespace RoundingInterval

def lowerEnd (interval : RoundingInterval) : ℚ :=
  magnitude interval.lower interval.exponent

/-- The magnitude of the number itself. -/
def middle (interval : RoundingInterval) : ℚ :=
  magnitude interval.centre interval.exponent

def upperEnd (interval : RoundingInterval) : ℚ :=
  magnitude interval.upper interval.exponent

/-- Whether a magnitude rounds to the number of an interval. -/
def Covers (interval : RoundingInterval) (size : ℚ) : Prop :=
  if interval.closed = true then interval.lowerEnd ≤ size ∧ size ≤ interval.upperEnd
  else interval.lowerEnd < size ∧ size < interval.upperEnd

theorem contains_iff (interval : RoundingInterval) (decimal : Decimal) :
    interval.contains decimal = true ↔ interval.Covers decimal.value := by
  have sameBottom : (ratio interval.upper interval.exponent).2 =
      (ratio interval.lower interval.exponent).2 := by
    cases interval.exponent <;> rfl
  have lower := le_multiple_iff
    (scaledByTen_pos _ (ratio_pos interval.lower interval.exponent) decimal.exponent)
    (ten_zpow_pos decimal.exponent)
    (scaledByTen_eq (ratio_eq interval.lower interval.exponent) decimal.exponent) decimal.digits
  have upper := le_multiple_iff
    (scaledByTen_pos _ (ratio_pos interval.upper interval.exponent) decimal.exponent)
    (ten_zpow_pos decimal.exponent)
    (scaledByTen_eq (ratio_eq interval.upper interval.exponent) decimal.exponent) decimal.digits
  rw [sameBottom] at upper
  simp only [contains, Covers, lowerEnd, upperEnd, Decimal.value]
  split
  · rw [Bool.and_eq_true, decide_eq_true_eq, decide_eq_true_eq, lower.1, upper.2]
  · rw [Bool.and_eq_true, decide_eq_true_eq, decide_eq_true_eq, ← not_le, ← not_le, lower.2,
      upper.1, not_le, not_le]

end RoundingInterval

/-! ### The search -/

theorem contains_of_neighbour? {interval : RoundingInterval} {gridExponent : Int}
    {decimal : Decimal} (found : neighbour? interval gridExponent = some decimal) :
    interval.contains decimal = true := by
  simp only [neighbour?] at found
  split at found
  · rename_i below above
    rw [Option.some.injEq] at found
    rw [← found]
    split
    · exact below
    · exact above
  · rename_i below _
    rw [← Option.some.inj found]
    exact below
  · rename_i _ above
    rw [← Option.some.inj found]
    exact above
  · exact absurd found (by simp)

/-- A grid is enough if one of any two neighbours around the number on it rounds to the number. -/
theorem neighbour?_isSome {interval : RoundingInterval} {gridExponent : Int}
    (oneCovers : ∀ digits : Nat,
      Decimal.value ⟨digits, gridExponent⟩ ≤ interval.middle →
      interval.middle < Decimal.value ⟨digits + 1, gridExponent⟩ →
        interval.Covers (Decimal.value ⟨digits, gridExponent⟩) ∨
          interval.Covers (Decimal.value ⟨digits + 1, gridExponent⟩)) :
    (neighbour? interval gridExponent).isSome = true := by
  have positive := scaledByTen_pos (ratio interval.centre interval.exponent).1
    (ratio_pos interval.centre interval.exponent) gridExponent
  have isSize := scaledByTen_eq (ratio_eq interval.centre interval.exponent) gridExponent
  have compared := le_multiple_iff positive (ten_zpow_pos gridExponent) isSize
  simp only [neighbour?]
  generalize scaledByTen (ratio interval.centre interval.exponent).1
    (ratio interval.centre interval.exponent).2 gridExponent = fraction at *
  obtain ⟨top, bottom⟩ := fraction
  have below : Decimal.value ⟨top / bottom, gridExponent⟩ ≤ interval.middle :=
    (compared _).2.mp (Nat.div_mul_le_self top bottom)
  have above : interval.middle < Decimal.value ⟨top / bottom + 1, gridExponent⟩ := by
    have notBelow := Nat.lt_div_mul_add (a := top) positive
    rw [← Nat.succ_mul, ← not_le, (compared _).2, not_le] at notBelow
    exact notBelow
  have contained := oneCovers (top / bottom) below above
  rw [← RoundingInterval.contains_iff, ← RoundingInterval.contains_iff] at contained
  split
  · rfl
  · rfl
  · rfl
  · rename_i missesBelow missesAbove
    rw [missesBelow, missesAbove] at contained
    exact absurd contained (by simp)

theorem searchGrids_succ (interval : RoundingInterval) (grids : Nat) (gridExponent : Int) :
    searchGrids interval (grids + 1) gridExponent =
      (neighbour? interval gridExponent).or (searchGrids interval grids (gridExponent - 1)) := by
  rw [searchGrids, Option.orElse_eq_or]

theorem contains_of_searchGrids {interval : RoundingInterval} {grids : Nat} {gridExponent : Int}
    {decimal : Decimal} (found : searchGrids interval grids gridExponent = some decimal) :
    interval.contains decimal = true := by
  induction grids generalizing gridExponent with
  | zero => exact absurd found (by simp [searchGrids])
  | succ grids induction =>
      rw [searchGrids_succ, Option.or_eq_some_iff] at found
      rcases found with found | ⟨-, found⟩
      · exact contains_of_neighbour? found
      · exact induction found

theorem searchGrids_isSome {interval : RoundingInterval} {grids step : Nat} {gridExponent : Int}
    (inRange : step < grids)
    (found : (neighbour? interval (gridExponent - step)).isSome = true) :
    (searchGrids interval grids gridExponent).isSome = true := by
  induction grids generalizing gridExponent step with
  | zero => exact absurd inRange (Nat.not_lt_zero step)
  | succ grids induction =>
      rw [searchGrids_succ, Option.isSome_or, Bool.or_eq_true]
      cases step with
      | zero =>
          left
          simpa using found
      | succ step =>
          right
          apply induction (Nat.lt_of_succ_lt_succ inRange)
          rw [Nat.cast_succ] at found
          rwa [sub_sub, add_comm (1 : Int)]

theorem value_dropZeros (count : Nat) (decimal : Decimal) :
    (dropZeros count decimal).value = decimal.value := by
  induction count generalizing decimal with
  | zero => rfl
  | succ count induction =>
      rw [dropZeros]
      split
      · rename_i divisible
        have digits : (decimal.digits : ℚ) = (decimal.digits / 10 : Nat) * 10 := by
          exact_mod_cast (Nat.div_mul_cancel (Nat.dvd_of_mod_eq_zero divisible)).symm
        rw [induction, Decimal.value, Decimal.value, digits, zpow_add_one₀ (by norm_num)]
        ring
      · rfl

/-! ### The first grid -/

theorem two_zpow_pos (exponent : Int) : (0 : ℚ) < 2 ^ exponent :=
  zpow_pos (by norm_num) exponent

theorem ten_pow_le_two_pow : 10 ^ 1233 ≤ 2 ^ 4096 := by
  decide +kernel

theorem two_pow_le_ten_pow : 2 ^ 4096 ≤ 10 ^ 1234 := by
  decide +kernel

theorem ten_zpow_le_two_zpow (power : Nat) :
    (10 : ℚ) ^ (1233 * power : Int) ≤ 2 ^ (4096 * power : Int) := by
  rw [zpow_mul, zpow_mul, zpow_natCast, zpow_natCast]
  apply pow_le_pow_left₀ (zpow_pos (by norm_num) _).le
  exact_mod_cast ten_pow_le_two_pow

theorem ten_zpow_le_two_zpow_neg (power : Nat) :
    (10 : ℚ) ^ (-1234 * power : Int) ≤ 2 ^ (-4096 * power : Int) := by
  rw [neg_mul, neg_mul, zpow_neg, zpow_neg, zpow_mul, zpow_mul, zpow_natCast, zpow_natCast]
  apply inv_anti₀ (pow_pos (zpow_pos (by norm_num) _) _)
  apply pow_le_pow_left₀ (zpow_pos (by norm_num) _).le
  exact_mod_cast two_pow_le_ten_pow

/-- The estimate of a power of ten that a power of two reaches is at most one too great. -/
theorem ten_zpow_estimate_le {binary : Int} (bounded : -4096 ≤ binary) :
    (10 : ℚ) ^ ((binary * 1233).fdiv 4096 - 1) ≤ 2 ^ binary := by
  have estimateBound : 4096 * (binary * 1233).fdiv 4096 ≤ 1233 * binary := by
    rw [Int.fdiv_eq_ediv_of_nonneg _ (by decide)]
    omega
  generalize (binary * 1233).fdiv 4096 = estimate at *
  rw [← pow_le_pow_iff_left₀ (ten_zpow_pos _).le (two_zpow_pos _).le (by decide : 4096 ≠ 0),
    ← zpow_natCast, ← zpow_natCast, ← zpow_mul, ← zpow_mul]
  rcases Int.le_total 0 binary with nonnegative | negative
  · obtain ⟨power, rfl⟩ := Int.eq_ofNat_of_zero_le nonnegative
    calc (10 : ℚ) ^ ((estimate - 1) * (4096 : Nat))
        ≤ 10 ^ (1233 * power : Int) := zpow_le_zpow_right₀ (by norm_num) (by omega)
      _ ≤ 2 ^ (4096 * power : Int) := ten_zpow_le_two_zpow power
      _ = 2 ^ ((power : Int) * (4096 : Nat)) := by rw [mul_comm]; rfl
  · obtain ⟨power, rfl⟩ := Int.exists_eq_neg_ofNat negative
    calc (10 : ℚ) ^ ((estimate - 1) * (4096 : Nat))
        ≤ 10 ^ (-1234 * power : Int) := zpow_le_zpow_right₀ (by norm_num) (by omega)
      _ ≤ 2 ^ (-4096 * power : Int) := ten_zpow_le_two_zpow_neg power
      _ = 2 ^ (-(power : Int) * (4096 : Nat)) := by rw [neg_mul, neg_mul, mul_comm]; rfl
theorem ten_zpow_leadingExponent_le {mantissa : Nat} {exponent : Int} (positive : 0 < mantissa)
    (bounded : -4096 ≤ (mantissa.log2 : Int) + exponent) :
    (10 : ℚ) ^ leadingExponent mantissa exponent ≤ magnitude mantissa exponent := by
  have reaches_iff : ∀ power : Int,
      (scaledByTen (ratio mantissa exponent).1 (ratio mantissa exponent).2 power).2 ≤
          (scaledByTen (ratio mantissa exponent).1 (ratio mantissa exponent).2 power).1 ↔
        (10 : ℚ) ^ power ≤ magnitude mantissa exponent := by
    intro power
    have compared := (le_multiple_iff
      (scaledByTen_pos (ratio mantissa exponent).1 (ratio_pos mantissa exponent) power)
      (ten_zpow_pos power) (scaledByTen_eq (ratio_eq mantissa exponent) power) 1).2
    rwa [Nat.one_mul, Nat.cast_one, one_mul] at compared
  simp only [leadingExponent, decide_eq_true_eq, reaches_iff]
  split
  · assumption
  · split
    · assumption
    · calc (10 : ℚ) ^ ((((mantissa.log2 : Int) + exponent) * 1233).fdiv 4096 - 1)
          ≤ 2 ^ ((mantissa.log2 : Int) + exponent) := ten_zpow_estimate_le bounded
        _ = (2 ^ mantissa.log2 : Nat) * 2 ^ exponent := by
            rw [zpow_add₀ two_ne_zero, zpow_natCast, Nat.cast_pow, Nat.cast_ofNat]
        _ ≤ magnitude mantissa exponent := by
            apply mul_le_mul_of_nonneg_right _ (two_zpow_pos exponent).le
            exact_mod_cast Nat.log2_self_le positive.ne'

/-! ### The decimal that is found -/

/-- Whether a mantissa and a power of two are those of a number: the mantissa has 53 binary digits,
or fewer where the power is the least one. -/
structure IsCanonical (mantissa : Nat) (exponent : Int) : Prop where
  lt : mantissa < 2 ^ 53
  least : leastExponent ≤ exponent
  normal : leastExponent < exponent → 2 ^ 52 ≤ mantissa

/-- Whether what is finite is written with the mantissa and the power of two of a number. -/
def IsNumber : Binary64 → Prop
  | .finite _ mantissa exponent => IsCanonical mantissa exponent
  | _ => True

theorem covers_of_lt {interval : RoundingInterval} {size : ℚ} (above : interval.lowerEnd < size)
    (below : size < interval.upperEnd) : interval.Covers size := by
  unfold RoundingInterval.Covers
  split
  · exact ⟨above.le, below.le⟩
  · exact ⟨above, below⟩

theorem quarter_eq (mantissa : Nat) (exponent : Int) :
    magnitude (4 * mantissa) (exponent - 2) = magnitude mantissa exponent := by
  have split : (2 : ℚ) ^ exponent = 4 * 2 ^ (exponent - 2) := by
    rw [← sub_add_cancel exponent 2, zpow_add₀ two_ne_zero, add_sub_cancel_right]
    norm_num
    ring
  rw [magnitude, magnitude, split]
  push_cast
  ring

/-- The distance of the lower bound of an interval from the number, in quarters of its last binary
place. -/
def lowerReach (mantissa : Nat) (exponent : Int) : Nat :=
  if mantissa = Nat.pow 2 52 ∧ leastExponent < exponent then 1 else 2

theorem lowerReach_le (mantissa : Nat) (exponent : Int) : lowerReach mantissa exponent ≤ 2 := by
  unfold lowerReach
  split <;> omega

theorem roundingInterval_eq (mantissa : Nat) (exponent : Int) :
    roundingInterval mantissa exponent =
      { lower := 4 * mantissa - lowerReach mantissa exponent
        centre := 4 * mantissa
        upper := 4 * mantissa + 2
        exponent := exponent - 2
        closed := mantissa % 2 = 0 } :=
  rfl

/-- On a grid of seventeen digits, one of the neighbours of a number rounds to it. -/
theorem covers_neighbour {mantissa : Nat} {exponent : Int} {step below : ℚ}
    (positive : 0 < mantissa) (canonical : IsCanonical mantissa exponent)
    (fine : 10 ^ 16 * step ≤ magnitude mantissa exponent)
    (atMost : below ≤ magnitude mantissa exponent)
    (beyond : magnitude mantissa exponent < below + step) :
    (roundingInterval mantissa exponent).Covers below ∨
      (roundingInterval mantissa exponent).Covers (below + step) := by
  have unitPositive := two_zpow_pos (exponent - 2)
  have upper : (roundingInterval mantissa exponent).upperEnd =
      magnitude mantissa exponent + 2 * 2 ^ (exponent - 2) := by
    rw [← quarter_eq, roundingInterval_eq, RoundingInterval.upperEnd, magnitude, magnitude]
    push_cast
    ring
  have lower : (roundingInterval mantissa exponent).lowerEnd =
      magnitude mantissa exponent - lowerReach mantissa exponent * 2 ^ (exponent - 2) := by
    have reachBound := lowerReach_le mantissa exponent
    rw [← quarter_eq, roundingInterval_eq, RoundingInterval.lowerEnd, magnitude, magnitude,
      Nat.cast_sub (by omega), sub_mul]
  have size : magnitude mantissa exponent = (4 * mantissa : Nat) * 2 ^ (exponent - 2) := by
    rw [← quarter_eq, magnitude]
  by_cases power : mantissa = 2 ^ 52 ∧ leastExponent < exponent
  · right
    have reach : lowerReach mantissa exponent = 1 := if_pos power
    have sizeUnits : magnitude mantissa exponent = 2 ^ 54 * 2 ^ (exponent - 2) := by
      rw [size, power.1]
      norm_num
    rw [reach, Nat.cast_one] at lower
    apply covers_of_lt
    · rw [lower]
      linarith
    · rw [upper]
      linarith
  · have reach : lowerReach mantissa exponent = 2 := if_neg power
    rw [reach, Nat.cast_ofNat] at lower
    have atMostUnits : magnitude mantissa exponent ≤ 2 ^ 55 * 2 ^ (exponent - 2) := by
      rw [size]
      apply mul_le_mul_of_nonneg_right _ unitPositive.le
      have := canonical.lt
      exact_mod_cast (by omega : 4 * mantissa ≤ 2 ^ 55)
    by_cases aboveCovers : below + step < (roundingInterval mantissa exponent).upperEnd
    · right
      apply covers_of_lt _ aboveCovers
      rw [lower]
      linarith
    · left
      rw [upper, not_lt] at aboveCovers
      apply covers_of_lt
      · rw [lower]
        linarith
      · rw [upper]
        linarith

theorem covers_shortest {mantissa : Nat} {exponent : Int} (positive : 0 < mantissa)
    (canonical : IsCanonical mantissa exponent) :
    (roundingInterval mantissa exponent).Covers (shortest mantissa exponent).value := by
  have found : (searchGrids (roundingInterval mantissa exponent) 17
      (leadingExponent mantissa exponent)).isSome = true := by
    apply searchGrids_isSome (by decide : 16 < 17)
    rw [Nat.cast_ofNat]
    apply neighbour?_isSome
    intro digits below above
    have middle : (roundingInterval mantissa exponent).middle = magnitude mantissa exponent :=
      quarter_eq mantissa exponent
    have next : Decimal.value ⟨digits + 1, leadingExponent mantissa exponent - 16⟩ =
        Decimal.value ⟨digits, leadingExponent mantissa exponent - 16⟩ +
          10 ^ (leadingExponent mantissa exponent - 16) := by
      simp only [Decimal.value]
      push_cast
      ring
    have bounded : -4096 ≤ (mantissa.log2 : Int) + exponent := by
      have least := canonical.least
      unfold leastExponent at least
      omega
    have fine : (10 : ℚ) ^ 16 * 10 ^ (leadingExponent mantissa exponent - 16) ≤
        magnitude mantissa exponent := by
      have reached := ten_zpow_leadingExponent_le positive bounded
      rwa [← zpow_natCast, ← zpow_add₀ (by norm_num), Nat.cast_ofNat, add_sub_cancel]
    rw [middle] at below above
    rw [next] at above ⊢
    exact covers_neighbour positive canonical fine below above
  obtain ⟨decimal, isFound⟩ := Option.isSome_iff_exists.mp found
  rw [shortest, isFound, value_dropZeros, ← RoundingInterval.contains_iff]
  exact contains_of_searchGrids isFound

/-! ### Intervals of different numbers -/

theorem magnitude_add (mantissa : Nat) (exponent : Int) (power : Nat) :
    magnitude mantissa (exponent + power) = magnitude (mantissa * 2 ^ power) exponent := by
  rw [magnitude, magnitude, zpow_add₀ two_ne_zero, zpow_natCast]
  push_cast
  ring

theorem magnitude_le_iff {mantissa other : Nat} {exponent : Int} :
    magnitude mantissa exponent ≤ magnitude other exponent ↔ mantissa ≤ other := by
  rw [magnitude, magnitude, mul_le_mul_iff_of_pos_right (two_zpow_pos exponent), Nat.cast_le]

/-- Intervals that cover one magnitude overlap, or touch at bounds that belong to both. -/
theorem lowerEnd_le_upperEnd {interval other : RoundingInterval} {size : ℚ}
    (covers : interval.Covers size) (otherCovers : other.Covers size) :
    interval.lowerEnd ≤ other.upperEnd ∧
      (other.upperEnd ≤ interval.lowerEnd → interval.closed = true ∧ other.closed = true) := by
  unfold RoundingInterval.Covers at covers otherCovers
  split at covers <;> split at otherCovers <;> rename_i closed otherClosed
  · exact ⟨covers.1.trans otherCovers.2, fun _ => ⟨closed, otherClosed⟩⟩
  · have overlap := covers.1.trans_lt otherCovers.2
    exact ⟨overlap.le, fun touch => absurd touch overlap.not_ge⟩
  · have overlap := covers.1.trans_le otherCovers.2
    exact ⟨overlap.le, fun touch => absurd touch overlap.not_ge⟩
  · have overlap := covers.1.trans otherCovers.2
    exact ⟨overlap.le, fun touch => absurd touch overlap.not_ge⟩

theorem eq_of_covers_of_le {mantissa other power : Nat} {exponent : Int} {size : ℚ}
    (canonical : IsCanonical mantissa exponent)
    (otherCanonical : IsCanonical other (exponent + power)) (positive : 0 < mantissa)
    (otherPositive : 0 < other) (covers : (roundingInterval mantissa exponent).Covers size)
    (otherCovers : (roundingInterval other (exponent + power)).Covers size) :
    mantissa = other ∧ power = 0 := by
  have sameUnit : exponent + power - 2 = exponent - 2 + power := by omega
  have above := lowerEnd_le_upperEnd covers otherCovers
  have below := lowerEnd_le_upperEnd otherCovers covers
  simp only [RoundingInterval.lowerEnd, RoundingInterval.upperEnd, roundingInterval_eq, sameUnit,
    magnitude_add, magnitude_le_iff, decide_eq_true_eq] at above below
  have lt := canonical.lt
  have reach := lowerReach_le mantissa exponent
  have otherReach := lowerReach_le other (exponent + power)
  cases power with
  | zero =>
      simp only [Nat.pow_zero, Nat.mul_one] at above below
      omega
  | succ power =>
      -- Where the greater power begins, it leaves no more than a bound to the last odd mantissa of
      -- the smaller one, whose interval is open.
      exfalso
      have beyondLeast : leastExponent < exponent + (power + 1 : Nat) := by
        have least := canonical.least
        omega
      have normal := otherCanonical.normal beyondLeast
      have twice : (4 * other - lowerReach other (exponent + (power + 1 : Nat))) * 2 ≤
          (4 * other - lowerReach other (exponent + (power + 1 : Nat))) * 2 ^ (power + 1) :=
        Nat.mul_le_mul_left _ (Nat.le_self_pow (Nat.succ_ne_zero power) 2)
      by_cases least : other = 2 ^ 52
      · have reachOne : lowerReach other (exponent + (power + 1 : Nat)) = 1 :=
          if_pos ⟨least, beyondLeast⟩
        rw [reachOne] at below twice
        omega
      · omega

theorem eq_of_covers {mantissa other : Nat} {exponent otherExponent : Int} {size : ℚ}
    (canonical : IsCanonical mantissa exponent) (otherCanonical : IsCanonical other otherExponent)
    (positive : 0 < mantissa) (otherPositive : 0 < other)
    (covers : (roundingInterval mantissa exponent).Covers size)
    (otherCovers : (roundingInterval other otherExponent).Covers size) :
    mantissa = other ∧ exponent = otherExponent := by
  rcases Int.le_total exponent otherExponent with below | above
  · obtain ⟨power, rfl⟩ := Int.le.dest below
    obtain ⟨same, rfl⟩ := eq_of_covers_of_le canonical otherCanonical positive otherPositive
      covers otherCovers
    exact ⟨same, by simp⟩
  · obtain ⟨power, rfl⟩ := Int.le.dest above
    obtain ⟨same, rfl⟩ := eq_of_covers_of_le otherCanonical canonical otherPositive positive
      otherCovers covers
    exact ⟨same.symm, by simp⟩

/-- The decimal of a finite number; that of zero has the digit zero. -/
def decimal (mantissa : Nat) (exponent : Int) : Decimal :=
  if mantissa = 0 then ⟨0, 0⟩ else shortest mantissa exponent

theorem value_decimal_zero (exponent : Int) : (decimal 0 exponent).value = 0 := by
  simp [decimal, Decimal.value]

theorem covers_decimal {mantissa : Nat} {exponent : Int} (positive : 0 < mantissa)
    (canonical : IsCanonical mantissa exponent) :
    (roundingInterval mantissa exponent).Covers (decimal mantissa exponent).value := by
  rw [decimal, if_neg positive.ne']
  exact covers_shortest positive canonical

theorem value_decimal_pos {mantissa : Nat} {exponent : Int} (positive : 0 < mantissa)
    (canonical : IsCanonical mantissa exponent) : 0 < (decimal mantissa exponent).value := by
  have covers := covers_decimal positive canonical
  have lowerPositive : 0 < (roundingInterval mantissa exponent).lowerEnd := by
    have reach := lowerReach_le mantissa exponent
    rw [roundingInterval_eq]
    apply mul_pos _ (two_zpow_pos (exponent - 2))
    exact_mod_cast (by omega : 0 < 4 * mantissa - lowerReach mantissa exponent)
  unfold RoundingInterval.Covers at covers
  split at covers
  · exact lowerPositive.trans_le covers.1
  · exact lowerPositive.trans covers.1

/-- The decimal of a finite number determines mantissa and power of two. -/
theorem eq_of_value_decimal_eq {mantissa other : Nat} {exponent otherExponent : Int}
    (canonical : IsCanonical mantissa exponent) (otherCanonical : IsCanonical other otherExponent)
    (same : (decimal mantissa exponent).value = (decimal other otherExponent).value) :
    mantissa = other ∧ exponent = otherExponent := by
  rcases Nat.eq_zero_or_pos mantissa with rfl | positive
  · rcases Nat.eq_zero_or_pos other with rfl | otherPositive
    · have least := canonical.least
      have otherLeast := otherCanonical.least
      have subnormal := canonical.normal
      have otherSubnormal := otherCanonical.normal
      refine ⟨rfl, ?_⟩
      omega
    · rw [value_decimal_zero] at same
      exact absurd same (value_decimal_pos otherPositive otherCanonical).ne
  · rcases Nat.eq_zero_or_pos other with rfl | otherPositive
    · rw [value_decimal_zero] at same
      exact absurd same (value_decimal_pos positive canonical).ne'
    · have covers := covers_decimal positive canonical
      rw [same] at covers
      exact eq_of_covers canonical otherCanonical positive otherPositive covers
        (covers_decimal otherPositive otherCanonical)

end Binary64

end SchemaDdl
