import Mathlib.Algebra.Order.Field.Power
import Mathlib.Algebra.Order.Field.Rat
import Mathlib.Data.Nat.Cast.Order.Field
import Mathlib.Tactic.GCongr
import Mathlib.Tactic.Linarith
import Mathlib.Tactic.NormNum
import Mathlib.Tactic.Positivity
import Mathlib.Tactic.Ring
import Dbml.Decimal.Binary64

/-!
# The range of floating-point numbers

A decimal is read as the nearest number of 64 bits, unless it lies beyond the largest one,
`(2 ^ 53 - 1) * 2 ^ 971`, by half a place or more.  Half a place is what rounding takes back to the
largest number, or to the one that would follow it: the latter, whose significand is even, is too
large.

* `exponentFor_spec`: with the exponent that is chosen for a quotient its significand has 53 bits,
  or fewer if that exponent is the smallest;
* `le_roundToEven_iff`: what is rounded up to an even number;
* `ofRatio?_isSome_iff`, `ofDecimal?_isSome_iff`: quotients and decimals are read just if they are
  below `overflow`.
-/

namespace Dbml

/-- The absolute value of a decimal. -/
def Decimal.magnitude (d : Decimal) : ℚ :=
  d.digits * 10 ^ d.exponent

namespace Binary64

/-- The numbers from here on are too large to be rounded to one of the format. -/
def overflow : ℚ := (2 ^ 54 - 1) * 2 ^ (970 : ℤ)

variable {num den : Nat}

/-! ### Scaled quotients -/

theorem unscaled_den_pos {base : Nat} (hbase : 0 < base) (hden : 0 < den) (num : Nat)
    (exponent : Int) :
    0 < (unscaled base num den exponent).2 := by
  unfold unscaled
  split
  · exact Nat.mul_pos hden (Nat.pow_pos hbase)
  · exact hden

theorem unscaled_eq {base : Nat} (hbase : 0 < base) (num den : Nat) (exponent : Int) :
    ((unscaled base num den exponent).1 : ℚ) / (unscaled base num den exponent).2 =
      num / den / (base : ℚ) ^ exponent := by
  have hbase : (base : ℚ) ≠ 0 := by exact_mod_cast hbase.ne'
  unfold unscaled
  split
  · rename_i hexponent
    obtain ⟨n, rfl⟩ := Int.eq_ofNat_of_zero_le hexponent
    simp [div_div]
  · rename_i hexponent
    obtain ⟨n, rfl⟩ : ∃ n : Nat, exponent = -n := ⟨(-exponent).toNat, by omega⟩
    simp [div_eq_mul_inv, mul_right_comm]

theorem mul_le_iff_le_div (hden : 0 < den) (n : Nat) : den * n ≤ num ↔ (n : ℚ) ≤ num / den := by
  have hden : (0 : ℚ) < den := by exact_mod_cast hden
  rw [le_div_iff₀ hden, mul_comm]
  exact_mod_cast Iff.rfl

theorem log2_bounds (hnum : num ≠ 0) (hden : den ≠ 0) :
    (2 : ℚ) ^ ((num.log2 : ℤ) - den.log2 - 1) < num / den ∧
      (num : ℚ) / den < 2 ^ ((num.log2 : ℤ) - den.log2 + 1) := by
  have htwo : (2 : ℚ) ≠ 0 := by norm_num
  have hpos : (0 : ℚ) < den := by exact_mod_cast Nat.pos_of_ne_zero hden
  have hnumLow : (2 : ℚ) ^ (num.log2 : ℤ) ≤ num := by exact_mod_cast Nat.log2_self_le hnum
  have hnumHigh : (num : ℚ) < 2 ^ ((num.log2 : ℤ) + 1) := by exact_mod_cast Nat.lt_log2_self
  have hdenLow : (2 : ℚ) ^ (den.log2 : ℤ) ≤ den := by exact_mod_cast Nat.log2_self_le hden
  have hdenHigh : (den : ℚ) < 2 ^ ((den.log2 : ℤ) + 1) := by exact_mod_cast Nat.lt_log2_self
  constructor
  · rw [lt_div_iff₀ hpos]
    calc (2 : ℚ) ^ ((num.log2 : ℤ) - den.log2 - 1) * den
        < 2 ^ ((num.log2 : ℤ) - den.log2 - 1) * 2 ^ ((den.log2 : ℤ) + 1) := by gcongr
      _ = 2 ^ (num.log2 : ℤ) := by
          rw [← zpow_add₀ htwo]
          congr 1
          ring
      _ ≤ num := hnumLow
  · rw [div_lt_iff₀ hpos]
    calc (num : ℚ) < 2 ^ ((num.log2 : ℤ) + 1) := hnumHigh
      _ = 2 ^ ((num.log2 : ℤ) - den.log2 + 1) * 2 ^ (den.log2 : ℤ) := by
          rw [← zpow_add₀ htwo]
          congr 1
          ring
      _ ≤ 2 ^ ((num.log2 : ℤ) - den.log2 + 1) * den := by gcongr

/-- With its exponent a quotient has a significand below `2 ^ 53`, and one from `2 ^ 52` on unless
the exponent is the smallest. -/
theorem exponentFor_spec (hnum : num ≠ 0) (hden : den ≠ 0) :
    (num : ℚ) / den < 2 ^ (53 + exponentFor num den) ∧
      (minExponent < exponentFor num den → (2 : ℚ) ^ (52 + exponentFor num den) ≤ num / den) := by
  obtain ⟨hlow, hhigh⟩ := log2_bounds hnum hden
  -- before the smallest exponent is taken into account
  have hfree : ∃ free : ℤ, exponentFor num den = max minExponent free ∧
      (2 : ℚ) ^ (52 + free) ≤ num / den ∧ (num : ℚ) / den < 2 ^ (53 + free) := by
    generalize hguess : (num.log2 : ℤ) - den.log2 - 53 = guess
    have hscaledPos := unscaled_den_pos (by decide : 0 < 2) (Nat.pos_of_ne_zero hden) num guess
    have hpow : (0 : ℚ) < 2 ^ guess := zpow_pos (by norm_num) guess
    have hdouble : (unscaled 2 num den guess).2 * significandLimit ≤ (unscaled 2 num den guess).1 ↔
        (2 : ℚ) ^ (53 + guess) ≤ num / den := by
      rw [mul_le_iff_le_div hscaledPos, unscaled_eq (by decide),
        le_div_iff₀ (by exact_mod_cast hpow), zpow_add₀ (by norm_num)]
      rfl
    unfold exponentFor
    simp only [hguess]
    split
    · rename_i hlarge
      refine ⟨guess + 1, rfl, ?_, ?_⟩
      · rw [show 52 + (guess + 1) = 53 + guess by ring]
        exact hdouble.mp hlarge
      · rw [show 53 + (guess + 1) = (num.log2 : ℤ) - den.log2 + 1 by omega]
        exact hhigh
    · rename_i hsmall
      refine ⟨guess, rfl, ?_, ?_⟩
      · rw [show 52 + guess = (num.log2 : ℤ) - den.log2 - 1 by omega]
        exact hlow.le
      · exact not_le.mp fun hle => hsmall (hdouble.mpr hle)
  obtain ⟨free, heq, hfreeLow, hfreeHigh⟩ := hfree
  rw [heq]
  constructor
  · calc (num : ℚ) / den < 2 ^ (53 + free) := hfreeHigh
      _ ≤ 2 ^ (53 + max minExponent free) := by
          apply zpow_le_zpow_right₀ (by norm_num)
          have hmax := le_max_right minExponent free
          omega
  · intro habove
    rw [max_eq_right (by omega)]
    exact hfreeLow

/-! ### Rounding -/

/-- What is rounded to an even number or beyond lies at most half below it. -/
theorem le_roundToEven_iff (hden : 0 < den) {even : Nat} (heven : even % 2 = 0) :
    even ≤ roundToEven num den ↔ (2 * even - 1) * den ≤ 2 * num := by
  have hsplit : den * (num / den) + num % den = num := Nat.div_add_mod num den
  have hrest : num % den < den := Nat.mod_lt num hden
  unfold roundToEven
  generalize num / den = quotient at *
  generalize num % den = rest at *
  dsimp only
  rcases Nat.lt_or_ge quotient even with hbelow | habove
  · obtain ⟨more, rfl⟩ : ∃ more, even = quotient + 1 + more := ⟨even - (quotient + 1), by omega⟩
    have hexpand : (2 * (quotient + 1 + more) - 1) * den =
        2 * (den * quotient) + den + 2 * (more * den) := by
      rw [show 2 * (quotient + 1 + more) - 1 = 2 * quotient + 1 + 2 * more by omega]
      ring
    rw [hexpand]
    rcases Nat.eq_zero_or_pos more with rfl | hmore
    -- the next number is the even one, and the tie goes to it
    · split
      · omega
      · split <;> omega
    · have hfar : den ≤ more * den := Nat.le_mul_of_pos_left den hmore
      split
      · omega
      · split <;> omega
  · have hle : (2 * even - 1) * den ≤ 2 * quotient * den := Nat.mul_le_mul_right den (by omega)
    have hcomm : 2 * quotient * den = 2 * (den * quotient) := by ring
    refine iff_of_true ?_ (by omega)
    split
    · omega
    · split <;> omega

theorem roundToEven_le {bound : Nat} (h : num < den * bound) : roundToEven num den ≤ bound := by
  have hquotient : num / den < bound := Nat.div_lt_of_lt_mul h
  unfold roundToEven
  dsimp only
  split
  · omega
  · split <;> omega

/-! ### Overflow -/

/-- The significand of a quotient with its exponent. -/
def roundedSignificand (num den : Nat) : Nat :=
  roundToEven (unscaled 2 num den (exponentFor num den)).1
    (unscaled 2 num den (exponentFor num den)).2

/-- A significand that is rounded up to one of 54 bits has the next exponent. -/
theorem ofRatio?_isSome_iff_exponent (negative : Bool) (hnum : num ≠ 0) :
    (ofRatio? negative num den).isSome = true ↔
      exponentFor num den + (if roundedSignificand num den = significandLimit then 1 else 0) ≤
        maxExponent := by
  have hread : ∀ (exponent : Int) (x : Binary64),
      (if maxExponent < exponent then none else some x).isSome = true ↔ exponent ≤ maxExponent := by
    intro exponent x
    by_cases hlarge : maxExponent < exponent
    · rw [if_pos hlarge]
      exact iff_of_false (by simp) (not_le.mpr hlarge)
    · rw [if_neg hlarge]
      exact iff_of_true rfl (not_lt.mp hlarge)
  rw [ofRatio?, if_neg hnum, roundedSignificand]
  -- the bound is too large to be computed with, and so has to be a variable
  obtain ⟨limit, hlimit⟩ : ∃ limit, significandLimit = limit := ⟨_, rfl⟩
  obtain ⟨exponent, hexponent⟩ : ∃ exponent, exponentFor num den = exponent := ⟨_, rfl⟩
  rw [hlimit, hexponent]
  dsimp only
  generalize roundToEven _ _ = rounded
  by_cases hrounded : rounded = limit
  · rw [if_pos hrounded, if_pos hrounded]
    exact hread _ _
  · rw [if_neg hrounded, if_neg hrounded, Int.add_zero]
    exact hread _ _

theorem cast_significandLimit : ((significandLimit : Nat) : ℚ) = 2 ^ 53 := by
  show (((2 ^ 53 : Nat)) : ℚ) = 2 ^ 53
  exact Nat.cast_pow 2 53

/-- With the largest exponent a quotient is rounded up to a significand of 54 bits just if it is too
large. -/
theorem roundedSignificand_eq_limit_iff (hnum : num ≠ 0) (hden : den ≠ 0)
    (hexponent : exponentFor num den = maxExponent) :
    roundedSignificand num den = significandLimit ↔ overflow ≤ num / den := by
  have hbelow := (exponentFor_spec hnum hden).1
  have hscaledPos := unscaled_den_pos (by decide : 0 < 2) (Nat.pos_of_ne_zero hden) num
    (exponentFor num den)
  have hscaled := unscaled_eq (by decide : 0 < 2) num den (exponentFor num den)
  have hpow : (0 : ℚ) < 2 ^ (970 : ℤ) := zpow_pos (by norm_num) 970
  have hmax : (2 : ℚ) ^ maxExponent = 2 * 2 ^ (970 : ℤ) := by
    rw [maxExponent, show (971 : ℤ) = 1 + 970 by rfl, zpow_add₀ (by norm_num), zpow_one]
  unfold roundedSignificand
  rw [hexponent] at hbelow hscaledPos hscaled ⊢
  rw [zpow_add₀ (by norm_num), hmax] at hbelow
  rw [Nat.cast_ofNat, hmax] at hscaled
  generalize (unscaled 2 num den maxExponent).1 = scaledNum at *
  generalize (unscaled 2 num den maxExponent).2 = scaledDen at *
  have hlimit : scaledNum < scaledDen * significandLimit := by
    rw [← not_le, mul_le_iff_le_div hscaledPos, hscaled, cast_significandLimit, not_le,
      div_lt_iff₀ (by positivity)]
    exact_mod_cast hbelow
  have hround : roundToEven scaledNum scaledDen = significandLimit ↔
      significandLimit ≤ roundToEven scaledNum scaledDen := by
    have hle := roundToEven_le hlimit
    omega
  have heven : significandLimit % 2 = 0 := by decide
  have hodd : ((2 * significandLimit - 1 : Nat) : ℚ) = 2 ^ 54 - 1 := by
    rw [Nat.cast_sub (by decide), Nat.cast_mul, cast_significandLimit]
    norm_num
  have htwice : ((2 * scaledNum : Nat) : ℚ) / scaledDen = num / den / 2 ^ (970 : ℤ) := by
    rw [Nat.cast_mul, mul_div_assoc, hscaled, ← mul_div_assoc, Nat.cast_ofNat,
      mul_div_mul_left _ _ (by norm_num)]
  rw [hround, le_roundToEven_iff hscaledPos heven, mul_comm, mul_le_iff_le_div hscaledPos, hodd,
    htwice, le_div_iff₀ hpow, overflow]

theorem overflow_bounds : (2 : ℚ) ^ (1023 : ℤ) ≤ overflow ∧ overflow ≤ 2 ^ (1024 : ℤ) := by
  have hpow : (0 : ℚ) < 2 ^ (970 : ℤ) := zpow_pos (by norm_num) 970
  have hlow : (2 : ℚ) ^ (1023 : ℤ) = 2 ^ 53 * 2 ^ (970 : ℤ) := by
    rw [← zpow_natCast, ← zpow_add₀ (by norm_num)]
    rfl
  have hhigh : (2 : ℚ) ^ (1024 : ℤ) = 2 ^ 54 * 2 ^ (970 : ℤ) := by
    rw [← zpow_natCast, ← zpow_add₀ (by norm_num)]
    rfl
  rw [hlow, hhigh, overflow]
  constructor
  · gcongr
    norm_num
  · gcongr
    norm_num

theorem ofRatio?_isSome_iff (negative : Bool) (hden : den ≠ 0) :
    (ofRatio? negative num den).isSome = true ↔ (num : ℚ) / den < overflow := by
  obtain ⟨hlow, hhigh⟩ := overflow_bounds
  by_cases hnum : num = 0
  · have hpos : (0 : ℚ) < overflow := lt_of_lt_of_le (zpow_pos (by norm_num) 1023) hlow
    simp [ofRatio?, hnum, hpos]
  · obtain ⟨hbelow, habove⟩ := exponentFor_spec hnum hden
    rw [ofRatio?_isSome_iff_exponent negative hnum]
    rcases lt_trichotomy (exponentFor num den) maxExponent with hless | hequal | hmore
    · refine iff_of_true (by split <;> omega) ?_
      calc (num : ℚ) / den < 2 ^ (53 + exponentFor num den) := hbelow
        _ ≤ 2 ^ (1023 : ℤ) := by
            apply zpow_le_zpow_right₀ (by norm_num)
            rw [maxExponent] at hless
            omega
        _ ≤ overflow := hlow
    · rw [← not_le, ← roundedSignificand_eq_limit_iff hnum hden hequal, hequal]
      split_ifs with hlimit <;> simp [hlimit]
    · refine iff_of_false (by split <;> omega) (not_lt.mpr ?_)
      calc overflow ≤ 2 ^ (1024 : ℤ) := hhigh
        _ ≤ 2 ^ (52 + exponentFor num den) := by
            apply zpow_le_zpow_right₀ (by norm_num)
            rw [maxExponent] at hmore
            omega
        _ ≤ num / den := habove (by rw [minExponent]; rw [maxExponent] at hmore; omega)

/-! ### Decimals -/

theorem toDigits_bounds {n : Nat} (hn : n ≠ 0) :
    (10 : ℚ) ^ (((Decimal.toDigits n).length : ℤ) - 1) ≤ n ∧
      (n : ℚ) < 10 ^ ((Decimal.toDigits n).length : ℤ) := by
  have hlength : 0 < (Decimal.toDigits n).length := Nat.length_toDigits_pos
  obtain ⟨fewer, hfewer⟩ : ∃ fewer, (Decimal.toDigits n).length = fewer + 1 :=
    ⟨(Decimal.toDigits n).length - 1, by omega⟩
  have hbelow : n < 10 ^ (fewer + 1) :=
    (Nat.length_toDigits_le_iff (by decide) (by omega)).mp hfewer.le
  have habove : 10 ^ fewer ≤ n := by
    rcases Nat.eq_zero_or_pos fewer with rfl | hpos
    · exact Nat.one_le_iff_ne_zero.mpr hn
    · by_contra hless
      have hshort := (Nat.length_toDigits_le_iff (by decide) hpos).mpr (Nat.lt_of_not_le hless)
      rw [Decimal.toDigits] at hfewer
      omega
  rw [hfewer, Nat.cast_add, Nat.cast_one, add_sub_cancel_right]
  constructor
  · exact_mod_cast habove
  · exact_mod_cast hbelow

theorem magnitude_bounds {d : Decimal} (hdigits : d.digits ≠ 0) :
    (10 : ℚ) ^ (((Decimal.toDigits d.digits).length : ℤ) + d.exponent - 1) ≤ d.magnitude ∧
      d.magnitude < 10 ^ (((Decimal.toDigits d.digits).length : ℤ) + d.exponent) := by
  obtain ⟨hlow, hhigh⟩ := toDigits_bounds hdigits
  have hten : (10 : ℚ) ≠ 0 := by norm_num
  rw [Decimal.magnitude, add_sub_right_comm, zpow_add₀ hten, zpow_add₀ hten]
  constructor
  · gcongr
  · gcongr

theorem overflow_le : overflow ≤ 10 ^ (310 : ℤ) := by
  have hpow : (2 : ℚ) ^ 93 ≤ 10 ^ 28 := by norm_num
  calc overflow ≤ 2 ^ (1024 : ℤ) := overflow_bounds.2
    _ = 2 * ((2 : ℚ) ^ 93) ^ 11 := by
        rw [← pow_mul, ← pow_succ']
        rfl
    _ ≤ 10 ^ 2 * ((10 : ℚ) ^ 28) ^ 11 := by
        gcongr
        norm_num
    _ = 10 ^ (310 : ℤ) := by
        rw [← pow_mul, ← pow_add]
        rfl

/-- A decimal is read just if it is not too large: by the count of its digits none is refused that
is not too large, and none is taken for zero that is. -/
theorem ofDecimal?_isSome_iff (d : Decimal) :
    (ofDecimal? d).isSome = true ↔ d.magnitude < overflow := by
  have hone : (1 : ℚ) ≤ overflow := by
    calc (1 : ℚ) ≤ 2 ^ (1023 : ℤ) := one_le_zpow₀ (by norm_num) (by norm_num)
      _ ≤ overflow := overflow_bounds.1
  by_cases hzero : d.digits = 0
  · refine iff_of_true (by simp [ofDecimal?, hzero]) ?_
    rw [Decimal.magnitude, hzero, Nat.cast_zero, zero_mul]
    exact lt_of_lt_of_le zero_lt_one hone
  · obtain ⟨hlow, hhigh⟩ := magnitude_bounds hzero
    unfold ofDecimal?
    dsimp only
    split
    · rename_i hsmall
      have hsmall : ((Decimal.toDigits d.digits).length : ℤ) + d.exponent < -330 := by
        simpa [hzero] using hsmall
      refine iff_of_true rfl ?_
      calc d.magnitude < 10 ^ (((Decimal.toDigits d.digits).length : ℤ) + d.exponent) := hhigh
        _ ≤ 1 := zpow_le_one_of_nonpos₀ (by norm_num) (by omega)
        _ ≤ overflow := hone
    · split
      · rename_i hlarge
        refine iff_of_false (by simp) (not_lt.mpr ?_)
        calc overflow ≤ 10 ^ (310 : ℤ) := overflow_le
          _ ≤ 10 ^ (((Decimal.toDigits d.digits).length : ℤ) + d.exponent - 1) :=
              zpow_le_zpow_right₀ (by norm_num) (by omega)
          _ ≤ d.magnitude := hlow
      · have hden := unscaled_den_pos (by decide : 0 < 10) Nat.one_pos d.digits (-d.exponent)
        have hvalue := unscaled_eq (by decide : 0 < 10) d.digits 1 (-d.exponent)
        rw [Nat.cast_one, div_one, zpow_neg, div_inv_eq_mul, Nat.cast_ofNat] at hvalue
        rw [ofRatio?_isSome_iff d.negative hden.ne', hvalue, Decimal.magnitude]

end Binary64

end Dbml
