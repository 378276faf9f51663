import ParseBench.Decimal.Binary64
import Mathlib.Algebra.Order.Field.Power
import Mathlib.Data.Rat.Cast.Order
import Mathlib.Tactic.GCongr
import Mathlib.Tactic.Lemma
import Mathlib.Tactic.NormNum
import Mathlib.Tactic.Positivity
import Mathlib.Tactic.Ring
import Mathlib.Tactic.SplitIfs

set_option relaxedAutoImplicit false
set_option autoImplicit false

/-!
# The range of floating-point numbers

A quotient is rounded to a finite number if it is below a bound that lies half a unit beyond the
largest finite number. The quotient is scaled by a power of two so that 53 digits remain before the
point; only in the topmost binade the rounding decides whether the result is in the range.

## Main definitions

* `ParseBench.Decimal.overflow` — the least number that is rounded to infinity.

## Main results

* `ParseBench.Decimal.leadingExponent_bounds` — a quotient between two powers of two.
* `ParseBench.Decimal.nearestBits_lt_iff` — which quotients have the bits of a finite number.
* `ParseBench.Decimal.isFinite_nearestInt_iff` — which integer quotients are rounded to a finite
  number.
-/

namespace ParseBench.Decimal

open Float.Model Float.Model.UnpackedFloat

/-! ## Scaled quotients -/

variable {num den : Nat}

/-- Scaling by a power of two keeps the denominator positive. -/
lemma scaleTwo_den_pos (hden : 0 < den) (num : Nat) (e : Int) : 0 < (scaleTwo num den e).2 := by
  unfold scaleTwo
  split
  · exact Nat.mul_pos hden (Nat.pow_pos Nat.two_pos)
  · exact hden

/-- **Scaling** multiplies a quotient by a power of two. -/
lemma scaleTwo_quotient (num den : Nat) (e : Int) :
    ((scaleTwo num den e).1 : ℚ) / (scaleTwo num den e).2 = num / den * 2 ^ e := by
  unfold scaleTwo
  split
  · next hneg =>
    obtain ⟨k, hk⟩ := Int.eq_ofNat_of_zero_le (show 0 ≤ -e by omega)
    obtain rfl : e = -(k : Int) := by omega
    simp [zpow_neg, div_mul_eq_div_div, ← div_eq_mul_inv]
  · next hpos =>
    obtain ⟨k, rfl⟩ := Int.eq_ofNat_of_zero_le (show 0 ≤ e by omega)
    simp [mul_div_right_comm]

/-- A positive quotient lies between two neighbouring powers of two. -/
lemma leadingExponent_bounds (hnum : 0 < num) (hden : 0 < den) :
    (2 : ℚ) ^ leadingExponent num den ≤ num / den ∧
      (num / den : ℚ) < 2 ^ (leadingExponent num den + 1) := by
  have hd : (0 : ℚ) < den := Nat.cast_pos.2 hden
  have hnumLow : (2 : ℚ) ^ (num.log2 : Int) ≤ num := by
    exact_mod_cast Nat.log2_self_le hnum.ne'
  have hnumHigh : (num : ℚ) < 2 ^ ((num.log2 : Int) + 1) := by
    exact_mod_cast Nat.lt_log2_self
  have hdenLow : (2 : ℚ) ^ (den.log2 : Int) ≤ den := by
    exact_mod_cast Nat.log2_self_le hden.ne'
  have hdenHigh : (den : ℚ) < 2 ^ ((den.log2 : Int) + 1) := by
    exact_mod_cast Nat.lt_log2_self
  set guess : Int := (num.log2 : Int) - den.log2 with hguess
  have hlow : (2 : ℚ) ^ (guess - 1) ≤ num / den := by
    rw [le_div_iff₀ hd]
    calc (2 : ℚ) ^ (guess - 1) * den ≤ 2 ^ (guess - 1) * 2 ^ ((den.log2 : Int) + 1) := by gcongr
      _ = 2 ^ (num.log2 : Int) := by
        rw [← zpow_add₀ two_ne_zero]
        congr 1
        omega
      _ ≤ num := hnumLow
  have hhigh : (num / den : ℚ) < 2 ^ (guess + 1) := by
    rw [div_lt_iff₀ hd]
    calc (num : ℚ) < 2 ^ ((num.log2 : Int) + 1) := hnumHigh
      _ = 2 ^ (guess + 1) * 2 ^ (den.log2 : Int) := by
        rw [← zpow_add₀ two_ne_zero]
        congr 1
        omega
      _ ≤ 2 ^ (guess + 1) * den := by gcongr
  have hle : (scaleTwo num den (-guess)).2 ≤ (scaleTwo num den (-guess)).1 ↔
      (2 : ℚ) ^ guess ≤ num / den := by
    have hb : (0 : ℚ) < (scaleTwo num den (-guess)).2 :=
      Nat.cast_pos.2 (scaleTwo_den_pos hden num _)
    rw [← Nat.cast_le (α := ℚ), ← one_le_div hb, scaleTwo_quotient, zpow_neg,
      ← div_eq_mul_inv, one_le_div (by positivity)]
  rw [leadingExponent]
  simp only [← hguess]
  by_cases h : (scaleTwo num den (-guess)).2 ≤ (scaleTwo num den (-guess)).1
  · rw [if_pos h]
    exact ⟨hle.1 h, hhigh⟩
  · rw [if_neg h, Int.sub_add_cancel]
    exact ⟨hlow, lt_of_not_ge fun h' => h (hle.2 h')⟩

/-! ## Rounded quotients -/

/-- Division rounds to the nearest whole number, and a tie to the even one. -/
lemma roundDiv_eq (num den : Nat) :
    roundDiv num den =
      if 2 * (num % den) < den then num / den
      else if den < 2 * (num % den) then num / den + 1
      else num / den + num / den % 2 := rfl

/-- A quotient below an integer is rounded to that integer at most. -/
lemma roundDiv_le_of_lt {n : Nat} (hlt : num < n * den) : roundDiv num den ≤ n := by
  have hq : num / den < n := Nat.div_lt_of_lt_mul (by rwa [Nat.mul_comm] at hlt)
  rw [roundDiv_eq]
  split_ifs <;> omega

/-- A whole number that is at most the quotient is at most what it is rounded to. -/
lemma le_roundDiv_of_le {n : Nat} (hden : 0 < den) (hle : n * den ≤ num) :
    n ≤ roundDiv num den := by
  have hq : n ≤ num / den := (Nat.le_div_iff_mul_le hden).2 hle
  rw [roundDiv_eq]
  split_ifs <;> omega

/-- **Ties go to even.** A quotient is rounded to an even integer or beyond it from half a unit
below that integer on. -/
lemma le_roundDiv_even_iff {m : Nat} (hm : 0 < m) (hden : 0 < den) :
    2 * m ≤ roundDiv num den ↔ (4 * m - 1) * den ≤ 2 * num := by
  have hdiv : den * (num / den) + num % den = num := Nat.div_add_mod num den
  have hmod : num % den < den := Nat.mod_lt num hden
  rw [roundDiv_eq]
  generalize num / den = q at *
  generalize num % den = r at *
  subst hdiv
  rcases Nat.lt_trichotomy (q + 1) (2 * m) with hq | hq | hq
  · have hgap : den * (2 * q + 3) ≤ den * (4 * m - 1) := Nat.mul_le_mul_left den (by omega)
    have hleft : ¬ (4 * m - 1) * den ≤ 2 * (den * q + r) := by
      rw [Nat.mul_comm]
      rw [Nat.mul_add, Nat.mul_left_comm] at hgap
      omega
    refine iff_of_false ?_ hleft
    split_ifs <;> omega
  · have hbound : (4 * m - 1) * den = 2 * (den * q) + den := by
      rw [show 4 * m - 1 = 2 * q + 1 by omega, Nat.mul_comm, Nat.mul_add, Nat.mul_left_comm,
        Nat.mul_one]
    rw [hbound]
    split_ifs <;> omega
  · have hgap : den * (4 * m - 1) ≤ den * (2 * q) := Nat.mul_le_mul_left den (by omega)
    have hright : (4 * m - 1) * den ≤ 2 * (den * q + r) := by
      rw [Nat.mul_comm]
      rw [Nat.mul_left_comm den 2] at hgap
      omega
    refine iff_of_true ?_ hright
    split_ifs <;> omega

/-! ## The range of finite numbers -/

/-- The middle between a power of two and the number of 53 binary digits below it. -/
def halfBelow (k : Nat) : Nat := Nat.pow 2 (54 + k) - Nat.pow 2 k

/-- The least number that is rounded to infinity, `2 ^ 1024 - 2 ^ 970`: half a unit beyond the
largest finite number. -/
def overflow : Nat := halfBelow 970

/-- Half a unit below a power of two, as a rational number. -/
lemma halfBelow_cast (k : Nat) : (halfBelow k : ℚ) = (2 ^ 54 - 1) * 2 ^ (k : Int) := by
  have hle : Nat.pow 2 k ≤ Nat.pow 2 (54 + k) :=
    Nat.pow_le_pow_right Nat.two_pos (Nat.le_add_left k 54)
  rw [halfBelow, Nat.cast_sub hle]
  simp only [Nat.pow_eq, Nat.cast_pow, Nat.cast_ofNat, zpow_natCast]
  ring

/-- The bound from which on a decimal overflows, as a rational number. -/
lemma overflow_cast : (overflow : ℚ) = (2 ^ 54 - 1) * 2 ^ (970 : Int) := halfBelow_cast 970

/-- The bound is positive. -/
lemma overflow_pos : 0 < overflow := by
  rw [← Nat.cast_pos (α := ℚ), overflow_cast]
  norm_num

/-- The mantissa of a number has 53 digits at most before it is rounded. -/
lemma scaled_lt (hnum : 0 < num) (hden : 0 < den) {q : Int} (hq : leadingExponent num den - 52 ≤ q) :
    (scaleTwo num den (-q)).1 < Nat.pow 2 53 * (scaleTwo num den (-q)).2 := by
  have hb : (0 : ℚ) < (scaleTwo num den (-q)).2 := Nat.cast_pos.2 (scaleTwo_den_pos hden num _)
  have hlt : ((scaleTwo num den (-q)).1 : ℚ) / (scaleTwo num den (-q)).2 < 2 ^ (53 : Int) := by
    rw [scaleTwo_quotient]
    calc (num / den : ℚ) * 2 ^ (-q)
        < 2 ^ (leadingExponent num den + 1) * 2 ^ (-q) := by
          gcongr
          exact (leadingExponent_bounds hnum hden).2
      _ = 2 ^ (leadingExponent num den + 1 + -q) := (zpow_add₀ two_ne_zero _ _).symm
      _ ≤ 2 ^ (53 : Int) := zpow_le_zpow_right₀ one_le_two (by omega)
  rw [div_lt_iff₀ hb] at hlt
  exact_mod_cast hlt

/-- The mantissa of a number that is not too small has 53 digits before it is rounded. -/
lemma le_scaled (hnum : 0 < num) (hden : 0 < den) :
    Nat.pow 2 52 * (scaleTwo num den (-(leadingExponent num den - 52))).2 ≤
      (scaleTwo num den (-(leadingExponent num den - 52))).1 := by
  have hb : (0 : ℚ) < (scaleTwo num den (-(leadingExponent num den - 52))).2 :=
    Nat.cast_pos.2 (scaleTwo_den_pos hden num _)
  have hle : (2 : ℚ) ^ (52 : Int) ≤ ((scaleTwo num den (-(leadingExponent num den - 52))).1 : ℚ) /
      (scaleTwo num den (-(leadingExponent num den - 52))).2 := by
    rw [scaleTwo_quotient]
    calc (2 : ℚ) ^ (52 : Int)
        = 2 ^ leadingExponent num den * 2 ^ (-(leadingExponent num den - 52)) := by
          rw [← zpow_add₀ two_ne_zero]
          congr 1
          omega
      _ ≤ num / den * 2 ^ (-(leadingExponent num den - 52)) := by
          gcongr
          exact (leadingExponent_bounds hnum hden).1
  rw [le_div_iff₀ hb] at hle
  exact_mod_cast hle

/-- In the topmost binade a number is rounded out of range from the bound on. -/
lemma le_scaled_top_iff (hden : 0 < den) :
    (Nat.pow 2 54 - 1) * (scaleTwo num den (-971)).2 ≤ 2 * (scaleTwo num den (-971)).1 ↔
      overflow * den ≤ num := by
  have hb : (0 : ℚ) < (scaleTwo num den (-971)).2 := Nat.cast_pos.2 (scaleTwo_den_pos hden num _)
  have hd : (0 : ℚ) < den := Nat.cast_pos.2 hden
  have hhalf : (2 : ℚ) * 2 ^ (-971 : Int) = (2 ^ (970 : Int))⁻¹ := by
    rw [← zpow_one_add₀ two_ne_zero, ← zpow_neg]
    rfl
  calc (Nat.pow 2 54 - 1) * (scaleTwo num den (-971)).2 ≤ 2 * (scaleTwo num den (-971)).1
      ↔ ((2 : ℚ) ^ 54 - 1) * (scaleTwo num den (-971)).2 ≤ 2 * (scaleTwo num den (-971)).1 := by
        rw [← Nat.cast_le (α := ℚ), Nat.cast_mul, Nat.cast_mul, Nat.cast_sub (by decide)]
        simp only [Nat.pow_eq, Nat.cast_pow, Nat.cast_ofNat, Nat.cast_one]
    _ ↔ (2 : ℚ) ^ 54 - 1 ≤ 2 * 2 ^ (-971 : Int) * (num / den) := by
        rw [← le_div_iff₀ hb, mul_div_assoc, scaleTwo_quotient, mul_comm (num / den : ℚ), mul_assoc]
    _ ↔ overflow ≤ (num / den : ℚ) := by
        rw [hhalf, overflow_cast, inv_mul_eq_div, le_div_iff₀ (by positivity)]
    _ ↔ overflow * den ≤ num := by
        rw [le_div_iff₀ hd]
        exact_mod_cast Iff.rfl

/-- A number of the lower binades is below the bound. -/
lemma lt_overflow_of_leadingExponent (hnum : 0 < num) (hden : 0 < den)
    (hlead : leadingExponent num den ≤ 1022) : num < overflow * den := by
  have hd : (0 : ℚ) < den := Nat.cast_pos.2 hden
  have hlt : (num / den : ℚ) < overflow :=
    calc (num / den : ℚ) < 2 ^ (leadingExponent num den + 1) :=
          (leadingExponent_bounds hnum hden).2
      _ ≤ 2 ^ (53 + 970 : Int) := zpow_le_zpow_right₀ one_le_two (by omega)
      _ = 2 ^ (53 : Int) * 2 ^ (970 : Int) := zpow_add₀ two_ne_zero _ _
      _ ≤ overflow := by
          rw [overflow_cast]
          gcongr
          norm_num
  rw [div_lt_iff₀ hd] at hlt
  exact_mod_cast hlt

/-- A number beyond the binades is not below the bound. -/
lemma overflow_le_of_leadingExponent (hnum : 0 < num) (hden : 0 < den)
    (hlead : 1024 ≤ leadingExponent num den) : overflow * den ≤ num := by
  have hd : (0 : ℚ) < den := Nat.cast_pos.2 hden
  have hle : (overflow : ℚ) ≤ num / den :=
    calc (overflow : ℚ) ≤ 2 ^ (54 : Int) * 2 ^ (970 : Int) := by
          rw [overflow_cast]
          gcongr
          norm_num
      _ = 2 ^ (54 + 970 : Int) := (zpow_add₀ two_ne_zero _ _).symm
      _ ≤ 2 ^ leadingExponent num den := zpow_le_zpow_right₀ one_le_two (by omega)
      _ ≤ num / den := (leadingExponent_bounds hnum hden).1
  rw [le_div_iff₀ hd] at hle
  exact_mod_cast hle

/-- **The bits of a rounded quotient** are those of a finite number if the quotient is below the
bound. -/
lemma nearestBits_lt_iff (hden : 0 < den) :
    nearestBits num den < 2047 * Nat.pow 2 52 ↔ num < overflow * den := by
  rcases Nat.eq_zero_or_pos num with rfl | hnum
  · have hbits : nearestBits 0 den = 0 := rfl
    rw [hbits]
    exact iff_of_true (by decide) (Nat.mul_pos overflow_pos hden)
  have hnonzero : (num == 0) = false := beq_eq_false_iff_ne.2 hnum.ne'
  have hround := roundDiv_le_of_lt (scaled_lt hnum hden
    (Int.le_max_left (leadingExponent num den - 52) (-1074)))
  have hbig := le_roundDiv_of_le (scaleTwo_den_pos hden num _) (le_scaled hnum hden)
  simp only [nearestBits, hnonzero, Bool.false_eq_true, if_false, min_lt_iff, lt_irrefl, or_false]
  have hunit : Nat.pow 2 52 = 4503599627370496 := rfl
  have htwice : Nat.pow 2 53 = 2 * 4503599627370496 := rfl
  rw [hunit] at hbig ⊢
  rw [htwice] at hround
  rcases lt_trichotomy (leadingExponent num den) 1023 with hlead | hlead | hlead
  · refine iff_of_true ?_ (lt_overflow_of_leadingExponent hnum hden (by omega))
    omega
  · have hq : max (leadingExponent num den - 52) (-1074) = 971 := by omega
    have htop : 2 * Nat.pow 2 52 ≤ roundDiv (scaleTwo num den (-971)).1
        (scaleTwo num den (-971)).2 ↔ (4 * Nat.pow 2 52 - 1) * (scaleTwo num den (-971)).2 ≤
          2 * (scaleTwo num den (-971)).1 :=
      le_roundDiv_even_iff (by decide) (scaleTwo_den_pos hden num (-971))
    rw [hq] at hround ⊢
    rw [hunit] at htop
    rw [← not_le, ← not_le, ← le_scaled_top_iff hden, not_iff_not]
    refine Iff.trans ?_ htop
    omega
  · refine iff_of_false ?_ (overflow_le_of_leadingExponent hnum hden (by omega)).not_gt
    have hq : max (leadingExponent num den - 52) (-1074) = leadingExponent num den - 52 := by
      omega
    rw [hq]
    omega

/-! ## Finite numbers and their bits -/

/-- Whether the exponent of a packed number is that of the infinities and the NaN. -/
def Topmost (b : BitVec Format.binary64.numBits) : Prop :=
  unpackExponent b = -BitVec.ofNat Format.binary64.exponentBits 1

/-- The exponent field is all ones exactly if it reads as the largest number that it holds. -/
lemma topmost_iff (b : BitVec Format.binary64.numBits) :
    Topmost b ↔ b.toNat / Nat.pow 2 52 % Nat.pow 2 11 = 2047 := by
  unfold Topmost unpackExponent
  rw [← BitVec.toNat_inj]
  simp [Nat.shiftRight_eq_div_pow]

/-- A float is finite exactly if its exponent field is not all ones. -/
lemma isFinite_iff (x : Float) : isFinite x = true ↔ ¬ Topmost x.toBits.toBitVec := by
  rw [topmost_iff]
  unfold isFinite Binary64.ofFloat
  change _ ↔ ¬ x.toBits.toNat / Nat.pow 2 52 % Nat.pow 2 11 = 2047
  by_cases htop : x.toBits.toNat / Nat.pow 2 52 % Nat.pow 2 11 = 2047
  · simp only [htop]
    split_ifs <;> simp_all
  · simp only [htop]
    split_ifs <;> simp_all

/-- Packed components have the topmost exponent exactly if the exponent that is packed is. -/
lemma topmost_packComponents (s : Sign) (e : BitVec Format.binary64.exponentBits)
    (m : BitVec Format.binary64.mantissaBitsWithoutImplicit) :
    Topmost (packComponents Format.binary64 s e m) ↔
      e = -BitVec.ofNat Format.binary64.exponentBits 1 := by
  unfold Topmost
  rw [unpackExponent_packComponents]

/-- How a finite number is packed: beyond the range as an infinity, else by its bits. -/
lemma pack_finite (s : Sign) {m : Nat} {e : Int} (hm : 0 < m) :
    pack Format.binary64 (.finite s m e hm) =
      if 2 ^ Format.binary64.exponentBits ≤ (e + Format.binary64.exponentBias +
          Format.binary64.mantissaBitsWithoutImplicit).toNat + 1 then
        packedInfinity Format.binary64 s
      else if m.log2 + 1 = Format.binary64.mantissaBits then
        packComponents Format.binary64 s (BitVec.ofNat _ (e + Format.binary64.exponentBias +
          Format.binary64.mantissaBitsWithoutImplicit).toNat) (BitVec.ofNat _ m)
      else packComponents Format.binary64 s (BitVec.ofNat _ 0) (BitVec.ofNat _ m) :=
  rfl

/-- The sign of a number does not decide whether it is finite. -/
lemma topmost_pack_neg (u : UnpackedFloat) :
    Topmost (pack Format.binary64 u.neg) ↔ Topmost (pack Format.binary64 u) := by
  cases u with
  | notANumber => rfl
  | infinity s => exact (topmost_packComponents _ _ _).trans (topmost_packComponents _ _ _).symm
  | zero s => exact (topmost_packComponents _ _ _).trans (topmost_packComponents _ _ _).symm
  | finite s m e hm =>
    change Topmost (pack Format.binary64 (.finite _ m e hm)) ↔ _
    rw [pack_finite, pack_finite]
    split_ifs <;>
    exact (topmost_packComponents _ _ _).trans (topmost_packComponents _ _ _).symm

/-- A finite number is packed as one if its exponent is in the range. -/
lemma not_topmost_pack_finite (s : Sign) {m : Nat} {e : Int} (hm : 0 < m) (he : e < 972) :
    ¬ Topmost (pack Format.binary64 (.finite s m e hm)) := by
  have hrange : ¬ 2 ^ Format.binary64.exponentBits ≤
      (e + Format.binary64.exponentBias + Format.binary64.mantissaBitsWithoutImplicit).toNat + 1 := by
    change ¬ 2048 ≤ (e + 1023 + 52).toNat + 1
    omega
  rw [pack_finite, if_neg hrange]
  split_ifs
  · rw [topmost_packComponents, ← BitVec.toNat_inj, BitVec.toNat_ofNat]
    change ¬ (e + 1023 + 52).toNat % 2048 = 2047
    omega
  · rw [topmost_packComponents]
    decide

/-- What the bits of the infinities and the NaN are unpacked to. -/
lemma unpack_of_topmost {b : BitVec Format.binary64.numBits} (h : Topmost b) :
    unpack Format.binary64 b = .notANumber ∨ ∃ s, unpack Format.binary64 b = .infinity s := by
  by_cases hnought : unpackMantissa b = BitVec.ofNat _ 0
  · exact .inr ⟨_, (if_pos h).trans (if_pos hnought)⟩
  · exact .inl ((if_pos h).trans (if_neg hnought))

/-- What other bits are unpacked to. -/
lemma unpack_of_not_topmost {b : BitVec Format.binary64.numBits} (h : ¬ Topmost b) :
    (∃ s, unpack Format.binary64 b = .zero s) ∨
      ∃ s m e hm, unpack Format.binary64 b = .finite s m e hm ∧ e < 972 := by
  by_cases hlow : unpackExponent b = BitVec.ofNat _ 0
  · by_cases hnought : unpackMantissa b = BitVec.ofNat _ 0
    · exact .inl ⟨_, (if_neg h).trans ((if_pos hlow).trans (dif_pos hnought))⟩
    · refine .inr ⟨_, _, _, _, (if_neg h).trans ((if_pos hlow).trans (dif_neg hnought)), ?_⟩
      rw [hlow]
      decide
  · refine .inr ⟨_, _, _, _, (if_neg h).trans (if_neg hlow), ?_⟩
    have hlt : (unpackExponent b).toNat < 2048 := (unpackExponent b).isLt
    have hne : (unpackExponent b).toNat ≠ 2047 := fun heq => h (BitVec.toNat_inj.1 heq)
    change ((unpackExponent b).toNat : Int) - (1023 + 52) < 972
    omega

/-- Unpacking and packing keep finite numbers finite. -/
lemma topmost_pack_unpack (b : BitVec Format.binary64.numBits) :
    Topmost (pack Format.binary64 (unpack Format.binary64 b)) ↔ Topmost b := by
  by_cases htop : Topmost b
  · refine iff_of_true ?_ htop
    rcases unpack_of_topmost htop with h | ⟨s, h⟩
    · rw [h]
      exact (topmost_packComponents _ _ _).2 rfl
    · rw [h]
      exact (topmost_packComponents _ _ _).2 rfl
  · refine iff_of_false ?_ htop
    rcases unpack_of_not_topmost htop with ⟨s, h⟩ | ⟨s, m, e, hm, h, he⟩
    · rw [h]
      exact fun hzero => absurd ((topmost_packComponents _ _ _).1 hzero) (by decide)
    · rw [h]
      exact not_topmost_pack_finite s hm he

/-- Bits give a finite float exactly if their exponent field is not all ones. -/
lemma isFinite_ofBits (n : UInt64) : isFinite (Float.ofBits n) = true ↔ ¬ Topmost n.toBitVec := by
  rw [isFinite_iff]
  exact not_congr (topmost_pack_unpack n.toBitVec)

/-- Negation keeps a float finite. -/
lemma isFinite_neg (x : Float) : isFinite (-x) = true ↔ isFinite x = true := by
  rw [isFinite_iff, isFinite_iff]
  exact not_congr ((topmost_pack_neg _).trans (topmost_pack_unpack _))

/-- A rounded quotient is finite if its bits are those of a finite number. -/
lemma isFinite_nearest (negative : Bool) (num den : Nat) :
    isFinite (nearest negative num den) = true ↔ nearestBits num den < 2047 * Nat.pow 2 52 := by
  have hbound : nearestBits num den ≤ 2047 * Nat.pow 2 52 := by
    unfold nearestBits
    split_ifs
    · exact Nat.zero_le _
    · exact Nat.min_le_right _ _
  have hsign : isFinite (nearest negative num den) = true ↔
      isFinite (Float.ofBits (nearestBits num den).toUInt64) = true := by
    unfold nearest
    split_ifs
    · exact isFinite_neg _
    · rfl
  have hunit : Nat.pow 2 52 = 4503599627370496 := rfl
  rw [hsign, isFinite_ofBits, topmost_iff]
  change ¬ (nearestBits num den % 2 ^ 64) / Nat.pow 2 52 % 2048 = 2047 ↔ _
  rw [hunit] at hbound ⊢
  omega

/-- **The range of integer quotients** that are rounded to a finite number. -/
lemma isFinite_nearestInt_iff (n : Int) (hden : 0 < den) :
    isFinite (nearestInt n den) = true ↔ n.natAbs < overflow * den :=
  (isFinite_nearest _ _ _).trans (nearestBits_lt_iff hden)

end ParseBench.Decimal
