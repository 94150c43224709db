import Mathlib.Data.Int.Log
import Mathlib.Data.Rat.Floor
import Mathlib.Tactic.SplitIfs
import RecordFilter.Json
import RecordFilter.Number.Decimal
import RecordFilter.Proofs.Number.Digits

/-!
# Exact values of numbers

The rational number that a decimal or a finite double is. The order of decimals is the order of
these numbers (`Decimal.cmp_eq_compare`), and the decimal of a double is the very number that the
double is (`Decimal.map_value_ofDouble?`).
-/

namespace RecordFilter

/-- The number that a decimal is. -/
def Decimal.value (d : Decimal) : ℚ :=
  d.unscaled * 10 ^ (-d.scale)

/-- The significand of a double, with its sign. -/
def Double.signed (x : Double) : Int :=
  if x.negative then -(x.significand : Int) else x.significand

/-- The number that a double is; infinities and what is no number are none. -/
def Double.value? (x : Double) : Option ℚ :=
  if x.isFinite then some (x.signed * 2 ^ x.exponent) else none

/-- The number that a number of JSON is. -/
def Json.Number.value? : Json.Number → Option ℚ
  | negative n => some n.toInt
  | natural n => some n.toNat
  | double x => x.value?

namespace Decimal

theorem value_ofInt (n : Int) : (ofInt n).value = n := by
  simp [value, ofInt]

/-! ## The place of the leading digit -/

theorem abs_value (d : Decimal) : |d.value| = d.unscaled.natAbs * 10 ^ (-d.scale) := by
  have hunit : (0 : ℚ) < 10 ^ (-d.scale) := zpow_pos (by decide) _
  rw [value, abs_mul, abs_of_pos hunit, Nat.cast_natAbs, Int.cast_abs]

/-- The place of the leading digit depends on the number only. -/
theorem top_eq {d : Decimal} (hd : d.unscaled ≠ 0) : d.top = Int.log 10 |d.value| + 1 := by
  have hunscaled : d.unscaled.natAbs ≠ 0 := Int.natAbs_ne_zero.2 hd
  have hunit : (0 : ℚ) < 10 ^ (-d.scale) := zpow_pos (by decide) _
  have hpos : 0 < |d.value| := by
    rw [abs_value]
    exact mul_pos (Nat.cast_pos.2 (Nat.pos_of_ne_zero hunscaled)) hunit
  have hpow : ∀ k : Nat,
      ((10 : Nat) : ℚ) ^ ((k : Int) - d.scale) = ((10 ^ k : Nat) : ℚ) * 10 ^ (-d.scale) := by
    intro k
    rw [Nat.cast_ofNat, sub_eq_add_neg, zpow_add₀ (by decide), zpow_natCast, Nat.cast_pow,
      Nat.cast_ofNat]
  have hlow : d.top - 1 ≤ Int.log 10 |d.value| := by
    have hcount := Digits.count_pos d.unscaled.natAbs
    have htop : d.top - 1 = ((Digits.count d.unscaled.natAbs - 1 : Nat) : Int) - d.scale := by
      unfold top
      omega
    refine (Int.zpow_le_iff_le_log (by decide) hpos).1 ?_
    rw [htop, hpow, abs_value]
    exact mul_le_mul_of_nonneg_right (Nat.cast_le.2 (Digits.pow_count_le hunscaled)) hunit.le
  have hhigh : Int.log 10 |d.value| < d.top := by
    refine (Int.lt_zpow_iff_log_lt (by decide) hpos).1 ?_
    rw [top, hpow, abs_value]
    exact mul_lt_mul_of_pos_right (Nat.cast_lt.2 (Digits.lt_pow_count _)) hunit
  omega

/-! ## Order -/

/-- A reading that keeps the order may be compared first. -/
theorem compare_then_eq {i j : Int} {x y : ℚ} {o : Ordering} (hle : x ≤ y → i ≤ j)
    (hge : y ≤ x → j ≤ i) (ho : i = j → o = compare x y) : (compare i j).then o = compare x y := by
  rcases lt_trichotomy i j with hij | hij | hij
  · have hxy : x < y := lt_of_not_ge fun h => absurd (hge h) (not_le.2 hij)
    rw [compare_lt_iff_lt.2 hij, compare_lt_iff_lt.2 hxy]
    rfl
  · rw [compare_eq_iff_eq.2 hij, ho hij]
    rfl
  · have hxy : y < x := lt_of_not_ge fun h => absurd (hle h) (not_le.2 hij)
    rw [compare_gt_iff_gt.2 hij, compare_gt_iff_gt.2 hxy]
    rfl

theorem inUnit_eq {d : Decimal} {scale : Int} (h : d.scale ≤ scale) :
    (d.inUnit scale : ℚ) = d.value * 10 ^ scale := by
  have hscale : ((scale - d.scale).toNat : Int) = -d.scale + scale := by omega
  rw [inUnit, Int.pow_eq, Int.cast_mul, Int.cast_pow, Int.cast_ofNat, ← zpow_natCast, hscale,
    zpow_add₀ (by decide), ← mul_assoc, ← value]

theorem sign_inUnit (d : Decimal) (scale : Int) : (d.inUnit scale).sign = d.unscaled.sign := by
  rw [inUnit, Int.pow_eq, Int.sign_mul, Int.sign_eq_one_of_pos (pow_pos (by decide) _), mul_one]

theorem unscaled_eq_zero_iff (d : Decimal) : d.unscaled = 0 ↔ d.value = 0 := by
  rw [value, mul_eq_zero, Int.cast_eq_zero, or_iff_left (zpow_ne_zero (-d.scale) (by decide))]

theorem unscaled_neg_iff (d : Decimal) : d.unscaled < 0 ↔ d.value < 0 := by
  have hunit : (0 : ℚ) < 10 ^ (-d.scale) := zpow_pos (by decide) _
  rw [value, mul_neg_iff, or_iff_right (fun h => absurd h.2 (not_lt.2 hunit.le)),
    and_iff_left hunit, Int.cast_lt_zero]

section Order

variable {a b : Decimal}

section Unit

variable {scale : Int} (ha : a.scale ≤ scale) (hb : b.scale ≤ scale)
include ha hb

theorem inUnit_le_iff : a.inUnit scale ≤ b.inUnit scale ↔ a.value ≤ b.value := by
  rw [← Int.cast_le (R := ℚ), inUnit_eq ha, inUnit_eq hb]
  exact mul_le_mul_iff_left₀ (zpow_pos (by decide) scale)

theorem inUnit_eq_iff : a.inUnit scale = b.inUnit scale ↔ a.value = b.value := by
  rw [← Int.cast_inj (α := ℚ), inUnit_eq ha, inUnit_eq hb]
  exact mul_left_inj' (zpow_ne_zero scale (by decide))

theorem compare_inUnit : compare (a.inUnit scale) (b.inUnit scale) = compare a.value b.value := by
  rw [← @Ordering.then_eq (compare (a.inUnit scale) (b.inUnit scale))]
  refine compare_then_eq (inUnit_le_iff ha hb).2 (inUnit_le_iff hb ha).2 fun h => ?_
  exact (compare_eq_iff_eq.2 ((inUnit_eq_iff ha hb).1 h)).symm

end Unit

theorem sign_le_sign (h : a.value ≤ b.value) : a.unscaled.sign ≤ b.unscaled.sign := by
  have hunit := (inUnit_le_iff (le_max_left a.scale b.scale) (le_max_right a.scale b.scale)).2 h
  rw [← sign_inUnit a (max a.scale b.scale), ← sign_inUnit b (max a.scale b.scale)]
  generalize a.inUnit (max a.scale b.scale) = x, b.inUnit (max a.scale b.scale) = y at hunit
  have hx := Int.sign_trichotomy x
  have hy := Int.sign_trichotomy y
  have hxneg := @Int.sign_neg_iff x
  have hxpos := @Int.sign_pos_iff x
  have hyneg := @Int.sign_neg_iff y
  have hypos := @Int.sign_pos_iff y
  omega

theorem top_le_top (ha : a.unscaled ≠ 0) (h : |a.value| ≤ |b.value|) : a.top ≤ b.top := by
  have hpos : 0 < |a.value| := abs_pos.2 (mt (unscaled_eq_zero_iff a).2 ha)
  have hb : b.unscaled ≠ 0 := mt (unscaled_eq_zero_iff b).1 (abs_pos.1 (hpos.trans_le h))
  rw [top_eq ha, top_eq hb]
  exact add_le_add_left (Int.log_mono_right hpos h) 1

end Order

/-- The order of decimals is the order of the numbers that they are, whatever their scales. -/
theorem cmp_eq_compare (a b : Decimal) : a.cmp b = compare a.value b.value := by
  unfold cmp
  dsimp only
  refine compare_then_eq sign_le_sign sign_le_sign fun hsign => ?_
  have hunits := compare_inUnit (le_max_left a.scale b.scale) (le_max_right a.scale b.scale)
  have hbzero : b.unscaled = 0 ↔ a.unscaled = 0 := by
    rw [← Int.sign_eq_zero_iff_zero, ← hsign, Int.sign_eq_zero_iff_zero]
  have hbneg : b.unscaled < 0 ↔ a.unscaled < 0 := by
    rw [← Int.sign_neg_iff, ← hsign, Int.sign_neg_iff]
  split_ifs with hzero hneg
  · rw [(unscaled_eq_zero_iff a).1 hzero, (unscaled_eq_zero_iff b).1 (hbzero.2 hzero)]
    rfl
  · -- of two negative numbers the one with the lower leading digit is greater
    have hswap : (compare a.top b.top).swap = compare b.top a.top := Std.OrientedOrd.eq_swap.symm
    have ha := (unscaled_neg_iff a).1 hneg
    have hb := (unscaled_neg_iff b).1 (hbneg.2 hneg)
    rw [hswap]
    refine compare_then_eq (fun h => top_le_top (mt hbzero.1 hzero) ?_)
      (fun h => top_le_top hzero ?_) fun _ => hunits
    · rw [abs_of_neg ha, abs_of_neg hb]
      exact neg_le_neg h
    · rw [abs_of_neg ha, abs_of_neg hb]
      exact neg_le_neg h
  · have ha := not_lt.1 (mt (unscaled_neg_iff a).2 hneg)
    have hb := not_lt.1 (mt (unscaled_neg_iff b).2 (mt hbneg.1 hneg))
    refine compare_then_eq (fun h => top_le_top hzero ?_)
      (fun h => top_le_top (mt hbzero.1 hzero) ?_) fun _ => hunits
    · rwa [abs_of_nonneg ha, abs_of_nonneg hb]
    · rwa [abs_of_nonneg ha, abs_of_nonneg hb]

theorem cmp_eq_iff (a b : Decimal) : a.cmp b = .eq ↔ a.value = b.value := by
  rw [cmp_eq_compare, compare_eq_iff_eq]

theorem cmp_swap (a b : Decimal) : b.cmp a = (a.cmp b).swap := by
  rw [cmp_eq_compare, cmp_eq_compare]
  exact Std.OrientedOrd.eq_swap

/-! ## Doubles -/

/-- A power of two as digits behind the point: each halving is five tenths. -/
theorem two_zpow_eq (e : Int) :
    (2 : ℚ) ^ e = 2 ^ e.toNat * 5 ^ (-e).toNat * 10 ^ (-((-e).toNat : Int)) := by
  have hten : (10 : ℚ) ^ (-((-e).toNat : Int)) = (5 ^ (-e).toNat)⁻¹ * (2 ^ (-e).toNat)⁻¹ := by
    rw [zpow_neg, zpow_natCast, ← mul_inv, ← mul_pow]
    norm_num
  rw [hten, mul_assoc, mul_inv_cancel_left₀ (pow_ne_zero _ (by decide)), ← zpow_natCast,
    ← zpow_natCast, ← zpow_neg, ← zpow_add₀ (by decide)]
  congr 1
  omega

theorem value_digits (m e : Int) :
    value ⟨m * Int.pow 2 e.toNat * Int.pow 5 (-e).toNat, (-e).toNat⟩ = m * 2 ^ e := by
  simp only [value, two_zpow_eq e, Int.pow_eq, Int.cast_mul, Int.cast_pow, Int.cast_ofNat,
    mul_assoc]

/-- The decimal of a double is the number that the double is. -/
theorem map_value_ofDouble? (x : Double) : (ofDouble? x).map value = x.value? := by
  have hx : ofDouble? x = if x.isFinite then
      if x.significand = 0 then some ⟨0, 0⟩
      else some ⟨x.signed * Int.pow 2 x.exponent.toNat * Int.pow 5 (-x.exponent).toNat,
        (-x.exponent).toNat⟩
    else none := rfl
  rw [hx, Double.value?]
  split_ifs with hfinite hzero
  · have hsigned : x.signed = 0 := by
      rw [Double.signed, hzero]
      exact ite_self 0
    rw [hsigned, Int.cast_zero, zero_mul, Option.map_some, value, Int.cast_zero, zero_mul]
  · exact congrArg some (value_digits x.signed x.exponent)
  · rfl

end Decimal

end RecordFilter
