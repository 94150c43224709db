import Mathlib
import RecordFilter.Proofs.Number.Exact

/-!
# Rounding to doubles

The magnitudes of doubles are in the order of the numbers that they are (`size_strictMono`). A ratio
is rounded without passing any double: a double that is at most the ratio is at most what it is
rounded to, and the same holds of a double that is at least the ratio (`rank_le_rank_ofInt`,
`rank_ofInt_le_rank`). So an integer that is a double is rounded to itself.
-/

namespace RecordFilter

/-! ## Ratios -/

theorem shiftRatio_ratio (num den : Nat) (e : Int) :
    ((shiftRatio num den e).1 : ℚ) / (shiftRatio num den e).2 = num / den * 2 ^ e := by
  have hpow : (2 : ℚ) ^ e.toNat / 2 ^ (-e).toNat = 2 ^ e := by
    rw [← zpow_natCast, ← zpow_natCast, ← zpow_sub₀ (by decide)]
    congr 1
    omega
  simp only [shiftRatio, Nat.pow_eq, Nat.cast_mul, Nat.cast_pow, Nat.cast_ofNat]
  rw [mul_div_mul_comm, hpow]

theorem shiftRatio_den_pos (num : Nat) {den : Nat} (hden : 0 < den) (e : Int) :
    0 < (shiftRatio num den e).2 :=
  Nat.mul_pos hden (Nat.pow_pos (by decide))

/-- The nearest integer is at most a half away. -/
theorem abs_roundHalfEven_sub_le {num den : Nat} (hden : 0 < den) :
    |(roundHalfEven num den : ℚ) - num / den| ≤ 1 / 2 := by
  have hdiv := Nat.div_add_mod num den
  have hmod := Nat.mod_lt num hden
  have hsucc : den * (num / den + 1) = den * (num / den) + den := Nat.mul_succ _ _
  have hround : 2 * num ≤ 2 * (den * roundHalfEven num den) + den ∧
      2 * (den * roundHalfEven num den) ≤ 2 * num + den := by
    unfold roundHalfEven
    dsimp only
    split_ifs <;> constructor <;> omega
  obtain ⟨hlow, hhigh⟩ := hround
  have hden' : (0 : ℚ) < den := Nat.cast_pos.2 hden
  have hnum : (num : ℚ) = den * (num / den) := (mul_div_cancel₀ _ hden'.ne').symm
  have hlow' : 2 * (num : ℚ) ≤ 2 * (den * roundHalfEven num den) + den := by exact_mod_cast hlow
  have hhigh' : 2 * (den * (roundHalfEven num den : ℚ)) ≤ 2 * num + den := by exact_mod_cast hhigh
  rw [hnum] at hlow' hhigh'
  rw [abs_le]
  constructor
  · exact le_of_mul_le_mul_left (by linarith) hden'
  · exact le_of_mul_le_mul_left (by linarith) hden'

/-- The quotient of the leading binary digits is the quotient, up to a factor of two. -/
theorem zpow_log2_sub_log2 {num den : Nat} (hnum : num ≠ 0) (hden : den ≠ 0) :
    (2 : ℚ) ^ ((num.log2 : Int) - den.log2 - 1) ≤ num / den ∧
      (num / den : ℚ) < 2 ^ ((num.log2 : Int) - den.log2 + 1) := by
  have hpow : ∀ n : Nat, n ≠ 0 →
      (2 : ℚ) ^ (n.log2 : Int) ≤ n ∧ (n : ℚ) < 2 ^ ((n.log2 : Int) + 1) := by
    intro n hn
    constructor
    · exact_mod_cast Nat.log2_self_le hn
    · exact_mod_cast Nat.lt_log2_self (n := n)
  have htwo : ∀ e : Int, (0 : ℚ) < 2 ^ e := zpow_pos (by decide)
  have hden' : (0 : ℚ) < den := Nat.cast_pos.2 (Nat.pos_of_ne_zero hden)
  obtain ⟨hnumLow, hnumHigh⟩ := hpow num hnum
  obtain ⟨hdenLow, hdenHigh⟩ := hpow den hden
  constructor
  · rw [sub_sub, zpow_sub₀ (by decide)]
    exact div_le_div₀ (Nat.cast_nonneg _) hnumLow hden' hdenHigh.le
  · rw [sub_add_eq_add_sub, zpow_sub₀ (by decide)]
    exact div_lt_div₀ hnumHigh hdenLow (htwo _).le (htwo _)

theorem floorLog2_eq {num den : Nat} (hnum : num ≠ 0) (hden : den ≠ 0) :
    floorLog2 num den = Int.log 2 (num / den : ℚ) := by
  obtain ⟨hlow, hhigh⟩ := zpow_log2_sub_log2 hnum hden
  unfold floorLog2
  dsimp only
  generalize (num.log2 : Int) - den.log2 = e at *
  have hratio := shiftRatio_ratio num den (-e)
  have hpos := shiftRatio_den_pos num (Nat.pos_of_ne_zero hden) (-e)
  have hr : (0 : ℚ) < num / den := lt_of_lt_of_le (zpow_pos (by decide) _) hlow
  have hle : (shiftRatio num den (-e)).2 ≤ (shiftRatio num den (-e)).1 ↔
      (2 : ℚ) ^ e ≤ num / den := by
    rw [← Nat.cast_le (α := ℚ), ← one_le_div (Nat.cast_pos.2 hpos), hratio, zpow_neg,
      ← div_eq_mul_inv, one_le_div (zpow_pos (by decide) e)]
  have hbelow := (Int.zpow_le_iff_le_log (b := 2) (by decide) hr).1 hlow
  have habove := (Int.lt_zpow_iff_log_lt (b := 2) (by decide) hr).1 hhigh
  have hmid := Int.zpow_le_iff_le_log (b := 2) (x := e) (by decide) hr
  have hcases := hle.trans hmid
  split_ifs with h
  · have := hcases.1 h
    omega
  · have := mt hcases.2 h
    omega

section RoundBinary

variable {bits num den : Nat} {least : Int}

/-- The rounded number is at most half a unit away, and it has as many bits as asked for, unless
its exponent is the least. -/
theorem roundBinary_spec (hnum : num ≠ 0) (hden : den ≠ 0) {m : Nat} {q : Int}
    (h : roundBinary (bits + 1) least num den = (m, q)) :
    least ≤ q ∧ ∃ t : ℚ, (num / den : ℚ) = t * 2 ^ q ∧ |m - t| ≤ 1 / 2 ∧ t < 2 ^ (bits + 1) ∧
      (2 ^ bits ≤ t ∨ q = least) := by
  have hr : (0 : ℚ) < num / den :=
    div_pos (Nat.cast_pos.2 (Nat.pos_of_ne_zero hnum)) (Nat.cast_pos.2 (Nat.pos_of_ne_zero hden))
  have htwo : ∀ e : Int, (0 : ℚ) < 2 ^ e := zpow_pos (by decide)
  unfold roundBinary at h
  rw [floorLog2_eq hnum hden] at h
  obtain ⟨hm, hq⟩ := Prod.mk.inj h
  rw [hq] at hm
  refine ⟨by omega, num / den * 2 ^ (-q), ?_, ?_, ?_, ?_⟩
  · rw [mul_assoc, ← zpow_add₀ (by decide), Int.add_left_neg, zpow_zero, mul_one]
  · rw [← hm, ← shiftRatio_ratio]
    exact abs_roundHalfEven_sub_le (shiftRatio_den_pos num (Nat.pos_of_ne_zero hden) _)
  · have hlt : (num / den : ℚ) < 2 ^ (((bits + 1 : Nat) : Int) + q) :=
      (Int.lt_zpow_iff_log_lt (b := 2) (by decide) hr).2 (by omega)
    rwa [zpow_neg, ← div_eq_mul_inv, div_lt_iff₀ (htwo q), ← zpow_natCast, ← zpow_add₀ (by decide)]
  · refine or_iff_not_imp_right.2 fun hleast => ?_
    have hle : (2 : ℚ) ^ ((bits : Int) + q) ≤ num / den :=
      (Int.zpow_le_iff_le_log (b := 2) (by decide) hr).2 (by omega)
    rwa [zpow_neg, ← div_eq_mul_inv, le_div_iff₀ (htwo q), ← zpow_natCast, ← zpow_add₀ (by decide)]

end RoundBinary

namespace Double

/-! ## The numbers that magnitudes are -/

/-- The finite double of a magnitude, as a number. -/
def size (k : Nat) : ℚ :=
  ((if k / 2 ^ 52 = 0 then k % 2 ^ 52 else k % 2 ^ 52 + 2 ^ 52 : Nat) : ℚ) *
    2 ^ (((max (k / 2 ^ 52) 1 : Nat) : Int) - 1075)

theorem value?_eq (x : Double) :
    x.value? = if x.isFinite then
      some (if x.negative then -size x.magnitude else size x.magnitude) else none := by
  have hsize : size x.magnitude = x.significand * 2 ^ x.exponent := rfl
  rw [value?, signed, hsize]
  split_ifs
  · rw [Int.cast_neg, Int.cast_natCast, neg_mul]
  · rw [Int.cast_natCast]
  · rfl

theorem magnitudeOf_eq (m : Nat) (q : Int) :
    magnitudeOf m q = (q + 1074).toNat * 2 ^ 52 + m := rfl

theorem infinite_eq : infinite = 2047 * 2 ^ 52 := rfl

section Magnitude

variable {m : Nat} {q : Int} (hq : -1074 ≤ q) (hlow : 2 ^ 52 ≤ m ∨ q = -1074)
include hq hlow

theorem size_magnitudeOf_of_lt (hm : m < 2 ^ 53) : size (magnitudeOf m q) = m * 2 ^ q := by
  rw [size, magnitudeOf_eq]
  generalize hs : (q + 1074).toNat = s
  by_cases hnormal : 2 ^ 52 ≤ m
  · have hdiv : (s * 2 ^ 52 + m) / 2 ^ 52 = s + 1 := by omega
    have hmod : (s * 2 ^ 52 + m) % 2 ^ 52 + 2 ^ 52 = m := by omega
    have hexponent : ((max (s + 1) 1 : Nat) : Int) - 1075 = q := by omega
    rw [hdiv, if_neg (Nat.succ_ne_zero s), hmod, hexponent]
  · have hdiv : (s * 2 ^ 52 + m) / 2 ^ 52 = 0 := by omega
    have hmod : (s * 2 ^ 52 + m) % 2 ^ 52 = m := by omega
    have hexponent : ((max 0 1 : Nat) : Int) - 1075 = q := by omega
    rw [hdiv, if_pos rfl, hmod, hexponent]

/-- A significand that overflows is the first one with the next exponent. -/
theorem size_magnitudeOf (hm : m ≤ 2 ^ 53) : size (magnitudeOf m q) = m * 2 ^ q := by
  rcases hm.lt_or_eq with hlt | rfl
  · exact size_magnitudeOf_of_lt hq hlow hlt
  · have hnext : magnitudeOf (2 ^ 53) q = magnitudeOf (2 ^ 52) (q + 1) := by
      rw [magnitudeOf_eq, magnitudeOf_eq]
      omega
    rw [hnext, size_magnitudeOf_of_lt (by omega) (.inl le_rfl) (by decide),
      zpow_add_one₀ (by decide)]
    push_cast
    ring

end Magnitude

theorem magnitudeOf_succ (m : Nat) (q : Int) : magnitudeOf (m + 1) q = magnitudeOf m q + 1 :=
  (Nat.add_assoc _ m 1).symm

theorem exists_magnitudeOf (k : Nat) :
    ∃ m q, k = magnitudeOf m q ∧ m < 2 ^ 53 ∧ -1074 ≤ q ∧ (2 ^ 52 ≤ m ∨ q = -1074) := by
  refine ⟨k - (k / 2 ^ 52 - 1) * 2 ^ 52, ((k / 2 ^ 52 - 1 : Nat) : Int) - 1074, ?_⟩
  rw [magnitudeOf_eq]
  omega

theorem size_strictMono : StrictMono size := by
  refine strictMono_nat_of_lt_succ fun k => ?_
  obtain ⟨m, q, rfl, hm, hq, hlow⟩ := exists_magnitudeOf k
  rw [← magnitudeOf_succ, size_magnitudeOf hq hlow hm.le, size_magnitudeOf hq (by omega) hm]
  exact mul_lt_mul_of_pos_right (Nat.cast_lt.2 (Nat.lt_succ_self m)) (zpow_pos (by decide) q)

theorem size_zero : size 0 = 0 := by
  simp [size]

/-! ## Rounding passes no double -/

section Rounded

variable {m k : Nat} {q : Int} {t : ℚ} (hm : |(m : ℚ) - t| ≤ 1 / 2) (hhigh : t < 2 ^ 53)
  (hlow : 2 ^ 52 ≤ t ∨ q = -1074)
include hm hhigh hlow

theorem significand_bounds : m ≤ 2 ^ 53 ∧ (2 ^ 52 ≤ m ∨ q = -1074) := by
  obtain ⟨hbelow, habove⟩ := abs_le.1 hm
  constructor
  · have : (m : ℚ) < (2 ^ 53 + 1 : Nat) := by
      push_cast
      linarith
    exact Nat.lt_succ_iff.1 (Nat.cast_lt.1 this)
  · refine hlow.imp_left fun hlow => ?_
    have : ((2 ^ 52 : Nat) : ℚ) < (m + 1 : Nat) := by
      push_cast
      linarith
    exact Nat.lt_succ_iff.1 (Nat.cast_lt.1 this)

variable (hq : -1074 ≤ q)
include hq

/-- The next greater double is greater than what was rounded. -/
theorem lt_size_of_magnitudeOf_lt (hk : magnitudeOf m q < k) : t * 2 ^ q < size k := by
  obtain ⟨hle, hbits⟩ := significand_bounds hm hhigh hlow
  have hunit : (0 : ℚ) < 2 ^ q := zpow_pos (by decide) q
  refine lt_of_lt_of_le ?_ (size_strictMono.monotone (Nat.succ_le_of_lt hk))
  rcases hle.lt_or_eq with hlt | hfull
  · rw [Nat.succ_eq_add_one, ← magnitudeOf_succ, size_magnitudeOf hq (by omega) hlt]
    refine mul_lt_mul_of_pos_right ?_ hunit
    push_cast
    linarith [(abs_le.1 hm).1]
  · refine lt_trans ?_ (size_strictMono (Nat.lt_succ_self _))
    rw [size_magnitudeOf hq hbits hle, hfull]
    exact mul_lt_mul_of_pos_right (by exact_mod_cast hhigh) hunit

/-- The next lesser double is less than what was rounded. -/
theorem size_lt_of_lt_magnitudeOf (hk : k < magnitudeOf m q) : size k < t * 2 ^ q := by
  obtain ⟨hle, hbits⟩ := significand_bounds hm hhigh hlow
  have hunit : (0 : ℚ) < 2 ^ q := zpow_pos (by decide) q
  by_cases hleast : 2 ^ 52 < m ∨ q = -1074
  · have hpos : m ≠ 0 := by
      rintro rfl
      have hzero : magnitudeOf 0 q = 0 := by
        rw [hleast.resolve_left (by decide)]
        rfl
      omega
    obtain ⟨n, rfl⟩ := Nat.exists_eq_succ_of_ne_zero hpos
    rw [Nat.succ_eq_add_one, magnitudeOf_succ] at hk
    refine lt_of_le_of_lt (size_strictMono.monotone (Nat.le_of_lt_succ hk)) ?_
    rw [size_magnitudeOf hq (by omega) (by omega)]
    refine mul_lt_mul_of_pos_right ?_ hunit
    have := (abs_le.1 hm).2
    push_cast at this
    linarith
  · obtain ⟨hfirst, hexponent⟩ := not_or.1 hleast
    have hm : m = 2 ^ 52 := by omega
    refine lt_of_lt_of_le (size_strictMono hk) ?_
    rw [size_magnitudeOf hq hbits hle, hm]
    exact mul_le_mul_of_nonneg_right (by exact_mod_cast hlow.resolve_right hexponent) hunit.le

end Rounded

section Ratio

variable (negative : Bool) {num den k : Nat}

theorem magnitude_ofRatio_zero (den : Nat) : (ofRatio negative 0 den).magnitude.val = 0 := by
  rw [ofRatio, if_pos rfl]
  exact Nat.min_eq_left (Nat.zero_le _)

theorem le_magnitude_ofRatio (hden : den ≠ 0) (hk : k ≤ infinite)
    (h : size k ≤ num / den) : k ≤ (ofRatio negative num den).magnitude.val := by
  by_cases hnum : num = 0
  · rw [hnum, Nat.cast_zero, zero_div, ← size_zero, size_strictMono.le_iff_le] at h
    exact h.trans (Nat.zero_le _)
  · rw [ofRatio, if_neg hnum]
    rcases hround : roundBinary 53 (-1074) num den with ⟨m, q⟩
    obtain ⟨hq, t, ht, hm, hhigh, hlow⟩ := roundBinary_spec hnum hden hround
    refine Nat.le_min.2 ⟨?_, hk⟩
    by_contra hlt
    rw [ht] at h
    exact absurd (lt_size_of_magnitudeOf_lt hm hhigh hlow hq (not_le.1 hlt)) (not_lt.2 h)

theorem magnitude_ofRatio_le (hden : den ≠ 0) (h : (num / den : ℚ) ≤ size k) :
    (ofRatio negative num den).magnitude.val ≤ k := by
  by_cases hnum : num = 0
  · rw [hnum, magnitude_ofRatio_zero]
    exact Nat.zero_le k
  · rw [ofRatio, if_neg hnum]
    rcases hround : roundBinary 53 (-1074) num den with ⟨m, q⟩
    obtain ⟨hq, t, ht, hm, hhigh, hlow⟩ := roundBinary_spec hnum hden hround
    refine (Nat.min_le_left _ _).trans ?_
    by_contra hlt
    rw [ht] at h
    exact absurd (size_lt_of_lt_magnitudeOf hm hhigh hlow hq (not_le.1 hlt)) (not_lt.2 h)

end Ratio

/-! ## Ranks -/

/-- The number of a rank: the ranks below zero are those of the negative doubles. -/
def level (r : Int) : ℚ :=
  if r < 0 then -size r.natAbs else size r.natAbs

theorem level_natCast (k : Nat) : level k = size k :=
  if_neg (Int.not_lt.2 (Int.natCast_nonneg k))

theorem level_neg (r : Int) : level (-r) = -level r := by
  unfold level
  rw [Int.natAbs_neg]
  rcases lt_trichotomy r 0 with h | rfl | h
  · rw [if_neg (by omega), if_pos h, neg_neg]
  · simp [size_zero]
  · rw [if_pos (by omega), if_neg (by omega)]

theorem level_strictMono : StrictMono level := by
  refine strictMono_of_odd_strictMonoOn_nonneg level_neg fun r hr s hs h => ?_
  lift r to Nat using hr
  lift s to Nat using hs
  rw [level_natCast, level_natCast]
  exact size_strictMono (Int.ofNat_lt.1 h)

theorem natAbs_rank (x : Double) : x.rank.natAbs = x.magnitude.val := by
  unfold rank
  split_ifs
  · exact (Int.natAbs_neg _).trans (Int.natAbs_natCast _)
  · exact Int.natAbs_natCast _

theorem level_rank (x : Double) :
    level x.rank = if x.negative then -size x.magnitude else size x.magnitude := by
  unfold rank
  split_ifs
  · rw [level_neg, level_natCast]
  · exact level_natCast _

theorem value?_eq_level (x : Double) :
    x.value? = if x.isFinite then some (level x.rank) else none := by
  rw [value?_eq, level_rank]

theorem value?_eq_of_rank_eq {x y : Double} (h : x.rank = y.rank) : x.value? = y.value? := by
  have hmagnitude : x.magnitude.val = y.magnitude.val := by
    rw [← natAbs_rank, ← natAbs_rank, h]
  rw [value?_eq_level, value?_eq_level, isFinite, isFinite, hmagnitude, h]

theorem rank_ofInt (n : Int) :
    (ofInt n).rank = if n < 0 then -((ofRatio true n.natAbs 1).magnitude.val : Int)
      else (ofRatio false n.natAbs 1).magnitude.val := by
  have hsign : ∀ negative num den, (ofRatio negative num den).negative = negative := by
    intro negative num den
    unfold ofRatio
    split_ifs <;> rfl
  unfold rank ofInt
  rw [hsign]
  by_cases h : n < 0 <;> simp [h]

theorem rank_ofInt_neg (n : Int) : (ofInt (-n)).rank = -(ofInt n).rank := by
  have hmagnitude : ∀ num, (ofRatio true num 1).magnitude = (ofRatio false num 1).magnitude := by
    intro num
    unfold ofRatio
    split_ifs <;> rfl
  rw [rank_ofInt, rank_ofInt, Int.natAbs_neg, hmagnitude]
  rcases lt_trichotomy n 0 with h | rfl | h
  · rw [if_neg (by omega), if_pos h, neg_neg]
  · simp [magnitude_ofRatio_zero]
  · rw [if_pos (by omega), if_neg (by omega)]

theorem le_rank_ofInt {r n : Int} (hr : r.natAbs ≤ infinite) (h : level r ≤ n) :
    r ≤ (ofInt n).rank := by
  rw [rank_ofInt]
  split_ifs with hn
  · have hneg : level r < level 0 := by
      rw [show level 0 = 0 by simp [level, size_zero]]
      exact lt_of_le_of_lt h (Int.cast_lt_zero.2 hn)
    have hr0 : r < 0 := level_strictMono.lt_iff_lt.1 hneg
    have hsize : ((n.natAbs : Nat) / (1 : Nat) : ℚ) ≤ size r.natAbs := by
      rw [level, if_pos hr0] at h
      rw [Nat.cast_one, div_one, Nat.cast_natAbs, abs_of_neg hn, Int.cast_neg]
      linarith
    have := magnitude_ofRatio_le true one_ne_zero hsize
    omega
  · rcases lt_or_ge r 0 with hr0 | hr0
    · omega
    · have hsize : size r.natAbs ≤ ((n.natAbs : Nat) / (1 : Nat) : ℚ) := by
        rw [level, if_neg (not_lt.2 hr0)] at h
        rwa [Nat.cast_one, div_one, Nat.cast_natAbs, abs_of_nonneg (not_lt.1 hn)]
      have := le_magnitude_ofRatio false one_ne_zero hr hsize
      omega

theorem rank_ofInt_le {r n : Int} (hr : r.natAbs ≤ infinite) (h : n ≤ level r) :
    (ofInt n).rank ≤ r := by
  have hneg : -r ≤ (ofInt (-n)).rank := by
    refine le_rank_ofInt (by rwa [Int.natAbs_neg]) ?_
    rw [level_neg, Int.cast_neg]
    exact neg_le_neg h
  rw [rank_ofInt_neg] at hneg
  exact Int.neg_le_neg_iff.1 hneg

theorem isNaN_ofInt (n : Int) : (ofInt n).isNaN = false := by
  refine decide_eq_false (Nat.not_lt.2 ?_)
  unfold ofInt ofRatio
  split_ifs <;> exact Nat.min_le_right _ _

theorem compare?_eq_rank {x y : Double} (hx : x.isNaN = false) (hy : y.isNaN = false) :
    x.compare? y = some (compare x.rank y.rank) := by
  rw [compare?, hx, hy]
  rfl

section Finite

variable {x y : Double} {p q : ℚ} {n : Int} (hx : x.value? = some p)
include hx

theorem magnitude_lt_infinite : x.magnitude.val < infinite := by
  rw [value?] at hx
  split_ifs at hx with hfinite
  exact of_decide_eq_true hfinite

theorem level_rank_eq : level x.rank = p := by
  rw [value?_eq_level] at hx
  split_ifs at hx
  exact Option.some.inj hx

theorem natAbs_rank_le : x.rank.natAbs ≤ infinite :=
  x.natAbs_rank.trans_le (magnitude_lt_infinite hx).le

/-- A double that is at most the integer is at most what the integer is rounded to. -/
theorem rank_le_rank_ofInt (h : p ≤ n) : x.rank ≤ (ofInt n).rank :=
  le_rank_ofInt (natAbs_rank_le hx) ((level_rank_eq hx).trans_le h)

/-- A double that is at least the integer is at least what the integer is rounded to. -/
theorem rank_ofInt_le_rank (h : n ≤ p) : (ofInt n).rank ≤ x.rank :=
  rank_ofInt_le (natAbs_rank_le hx) (h.trans_eq (level_rank_eq hx).symm)

/-- An integer that is a double is rounded to itself. -/
theorem rank_ofInt_eq (h : p = n) : (ofInt n).rank = x.rank :=
  le_antisymm (rank_ofInt_le_rank hx h.ge) (rank_le_rank_ofInt hx h.le)

theorem isNaN_eq_false : x.isNaN = false :=
  decide_eq_false (Nat.not_lt.2 (magnitude_lt_infinite hx).le)

/-- Finite doubles are compared as the numbers that they are. -/
theorem compare?_eq_compare (hy : y.value? = some q) : x.compare? y = some (compare p q) := by
  rw [compare?_eq_rank (isNaN_eq_false hx) (isNaN_eq_false hy)]
  refine congrArg some ?_
  rw [← level_rank_eq hx, ← level_rank_eq hy, ← cmp_eq_compare, ← cmp_eq_compare,
    level_strictMono.cmp_map_eq]

/-- An integer is compared with a double as the number that it is, unless it is rounded to that
double. -/
theorem compare?_ofInt (n : Int) : (ofInt n).compare? x =
    some (if (ofInt n).rank = x.rank then .eq else compare (n : ℚ) p) := by
  rw [compare?_eq_rank (isNaN_ofInt n) (isNaN_eq_false hx)]
  split_ifs with h
  · exact congrArg some (compare_eq_iff_eq.2 h)
  · rcases lt_trichotomy (n : ℚ) p with hlt | heq | hgt
    · have hrank := (rank_ofInt_le_rank hx hlt.le).lt_of_ne h
      rw [compare_lt_iff_lt.2 hlt, compare_lt_iff_lt.2 hrank]
    · exact absurd (rank_ofInt_eq hx heq.symm) h
    · have hrank := (rank_le_rank_ofInt hx hgt.le).lt_of_ne' h
      rw [compare_gt_iff_gt.2 hgt, compare_gt_iff_gt.2 hrank]

end Finite

/-! ## Integers that are doubles -/

/-- Up to `2 ^ 53` every natural number is a double. -/
theorem exists_size_eq {n : Nat} (hn : n ≤ 2 ^ 53) : ∃ k < infinite, size k = n := by
  have hsize : ∀ (m : Nat) (q : Int), 2 ^ 52 ≤ m → m < 2 ^ 53 → -52 ≤ q → q ≤ 1 →
      (m * 2 ^ q : ℚ) = n → ∃ k < infinite, size k = n := by
    intro m q hlow hhigh hq hle h
    refine ⟨magnitudeOf m q, ?_, ?_⟩
    · rw [magnitudeOf_eq, infinite_eq]
      omega
    · rw [size_magnitudeOf (by omega) (.inl hlow) hhigh.le, h]
  rcases Nat.eq_zero_or_pos n with rfl | hpos
  · exact ⟨0, by decide, size_zero.trans Nat.cast_zero.symm⟩
  rcases hn.lt_or_eq with hlt | rfl
  · have hlow := Nat.log2_self_le hpos.ne'
    have hhigh := Nat.lt_log2_self (n := n)
    have hlog : n.log2 ≤ 52 := Nat.lt_succ_iff.1 ((Nat.log2_lt hpos.ne').2 hlt)
    have hpow : ∀ e, 2 ^ (n.log2 + e) * 2 ^ (52 - n.log2) = 2 ^ (52 + e) := by
      intro e
      rw [← Nat.pow_add]
      congr 1
      omega
    refine hsize (n * 2 ^ (52 - n.log2)) (n.log2 - 52) ?_ ?_ (by omega) (by omega) ?_
    · exact (hpow 0).symm.trans_le (Nat.mul_le_mul_right _ hlow)
    · exact (Nat.mul_lt_mul_of_pos_right hhigh (Nat.pow_pos (by decide))).trans_eq (hpow 1)
    · push_cast
      rw [mul_assoc, ← zpow_natCast, ← zpow_add₀ (by decide), Nat.cast_sub hlog]
      simp
  · exact hsize (2 ^ 52) 1 le_rfl (by decide) (by decide) le_rfl (by norm_num)

/-- Up to `2 ^ 53` every integer is a double. -/
theorem exists_value?_eq {n : Int} (hn : n.natAbs ≤ 2 ^ 53) :
    ∃ x : Double, x.value? = some (n : ℚ) := by
  obtain ⟨k, hk, hsize⟩ := exists_size_eq hn
  refine ⟨ofMagnitude (n < 0) k, ?_⟩
  have hmagnitude : (ofMagnitude (n < 0) k).magnitude.val = k := Nat.min_eq_left hk.le
  have hfinite : (ofMagnitude (n < 0) k).isFinite = true := by
    rw [isFinite, hmagnitude]
    exact decide_eq_true hk
  rw [value?_eq, hfinite, if_pos rfl, hmagnitude, hsize, Nat.cast_natAbs, Int.cast_abs]
  show some (if decide (n < 0) = true then -|(n : ℚ)| else |(n : ℚ)|) = some (n : ℚ)
  split_ifs with hneg
  · rw [abs_of_neg (Int.cast_lt_zero.2 (of_decide_eq_true hneg)), neg_neg]
  · rw [abs_of_nonneg (Int.cast_nonneg (not_lt.1 fun h => hneg (decide_eq_true h)))]

/-- Up to `2 ^ 53` an integer is what it is rounded to. -/
theorem value?_of_rank_ofInt_eq {x : Double} {n : Int} (hn : n.natAbs ≤ 2 ^ 53)
    (h : (ofInt n).rank = x.rank) : x.value? = some (n : ℚ) := by
  obtain ⟨y, hy⟩ := exists_value?_eq hn
  rw [← hy]
  exact value?_eq_of_rank_eq (h.symm.trans (rank_ofInt_eq hy rfl))

end Double

end RecordFilter
