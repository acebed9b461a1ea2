import Mathlib.Algebra.Group.Nat.Defs
import Mathlib.Data.Nat.Log
import Mathlib.Tactic.SplitIfs
import RecordQuery.Number.Binary64

/-!
# Rounding integers

The leading digit of an integer fixes the grid of 53 digits on which it is rounded, and with it the
exponent field. A larger integer is on the same grid, where rounding keeps the order, or on a coarser
one, whose words all come later. Below `2 ^ 53` the grid has all integers.
-/

namespace RecordQuery.Binary64

theorem divideToEven_eq_ite (num den : Nat) :
    divideToEven num den =
      if 2 * (num % den) < den then num / den
      else if 2 * (num % den) = den then num / den + num / den % 2
      else num / den + 1 := by
  unfold divideToEven
  rcases Nat.lt_trichotomy (2 * (num % den)) den with h | h | h
  · rw [Nat.compare_eq_lt.2 h, if_pos h]
  · rw [Nat.compare_eq_eq.2 h, if_neg h.not_lt, if_pos h]
  · rw [Nat.compare_eq_gt.2 h, if_neg h.not_gt, if_neg h.ne']

theorem divideToEven_mul {den : Nat} (h : 0 < den) (q : Nat) : divideToEven (q * den) den = q := by
  rw [divideToEven_eq_ite, Nat.mul_mod_left, if_pos h, Nat.mul_div_cancel q h]

theorem divideToEven_mono {a b : Nat} (den : Nat) (h : a ≤ b) :
    divideToEven a den ≤ divideToEven b den := by
  rw [divideToEven_eq_ite, divideToEven_eq_ite]
  rcases Nat.lt_or_eq_of_le (Nat.div_le_div_right (c := den) h) with hlt | heq
  · split_ifs <;> omega
  · -- of two numbers with one quotient the larger has the larger remainder
    have hremainder : a % den ≤ b % den := by
      have ha := Nat.div_add_mod a den
      have hb := Nat.div_add_mod b den
      rw [heq] at ha
      omega
    rw [heq]
    split_ifs <;> omega

/-- The multiple of `2 ^ (n.log2 - 52)` that is nearest to `n`. -/
def gridMultiple (n : Nat) : Nat := divideToEven (n * 2 ^ (52 - n.log2)) (2 ^ (n.log2 - 52))

theorem two_pow_mul_two_pow_sub (a b : Nat) : 2 ^ a * 2 ^ (b - a) = 2 ^ b * 2 ^ (a - b) := by
  rw [← Nat.pow_add, ← Nat.pow_add]
  congr 1
  omega

theorem roundTo_nat {n : Nat} (hn : n ≠ 0) :
    roundTo 53 (-1074) n 1 = (gridMultiple n, (n.log2 : Int) - 52) := by
  have hone : Nat.log2 1 = 0 := by decide
  have hdigits : ¬ n * 2 ^ (53 - n.log2) / 2 ^ (n.log2 - 53) < 2 ^ 53 := by
    rw [Nat.not_lt, Nat.le_div_iff_mul_le (Nat.two_pow_pos _), ← two_pow_mul_two_pow_sub]
    exact Nat.mul_le_mul_right _ (Nat.log2_self_le hn)
  have hlow : ((n.log2 : Int) - (0 : Nat) - (53 : Nat)).toNat = n.log2 - 53 := by omega
  have hlowNeg : (-((n.log2 : Int) - (0 : Nat) - (53 : Nat))).toNat = 53 - n.log2 := by omega
  have hexponent : max (-1074) ((n.log2 : Int) - (0 : Nat) - (53 : Nat) + 1) = n.log2 - 52 := by omega
  have hgrid : ((n.log2 : Int) - 52).toNat = n.log2 - 52 := by omega
  have hgridNeg : (-((n.log2 : Int) - 52)).toNat = 52 - n.log2 := by omega
  simp only [roundTo, scaled, Nat.shiftLeft_eq, Nat.one_mul, hone, hlow, hlowNeg, hdigits, if_false,
    hexponent, hgrid, hgridNeg, gridMultiple]

theorem le_gridMultiple {n : Nat} (hn : n ≠ 0) : 2 ^ 52 ≤ gridMultiple n := by
  have hleading : 2 ^ 52 * 2 ^ (n.log2 - 52) ≤ n * 2 ^ (52 - n.log2) := by
    rw [← two_pow_mul_two_pow_sub]
    exact Nat.mul_le_mul_right _ (Nat.log2_self_le hn)
  have hround := divideToEven_mono (2 ^ (n.log2 - 52)) hleading
  rwa [divideToEven_mul (Nat.two_pow_pos _)] at hround

theorem mul_two_pow_lt (n : Nat) : n * 2 ^ (52 - n.log2) < 2 ^ 53 * 2 ^ (n.log2 - 52) := by
  calc n * 2 ^ (52 - n.log2) < 2 ^ (n.log2 + 1) * 2 ^ (52 - n.log2) :=
        Nat.mul_lt_mul_of_pos_right Nat.lt_log2_self (Nat.two_pow_pos _)
    _ = 2 * (2 ^ n.log2 * 2 ^ (52 - n.log2)) := by
        rw [Nat.pow_succ, Nat.mul_comm _ 2, Nat.mul_assoc]
    _ = 2 ^ 53 * 2 ^ (n.log2 - 52) := by
        rw [two_pow_mul_two_pow_sub, ← Nat.mul_assoc, ← Nat.pow_succ']

theorem gridMultiple_le (n : Nat) : gridMultiple n ≤ 2 ^ 53 := by
  have hround := divideToEven_mono (2 ^ (n.log2 - 52)) (mul_two_pow_lt n).le
  rwa [divideToEven_mul (Nat.two_pow_pos _)] at hround

theorem gridMultiple_of_lt {n : Nat} (h : n < 2 ^ 53) :
    gridMultiple n = n * 2 ^ (52 - n.log2) ∧ gridMultiple n < 2 ^ 53 := by
  have hlog : n.log2 - 52 = 0 := by
    rw [Nat.log2_eq_log_two]
    have hdigits := Nat.log_lt_of_lt_pow' (b := 2) (by decide) h
    omega
  have hbelow := mul_two_pow_lt n
  have hexact := divideToEven_mul Nat.one_pos (n * 2 ^ (52 - n.log2))
  rw [Nat.mul_one] at hexact
  rw [hlog, Nat.pow_zero, Nat.mul_one] at hbelow
  rw [gridMultiple, hlog, Nat.pow_zero, hexact]
  exact ⟨rfl, hbelow⟩

/-- The word of the number nearest to `n` if the format had no largest number. -/
def nearestWord (n : Nat) : Nat := if n = 0 then 0 else (n.log2 + 1022) * 2 ^ 52 + gridMultiple n

theorem log2_mono {m n : Nat} (h : m ≤ n) : m.log2 ≤ n.log2 := by
  rw [Nat.log2_eq_log_two, Nat.log2_eq_log_two]
  exact Nat.log_mono_right h

theorem nearestWord_mono {m n : Nat} (h : m ≤ n) : nearestWord m ≤ nearestWord n := by
  unfold nearestWord
  rcases Nat.eq_zero_or_pos m with rfl | hm
  · exact Nat.zero_le _
  rw [if_neg (by omega : m ≠ 0), if_neg (by omega : n ≠ 0)]
  rcases Nat.lt_or_eq_of_le (log2_mono h) with hlt | heq
  · have hmax := gridMultiple_le m
    have hmin := le_gridMultiple (by omega : n ≠ 0)
    omega
  · unfold gridMultiple
    rw [heq]
    exact Nat.add_le_add_left (divideToEven_mono _ (Nat.mul_le_mul_right _ h)) _

theorem nearestWord_lt {m n : Nat} (h : m < n) (hn : n ≤ 2 ^ 53) :
    nearestWord m < nearestWord n := by
  have hmin := le_gridMultiple (by omega : n ≠ 0)
  unfold nearestWord
  rw [if_neg (by omega : n ≠ 0)]
  rcases Nat.eq_zero_or_pos m with rfl | hm
  · rw [if_pos rfl]
    omega
  obtain ⟨hexact, hmax⟩ := gridMultiple_of_lt (by omega : m < 2 ^ 53)
  rw [if_neg (by omega : m ≠ 0)]
  rcases Nat.lt_or_eq_of_le (log2_mono h.le) with hlt | heq
  · omega
  · -- with as many digits as `m` the larger one is below the bound too
    have hbound : n < 2 ^ 53 := by
      rw [← Nat.log2_lt (by omega), ← heq, Nat.log2_lt (by omega)]
      omega
    rw [hexact, (gridMultiple_of_lt hbound).1, heq]
    exact Nat.add_lt_add_left (Nat.mul_lt_mul_of_pos_right h (Nat.two_pow_pos _)) _

theorem ofMagnitude_spec (negative : Bool) {magnitude : Nat} (h : magnitude ≤ infinityMagnitude) :
    (ofMagnitude negative magnitude).magnitude = magnitude ∧
      (ofMagnitude negative magnitude).isNegative = negative := by
  have hmax : infinityMagnitude < 2 ^ 63 := by decide
  unfold ofMagnitude Binary64.magnitude isNegative
  dsimp only
  rw [UInt64.toNat_ofNat_of_lt' (by cases negative <;> simp [UInt64.size] <;> omega)]
  cases negative <;> simp <;> omega

theorem ofInt_eq (n : Int) :
    ofInt n = ofMagnitude (n < 0) (min infinityMagnitude (nearestWord n.natAbs)) := by
  unfold ofInt ofRatio nearestWord
  split
  · rw [zero, Nat.min_zero]
  · next hn =>
    have hfield : ((n.natAbs.log2 : Int) - 52 + 1074).toNat = n.natAbs.log2 + 1022 := by omega
    rw [roundTo_nat hn]
    dsimp only
    rw [hfield, Nat.shiftLeft_eq]

theorem isNaN_ofInt (n : Int) : (ofInt n).isNaN = false := by
  have hword : min infinityMagnitude (nearestWord n.natAbs) ≤ infinityMagnitude :=
    Nat.min_le_left _ _
  rw [isNaN, ofInt_eq, (ofMagnitude_spec _ hword).1]
  exact decide_eq_false hword.not_gt

theorem rank_ofInt (n : Int) :
    (ofInt n).rank =
      if n < 0 then -((min infinityMagnitude (nearestWord n.natAbs) : Nat) : Int)
      else (min infinityMagnitude (nearestWord n.natAbs) : Nat) := by
  obtain ⟨hmagnitude, hsign⟩ := ofMagnitude_spec (n < 0)
    (Nat.min_le_left infinityMagnitude (nearestWord n.natAbs))
  rw [rank, ofInt_eq, hmagnitude, hsign]
  simp only [decide_eq_true_eq]

/-- No integer is rounded beyond a larger one. -/
theorem rank_ofInt_mono {m n : Int} (h : m ≤ n) : (ofInt m).rank ≤ (ofInt n).rank := by
  rw [rank_ofInt, rank_ofInt]
  split_ifs with hm hn
  · have hword := nearestWord_mono (by omega : n.natAbs ≤ m.natAbs)
    omega
  · omega
  · omega
  · have hword := nearestWord_mono (by omega : m.natAbs ≤ n.natAbs)
    omega

/-- Integers up to `2 ^ 53` keep apart. -/
theorem rank_ofInt_lt {m n : Int} (h : m < n) (hm : m.natAbs ≤ 2 ^ 53) (hn : n.natAbs ≤ 2 ^ 53) :
    (ofInt m).rank < (ofInt n).rank := by
  have hfinite : nearestWord (2 ^ 53) ≤ infinityMagnitude := by decide
  have hmword := nearestWord_mono hm
  have hnword := nearestWord_mono hn
  rw [rank_ofInt, rank_ofInt]
  split_ifs with hmneg hnneg
  · have hword := nearestWord_lt (by omega : n.natAbs < m.natAbs) hm
    omega
  · have hword := nearestWord_lt (by omega : 0 < m.natAbs) hm
    omega
  · omega
  · have hword := nearestWord_lt (by omega : m.natAbs < n.natAbs) hn
    omega

end RecordQuery.Binary64
