import Mathlib.Algebra.Order.Field.Power
import Mathlib.Algebra.Order.Field.Rat
import Mathlib.Data.Int.CharZero
import Mathlib.Order.Monotone.Odd
import Mathlib.Tactic.Common
import StorageArray.Decimal.Binary64
/-!
# The values of binary64 numbers

A number of the format is given by its position in the order of the magnitudes.  `Binary64.value` is
the rational number that it stands for.  Comparing positions is comparing values
(`Binary64.value_le_value_iff`, `Binary64.value_eq_value_iff`), and a natural number below `2 ^ 53`
is a number of the format (`Binary64.value_ofNat`).

The proofs count in units of the smallest spacing, so that the value of a magnitude is a natural
number: within a block of magnitudes it grows by the same power of two from one to the next.
-/

namespace StorageArray.Binary64

/-- The rational number that the number stands for. -/
def value (x : Binary64) : ℚ :=
  (if x.negative then -1 else 1) * (significand x.magnitude * 2 ^ exponent x.magnitude)

/-! ### Magnitudes -/

/-- The smallest spacing. -/
def unit : ℚ := 2 ^ (-1074 : Int)

lemma unit_pos : 0 < unit := zpow_pos two_pos _

/-- The value of a magnitude in units. -/
def units (m : Nat) : Nat := significand m * 2 ^ (exponent m + 1074).toNat

variable {m : Nat}

lemma units_of_lt (h : m < blockSize) : units m = m := by
  rw [units, significand, exponent, if_pos h, if_pos h]
  exact Nat.mul_one m

/-- The values of a block have the same spacing. -/
lemma units_of_block (k : Nat) {j : Nat} (hj : j < blockSize) :
    units ((k + 1) * blockSize + j) = (blockSize + j) * 2 ^ k := by
  have hpos : 0 < blockSize := by decide
  have hge : ¬ (k + 1) * blockSize + j < blockSize := by
    rw [Nat.succ_mul]
    omega
  have hdiv : ((k + 1) * blockSize + j) / blockSize = k + 1 := by
    rw [Nat.mul_comm, Nat.mul_add_div hpos, Nat.div_eq_of_lt hj, Nat.add_zero]
  have hmod : ((k + 1) * blockSize + j) % blockSize = j := by
    rw [Nat.mul_comm, Nat.mul_add_mod, Nat.mod_eq_of_lt hj]
  have hexponent : (((k + 1 : Nat) : Int) - 1075 + 1074).toNat = k := by
    omega
  rw [units, significand, exponent, if_neg hge, if_neg hge, hdiv, hmod, hexponent]

/-- A magnitude lies below the first block boundary or in a later block. -/
lemma exists_block (h : blockSize ≤ m) :
    ∃ k j, j < blockSize ∧ m = (k + 1) * blockSize + j := by
  have hpos : 0 < blockSize := by decide
  refine ⟨m / blockSize - 1, m % blockSize, Nat.mod_lt m hpos, ?_⟩
  have hblock : 1 ≤ m / blockSize := (Nat.one_le_div_iff hpos).2 h
  rw [Nat.sub_add_cancel hblock, Nat.div_add_mod']

lemma units_lt_units_succ (m : Nat) : units m < units (m + 1) := by
  rcases Nat.lt_or_ge m blockSize with h | h
  · rw [units_of_lt h]
    rcases Nat.lt_or_ge (m + 1) blockSize with h' | h'
    · rw [units_of_lt h']
      exact Nat.lt_succ_self m
    · -- The first block has the spacing of the magnitudes before it.
      have hlast : m + 1 = (0 + 1) * blockSize + 0 := by omega
      rw [hlast, units_of_block 0 (by decide)]
      omega
  · obtain ⟨k, j, hj, rfl⟩ := exists_block h
    rw [units_of_block k hj]
    rcases Nat.lt_or_ge (j + 1) blockSize with hj' | hj'
    · rw [Nat.add_assoc, units_of_block k hj']
      exact Nat.mul_lt_mul_of_pos_right (by omega) (Nat.two_pow_pos k)
    · -- The next block begins, and its spacing is twice as large.
      have hlast : (k + 1) * blockSize + j + 1 = (k + 1 + 1) * blockSize + 0 := by
        rw [Nat.succ_mul (k + 1)]
        omega
      rw [hlast, units_of_block (k + 1) (by decide), Nat.add_zero, Nat.pow_succ', ← Nat.mul_assoc]
      exact Nat.mul_lt_mul_of_pos_right (by omega) (Nat.two_pow_pos k)

lemma strictMono_units : StrictMono units := strictMono_nat_of_lt_succ units_lt_units_succ

lemma units_zero : units 0 = 0 := units_of_lt (by decide)

/-! ### Signs -/

/-- The value of a number with this key in units. -/
def signedUnits (key : Int) : Int := key.sign * units key.natAbs

lemma signedUnits_natCast (n : Nat) : signedUnits n = units n := by
  cases n with
  | zero => rw [units_zero]; rfl
  | succ n => exact Int.one_mul _

lemma signedUnits_neg (key : Int) : signedUnits (-key) = -signedUnits key := by
  rw [signedUnits, signedUnits, Int.sign_neg, Int.natAbs_neg, Int.neg_mul]

/-- The values are in the order of the keys, below zero as above. -/
lemma signedUnits_le_iff {key key' : Int} : signedUnits key ≤ signedUnits key' ↔ key ≤ key' := by
  have hmono : StrictMono signedUnits := by
    refine strictMono_of_odd_strictMonoOn_nonneg signedUnits_neg fun a ha b hb hab => ?_
    obtain ⟨a, rfl⟩ := Int.eq_ofNat_of_zero_le ha
    obtain ⟨b, rfl⟩ := Int.eq_ofNat_of_zero_le hb
    rw [signedUnits_natCast, signedUnits_natCast]
    exact Int.ofNat_lt.2 (strictMono_units (Int.ofNat_lt.1 hab))
  exact hmono.le_iff_le

lemma signedUnits_inj {key key' : Int} : signedUnits key = signedUnits key' ↔ key = key' := by
  rw [le_antisymm_iff, signedUnits_le_iff, signedUnits_le_iff, ← le_antisymm_iff]

variable {x y : Binary64}

lemma neg_le_exponent (m : Nat) : -1074 ≤ exponent m := by
  unfold exponent
  split
  · exact le_rfl
  · rename_i h
    have hblock : 1 ≤ m / blockSize := (Nat.one_le_div_iff (by decide)).2 (Nat.not_lt.1 h)
    omega

lemma significand_mul_two_zpow (m : Nat) :
    (significand m * 2 ^ exponent m : ℚ) = units m * unit := by
  have hexponent : (2 : ℚ) ^ exponent m = 2 ^ (exponent m + 1074).toNat * unit := by
    rw [unit, ← zpow_natCast, ← zpow_add₀ two_ne_zero]
    congr 1
    have := neg_le_exponent m
    omega
  rw [hexponent, units, Nat.cast_mul, Nat.cast_pow, Nat.cast_ofNat, mul_assoc]

lemma value_eq (x : Binary64) : x.value = signedUnits x.key * unit := by
  rw [value, significand_mul_two_zpow, key]
  cases x.negative with
  | false =>
      rw [if_neg Bool.false_ne_true, if_neg Bool.false_ne_true, signedUnits_natCast, one_mul,
        Int.cast_natCast]
  | true =>
      rw [if_pos rfl, if_pos rfl, signedUnits_neg, signedUnits_natCast, Int.cast_neg,
        Int.cast_natCast, neg_mul, neg_mul, one_mul]

/-- Numbers are in the order of their values. -/
lemma value_le_value_iff : x.value ≤ y.value ↔ x ≤ y := by
  rw [value_eq, value_eq, mul_le_mul_iff_left₀ unit_pos, Int.cast_le, signedUnits_le_iff]
  rfl

/-- Two numbers have the same value when they are the same, or both zero. -/
lemma value_eq_value_iff : x.value = y.value ↔ x.SameValue y := by
  rw [value_eq, value_eq, mul_left_inj' unit_pos.ne', Int.cast_inj, signedUnits_inj]
  rfl

/-! ### Natural numbers -/

lemma roundHalfEven_one (n : Nat) : roundHalfEven n 1 = n := by
  simp [roundHalfEven, Nat.mod_one]

variable {n : Nat}

/-- A natural number below `2 ^ 53` is not rounded. -/
lemma roundRatio_one (hpos : n ≠ 0) (h : n < 2 ^ 53) :
    roundRatio n 1 = (n.log2 + 1022) * blockSize + n * 2 ^ (52 - n.log2) := by
  have hlog : n.log2 < 53 := (Nat.log2_lt hpos).2 h
  have hguess : (n.log2 : Int) - (Nat.log2 1 : Nat) = n.log2 := Int.sub_zero _
  have hneg : (-(n.log2 : Int)).toNat = 0 := by omega
  have hreached : 1 * Nat.pow 2 (n.log2 : Int).toNat ≤ n * Nat.pow 2 (-(n.log2 : Int)).toNat := by
    rw [hneg, Int.toNat_natCast, Nat.one_mul]
    exact (Nat.log2_self_le hpos).trans (Nat.le_mul_of_pos_right n Nat.one_pos)
  have hq : max ((n.log2 : Int) - 52) (-1074) = (n.log2 : Int) - 52 := by omega
  have hblock : ((n.log2 : Int) - 52 + 1074).toNat = n.log2 + 1022 := by omega
  have hshift : (-((n.log2 : Int) - 52)).toNat = 52 - n.log2 := by omega
  have hscale : ((n.log2 : Int) - 52).toNat = 0 := by omega
  rw [roundRatio, if_neg hpos]
  simp only [hguess]
  rw [if_pos hreached, hq, hblock, hshift, hscale]
  exact congrArg _ (roundHalfEven_one _)

/-- The first digit of a natural number is moved to the first place of a significand. -/
lemma mul_two_pow_mem_block (hpos : n ≠ 0) (h : n < 2 ^ 53) :
    ∃ j < blockSize, n * 2 ^ (52 - n.log2) = blockSize + j := by
  have hlog : n.log2 < 53 := (Nat.log2_lt hpos).2 h
  have hsplit : 2 ^ n.log2 * 2 ^ (52 - n.log2) = blockSize := by
    rw [← Nat.pow_add, Nat.add_sub_cancel' (Nat.le_of_lt_succ hlog)]
    rfl
  have hlow : blockSize ≤ n * 2 ^ (52 - n.log2) := by
    rw [← hsplit]
    exact Nat.mul_le_mul_right _ (Nat.log2_self_le hpos)
  have hhigh : n * 2 ^ (52 - n.log2) < 2 * blockSize := by
    rw [← hsplit, ← Nat.mul_assoc, ← Nat.pow_succ']
    exact Nat.mul_lt_mul_of_pos_right Nat.lt_log2_self (Nat.two_pow_pos _)
  exact ⟨n * 2 ^ (52 - n.log2) - blockSize, by omega, by omega⟩

/-- A natural number below `2 ^ 53` is a number of the format. -/
lemma value_ofNat (h : n < 2 ^ 53) : (ofNat n).value = n := by
  by_cases hpos : n = 0
  · subst hpos
    have hzero : ofNat 0 = zero := rfl
    have hkey : signedUnits (zero.key) = 0 := rfl
    rw [hzero, value_eq, hkey, Int.cast_zero, zero_mul, Nat.cast_zero]
  have hlog : n.log2 < 53 := (Nat.log2_lt hpos).2 h
  obtain ⟨j, hj, hsignificand⟩ := mul_two_pow_mem_block hpos h
  have hmagnitude : roundRatio n 1 = (n.log2 + 1022 + 1) * blockSize + j := by
    rw [roundRatio_one hpos h, hsignificand, Nat.succ_mul (n.log2 + 1022), Nat.add_assoc]
  have hfinite : roundRatio n 1 < 2047 * blockSize := by
    rw [hmagnitude]
    unfold blockSize at hj ⊢
    omega
  have hofNat : ofNat n = ⟨false, roundRatio n 1, hfinite⟩ := by
    rw [ofNat, ofRatio?]
    simp only [dif_pos hfinite, Option.getD_some]
  have hunits : units (roundRatio n 1) = n * 2 ^ (52 - n.log2 + (n.log2 + 1022)) := by
    rw [hmagnitude, units_of_block _ hj, ← hsignificand, Nat.mul_assoc, ← Nat.pow_add]
  have hunit : (2 ^ (52 - n.log2 + (n.log2 + 1022)) : ℚ) * unit = 1 := by
    have hshift : ((52 - n.log2 + (n.log2 + 1022) : Nat) : Int) + -1074 = 0 := by omega
    rw [unit, ← zpow_natCast, ← zpow_add₀ two_ne_zero, hshift, zpow_zero]
  rw [hofNat, value_eq]
  change (signedUnits (roundRatio n 1 : Nat) : ℚ) * unit = n
  rw [signedUnits_natCast, hunits, Int.cast_natCast, Nat.cast_mul, Nat.cast_pow, Nat.cast_ofNat,
    mul_assoc, hunit, mul_one]

end StorageArray.Binary64
