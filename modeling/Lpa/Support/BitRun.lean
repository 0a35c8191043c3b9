import Mathlib.Data.Nat.Bitwise
import Mathlib.Order.MinMax

/-!
# Support — runs of ones

`ones lo hi` is the number whose set bits are exactly `lo … hi - 1`.  Xor and or of such runs
give such runs again (`xor_low`, `or_bit`, `xor_top`), and as a mask one picks an aligned block:
below `2 ^ hi`, the numbers that agree with a multiple of `2 ^ lo` on those bits are the `2 ^ lo`
consecutive ones starting at it (`and_ones_eq_iff`).
-/

namespace BitRun

/-- The bits from `lo` up to `hi`, that one excluded. -/
def ones (lo hi : ℕ) : ℕ := 2 ^ hi - 2 ^ lo

theorem ones_eq_mul {lo hi : ℕ} (h : lo ≤ hi) : ones lo hi = 2 ^ lo * (2 ^ (hi - lo) - 1) := by
  rw [ones, Nat.mul_sub, ← Nat.pow_add, Nat.add_sub_cancel' h, Nat.mul_one]

theorem testBit_ones {lo hi : ℕ} (h : lo ≤ hi) (i : ℕ) :
    (ones lo hi).testBit i = (decide (lo ≤ i) && decide (i < hi)) := by
  rw [ones_eq_mul h, Nat.testBit_two_pow_mul, Nat.testBit_two_pow_sub_one]
  by_cases hi' : lo ≤ i
  · simp only [hi', decide_true, Bool.true_and, decide_eq_decide]
    omega
  · simp [hi']

theorem ones_lt {lo hi : ℕ} : ones lo hi < 2 ^ hi :=
  Nat.sub_lt (Nat.two_pow_pos hi) (Nat.two_pow_pos lo)

/-- Two low runs differ in the bits between their ends. -/
theorem xor_low (k y : ℕ) : (2 ^ k - 1) ^^^ (2 ^ y - 1) = ones (min k y) (max k y) := by
  apply Nat.eq_of_testBit_eq
  intro i
  rw [Nat.testBit_xor, Nat.testBit_two_pow_sub_one, Nat.testBit_two_pow_sub_one,
    testBit_ones (min_le_max)]
  by_cases hk : i < k <;> by_cases hy : i < y <;> simp [hk, hy] <;> omega

/-- A bit in a run, or just above it, or'ed in. -/
theorem or_bit {lo hi k : ℕ} (h₁ : lo ≤ k) (h₂ : k ≤ hi) (h : lo ≤ hi) :
    ones lo hi ||| 2 ^ k = ones lo (max hi (k + 1)) := by
  apply Nat.eq_of_testBit_eq
  intro i
  rw [Nat.testBit_or, testBit_ones h, testBit_ones (by omega), Nat.testBit_two_pow,
    ← Bool.decide_and, ← Bool.decide_or, ← Bool.decide_and, decide_eq_decide]
  omega

/-- The top bit of a run, flipped. -/
theorem xor_top {lo hi : ℕ} (h : lo ≤ hi) : ones lo (hi + 1) ^^^ 2 ^ hi = ones lo hi := by
  apply Nat.eq_of_testBit_eq
  intro i
  rw [Nat.testBit_xor, testBit_ones (by omega), testBit_ones h, Nat.testBit_two_pow]
  by_cases hlo : lo ≤ i <;> by_cases hi : hi = i <;> simp [hlo, hi] <;> omega

/-- Masking below `2 ^ hi` with the bits from `lo` up rounds down to a multiple of `2 ^ lo`. -/
theorem and_ones {lo hi p : ℕ} (h : lo ≤ hi) (hp : p < 2 ^ hi) :
    p &&& ones lo hi = p / 2 ^ lo * 2 ^ lo := by
  apply Nat.eq_of_testBit_eq
  intro i
  rw [Nat.testBit_and, testBit_ones h, Nat.testBit_mul_two_pow, Nat.testBit_div_two_pow]
  by_cases hlo : lo ≤ i
  · rw [Nat.sub_add_cancel hlo]
    by_cases hhi : i < hi
    · simp [hlo, hhi]
    · have : p.testBit i = false :=
        Nat.testBit_lt_two_pow (hp.trans_le (Nat.pow_le_pow_right (by decide) (by omega)))
      simp [this]
  · simp [hlo]

/-- Rounding down to a multiple of `m` gives `b` on the `m` numbers from `b` on. -/
theorem round_down_eq_iff {m b p : ℕ} (hm : 0 < m) (hb : m ∣ b) :
    p / m * m = b ↔ b ≤ p ∧ p < b + m := by
  obtain ⟨q, rfl⟩ := hb
  rw [Nat.mul_comm (p / m) m, Nat.mul_right_inj (by omega), Nat.div_eq_iff hm]
  rw [Nat.mul_comm q m]
  omega

/-- **A run of ones picks an aligned block.** -/
theorem and_ones_eq_iff {lo hi b p : ℕ} (h : lo ≤ hi) (hp : p < 2 ^ hi) (hb : 2 ^ lo ∣ b) :
    p &&& ones lo hi = b ↔ b ≤ p ∧ p < b + 2 ^ lo := by
  rw [and_ones h hp, round_down_eq_iff (Nat.two_pow_pos lo) hb]

end BitRun
