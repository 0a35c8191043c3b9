import Lpa.Common.Bytes
import Lpa.Support.EndAround

/-!
# Common — bytes as 16-bit words

What a receiver sums: the big-endian 16-bit words of a stretch of bytes, an odd last byte padded
with zero (`beWords`), under end-around carry (`onesSum`).  The host sums the same bytes as
little-endian words (`leSum`).  The two agree up to a factor 256 modulo 65535 (`leSum_modEq`), so
bytes verify for the receiver when the host's sum of them is a nonzero multiple of 65535
(`onesSum_eq_top`).
-/

namespace Lpa

/-- The big-endian 16-bit words of `bs`, an odd last byte padded with zero. -/
def beWords : Bytes → List ℕ
  | a :: b :: bs => (256 * a.toNat + b.toNat) :: beWords bs
  | [a] => [256 * a.toNat]
  | [] => []

/-- The ones'-complement sum of `bs`. -/
def onesSum (bs : Bytes) : ℕ := EndAround.sum 65536 (beWords bs)

/-- The plain sum of the little-endian 16-bit words of `bs`, an odd last byte taken alone. -/
def leSum : Bytes → ℕ
  | a :: b :: bs => a.toNat + 256 * b.toNat + leSum bs
  | [a] => a.toNat
  | [] => 0

theorem beWords_lt : ∀ (bs : Bytes), ∀ w ∈ beWords bs, w < 65536
  | a :: b :: bs, w, h => by
      have := a.toNat_lt
      have := b.toNat_lt
      rcases List.mem_cons.mp h with rfl | h
      · omega
      · exact beWords_lt bs w h
  | [a], w, h => by
      have := a.toNat_lt
      rw [List.mem_singleton.mp h]
      omega

/-- The host's sum is 256 times the receiver's, modulo 65535. -/
theorem leSum_modEq : ∀ bs : Bytes, leSum bs ≡ 256 * (beWords bs).sum [MOD 65535]
  | a :: b :: bs => by
      rw [leSum, beWords, List.sum_cons, Nat.mul_add]
      exact (EndAround.swap_modEq (b := 256) (by decide) _ _).add (leSum_modEq bs)
  | [a] => by
      have h := EndAround.swap_modEq (b := 256) (by decide) a.toNat 0
      simpa [leSum, beWords] using h
  | [] => rfl

theorem leSum_eq_zero_iff : ∀ bs : Bytes, leSum bs = 0 ↔ (beWords bs).sum = 0
  | a :: b :: bs => by
      have ih := leSum_eq_zero_iff bs
      rw [leSum, beWords, List.sum_cons]
      omega
  | [a] => by simp [leSum, beWords]
  | [] => by simp [leSum, beWords]

theorem leSum_le : ∀ bs : Bytes, leSum bs ≤ 65535 * ((bs.length + 1) / 2)
  | a :: b :: bs => by
      have := a.toNat_lt
      have := b.toNat_lt
      have := leSum_le bs
      simp only [leSum, List.length_cons]
      omega
  | [a] => by
      have := a.toNat_lt
      simp only [leSum, List.length_cons, List.length_nil]
      omega
  | [] => le_refl _

/-- Sums add where the first stretch has an even length. -/
theorem leSum_append : ∀ {xs : Bytes} (ys : Bytes), xs.length % 2 = 0 →
    leSum (xs ++ ys) = leSum xs + leSum ys
  | a :: b :: xs, ys, h => by
      have h' : xs.length % 2 = 0 := by simp only [List.length_cons] at h; omega
      rw [List.cons_append, List.cons_append, leSum, leSum, leSum_append ys h', ← Nat.add_assoc]
  | [_], _, h => by simp at h
  | [], ys, _ => by simp [leSum]

/-- The words of two stretches, the first of an even length. -/
theorem beWords_append : ∀ {xs : Bytes} (ys : Bytes), xs.length % 2 = 0 →
    beWords (xs ++ ys) = beWords xs ++ beWords ys
  | a :: b :: xs, ys, h => by
      have h' : xs.length % 2 = 0 := by simp only [List.length_cons] at h; omega
      rw [List.cons_append, List.cons_append, beWords, beWords, beWords_append ys h',
        List.cons_append]
  | [_], _, h => by simp at h
  | [], ys, _ => rfl

theorem beWords_sum_le : ∀ bs : Bytes, (beWords bs).sum ≤ 65535 * ((bs.length + 1) / 2)
  | a :: b :: bs => by
      have := a.toNat_lt
      have := b.toNat_lt
      have := beWords_sum_le bs
      simp only [beWords, List.sum_cons, List.length_cons]
      omega
  | [a] => by
      have := a.toNat_lt
      simp only [beWords, List.sum_cons, List.sum_nil, List.length_cons, List.length_nil]
      omega
  | [] => le_refl _

@[simp] theorem beWords_le16_hton16 (x : UInt16) : beWords (le16 (hton16 x)) = [x.toNat] := by
  simp only [le16_hton16, beWords, toNat_lo, toNat_hi, List.cons.injEq, and_true]
  omega

@[simp] theorem leSum_le16 (x : UInt16) : leSum (le16 x) = x.toNat := by
  simp only [le16, leSum, toNat_lo, toNat_hi]
  omega

/-- The host's sum of a stretch in which a field has been stored at an even offset. -/
theorem leSum_memcpy_le16 {bs : Bytes} {off : ℕ} (x : UInt16) (h : off % 2 = 0)
    (hle : off + 2 ≤ bs.length) :
    leSum (memcpy bs off (le16 x)) =
      leSum (bs.take off) + x.toNat + leSum (bs.drop (off + 2)) := by
  have ht : (bs.take off).length = off := List.length_take_of_le (by omega)
  rw [memcpy, leSum_append _ (by rw [List.length_append, ht, length_le16]; omega),
    leSum_append _ (by rw [ht]; exact h), leSum_le16, length_le16]

/-- The receiver's sum of a stretch in which a field has been stored at an even offset. -/
theorem beWords_sum_memcpy (bs : Bytes) (off : ℕ) (x : UInt16) (h : off % 2 = 0)
    (hle : off + 2 ≤ bs.length) :
    (beWords (memcpy bs off (le16 (hton16 x)))).sum =
      (beWords (bs.take off)).sum + x.toNat + (beWords (bs.drop (off + 2))).sum := by
  have ht : (bs.take off).length = off := List.length_take_of_le (by omega)
  rw [memcpy, beWords_append _ (by rw [List.length_append, ht, length_le16]; omega),
    beWords_append _ (by rw [ht]; exact h), beWords_le16_hton16, length_le16]
  simp [Nat.add_assoc]

/-- **Bytes verify** exactly when the receiver's sum of them is a nonzero multiple of 65535. -/
theorem onesSum_eq_top_iff {bs : Bytes} :
    onesSum bs = 65535 ↔ (beWords bs).sum ≡ 0 [MOD 65535] ∧ (beWords bs).sum ≠ 0 :=
  EndAround.sum_eq_top_iff (by decide) (beWords_lt bs)

/-- Bytes verify when the host's sum of them is a nonzero multiple of 65535. -/
theorem onesSum_eq_top {bs : Bytes} (h : leSum bs ≡ 0 [MOD 65535]) (h0 : leSum bs ≠ 0) :
    onesSum bs = 65535 := by
  refine onesSum_eq_top_iff.mpr ⟨?_, ?_⟩
  · exact EndAround.modEq_zero_of_mul (b := 256) (by decide) ((leSum_modEq bs).symm.trans h)
  · rwa [Ne, ← leSum_eq_zero_iff]

end Lpa
