import Mathlib.Data.Nat.ModEq
import Mathlib.Algebra.BigOperators.Group.List.Basic
import Mathlib.Tactic.Ring

/-!
# Support — end-around carry

Addition of base-`B` words with the carry out of the word added back in at the bottom: ones'
complement addition when `B` is a power of two.  Everything such a sum says is said modulo
`B - 1`, except that it keeps `0` and `B - 1` apart: a sum of words is `0` only when every word
is (`sum_eq_zero_iff`), and it is `B - 1`, the other zero, exactly when the plain sum is a
nonzero multiple of `B - 1` (`sum_eq_top_iff`).

* `fold`: one step of adding the high part back in.
* `sum`: the end-around-carry sum of a list of words.
* `FoldsTo`: the word a sum folds down to, the same for every way of folding (`FoldsTo.unique`).
* `swap_modEq`: swapping the two halves of every word multiplies the sum by the half's base, so
  a verifying sum verifies in either byte order.
-/

namespace EndAround

variable {B : ℕ}

/-- The part of `n` above the low word, added back in at the bottom. -/
def fold (B n : ℕ) : ℕ := n / B + n % B

/-- `a + b`, the carry out of the word added back in. -/
def add (B a b : ℕ) : ℕ := fold B (a + b)

/-- The end-around-carry sum of a list of words. -/
def sum (B : ℕ) (ws : List ℕ) : ℕ := ws.foldl (add B) 0

/-! ### Folding -/

theorem fold_modEq (hB : 0 < B) (n : ℕ) : fold B n ≡ n [MOD B - 1] := by
  have hB1 : B ≡ 1 [MOD B - 1] := by
    rw [Nat.ModEq.comm, Nat.modEq_iff_dvd' hB]
  have h : B * (n / B) + n % B ≡ 1 * (n / B) + n % B [MOD B - 1] :=
    (hB1.mul_right _).add_right _
  rw [Nat.div_add_mod, one_mul] at h
  exact h.symm

@[simp] theorem fold_eq_zero_iff {n : ℕ} : fold B n = 0 ↔ n = 0 := by
  refine ⟨fun h => ?_, fun h => by simp [h, fold]⟩
  obtain ⟨hq, hr⟩ := Nat.add_eq_zero_iff.mp h
  rw [← Nat.div_add_mod n B, hq, hr, Nat.mul_zero]

/-- One fold shrinks anything that is not a word. -/
theorem fold_lt_self (hB : 1 < B) {n : ℕ} (h : B ≤ n) : fold B n < n := by
  have hq : 0 < n / B := Nat.div_pos h (by omega)
  have hn := Nat.div_add_mod n B
  have : n / B * 2 ≤ B * (n / B) := by rw [Nat.mul_comm]; exact Nat.mul_le_mul_right _ hB
  unfold fold
  omega

/-- The sum of two words folds to a word in one step. -/
theorem add_lt {a b : ℕ} (ha : a < B) (hb : b < B) : add B a b < B := by
  unfold add fold
  rcases lt_or_ge (a + b) B with h | h
  · rw [Nat.div_eq_of_lt h, Nat.mod_eq_of_lt h]; omega
  · have hq : (a + b) / B = 1 := Nat.div_eq_of_lt_le (by omega) (by omega)
    rw [hq, Nat.mod_eq_sub_mod h, Nat.mod_eq_of_lt (by omega)]
    omega

/-! ### Sums -/

theorem foldl_add_modEq (hB : 0 < B) (ws : List ℕ) (a : ℕ) :
    ws.foldl (add B) a ≡ a + ws.sum [MOD B - 1] := by
  induction ws generalizing a with
  | nil => exact Nat.ModEq.refl _
  | cons w ws ih =>
      refine (ih (add B a w)).trans ?_
      rw [List.sum_cons, ← Nat.add_assoc]
      exact (fold_modEq hB (a + w)).add_right _

theorem foldl_add_lt {ws : List ℕ} (hws : ∀ w ∈ ws, w < B) {a : ℕ} (ha : a < B) :
    ws.foldl (add B) a < B := by
  induction ws generalizing a with
  | nil => exact ha
  | cons w ws ih =>
      exact ih (fun x hx => hws x (List.mem_cons_of_mem _ hx))
        (add_lt ha (hws w List.mem_cons_self))

theorem foldl_add_eq_zero_iff {ws : List ℕ} {a : ℕ} :
    ws.foldl (add B) a = 0 ↔ a + ws.sum = 0 := by
  induction ws generalizing a with
  | nil => simp
  | cons w ws ih =>
      rw [List.foldl_cons, ih, List.sum_cons, Nat.add_eq_zero_iff, add, fold_eq_zero_iff]
      omega

/-- The sum is the plain sum, modulo `B - 1`. -/
theorem sum_modEq (hB : 0 < B) (ws : List ℕ) : sum B ws ≡ ws.sum [MOD B - 1] := by
  simpa [sum] using foldl_add_modEq hB ws 0

theorem sum_lt (hB : 0 < B) {ws : List ℕ} (hws : ∀ w ∈ ws, w < B) : sum B ws < B :=
  foldl_add_lt hws hB

/-- A sum is `0` only when every word is. -/
theorem sum_eq_zero_iff {ws : List ℕ} : sum B ws = 0 ↔ ws.sum = 0 := by
  rw [sum, foldl_add_eq_zero_iff, Nat.zero_add]

/-- A word is the top word exactly when it is a nonzero multiple of `B - 1`. -/
theorem eq_top_iff {n : ℕ} (hB : 1 < B) (hn : n < B) : n = B - 1 ↔ n ≡ 0 [MOD B - 1] ∧ n ≠ 0 := by
  rw [Nat.modEq_zero_iff_dvd]
  constructor
  · rintro rfl
    exact ⟨dvd_refl _, by omega⟩
  · rintro ⟨h, h0⟩
    have := Nat.le_of_dvd (Nat.pos_of_ne_zero h0) h
    omega

/-- **A sum verifies** (is the top word) exactly when the plain sum is a nonzero multiple of
`B - 1`. -/
theorem sum_eq_top_iff (hB : 1 < B) {ws : List ℕ} (hws : ∀ w ∈ ws, w < B) :
    sum B ws = B - 1 ↔ ws.sum ≡ 0 [MOD B - 1] ∧ ws.sum ≠ 0 := by
  have hB0 : 0 < B := by omega
  rw [eq_top_iff hB (sum_lt hB0 hws), Ne, sum_eq_zero_iff]
  exact and_congr_left' ⟨(sum_modEq hB0 ws).symm.trans, (sum_modEq hB0 ws).trans⟩

/-- `c` added to `n` makes a sum that verifies. -/
def Complements (B c n : ℕ) : Prop := c + n ≡ 0 [MOD B - 1] ∧ c + n ≠ 0

/-- The word `n` folds down to, however the folding is done: congruent to `n`, and `0` only for
`0`. -/
structure FoldsTo (B n s : ℕ) : Prop where
  lt : s < B
  modEq : s ≡ n [MOD B - 1]
  eq_zero_iff : s = 0 ↔ n = 0

theorem foldsTo_self {n : ℕ} (h : n < B) : FoldsTo B n n :=
  ⟨h, rfl, Iff.rfl⟩

/-- Folding changes nothing about the word a sum folds down to. -/
theorem FoldsTo.of_fold (hB : 0 < B) {n s : ℕ} (h : FoldsTo B (fold B n) s) : FoldsTo B n s :=
  ⟨h.lt, h.modEq.trans (fold_modEq hB n), h.eq_zero_iff.trans fold_eq_zero_iff⟩

/-- Sums that are congruent, and `0` together, fold down to the same word. -/
theorem FoldsTo.congr {m n s : ℕ} (h : FoldsTo B n s) (hmod : n ≡ m [MOD B - 1])
    (hz : n = 0 ↔ m = 0) : FoldsTo B m s :=
  ⟨h.lt, h.modEq.trans hmod, h.eq_zero_iff.trans hz⟩

/-- A sum folds down to one word only. -/
theorem FoldsTo.unique {n s t : ℕ} (hs : FoldsTo B n s) (ht : FoldsTo B n t) : s = t := by
  have h : s ≡ t [MOD B - 1] := hs.modEq.trans ht.modEq.symm
  have hz : s = 0 ↔ t = 0 := hs.eq_zero_iff.trans ht.eq_zero_iff.symm
  have hsB := hs.lt
  have htB := ht.lt
  -- two nonzero words are congruent only if they are equal
  rcases Nat.lt_trichotomy s t with hlt | heq | hgt
  · have := Nat.le_of_dvd (by omega) ((Nat.modEq_iff_dvd' hlt.le).mp h)
    omega
  · exact heq
  · have := Nat.le_of_dvd (by omega) ((Nat.modEq_iff_dvd' hgt.le).mp h.symm)
    omega

/-- The complement of a folded sum complements the sum. -/
theorem FoldsTo.complements (hB : 1 < B) {n s : ℕ} (h : FoldsTo B n s) :
    Complements B (B - 1 - s) n := by
  have hlt := h.lt
  refine ⟨?_, fun hz => ?_⟩
  · refine (h.modEq.symm.add_left (B - 1 - s)).trans ?_
    rw [Nat.sub_add_cancel (by omega)]
    exact Nat.modEq_zero_iff_dvd.mpr (dvd_refl _)
  · have := h.eq_zero_iff.mpr (by omega)
    omega

/-- The two zeros complement the same sums, but that the lower one leaves `0` as it is. -/
theorem Complements.top {n : ℕ} (hB : 1 < B) (h : Complements B 0 n) :
    Complements B (B - 1) n := by
  refine ⟨?_, by omega⟩
  have := h.1
  rw [Nat.zero_add] at this
  exact (Nat.modEq_zero_iff_dvd.mpr (dvd_refl _)).add this

/-! ### Byte order -/

/-- A word of two base-`b` halves, with its halves swapped, is `b` times the word. -/
theorem swap_modEq {b : ℕ} (hb : 0 < b) (hi lo : ℕ) :
    hi + b * lo ≡ b * (b * hi + lo) [MOD b * b - 1] := by
  have hbb : b * b ≡ 1 [MOD b * b - 1] := by
    rw [Nat.ModEq.comm, Nat.modEq_iff_dvd' (Nat.mul_pos hb hb)]
  have h : b * b * hi + b * lo ≡ 1 * hi + b * lo [MOD b * b - 1] :=
    (hbb.mul_right hi).add_right _
  rw [one_mul] at h
  rw [show b * (b * hi + lo) = b * b * hi + b * lo by ring]
  exact h.symm

/-- Swapping the halves of the word `n` folds down to gives the word `b * n` folds down to. -/
theorem FoldsTo.swap {b n hi lo : ℕ} (hb : 0 < b) (hhi : hi < b) (hlo : lo < b)
    (h : FoldsTo (b * b) n (b * hi + lo)) : FoldsTo (b * b) (b * n) (hi + b * lo) := by
  refine ⟨?_, (swap_modEq hb hi lo).trans (h.modEq.mul_left b), ?_⟩
  · have : b * lo ≤ b * (b - 1) := Nat.mul_le_mul_left b (by omega)
    rw [Nat.mul_sub_one] at this
    have : b ≤ b * b := Nat.le_mul_self b
    omega
  · have hz := h.eq_zero_iff
    rw [Nat.add_eq_zero_iff, Nat.mul_eq_zero] at hz ⊢
    rw [Nat.mul_eq_zero]
    omega

/-- A multiple of `b` is zero modulo `b * b - 1` only when the other factor is. -/
theorem modEq_zero_of_mul {b n : ℕ} (hb : 0 < b) (h : b * n ≡ 0 [MOD b * b - 1]) :
    n ≡ 0 [MOD b * b - 1] := by
  have hcop : Nat.Coprime (b * b - 1) b := by
    have h1 : Nat.Coprime (b * b - 1) (b * b - 1 + 1) := by simp
    rw [Nat.sub_add_cancel (Nat.mul_pos hb hb)] at h1
    exact Nat.Coprime.coprime_mul_right_right h1
  rw [Nat.modEq_zero_iff_dvd] at h ⊢
  exact hcop.dvd_of_dvd_mul_left h

end EndAround
