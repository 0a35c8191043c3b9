import Mathlib.Data.List.Basic

/-!
# Support — a masked comparison

A comparison under a mask is the list of its pairs, the mask and the pattern of each place
(`At`).  It splits where the list does (`at_append`), and pairs that mask everything out ask for
nothing (`at_replicate`).  A loop over two arrays is the comparison of the pairs they begin with,
whatever stands behind these (`forall_getD_iff`).
-/

namespace Masked

variable {α : Type*} [AndOp α]

/-- From `off` on, what each pair's mask leaves of `frame` is the pair's pattern. -/
def At (frame : ℕ → α) : ℕ → List (α × α) → Prop
  | _, [] => True
  | off, (mask, pattern) :: pairs => frame off &&& mask = pattern ∧ At frame (off + 1) pairs

@[simp] theorem at_nil {frame : ℕ → α} {off : ℕ} : At frame off [] := trivial

@[simp] theorem at_cons {frame : ℕ → α} {off : ℕ} {mask pattern : α} {pairs : List (α × α)} :
    At frame off ((mask, pattern) :: pairs) ↔
      frame off &&& mask = pattern ∧ At frame (off + 1) pairs := Iff.rfl

theorem at_append {frame : ℕ → α} {xs ys : List (α × α)} : ∀ {off : ℕ},
    At frame off (xs ++ ys) ↔ At frame off xs ∧ At frame (off + xs.length) ys := by
  induction xs with
  | nil => simp
  | cons x xs ih =>
      intro off
      obtain ⟨mask, pattern⟩ := x
      rw [List.cons_append, at_cons, at_cons, ih, and_assoc, List.length_cons, Nat.add_assoc,
        Nat.add_comm 1]

/-- Places masked out. -/
theorem at_replicate {frame : ℕ → α} {z : α} (hz : ∀ x : α, x &&& z = z) :
    ∀ (n : ℕ) {off : ℕ}, At frame off (List.replicate n (z, z))
  | 0, _ => trivial
  | n + 1, _ => ⟨hz _, at_replicate hz n⟩

/-- **The loop over the arrays.** -/
theorem forall_getD_iff (frame : ℕ → α) (z : α) (ms ps : List α) :
    ∀ (pairs : List (α × α)) (off : ℕ),
      (∀ i < pairs.length, frame (off + i) &&& (pairs.map Prod.fst ++ ms).getD i z =
          (pairs.map Prod.snd ++ ps).getD i z) ↔ At frame off pairs
  | [], _ => by simp
  | (mask, pattern) :: pairs, off => by
      rw [at_cons, ← forall_getD_iff frame z ms ps pairs (off + 1)]
      constructor
      · intro h
        refine ⟨h 0 (Nat.succ_pos _), fun i hi => ?_⟩
        have hi := h (i + 1) (Nat.succ_lt_succ hi)
        rwa [← Nat.add_assoc, Nat.add_right_comm] at hi
      · rintro ⟨h₀, h⟩ i hi
        cases i with
        | zero => exact h₀
        | succ i =>
            have hi := h i (Nat.lt_of_succ_lt_succ hi)
            rwa [Nat.add_right_comm, Nat.add_assoc] at hi

end Masked
