import Mathlib.Data.List.Basic
import Mathlib.Data.Fin.Basic
import Mathlib.Logic.Function.Defs
import Mathlib.Tactic.WLOG

/-!
# Support — a table written round and round

A table of `cap` slots with the number of the slot to write next.  The number may be `cap`: it
comes round to the first slot only when the next value is written.

`Holds slots index recent` says that the table holds what was written last, `recent` being all that
was written, the latest first.

* `holds_write`: writing keeps it so.
* `Holds.distinct`: the last `cap` values are in as many slots.
-/

namespace WriteRing

variable {α : Type*} {cap : ℕ}

/-- The slot the next value goes to. -/
def next (cap index : ℕ) : ℕ := if index = cap then 0 else index

/-- The slot of the `j`-th latest value. -/
def slotOf (cap index j : ℕ) : ℕ := (index + cap - 1 - j) % cap

theorem next_lt {index : ℕ} (hcap : 0 < cap) (h : index ≤ cap) : next cap index < cap := by
  unfold next
  split <;> omega

/-- The latest value is in the slot before the number. -/
theorem slotOf_zero {index : ℕ} (h : next cap index < cap) :
    slotOf cap (next cap index + 1) 0 = next cap index := by
  have hindex : next cap index + 1 + cap - 1 - 0 = next cap index + cap := by omega
  rw [slotOf, hindex, Nat.add_mod_right, Nat.mod_eq_of_lt h]

/-- Writing makes each value one older. -/
theorem slotOf_succ {index j : ℕ} (hj : j + 1 < cap) :
    slotOf cap (next cap index + 1) (j + 1) = slotOf cap index j := by
  unfold next
  split
  · rename_i hindex
    -- the number has come round, which the remainder does not tell
    have hround : index + cap - 1 - j = 0 + 1 + cap - 1 - (j + 1) + cap := by omega
    rw [slotOf, slotOf, hround, Nat.add_mod_right]
  · have hnext : index + 1 + cap - 1 - (j + 1) = index + cap - 1 - j := by omega
    rw [slotOf, slotOf, hnext]

/-- Different values are in different slots. -/
theorem slotOf_inj {index i j : ℕ} (hi : i < cap) (hj : j < cap)
    (h : slotOf cap index i = slotOf cap index j) : i = j := by
  wlog hle : i ≤ j generalizing i j
  · exact (this hj hi h.symm (Nat.le_of_not_le hle)).symm
  have hmod := Nat.sub_mod_eq_zero_of_mod_eq h
  have hsub : index + cap - 1 - i - (index + cap - 1 - j) = j - i := by omega
  rw [hsub, Nat.mod_eq_of_lt (by omega)] at hmod
  omega

/-- The table holds the latest values, `recent` being all there were, the latest first. -/
structure Holds (slots : Vector α cap) (index : ℕ) (recent : List α) : Prop where
  index_le : index ≤ cap
  slot (j : ℕ) (a : α) : j < cap → recent[j]? = some a → slots[slotOf cap index j]? = some a

/-- With nothing written, any number will do. -/
theorem holds_nil {slots : Vector α cap} {index : ℕ} (h : index ≤ cap) : Holds slots index [] :=
  ⟨h, fun _ _ _ ha => by simp at ha⟩

/-- **Writing** makes the value the latest one. -/
theorem holds_write {slots : Vector α cap} {index : ℕ} {recent : List α}
    (h : Holds slots index recent) (a : α) (hnext : next cap index < cap) :
    Holds (slots.set (next cap index) a) (next cap index + 1) (a :: recent) := by
  refine ⟨hnext, fun j b hj hb => ?_⟩
  cases j with
  | zero =>
      rw [List.getElem?_cons_zero] at hb
      rw [slotOf_zero hnext, Vector.getElem?_set_self, hb]
  | succ j =>
      rw [List.getElem?_cons_succ] at hb
      have hne : next cap index ≠ slotOf cap (next cap index + 1) (j + 1) := by
        intro heq
        have hzero : slotOf cap (next cap index + 1) 0 = slotOf cap (next cap index + 1) (j + 1) :=
          (slotOf_zero hnext).trans heq
        exact absurd (slotOf_inj (Nat.zero_lt_of_lt hj) hj hzero) (by omega)
      rw [Vector.getElem?_set_ne _ hne, slotOf_succ hj]
      exact h.slot j b (Nat.lt_of_succ_lt hj) hb

/-- **The latest values** are in as many slots. -/
theorem Holds.distinct {slots : Vector α cap} {index : ℕ} {recent : List α}
    (h : Holds slots index recent) :
    ∃ slot : Fin (min cap recent.length) → Fin cap, Function.Injective slot ∧
      ∀ j, recent[j.val]? = some slots[slot j] := by
  have hlt : ∀ j : Fin (min cap recent.length), j.val < cap ∧ j.val < recent.length := fun j =>
    ⟨j.isLt.trans_le (min_le_left _ _), j.isLt.trans_le (min_le_right _ _)⟩
  refine ⟨fun j => ⟨slotOf cap index j, Nat.mod_lt _ (Nat.zero_lt_of_lt (hlt j).1)⟩,
    fun i j hij => ?_, fun j => ?_⟩
  · exact Fin.ext (slotOf_inj (hlt i).1 (hlt j).1 (Fin.ext_iff.mp hij))
  · have hrecent := List.getElem?_eq_getElem (hlt j).2
    have hslot := h.slot j _ (hlt j).1 hrecent
    rw [hrecent, ← hslot]
    simp

end WriteRing
