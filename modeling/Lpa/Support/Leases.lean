import Mathlib.Data.Finset.Basic
import Mathlib.Data.Finset.Lattice.Lemmas
import Mathlib.Data.List.Count

/-!
# Support — keys taken and given back

A history of keys that are taken and given back is in order (`InOrder`) if none is taken while it
is held and none is given back while it is not.  Histories are put together from stretches in which
several keys are taken, or several given back (`inOrder_takes`, `inOrder_gives`); in one that is in
order a key has been taken as often as it has been given back, or once more, and then it is held
(`count_take`).
-/

namespace Leases

variable {K : Type*} [DecidableEq K]

/-- A key is taken or given back. -/
inductive Act (K : Type*) where
  | take (k : K)
  | give (k : K)
deriving DecidableEq

/-- The act is in order while the keys of `h` are held. -/
def Act.Allowed (h : Finset K) : Act K → Prop
  | take k => k ∉ h
  | give k => k ∈ h

/-- The keys held afterwards. -/
def Act.next (h : Finset K) : Act K → Finset K
  | take k => insert k h
  | give k => h.erase k

/-- The keys held after some acts. -/
def after (h : Finset K) (acts : List (Act K)) : Finset K := acts.foldl Act.next h

/-- Every act is in order when it takes place. -/
def InOrder (h : Finset K) : List (Act K) → Prop
  | [] => True
  | a :: acts => a.Allowed h ∧ InOrder (a.next h) acts

variable {h : Finset K} {ks : List K}

theorem after_append (xs ys : List (Act K)) : after h (xs ++ ys) = after (after h xs) ys :=
  List.foldl_append

theorem inOrder_append {xs ys : List (Act K)} :
    InOrder h (xs ++ ys) ↔ InOrder h xs ∧ InOrder (after h xs) ys := by
  induction xs generalizing h with
  | nil => exact ⟨fun hys => ⟨trivial, hys⟩, And.right⟩
  | cons a xs ih => exact (and_congr_right fun _ => ih).trans and_assoc.symm

theorem after_takes (h : Finset K) (ks : List K) :
    after h (ks.map .take) = h ∪ ks.toFinset := by
  induction ks generalizing h with
  | nil => simp [after]
  | cons k ks ih =>
      refine (ih (insert k h)).trans ?_
      rw [List.toFinset_cons, Finset.insert_union, Finset.union_insert]

/-- **Several keys are taken**, none of them held. -/
theorem inOrder_takes (hks : ks.Nodup) (hfree : ∀ k ∈ ks, k ∉ h) :
    InOrder h (ks.map .take) := by
  induction ks generalizing h with
  | nil => trivial
  | cons k ks ih =>
      obtain ⟨hk, hks⟩ := List.nodup_cons.mp hks
      refine ⟨hfree k List.mem_cons_self, ih hks fun j hj hmem => ?_⟩
      rcases Finset.mem_insert.mp hmem with rfl | hmem
      · exact hk hj
      · exact hfree j (List.mem_cons_of_mem _ hj) hmem

theorem after_gives (h : Finset K) (ks : List K) :
    after h (ks.map .give) = h \ ks.toFinset := by
  induction ks generalizing h with
  | nil => simp [after]
  | cons k ks ih =>
      refine (ih (h.erase k)).trans ?_
      rw [List.toFinset_cons, Finset.sdiff_insert, Finset.erase_sdiff_comm]

/-- **Several keys are given back**, all of them held. -/
theorem inOrder_gives (hks : ks.Nodup) (hheld : ∀ k ∈ ks, k ∈ h) :
    InOrder h (ks.map .give) := by
  induction ks generalizing h with
  | nil => trivial
  | cons k ks ih =>
      obtain ⟨hk, hks⟩ := List.nodup_cons.mp hks
      refine ⟨hheld k List.mem_cons_self, ih hks fun j hj => ?_⟩
      have hne : j ≠ k := fun e => hk (e ▸ hj)
      exact Finset.mem_erase.mpr ⟨hne, hheld j (List.mem_cons_of_mem _ hj)⟩

/-- **In order**, a key held at the end has been taken once more than given back. -/
theorem count_take (k : K) {acts : List (Act K)} (hacts : InOrder h acts) :
    acts.count (.take k) + (if k ∈ h then 1 else 0) =
      acts.count (.give k) + if k ∈ after h acts then 1 else 0 := by
  induction acts generalizing h with
  | nil => rfl
  | cons a acts ih =>
      obtain ⟨ha, hacts⟩ := hacts
      have ih := ih hacts
      have hafter : after h (a :: acts) = after (a.next h) acts := rfl
      rw [hafter]
      cases a with
      | take j =>
          have hfree : j ∉ h := ha
          by_cases hj : j = k
          · subst hj
            simp [Act.next, hfree] at ih ⊢
            omega
          · simpa [Act.next, hj, Ne.symm hj] using ih
      | give j =>
          have hheld : j ∈ h := ha
          by_cases hj : j = k
          · subst hj
            simp [Act.next, hheld] at ih ⊢
            omega
          · simpa [Act.next, hj, Ne.symm hj] using ih

end Leases
