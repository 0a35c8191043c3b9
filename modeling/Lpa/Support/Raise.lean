import Mathlib.Data.List.Perm.Basic
import Mathlib.Data.List.Infix
import Mathlib.Order.Lattice

/-!
# Support — raising a value by replacing it

`raise c b` keeps `c` where it is above `b` already and takes `b` otherwise: a test of what is
asked for against what is there, and a write of what is asked for alone.  Where the two are
comparable it is the join `c ⊔ b`; elsewhere it loses what `c` has over `b`.

* `le_raise_iff`: one write.
* `lossless_iff`: operations asking for values lose nothing, in whatever order they come, exactly if
  each value is comparable with the first one and those not below it with each other.
* `Orderly.after_eq`: there the order does not matter to the end either.
-/

namespace Raise

variable {α O : Type*} [SemilatticeSup α] {f : O → α} {c : α}

open Classical in
/-- Keep `c` if it is above `b`, and take `b` otherwise. -/
noncomputable def raise (c b : α) : α := if b ≤ c then c else b

/-- The two are comparable. -/
def Comparable (a b : α) : Prop := a ≤ b ∨ b ≤ a

theorem le_raise (c b : α) : b ≤ raise c b := by
  unfold raise
  split
  · assumption
  · exact le_rfl

/-- **One write** loses nothing exactly where the two are comparable. -/
theorem le_raise_iff {b : α} : c ≤ raise c b ↔ Comparable b c := by
  unfold raise Comparable
  split
  · rename_i h
    exact iff_of_true le_rfl (.inl h)
  · rename_i h
    exact ⟨.inr, fun hc => hc.resolve_left h⟩

theorem raise_eq_sup {b : α} (h : Comparable b c) : raise c b = c ⊔ b := by
  unfold raise
  split
  · rename_i hb
    exact (sup_eq_left.mpr hb).symm
  · rename_i hb
    exact (sup_eq_right.mpr (h.resolve_left hb)).symm

/-- The value after the operations `os`, each asking for `f o`. -/
noncomputable def after (f : O → α) (c : α) (os : List O) : α :=
  os.foldl (fun c o => raise c (f o)) c

@[simp] theorem after_nil : after f c [] = c := rfl

@[simp] theorem after_cons (o : O) (os : List O) :
    after f c (o :: os) = after f (raise c (f o)) os := rfl

theorem after_concat (os : List O) (o : O) :
    after f c (os ++ [o]) = raise (after f c os) (f o) := by
  simp [after]

/-- No operation loses anything of the value it finds. -/
def Lossless (f : O → α) (c : α) (os : List O) : Prop :=
  ∀ xs o, xs ++ [o] <+: os → after f c xs ≤ after f c (xs ++ [o])

theorem lossless_cons {o : O} {os : List O} :
    Lossless f c (o :: os) ↔ c ≤ raise c (f o) ∧ Lossless f (raise c (f o)) os := by
  refine ⟨fun h => ⟨?_, fun xs o' hxs => ?_⟩, fun ⟨ho, h⟩ xs o' hxs => ?_⟩
  · exact h [] o (by simp)
  · exact h (o :: xs) o' (List.cons_prefix_cons.mpr ⟨rfl, hxs⟩)
  · cases xs with
    | nil =>
        obtain ⟨rfl, -⟩ := List.cons_prefix_cons.mp hxs
        exact ho
    | cons x xs =>
        obtain ⟨rfl, htail⟩ := List.cons_prefix_cons.mp hxs
        exact h xs o' htail

/-- What is asked of the values for all orders of the operations: each is comparable with `c`, and
those not below `c` with each other. -/
def Orderly (f : O → α) (c : α) (os : List O) : Prop :=
  (∀ o ∈ os, Comparable (f o) c) ∧
    ∀ o ∈ os, ∀ o' ∈ os, ¬ f o ≤ c → ¬ f o' ≤ c → Comparable (f o') (f o)

theorem Orderly.of_perm {os os' : List O} (h : Orderly f c os) (hp : os'.Perm os) :
    Orderly f c os' :=
  ⟨fun o ho => h.1 o (hp.subset ho), fun o ho o' ho' => h.2 o (hp.subset ho) o' (hp.subset ho')⟩

/-- One operation leaves the others orderly. -/
theorem Orderly.tail {o : O} {os : List O} (h : Orderly f c (o :: os)) :
    Orderly f (raise c (f o)) os := by
  obtain ⟨hc, hpair⟩ := h
  have mem : ∀ {x}, x ∈ os → x ∈ o :: os := List.mem_cons_of_mem _
  unfold raise
  split
  · exact ⟨fun x hx => hc x (mem hx), fun x hx y hy => hpair x (mem hx) y (mem hy)⟩
  · rename_i ho
    have hco : c ≤ f o := (hc o List.mem_cons_self).resolve_left ho
    refine ⟨fun x hx => ?_, fun x hx y hy hxo hyo => ?_⟩
    · by_cases hxc : f x ≤ c
      · exact .inl (hxc.trans hco)
      · exact hpair o List.mem_cons_self x (mem hx) ho hxc
    · -- what is not below `f o` is not below `c` either
      exact hpair x (mem hx) y (mem hy) (fun h => hxo (h.trans hco)) fun h => hyo (h.trans hco)

theorem Orderly.lossless {os : List O} (h : Orderly f c os) : Lossless f c os := by
  induction os generalizing c with
  | nil => exact fun xs o hxs => by simp at hxs
  | cons o os ih =>
      exact lossless_cons.mpr ⟨le_raise_iff.mpr (h.1 o List.mem_cons_self), ih h.tail⟩

/-- **The exact condition** for no order of the operations to lose anything. -/
theorem lossless_iff {os : List O} :
    (∀ os', os'.Perm os → Lossless f c os') ↔ Orderly f c os := by
  refine ⟨fun h => ⟨fun o ho => ?_, fun o ho o' ho' hoc hoc' => ?_⟩,
    fun h os' hp => (h.of_perm hp).lossless⟩
  · -- `o` first
    obtain ⟨s, t, rfl⟩ := List.append_of_mem ho
    exact le_raise_iff.mp (lossless_cons.mp (h _ List.perm_middle.symm)).1
  · obtain ⟨s, t, rfl⟩ := List.append_of_mem ho
    rcases List.mem_cons.mp (List.perm_middle.subset ho') with rfl | ho'
    · exact .inl le_rfl
    · -- `o` first, and `o'` next
      obtain ⟨s', t', hst⟩ := List.append_of_mem ho'
      have hp : (o :: o' :: (s' ++ t')).Perm (s ++ o :: t) := by
        refine (List.Perm.cons o ?_).trans List.perm_middle.symm
        rw [hst]
        exact List.perm_middle.symm
      have hlast := (lossless_cons.mp (lossless_cons.mp (h _ hp)).2).1
      have hfirst : raise c (f o) = f o := if_neg hoc
      rw [hfirst] at hlast
      exact le_raise_iff.mp hlast

theorem Lossless.after_eq {os : List O} (h : Lossless f c os) :
    after f c os = os.foldl (fun c o => c ⊔ f o) c := by
  induction os generalizing c with
  | nil => rfl
  | cons o os ih =>
      obtain ⟨ho, hos⟩ := lossless_cons.mp h
      rw [after_cons, ih hos, raise_eq_sup (le_raise_iff.mp ho)]
      rfl

/-- **The order does not matter** where none loses anything. -/
theorem Orderly.after_eq {os os' : List O} (h : Orderly f c os) (hp : os'.Perm os) :
    after f c os' = after f c os := by
  rw [h.lossless.after_eq, (h.of_perm hp).lossless.after_eq]
  exact hp.foldl_eq' (fun o _ o' _ c => sup_right_comm c (f o) (f o')) c

end Raise
