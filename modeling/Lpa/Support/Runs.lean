import Mathlib.Data.List.Induction
import Mathlib.Data.List.Infix

/-!
# Support — what holds throughout a run

A run is the list of its steps, and what holds throughout it holds of every prefix.
`throughout_iff_of_invariant` gives the exact condition for a property to hold throughout: where,
as long as the condition has held, an invariant says at each step that the property holds next
exactly if the condition does, the one holds throughout exactly if the other does.

A run of steps that may fail is a `foldlM`: it has no result once a step has none.
-/

namespace Runs

variable {S : Type*} {A P C I : List S → Prop} {run : List S}

/-- `P` holds of every prefix of the run. -/
def Throughout (P : List S → Prop) (run : List S) : Prop := ∀ xs, xs <+: run → P xs

theorem throughout_nil : Throughout P [] ↔ P [] :=
  ⟨fun h => h [] (List.prefix_refl _), fun h _ hxs => List.prefix_nil.mp hxs ▸ h⟩

theorem throughout_concat {s : S} :
    Throughout P (run ++ [s]) ↔ Throughout P run ∧ P (run ++ [s]) := by
  refine ⟨fun h => ⟨fun xs hxs => h xs (hxs.trans (List.prefix_append _ _)),
    h _ (List.prefix_refl _)⟩, fun ⟨h, hs⟩ xs hxs => ?_⟩
  rcases List.prefix_concat_iff.mp hxs with rfl | hxs
  · exact hs
  · exact h xs hxs

/-- What is asked of a run by its last step. -/
theorem forall_concat_iff {Q : List S → S → Prop} {xs : List S} {s : S} :
    (∀ ys t, xs ++ [s] = ys ++ [t] → Q ys t) ↔ Q xs s := by
  refine ⟨fun h => h xs s rfl, fun h ys t e => ?_⟩
  obtain ⟨rfl, rfl⟩ := List.append_singleton_inj.mp e
  exact h

/-- **An invariant** that every step keeps where `C` holds after it. -/
theorem invariant_of_throughout (hA : Throughout A run) (h0 : I [])
    (hinv : ∀ xs s, I xs → A (xs ++ [s]) → C (xs ++ [s]) → I (xs ++ [s]))
    (hC : Throughout C run) : I run := by
  induction run using List.reverseRecOn with
  | nil => exact h0
  | append_singleton xs s ih =>
      obtain ⟨hxs, hs⟩ := throughout_concat.mp hA
      obtain ⟨hC, hCs⟩ := throughout_concat.mp hC
      exact hinv xs s (ih hxs hC) hs hCs

/-- **The exact condition** for `P` to hold throughout. -/
theorem throughout_iff_of_invariant (hA : Throughout A run) (h0 : I []) (hnil : P [] ↔ C [])
    (hstep : ∀ xs s, I xs → A (xs ++ [s]) → (P (xs ++ [s]) ↔ C (xs ++ [s])))
    (hinv : ∀ xs s, I xs → A (xs ++ [s]) → C (xs ++ [s]) → I (xs ++ [s])) :
    Throughout P run ↔ Throughout C run := by
  induction run using List.reverseRecOn with
  | nil => rw [throughout_nil, throughout_nil, hnil]
  | append_singleton xs s ih =>
      obtain ⟨hxs, hs⟩ := throughout_concat.mp hA
      rw [throughout_concat, throughout_concat, ih hxs]
      exact and_congr_right fun hC => hstep xs s (invariant_of_throughout hxs h0 hinv hC) hs

/-- What is asked of the last step alone holds throughout exactly if every step meets it. -/
theorem throughout_last_iff {Q : S → Prop} :
    Throughout (fun xs => ∀ ys s, xs = ys ++ [s] → Q s) run ↔ ∀ s ∈ run, Q s := by
  refine ⟨fun h s hs => ?_, fun h xs hxs ys s e => h s (hxs.subset (by simp [e]))⟩
  obtain ⟨ys, zs, rfl⟩ := List.append_of_mem hs
  exact h (ys ++ [s]) ⟨zs, by simp⟩ ys s rfl

/-! ### Steps that may fail -/

section Partial

variable {E : Type*} {step : S → E → Option S} {J : S → Prop} {es : List E} {s s' : S}

/-- **What every step keeps**, where it succeeds, a run keeps. -/
theorem foldlM_keeps (hstep : ∀ e ∈ es, ∀ s s', J s → step s e = some s' → J s') (hs : J s)
    (hrun : es.foldlM step s = some s') : J s' := by
  induction es generalizing s with
  | nil => cases hrun; exact hs
  | cons e es ih =>
      obtain ⟨s₁, h₁, hrun⟩ := Option.bind_eq_some_iff.mp hrun
      exact ih (fun e he => hstep e (List.mem_cons_of_mem _ he))
        (hstep e List.mem_cons_self s s₁ hs h₁) hrun

section Defined

variable {D : S → E → Prop} (hkeep : ∀ s e s', J s → step s e = some s' → J s')
variable (hstep : ∀ s e, J s → ((step s e).isSome ↔ D s e))

include hkeep hstep in
/-- **A run has a result** exactly if each step, in the state it is taken in, meets the condition
for it to have one. -/
theorem isSome_foldlM_iff (hs : J s) : (es.foldlM step s).isSome ↔
    Throughout (fun xs => ∀ ys e, xs = ys ++ [e] → ∀ s', ys.foldlM step s = some s' → D s' e)
      es := by
  induction es using List.reverseRecOn with
  | nil => simp [throughout_nil]
  | append_singleton es e ih =>
      rw [throughout_concat, ← ih, List.foldlM_append]
      cases hes : es.foldlM step s with
      | none => simp
      | some s' =>
          have hs' : J s' := foldlM_keeps (fun e _ s s' => hkeep s e s') hs hes
          have hlast : (∀ s₁, es.foldlM step s = some s₁ → D s₁ e) ↔ D s' e := by
            simp [hes]
          rw [forall_concat_iff, hlast, ← hstep s' e hs']
          simp

include hkeep hstep in
/-- The same where no step changes the condition for another. -/
theorem isSome_foldlM_iff_forall
    (hstable : ∀ s e s' e', J s → step s e = some s' → (D s' e' ↔ D s e')) (hs : J s) :
    (es.foldlM step s).isSome ↔ ∀ e ∈ es, D s e := by
  induction es generalizing s with
  | nil => simp
  | cons e es ih =>
      rw [List.forall_mem_cons, ← hstep s e hs, List.foldlM_cons]
      cases he : step s e with
      | none => simp
      | some s' =>
          have hiff : ∀ e', D s' e' ↔ D s e' := fun e' => hstable s e s' e' hs he
          simp only [Option.isSome_some, true_and, ← hiff]
          exact ih (hkeep s e s' hs he)

end Defined

end Partial

end Runs
