import Mathlib.Data.Option.Basic
import Mathlib.Data.Nat.Notation

/-!
# Support — a recursive mutex

A mutex that its owner may take again: it is free, or a thread holds it, some number of times over.
`take` has no result where the thread has to wait; `give` by a thread that does not hold the mutex
does nothing.  What one thread does with the mutex is no matter of another's (`Apart`).
-/

/-- A recursive mutex of the threads `T`: its owner, and how many times it has been taken again. -/
abbrev Mutex (T : Type) := Option (T × ℕ)

namespace Mutex

variable {T : Type}

/-- The thread that holds the mutex. -/
def owner (m : Mutex T) : Option T := m.map Prod.fst

@[simp] theorem owner_none : owner (none : Mutex T) = none := rfl

@[simp] theorem owner_some (t : T) (n : ℕ) : owner (some (t, n)) = some t := rfl

/-- As far as `t` can tell, the mutex is as before: nothing has changed, or `t` holds it neither
before nor after. -/
def Apart (t : T) (m m' : Mutex T) : Prop :=
  m' = m ∨ m.owner ≠ some t ∧ m'.owner ≠ some t

theorem Apart.refl (t : T) (m : Mutex T) : Apart t m m := .inl rfl

/-- Whether a thread holds the mutex is its own matter. -/
theorem Apart.owner_iff {t : T} {m m' : Mutex T} (h : Apart t m m') :
    m'.owner = some t ↔ m.owner = some t := by
  rcases h with rfl | ⟨hm, hm'⟩
  · rfl
  · exact ⟨fun e => absurd e hm', fun e => absurd e hm⟩

variable [DecidableEq T]

/-- The mutex taken by `t`, unless another thread holds it. -/
def take (t : T) : Mutex T → Option (Mutex T)
  | none => some (some (t, 0))
  | some (u, n) => if u = t then some (some (u, n + 1)) else none

/-- The mutex given back by `t`, once. -/
def give (t : T) : Mutex T → Mutex T
  | none => none
  | some (u, 0) => if u = t then none else some (u, 0)
  | some (u, n + 1) => if u = t then some (u, n) else some (u, n + 1)

variable {t u : T} {m m' : Mutex T}

/-- What is given back by its only holder is free. -/
@[simp] theorem give_last : give t (some (t, 0)) = none := if_pos rfl

/-- Nobody gives back what he does not hold. -/
theorem give_of_not_owner (h : m.owner ≠ some t) : give t m = m := by
  match m with
  | none => rfl
  | some (u, 0) => exact if_neg fun e => h (congrArg some e)
  | some (u, n + 1) => exact if_neg fun e => h (congrArg some e)

/-- A thread that does not hold the mutex takes it once, and only when it is free. -/
theorem take_of_not_owner (h : m.owner ≠ some t) (ht : take t m = some m') :
    m = none ∧ m' = some (t, 0) := by
  cases m with
  | none => exact ⟨rfl, (Option.some.inj ht).symm⟩
  | some p =>
      obtain ⟨u, n⟩ := p
      have hne : u ≠ t := fun e => h (congrArg some e)
      simp [take, hne] at ht

/-- A thread that has to wait waits for another one. -/
theorem take_eq_none (ht : take t m = none) : ∃ u, u ≠ t ∧ m.owner = some u := by
  cases m with
  | none => cases ht
  | some p =>
      obtain ⟨u, n⟩ := p
      refine ⟨u, fun hu => ?_, rfl⟩
      simp [take, hu] at ht

/-- The thread that has taken the mutex holds it. -/
theorem take_owner (ht : take t m = some m') : m'.owner = some t := by
  cases m with
  | none => exact Option.some.inj ht ▸ rfl
  | some p =>
      obtain ⟨u, n⟩ := p
      by_cases hu : u = t
      · obtain rfl : some (u, n + 1) = m' := by simpa [take, hu] using ht
        exact congrArg some hu
      · simp [take, hu] at ht

/-- Taking the mutex is no matter of another thread's. -/
theorem take_apart (hne : u ≠ t) (ht : take t m = some m') : Apart u m m' := by
  by_cases ho : m.owner = some t
  · exact .inr ⟨by simpa [ho] using hne.symm, by simpa [take_owner ht] using hne.symm⟩
  · obtain ⟨rfl, rfl⟩ := take_of_not_owner ho ht
    exact .inr ⟨by simp, by simpa using hne.symm⟩

/-- Nor is giving it back. -/
theorem give_apart (hne : u ≠ t) : Apart u m (give t m) := by
  by_cases ho : m.owner = some t
  · refine .inr ⟨by simpa [ho] using hne.symm, ?_⟩
    match m, ho with
    | some (_, 0), rfl => simp
    | some (_, n + 1), rfl => simpa [give] using hne.symm
  · exact .inl (give_of_not_owner ho)

end Mutex
