import Lpa.Support.Interference
import Mathlib.Data.List.Induction

/-!
# Support — monitors

A monitor watches the calls of a program: it has a state, says which calls it allows there, and
moves on with every call and its answer.  The environment's steps do not move it.

* `Monitor.Accepts h`: every call of the history was made where the monitor allows it.
* `Follows`: no run of the program makes a call the monitor does not allow, and at every call the
  states of the monitor and of the world are coupled.
* `Follows.accepts`: the history of every run of a program that follows the monitor is accepted.

A program is followed call by call (`Follows.call`); a part of it that leaves the monitor where it
is, whatever the answers, in one step (`Follows.silent`).
-/

open Prog (Label Config Reach Safe Stable)

/-- Which calls are allowed in a state, and where a call with its answer leads. -/
structure Monitor (Op : Type) (Res : Op → Type) where
  State : Type
  start : State
  allows : State → Op → Prop
  next : State → (o : Op) → Res o → State

namespace Monitor

variable {Op : Type} {Res : Op → Type} {E S α β : Type} (m : Monitor Op Res)

/-- One label of a history. -/
def step (q : m.State) : Label Op Res E → m.State
  | .call o r => m.next q o r
  | .env _ => q

/-- The monitor's state after a history. -/
def after (h : List (Label Op Res E)) : m.State := h.foldl m.step m.start

/-- Every call was made where the monitor allows it. -/
def Accepts (h : List (Label Op Res E)) : Prop :=
  ∀ h₁ o r h₂, h = h₁ ++ .call o r :: h₂ → m.allows (m.after h₁) o

variable {m} {h : List (Label Op Res E)}

@[simp] theorem after_nil : m.after ([] : List (Label Op Res E)) = m.start := rfl

@[simp] theorem after_call (o : Op) (r : Res o) :
    m.after (h ++ [.call o r]) = m.next (m.after h) o r := by
  simp [after, step]

@[simp] theorem after_env (e : E) : m.after (h ++ [.env e]) = m.after h := by
  simp [after, step]

theorem accepts_nil : m.Accepts ([] : List (Label Op Res E)) := by
  intro h₁ o r h₂ e
  simp at e

/-- The last call is allowed after what came before it, which is accepted. -/
theorem accepts_concat {l : Label Op Res E} :
    m.Accepts (h ++ [l]) ↔ m.Accepts h ∧ ∀ o r, l = .call o r → m.allows (m.after h) o := by
  constructor
  · intro hacc
    refine ⟨fun h₁ o r h₂ e => hacc h₁ o r (h₂ ++ [l]) (by simp [e]), fun o r e => ?_⟩
    exact hacc h o r [] (by rw [e])
  · rintro ⟨hacc, hl⟩ h₁ o r h₂ e
    rcases List.eq_nil_or_concat h₂ with rfl | ⟨h₃, l', rfl⟩
    · obtain ⟨rfl, rfl⟩ := List.append_singleton_inj.mp e
      exact hl o r rfl
    · have e' : h ++ [l] = (h₁ ++ .call o r :: h₃) ++ [l'] := by simp [e]
      obtain ⟨rfl, -⟩ := List.append_singleton_inj.mp e'
      exact hacc h₁ o r h₃ rfl

/-! ### Programs that follow a monitor -/

section Follows

variable (sem : (o : Op) → S → Res o → S → Prop) (env : E → S → S → Prop)
variable (m) (C : m.State → S → Prop)

/-- At its calls every run of `p` is where the monitor allows the call and the states are coupled,
and at its end in `Q`. -/
def Follows (Q : α → List (Label Op Res E) → S → Prop) (p : Prog Op Res α)
    (h : List (Label Op Res E)) (s : S) : Prop :=
  Safe sem env (fun o h s => m.allows (m.after h) o ∧ C (m.after h) s) Q p h s

/-- The monitor is in `q`, the world in a state with `K`. -/
def At (q : m.State) (K : S → Prop) (h : List (Label Op Res E)) (s : S) : Prop :=
  m.after h = q ∧ K s

/-- A call that is allowed in `q` and leaves the monitor there, and the world in `K`. -/
def Silent (q : m.State) (K : S → Prop) (o : Op) : Prop :=
  m.allows q o ∧ (∀ r, m.next q o r = q) ∧ ∀ s r s', K s → sem o s r s' → K s'

/-- No step of the environment leads out of `K`. -/
def Kept (K : S → Prop) : Prop := ∀ e s s', K s → env e s s' → K s'

variable {sem env m C} {h : List (Label Op Res E)} {s : S} {q : m.State} {K : S → Prop}

theorem At.stable (hK : Kept env K) : Stable env (m.At q K) := by
  rintro e h s s' ⟨hq, hk⟩ he
  exact ⟨(after_env e).trans hq, hK e s s' hk he⟩

/-- **Every run is accepted**, if the program follows the monitor. -/
theorem Follows.accepts {Q : α → List (Label Op Res E) → S → Prop} {p : Prog Op Res α}
    (hp : m.Follows sem env C Q p h s) (hacc : m.Accepts h) {c : Config Op Res E S α}
    (hrun : Reach sem env ⟨p, h, s⟩ c) : m.Accepts c.hist := by
  induction hrun with
  | refl => exact hacc
  | @tail c₁ c₂ hrun hstep ih =>
      cases hstep with
      | @call o k h₁ s₁ s₂ r hs =>
          refine accepts_concat.mpr ⟨ih, fun o' r' e => ?_⟩
          cases e
          exact ((hp _ hrun).1 o k rfl).1
      | iter => exact ih
      | env he => exact accepts_concat.mpr ⟨ih, fun o r e => by cases e⟩

theorem Follows.ret {Q : α → List (Label Op Res E) → S → Prop} {a : α}
    (hst : Stable env (Q a)) (hQ : Q a h s) : m.Follows sem env C Q (.ret a) h s :=
  Safe.ret hst hQ

theorem Follows.bind {Q : β → List (Label Op Res E) → S → Prop} {p : Prog Op Res α}
    {f : α → Prog Op Res β} {R : α → List (Label Op Res E) → S → Prop}
    (hp : m.Follows sem env C R p h s)
    (hf : ∀ a h s, R a h s → m.Follows sem env C Q (f a) h s) :
    m.Follows sem env C Q (p.bind f) h s :=
  Safe.bind R hp hf

theorem Follows.mono {Q Q' : α → List (Label Op Res E) → S → Prop} {p : Prog Op Res α}
    (hp : m.Follows sem env C Q p h s) (hQ : ∀ a h s, Q a h s → Q' a h s) :
    m.Follows sem env C Q' p h s :=
  Safe.mono hp (fun _ _ _ h => h) hQ

theorem Follows.yields {P : α → Prop} {Q : α → List (Label Op Res E) → S → Prop}
    {p : Prog Op Res α} (hy : p.Yields P) (hp : m.Follows sem env C Q p h s) :
    m.Follows sem env C (fun a h s => P a ∧ Q a h s) p h s :=
  Safe.yields hy hp

/-- **A call** that is allowed, and what it makes of the monitor and the world. -/
theorem Follows.call {Q : α → List (Label Op Res E) → S → Prop} {o : Op}
    {k : Res o → Prog Op Res α} (K' : Res o → S → Prop) (hK : Kept env K)
    (hat : m.At q K h s) (ho : m.allows q o) (hC : ∀ s, K s → C q s)
    (hsem : ∀ s r s', K s → sem o s r s' → K' r s')
    (hk : ∀ r h s, m.At (m.next q o r) (K' r) h s → m.Follows sem env C Q (k r) h s) :
    m.Follows sem env C Q (.call o k) h s := by
  refine Safe.call (m.At q K) (At.stable hK) hat ?_ ?_
  · rintro h s ⟨rfl, hks⟩
    exact ⟨ho, hC s hks⟩
  · rintro h s r s' ⟨rfl, hks⟩ hs
    exact hk r _ _ ⟨after_call o r, hsem s r s' hks hs⟩

/-- **A silent part**: the monitor stays where it is. -/
theorem Follows.silent {p : Prog Op Res α} (hp : p.Calls (m.Silent sem q K)) (hK : Kept env K)
    (hC : ∀ s, K s → C q s) (hat : m.At q K h s) :
    m.Follows sem env C (fun _ => m.At q K) p h s := by
  refine Safe.frame hp (At.stable hK) ?_ ?_ hat
  · rintro o h s ⟨ho, -⟩ ⟨rfl, hk⟩
    exact ⟨ho, hC s hk⟩
  · rintro o h s r s' ⟨-, hnext, hkeep⟩ ⟨hq, hk⟩ hs
    exact ⟨(after_call o r).trans (hq ▸ hnext r), hkeep s r s' hk hs⟩

end Follows

end Monitor
