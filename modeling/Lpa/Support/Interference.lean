import Lpa.Support.Program

/-!
# Support — programs under interference

A program runs against a meaning of its calls, `sem`, and between any two of its steps the
environment may take steps of its own, `env`.  The run keeps its history: the calls with their
answers and the environment's events, in order.

`Safe J Q p h s` says of every run of `p` from the state `s` after the history `h`: whenever the
program is about to make the call `o`, `J o` holds, and whenever it has returned `a`, `Q a`
holds.  It is established along the program: at a call, by an assertion that the environment
cannot break (`Stable`) and what the call makes of it (`Safe.call`); at a `bind`, by the first
part's postcondition (`Safe.bind`); at a loop, by an invariant (`Safe.iter`).  What no call of a
program touches holds after it if it did before (`Safe.frame`).  Where there is no environment every
assertion is stable (`stable_alone`).

`Config.exec` and `Config.disturb` make up one run, computed from the answers to the calls.
-/

namespace Prog

variable {Op : Type} {Res : Op → Type} {E S α β γ : Type}

/-- What a run has seen: a call and its answer, or a step of the environment. -/
inductive Label (Op : Type) (Res : Op → Type) (E : Type) where
  | call (o : Op) (r : Res o)
  | env (e : E)

/-- A program in the middle of a run. -/
structure Config (Op : Type) (Res : Op → Type) (E S α : Type) where
  prog : Prog Op Res α
  hist : List (Label Op Res E)
  st : S

section Runs

variable (sem : (o : Op) → S → Res o → S → Prop) (env : E → S → S → Prop)

/-- One step of the program or of its environment. -/
inductive Step : Config Op Res E S α → Config Op Res E S α → Prop where
  | call {o : Op} {k : Res o → Prog Op Res α} {h : List (Label Op Res E)} {s s' : S} {r : Res o}
      (hs : sem o s r s') : Step ⟨.call o k, h, s⟩ ⟨k r, h ++ [.call o r], s'⟩
  | iter {β : Type} {b : Prog Op Res (Option β)} {k : β → Prog Op Res α}
      {h : List (Label Op Res E)} {s : S} : Step ⟨.iter b k, h, s⟩ ⟨unroll b k, h, s⟩
  | env {p : Prog Op Res α} {h : List (Label Op Res E)} {s s' : S} {e : E}
      (hs : env e s s') : Step ⟨p, h, s⟩ ⟨p, h ++ [.env e], s'⟩

/-- The configurations a run reaches. -/
def Reach (c c' : Config Op Res E S α) : Prop := Relation.ReflTransGen (Step sem env) c c'

/-- An assertion on the history and the state that no step of the environment breaks. -/
def Stable (P : List (Label Op Res E) → S → Prop) : Prop :=
  ∀ e h s s', P h s → env e s s' → P (h ++ [.env e]) s'

/-- Every run of `p` from `h` and `s` meets `J` at its calls and `Q` at its end. -/
def Safe (J : Op → List (Label Op Res E) → S → Prop)
    (Q : α → List (Label Op Res E) → S → Prop)
    (p : Prog Op Res α) (h : List (Label Op Res E)) (s : S) : Prop :=
  ∀ c : Config Op Res E S α, Reach sem env ⟨p, h, s⟩ c →
    (∀ o k, c.prog = .call o k → J o c.hist c.st) ∧ ∀ a, c.prog = .ret a → Q a c.hist c.st

end Runs

variable {sem : (o : Op) → S → Res o → S → Prop} {env : E → S → S → Prop}
variable {J J' : Op → List (Label Op Res E) → S → Prop}
variable {h : List (Label Op Res E)} {s : S}

/-! ### Runs -/

/-- **A run of `p.bind f`** is a run of `p`, followed, once `p` has returned, by one of `f`. -/
theorem reach_bind {p : Prog Op Res α} {f : α → Prog Op Res β} {c : Config Op Res E S β}
    (hr : Reach sem env ⟨p.bind f, h, s⟩ c) :
    (∃ p', c.prog = p'.bind f ∧ Reach sem env ⟨p, h, s⟩ ⟨p', c.hist, c.st⟩) ∨
      ∃ a h₁ s₁, Reach sem env ⟨p, h, s⟩ ⟨.ret a, h₁, s₁⟩ ∧ Reach sem env ⟨f a, h₁, s₁⟩ c := by
  induction hr with
  | refl => exact .inl ⟨p, rfl, .refl⟩
  | @tail c₁ c₂ _ hst ih =>
      obtain ⟨q, h₁, s₁⟩ := c₁
      rcases ih with ⟨p', e, hp⟩ | ⟨a, h₂, s₂, hp, hf⟩
      · dsimp only at e hp
        subst e
        cases p' with
        | ret a => exact .inr ⟨a, h₁, s₁, hp, .single hst⟩
        | call o k =>
            cases hst with
            | call hs => exact .inl ⟨_, rfl, hp.tail (.call hs)⟩
            | env hs => exact .inl ⟨_, rfl, hp.tail (.env hs)⟩
        | iter b k =>
            cases hst with
            | iter => exact .inl ⟨_, (unroll_bind b k f).symm, hp.tail .iter⟩
            | env hs => exact .inl ⟨_, rfl, hp.tail (.env hs)⟩
      · exact .inr ⟨a, h₂, s₂, hp, hf.tail hst⟩

/-- A safe program stays safe along its runs. -/
theorem Safe.step {Q : α → List (Label Op Res E) → S → Prop} {c c' : Config Op Res E S α}
    (hc : Safe sem env J Q c.prog c.hist c.st) (hs : Step sem env c c') :
    Safe sem env J Q c'.prog c'.hist c'.st :=
  fun _ hr => hc _ (.head hs hr)

/-! ### The rules -/

theorem Safe.mono {Q Q' : α → List (Label Op Res E) → S → Prop} {p : Prog Op Res α}
    (hp : Safe sem env J Q p h s) (hJ : ∀ o h s, J o h s → J' o h s)
    (hQ : ∀ a h s, Q a h s → Q' a h s) : Safe sem env J' Q' p h s :=
  fun c hc => ⟨fun o k e => hJ _ _ _ ((hp c hc).1 o k e), fun a e => hQ _ _ _ ((hp c hc).2 a e)⟩

theorem Safe.and {Q Q' : α → List (Label Op Res E) → S → Prop} {p : Prog Op Res α}
    (hp : Safe sem env J Q p h s) (hp' : Safe sem env J Q' p h s) :
    Safe sem env J (fun a h s => Q a h s ∧ Q' a h s) p h s :=
  fun c hc => ⟨(hp c hc).1, fun a e => ⟨(hp c hc).2 a e, (hp' c hc).2 a e⟩⟩

/-- A program paused at a call it makes, or at its end. -/
def Config.Paused (c : Config Op Res E S α) : Prop :=
  (∃ o k, c.prog = .call o k) ∨ ∃ a, c.prog = .ret a

/-- What holds at the calls and the end of every run holds wherever a run pauses. -/
theorem Safe.paused {P : List (Label Op Res E) → S → Prop} {p : Prog Op Res α}
    (hp : Safe sem env (fun _ => P) (fun _ => P) p h s) {c : Config Op Res E S α}
    (hr : Reach sem env ⟨p, h, s⟩ c) (hc : c.Paused) : P c.hist c.st := by
  rcases hc with ⟨o, k, e⟩ | ⟨a, e⟩
  · exact (hp c hr).1 o k e
  · exact (hp c hr).2 a e

/-- At its end a program meets a postcondition the environment cannot break. -/
theorem Safe.ret {Q : α → List (Label Op Res E) → S → Prop} {a : α} (hst : Stable env (Q a))
    (hQ : Q a h s) : Safe sem env J Q (.ret a) h s := by
  intro c hc
  have key : c.prog = .ret a ∧ Q a c.hist c.st := by
    induction hc with
    | refl => exact ⟨rfl, hQ⟩
    | @tail c₁ c₂ _ hs ih =>
        obtain ⟨q, h₁, s₁⟩ := c₁
        obtain ⟨e, hq⟩ := ih
        dsimp only at e hq
        subst e
        cases hs with
        | env hs => exact ⟨rfl, hst _ _ _ _ hq hs⟩
  refine ⟨fun o k e => ?_, fun b e => ?_⟩
  · rw [key.1] at e; cases e
  · rw [key.1] at e; cases e; exact key.2

/-- **A call**, at an assertion `P` the environment cannot break: `P` implies what is asked at
the call, and the rest of the program is safe from whatever the call makes of `P`. -/
theorem Safe.call {Q : α → List (Label Op Res E) → S → Prop} {o : Op}
    {k : Res o → Prog Op Res α} (P : List (Label Op Res E) → S → Prop) (hst : Stable env P)
    (hP : P h s) (hJ : ∀ h s, P h s → J o h s)
    (hk : ∀ h s r s', P h s → sem o s r s' → Safe sem env J Q (k r) (h ++ [.call o r]) s') :
    Safe sem env J Q (.call o k) h s := by
  intro c hc
  -- up to the call only the environment moves; from the call on, the continuation's own runs
  have key : (c.prog = .call o k ∧ P c.hist c.st) ∨
      ((∀ o k, c.prog = .call o k → J o c.hist c.st) ∧ ∀ a, c.prog = .ret a → Q a c.hist c.st) ∧
        Safe sem env J Q c.prog c.hist c.st := by
    induction hc with
    | refl => exact .inl ⟨rfl, hP⟩
    | @tail c₁ c₂ _ hs ih =>
        obtain ⟨q, h₁, s₁⟩ := c₁
        rcases ih with ⟨e, hp⟩ | ⟨-, hsafe⟩
        · dsimp only at e hp
          subst e
          cases hs with
          | call hs =>
              have hsafe := hk _ _ _ _ hp hs
              exact .inr ⟨hsafe _ .refl, hsafe⟩
          | env hs => exact .inl ⟨rfl, hst _ _ _ _ hp hs⟩
        · have hsafe' : Safe sem env J Q c₂.prog c₂.hist c₂.st :=
            fun c hc => hsafe c (.head hs hc)
          exact .inr ⟨hsafe' _ .refl, hsafe'⟩
  rcases key with ⟨e, hp⟩ | ⟨hc, -⟩
  · refine ⟨fun o' k' e' => ?_, fun a e' => ?_⟩
    · rw [e] at e'; cases e'; exact hJ _ _ hp
    · rw [e] at e'; cases e'
  · exact hc

/-- **Sequencing**: the first part's postcondition is the second part's precondition. -/
theorem Safe.bind {Q : β → List (Label Op Res E) → S → Prop} {p : Prog Op Res α}
    {f : α → Prog Op Res β} (R : α → List (Label Op Res E) → S → Prop)
    (hp : Safe sem env J R p h s) (hf : ∀ a h s, R a h s → Safe sem env J Q (f a) h s) :
    Safe sem env J Q (p.bind f) h s := by
  intro c hc
  obtain ⟨q, h₁, s₁⟩ := c
  rcases reach_bind hc with ⟨p', e, hr⟩ | ⟨a, h₂, s₂, hr, hr'⟩
  · dsimp only at e hr
    subst e
    cases p' with
    | ret a => exact hf a h₁ s₁ ((hp _ hr).2 a rfl) _ .refl
    | call o k =>
        refine ⟨fun o' k' e' => ?_, fun a e' => by cases e'⟩
        cases e'
        exact (hp _ hr).1 o k rfl
    | iter b k => exact ⟨fun o k e' => (by cases e'), fun a e' => (by cases e')⟩
  · exact hf a h₂ s₂ ((hp _ hr).2 a rfl) _ hr'

section Loop

variable {Q : α → List (Label Op Res E) → S → Prop} {b : Prog Op Res (Option β)}
variable {k : β → Prog Op Res α} {I : List (Label Op Res E) → S → Prop}
variable {M : β → List (Label Op Res E) → S → Prop}

/-- A pass of the body ends in `I` to go round again, in `M x` to yield `x`. -/
def passPost (I : List (Label Op Res E) → S → Prop) (M : β → List (Label Op Res E) → S → Prop) :
    Option β → List (Label Op Res E) → S → Prop
  | none => I
  | some x => M x

/-- Where a run of `iter b k` is: at the head of the loop, in a pass of the body, or past the
loop. -/
inductive InLoop (sem : (o : Op) → S → Res o → S → Prop) (env : E → S → S → Prop)
    (J : Op → List (Label Op Res E) → S → Prop) (Q : α → List (Label Op Res E) → S → Prop)
    (b : Prog Op Res (Option β)) (k : β → Prog Op Res α) (I : List (Label Op Res E) → S → Prop)
    (M : β → List (Label Op Res E) → S → Prop) : Config Op Res E S α → Prop where
  | head {h : List (Label Op Res E)} {s : S} (hi : I h s) :
      InLoop sem env J Q b k I M ⟨.iter b k, h, s⟩
  | pass {p : Prog Op Res (Option β)} {h : List (Label Op Res E)} {s : S}
      (hp : Safe sem env J (passPost I M) p h s) :
      InLoop sem env J Q b k I M ⟨p.bind (next b k), h, s⟩
  | past {p : Prog Op Res α} {h : List (Label Op Res E)} {s : S} (hp : Safe sem env J Q p h s) :
      InLoop sem env J Q b k I M ⟨p, h, s⟩

theorem InLoop.step_head (hst : Stable env I)
    (hb : ∀ h s, I h s → Safe sem env J (passPost I M) b h s) (hi : I h s)
    {c : Config Op Res E S α} (hs : Step sem env ⟨.iter b k, h, s⟩ c) :
    InLoop sem env J Q b k I M c := by
  cases hs with
  | iter => exact .pass (hb _ _ hi)
  | env hs => exact .head (hst _ _ _ _ hi hs)

theorem InLoop.step (hst : Stable env I)
    (hb : ∀ h s, I h s → Safe sem env J (passPost I M) b h s)
    (hk : ∀ x h s, M x h s → Safe sem env J Q (k x) h s) {c c' : Config Op Res E S α}
    (hc : InLoop sem env J Q b k I M c) (hs : Step sem env c c') :
    InLoop sem env J Q b k I M c' := by
  cases hc with
  | head hi => exact .step_head hst hb hi hs
  | @pass p h s hp =>
      cases p with
      | ret x =>
          have hx := (hp _ .refl).2 x rfl
          cases x with
          | none => exact .step_head hst hb hx hs
          | some y => exact .past ((hk y _ _ hx).step hs)
      | call o k' =>
          cases hs with
          | call hs => exact .pass (hp.step (.call hs))
          | env hs => exact .pass (p := .call o k') (hp.step (.env hs))
      | iter b' k' =>
          cases hs with
          | iter => exact unroll_bind b' k' (next b k) ▸ .pass (hp.step .iter)
          | env hs => exact .pass (p := .iter b' k') (hp.step (.env hs))
  | past hp => exact .past (hp.step hs)

/-- **A loop**, at an invariant `I` the environment cannot break: a pass of the body that starts
in `I` ends in `I` if it goes round again, and in `M x` if it yields `x`. -/
theorem Safe.iter (I : List (Label Op Res E) → S → Prop)
    (M : β → List (Label Op Res E) → S → Prop) (hst : Stable env I) (hI : I h s)
    (hb : ∀ h s, I h s → Safe sem env J (passPost I M) b h s)
    (hk : ∀ x h s, M x h s → Safe sem env J Q (k x) h s) :
    Safe sem env J Q (.iter b k) h s := by
  intro c hc
  have key : InLoop sem env J Q b k I M c := by
    induction hc with
    | refl => exact .head hI
    | tail _ hs ih => exact ih.step hst hb hk hs
  cases key with
  | head => exact ⟨fun o k e => (by cases e), fun a e => (by cases e)⟩
  | past hp => exact hp _ .refl
  | @pass p h₁ s₁ hp =>
      cases p with
      | ret x =>
          cases x with
          | none => exact ⟨fun o k e => (by cases e), fun a e => (by cases e)⟩
          | some y => exact hk y _ _ ((hp _ .refl).2 _ rfl) _ .refl
      | call o k' =>
          refine ⟨fun o' k'' e => ?_, fun a e => (by cases e)⟩
          cases e
          exact (hp _ .refl).1 o k' rfl
      | iter b' k' => exact ⟨fun o k e => (by cases e), fun a e => (by cases e)⟩

end Loop

/-- **The frame rule**: what no call among `N` breaks, and the environment does not, holds after
a program whose calls are among `N`. -/
theorem Safe.frame {N : Op → Prop} {P : List (Label Op Res E) → S → Prop} {p : Prog Op Res α}
    (hp : p.Calls N) (hst : Stable env P) (hJ : ∀ o h s, N o → P h s → J o h s)
    (hcall : ∀ o h s r s', N o → P h s → sem o s r s' → P (h ++ [.call o r]) s') (hP : P h s) :
    Safe sem env J (fun _ => P) p h s := by
  induction p generalizing h s with
  | ret a => exact .ret hst hP
  | call o k ih =>
      refine .call P hst hP (hJ o · · hp.1) fun h s r s' hP hs => ?_
      exact ih r (hp.2 r) (hcall o h s r s' hp.1 hP hs)
  | iter b k ihb ihk =>
      refine .iter P (fun _ => P) hst hP (fun h s hP => ?_) fun x h s hP => ihk x (hp.2 x) hP
      refine (ihb hp.1 hP).mono (fun _ _ _ hJ => hJ) fun x h s hP => ?_
      cases x <;> exact hP

/-- **An invariant** that no call and no step of the environment breaks holds along every run,
whatever the program. -/
theorem Reach.invariant {I : List (Label Op Res E) → S → Prop} {c c' : Config Op Res E S α}
    (hcall : ∀ o h s r s', I h s → sem o s r s' → I (h ++ [.call o r]) s') (hst : Stable env I)
    (hr : Reach sem env c c') (hI : I c.hist c.st) : I c'.hist c'.st := by
  induction hr with
  | refl => exact hI
  | tail _ hs ih =>
      cases hs with
      | call hs => exact hcall _ _ _ _ _ ih hs
      | iter => exact ih
      | env hs => exact hst _ _ _ _ ih hs

/-- What a program returns in a run is among what it may return. -/
theorem yields_of_reach {P : α → Prop} {p : Prog Op Res α} (hp : p.Yields P)
    {c : Config Op Res E S α} (hr : Reach sem env ⟨p, h, s⟩ c) : c.prog.Yields P := by
  induction hr with
  | refl => exact hp
  | tail _ hs ih =>
      cases hs with
      | call => exact ih _
      | iter => exact ih.unroll
      | env => exact ih

theorem Safe.yields {P : α → Prop} {Q : α → List (Label Op Res E) → S → Prop}
    {p : Prog Op Res α} (hp : p.Yields P) (hsafe : Safe sem env J Q p h s) :
    Safe sem env J (fun a h s => P a ∧ Q a h s) p h s := by
  refine fun c hr => ⟨(hsafe c hr).1, fun a e => ⟨?_, (hsafe c hr).2 a e⟩⟩
  have hc := yields_of_reach hp hr
  rw [e] at hc
  exact hc

/-! ### Executing a program -/

/-- `n` steps of the program by itself, `answer` giving each call's answer and the state after. -/
def Config.exec (answer : (o : Op) → List (Label Op Res E) → S → Res o × S) :
    ℕ → Config Op Res E S α → Config Op Res E S α
  | 0,     c => c
  | n + 1, ⟨.ret a, h, s⟩ => exec answer n ⟨.ret a, h, s⟩
  | n + 1, ⟨.call o k, h, s⟩ =>
      exec answer n ⟨k (answer o h s).1, h ++ [.call o (answer o h s).1], (answer o h s).2⟩
  | n + 1, ⟨.iter b k, h, s⟩ => exec answer n ⟨unroll b k, h, s⟩

/-- Whether the calls of the next `n` steps are made where `ok` says they may be. -/
def Config.legal (ok : Op → S → Bool)
    (answer : (o : Op) → List (Label Op Res E) → S → Res o × S) :
    ℕ → Config Op Res E S α → Bool
  | 0,     _ => true
  | n + 1, ⟨.ret a, h, s⟩ => legal ok answer n ⟨.ret a, h, s⟩
  | n + 1, ⟨.call o k, h, s⟩ =>
      ok o s && legal ok answer n
        ⟨k (answer o h s).1, h ++ [.call o (answer o h s).1], (answer o h s).2⟩
  | n + 1, ⟨.iter b k, h, s⟩ => legal ok answer n ⟨unroll b k, h, s⟩

/-- **Executing is running**, if wherever a call is made the answer is one the call can give. -/
theorem reach_exec_of_legal {ok : Op → S → Bool}
    {answer : (o : Op) → List (Label Op Res E) → S → Res o × S}
    (hans : ∀ o h s, ok o s → sem o s (answer o h s).1 (answer o h s).2) (n : ℕ)
    (c : Config Op Res E S α) (hc : c.legal ok answer n = true) :
    Reach sem env c (c.exec answer n) := by
  induction n generalizing c with
  | zero => exact .refl
  | succ n ih =>
      obtain ⟨p, h, s⟩ := c
      cases p with
      | ret a => exact ih _ hc
      | call o k =>
          obtain ⟨hok, hc⟩ := Bool.and_eq_true_iff.mp hc
          exact .head (.call (hans o h s hok)) (ih _ hc)
      | iter b k => exact .head .iter (ih _ hc)

theorem legal_of_all (answer : (o : Op) → List (Label Op Res E) → S → Res o × S) (n : ℕ)
    (c : Config Op Res E S α) : c.legal (fun _ _ => true) answer n = true := by
  induction n generalizing c with
  | zero => rfl
  | succ n ih =>
      obtain ⟨p, h, s⟩ := c
      cases p with
      | ret a => exact ih _
      | call o k => exact ih _
      | iter b k => exact ih _

/-- **Executing is running**, if the answers are ones the calls can give. -/
theorem reach_exec {answer : (o : Op) → List (Label Op Res E) → S → Res o × S}
    (hans : ∀ o h s, sem o s (answer o h s).1 (answer o h s).2) (n : ℕ)
    (c : Config Op Res E S α) : Reach sem env c (c.exec answer n) :=
  reach_exec_of_legal (fun o h s _ => hans o h s) n c (legal_of_all answer n c)

/-- The environment's step `e`, which `react` makes of the state. -/
def Config.disturb (react : E → S → S) (e : E) (c : Config Op Res E S α) : Config Op Res E S α :=
  ⟨c.prog, c.hist ++ [.env e], react e c.st⟩

theorem reach_disturb {react : E → S → S} {e : E} {c : Config Op Res E S α}
    (he : env e c.st (react e c.st)) : Reach sem env c (c.disturb react e) :=
  .single (.env he)

/-! ### Without an environment -/

theorem stable_alone {env₀ : Empty → S → S → Prop}
    (P : List (Label Op Res Empty) → S → Prop) : Stable env₀ P :=
  fun e => e.elim

end Prog
