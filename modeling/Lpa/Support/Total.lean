import Lpa.Support.Interference

/-!
# Support — programs that return

`Total sem Q p s` says of a program alone, without an environment, what `Safe` leaves open: every
run of `p` from the state `s` comes to an end, no run gets stuck at a call, and where the program
returns `a` it leaves a state in `Q a`.

* `Total.bind`, `Total.iter_of_measure`: the rules, a loop's with a measure that each pass lowers.
* `Total.lift`: a program that returns does so in a world of which more is known.
* `Total.acc`, `Total.progress`, `Total.safe`: what it means for the steps of a run.
-/

namespace Prog

variable {Op : Type} {Res : Op → Type} {S α β γ : Type}

/-- Every run of the program from the state returns, in `Q`. -/
inductive Total (sem : (o : Op) → S → Res o → S → Prop) :
    {α : Type} → (α → S → Prop) → Prog Op Res α → S → Prop where
  | ret {α : Type} {Q : α → S → Prop} {a : α} {s : S} (hQ : Q a s) : Total sem Q (.ret a) s
  | call {α : Type} {Q : α → S → Prop} {o : Op} {k : Res o → Prog Op Res α} {s : S}
      (hex : ∃ r s', sem o s r s') (hk : ∀ r s', sem o s r s' → Total sem Q (k r) s') :
      Total sem Q (.call o k) s
  | iter {α β : Type} {Q : α → S → Prop} {b : Prog Op Res (Option β)} {k : β → Prog Op Res α}
      {s : S} (h : Total sem Q (unroll b k) s) : Total sem Q (.iter b k) s

variable {sem : (o : Op) → S → Res o → S → Prop} {Q : α → S → Prop} {s : S}

/-! ### The rules -/

theorem Total.mono {Q' : α → S → Prop} {p : Prog Op Res α} (hp : Total sem Q p s)
    (hQ : ∀ a s, Q a s → Q' a s) : Total sem Q' p s := by
  induction hp with
  | ret h => exact .ret (hQ _ _ h)
  | call hex _ ih => exact .call hex fun r s' hs => ih r s' hs hQ
  | iter _ ih => exact .iter (ih hQ)

theorem Total.and {Q' : α → S → Prop} {p : Prog Op Res α} (hp : Total sem Q p s)
    (hp' : Total sem Q' p s) : Total sem (fun a s => Q a s ∧ Q' a s) p s := by
  induction hp with
  | ret hQ =>
      cases hp' with
      | ret hQ' => exact .ret ⟨hQ, hQ'⟩
  | call hex _ ih =>
      cases hp' with
      | call _ hk' => exact .call hex fun r s' hs => ih r s' hs (hk' r s' hs)
  | iter _ ih =>
      cases hp' with
      | iter h' => exact .iter (ih h')

/-- **Lifting**: where the states of `sem'` map to those of `sem`, each call of a program is
answered by `sem'` if it is by `sem`, and only as by `sem`, the program returns under the one as
under the other. -/
theorem Total.lift {S' : Type} {sem' : (o : Op) → S' → Res o → S' → Prop} (π : S' → S)
    {N : Op → Prop} {p : Prog Op Res α} {s' : S'} (hp : Total sem Q p (π s')) (hN : p.Calls N)
    (hex : ∀ o, N o → ∀ s', (∃ r s, sem o (π s') r s) → ∃ r s'', sem' o s' r s'')
    (hsim : ∀ o, N o → ∀ s' r s'', sem' o s' r s'' → sem o (π s') r (π s'')) :
    Total sem' (fun a s' => Q a (π s')) p s' := by
  generalize hs : π s' = s at hp
  induction hp generalizing s' with
  | ret hQ => exact .ret (hs ▸ hQ)
  | call hanswer _ ih =>
      subst hs
      exact .call (hex _ hN.1 s' hanswer) fun r s'' hs'' =>
        ih r _ (hsim _ hN.1 s' r s'' hs'') (hN.2 r) rfl
  | iter _ ih => exact .iter (ih hN.unroll hs)

/-- **A call**, which the rest of the program follows. -/
theorem Total.op {o : Op} {f : Res o → Prog Op Res α} (hex : ∃ r s', sem o s r s')
    (hf : ∀ r s', sem o s r s' → Total sem Q (f r) s') : Total sem Q ((op o).bind f) s :=
  .call hex hf

/-- **Sequencing**: the first part's postcondition is the second part's precondition. -/
theorem Total.bind {Q : β → S → Prop} {p : Prog Op Res α} {f : α → Prog Op Res β}
    (R : α → S → Prop) (hp : Total sem R p s) (hf : ∀ a s, R a s → Total sem Q (f a) s) :
    Total sem Q (p.bind f) s := by
  induction hp with
  | ret h => exact hf _ _ h
  | call hex _ ih => exact .call hex fun r s' hs => ih r s' hs hf
  | iter _ ih =>
      refine .iter ?_
      rw [← unroll_bind]
      exact ih hf

/-- Where a pass that started with the measure at `n` may end: in `I`, lower, to go round again,
and in `M x` to yield `x`. -/
def lowerPost (I : S → Prop) (μ : S → ℕ) (n : ℕ) (M : β → S → Prop) : Option β → S → Prop
  | none, s => I s ∧ μ s < n
  | some x, s => M x s

/-- **A loop** with an invariant `I` and a measure `μ` that every pass lowers. -/
theorem Total.iter_of_measure {b : Prog Op Res (Option β)} {k : β → Prog Op Res α}
    (I : S → Prop) (μ : S → ℕ) (M : β → S → Prop) (hI : I s)
    (hb : ∀ s, I s → Total sem (lowerPost I μ (μ s) M) b s)
    (hk : ∀ x s, M x s → Total sem Q (k x) s) : Total sem Q (.iter b k) s := by
  -- on the measure: what a pass leaves behind is lower
  induction hn : μ s using Nat.strongRecOn generalizing s with
  | ind n ih =>
      subst hn
      refine .iter ((hb s hI).bind _ fun x s' hx => ?_)
      cases x with
      | none => exact ih _ hx.2 hx.1 rfl
      | some y => exact hk y s' hx

/-- **A program without loops** returns, and what no call of it breaks holds then. -/
theorem Total.straight {N : Op → Prop} {I : S → Prop} {p : Prog Op Res α} (hp : p.Straight N)
    (hex : ∀ o s, N o → I s → ∃ r s', sem o s r s')
    (hcall : ∀ o s r s', N o → I s → sem o s r s' → I s') (hI : I s) :
    Total sem (fun _ => I) p s := by
  induction p generalizing s with
  | ret a => exact .ret hI
  | call o k ih =>
      exact .call (hex o s hp.1 hI) fun r s' hs => ih r (hp.2 r) (hcall o s r s' hp.1 hI hs)
  | iter b k _ _ => exact hp.elim

/-! ### What it says of runs -/

variable {env₀ : Empty → S → S → Prop} {h : List (Label Op Res Empty)}

/-- What it says of the end of a run, whatever is asked of the calls. -/
theorem Total.safe {p : Prog Op Res α} (hp : Total sem Q p s) :
    Safe sem env₀ (fun _ _ _ => True) (fun a _ => Q a) p h s := by
  induction hp generalizing h with
  | ret hQ => exact .ret (stable_alone _) hQ
  | @call _ _ _ s _ _ ih =>
      refine .call (fun _ s' => s' = s) (stable_alone _) rfl (fun _ _ _ => trivial) ?_
      rintro h _ r s' rfl hs
      exact ih r s' hs
  | iter _ ih =>
      intro c hc
      rcases Relation.ReflTransGen.cases_head hc with rfl | ⟨c', hs, hr⟩
      · exact ⟨fun o k e => (by cases e), fun a e => (by cases e)⟩
      · cases hs with
        | iter => exact ih c hr
        | env hs => exact (nomatch hs)

/-- A step of a program that returns leaves one that does. -/
theorem Total.step {c c' : Config Op Res Empty S α} (hc : Total sem Q c.prog c.st)
    (hs : Step sem env₀ c c') : Total sem Q c'.prog c'.st := by
  cases hs with
  | call hs =>
      cases hc with
      | call _ hk => exact hk _ _ hs
  | iter =>
      cases hc with
      | iter hc => exact hc
  | @env _ _ _ _ e _ => exact e.elim

/-- No run goes on for ever. -/
theorem Total.acc {p : Prog Op Res α} (hp : Total sem Q p s) :
    Acc (fun c c' : Config Op Res Empty S α => Step sem env₀ c' c) ⟨p, h, s⟩ := by
  induction hp generalizing h with
  | ret =>
      refine ⟨_, fun c hs => ?_⟩
      cases hs with
      | @env _ _ _ _ e _ => exact e.elim
  | call _ _ ih =>
      refine ⟨_, fun c hs => ?_⟩
      cases hs with
      | call hs => exact ih _ _ hs
      | @env _ _ _ _ e _ => exact e.elim
  | iter _ ih =>
      refine ⟨_, fun c hs => ?_⟩
      cases hs with
      | iter => exact ih
      | @env _ _ _ _ e _ => exact e.elim

/-- No run gets stuck before the program has returned. -/
theorem Total.progress {p : Prog Op Res α} (hp : Total sem Q p s) {c : Config Op Res Empty S α}
    (hr : Reach sem env₀ ⟨p, h, s⟩ c) : (∃ a, c.prog = .ret a) ∨ ∃ c', Step sem env₀ c c' := by
  have hc : Total sem Q c.prog c.st := by
    induction hr with
    | refl => exact hp
    | tail _ hs ih => exact ih.step hs
  obtain ⟨p', h', s'⟩ := c
  cases hc with
  | ret => exact .inl ⟨_, rfl⟩
  | call hex _ =>
      obtain ⟨r, s', hs⟩ := hex
      exact .inr ⟨_, .call hs⟩
  | iter _ => exact .inr ⟨_, .iter⟩

end Prog
