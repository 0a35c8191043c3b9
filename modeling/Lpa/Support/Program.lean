import Mathlib.Logic.Relation
import Mathlib.Data.List.Basic

/-!
# Support — programs over external calls

A sequential program seen from outside: it returns, it makes a call and continues with the
call's result, or it repeats a body until the body yields a value.  Nothing is said here about
what a call does; that is `Interference.lean`, which runs a program against a meaning of its
calls while an environment takes steps of its own.

* `Prog Op Res α`: a program that makes calls `o : Op`, each answered in `Res o`, and returns an
  `α`.
* `Prog.bind`, with the monad laws, so that programs are written in `do` notation.
* `Prog.loop body`: `body` again and again until it yields `some` value.
* `Prog.Calls N p`: every call in the text of `p` is among `N`.
* `Prog.Straight N p`: the calls of `p` are among `N`, and it has no loop.
* `Prog.Yields P p`: whatever its calls are answered, `p` returns nothing but `P`.
* `Prog.eval answer p`: what a program without loops returns, each call being answered by
  `answer`; `Prog.Ends answer Q p s`: it returns, and `Q` holds then.
-/

/-- A program whose calls are `Op`, answered in `Res`, and whose result is an `α`. -/
inductive Prog (Op : Type) (Res : Op → Type) : Type → Type 1 where
  | ret {α : Type} (a : α) : Prog Op Res α
  | call {α : Type} (o : Op) (k : Res o → Prog Op Res α) : Prog Op Res α
  | iter {α β : Type} (body : Prog Op Res (Option β)) (k : β → Prog Op Res α) : Prog Op Res α

namespace Prog

variable {Op : Type} {Res : Op → Type} {α β γ : Type}

/-- `p`, then `f` at its result. -/
def bind : Prog Op Res α → (α → Prog Op Res β) → Prog Op Res β
  | .ret a,    f => f a
  | .call o k, f => .call o fun r => (k r).bind f
  | .iter b k, f => .iter b fun x => (k x).bind f

instance : Monad (Prog Op Res) where
  pure := .ret
  bind := bind

/-- One call, returning its answer. -/
def op (o : Op) : Prog Op Res (Res o) := .call o .ret

/-- `body`, repeated until it yields a value. -/
def loop (body : Prog Op Res (Option β)) : Prog Op Res β := .iter body .ret

/-- `p`, if `c` holds. -/
def when (c : Prop) [Decidable c] (p : Prog Op Res Unit) : Prog Op Res Unit :=
  if c then p else .ret ()

/-- After a pass of the body: round again, or on to `k` with the value it yielded. -/
def next (body : Prog Op Res (Option β)) (k : β → Prog Op Res α) : Option β → Prog Op Res α
  | none => .iter body k
  | some x => k x

/-- What `iter body k` does next: one pass of the body, and what follows it. -/
def unroll (body : Prog Op Res (Option β)) (k : β → Prog Op Res α) : Prog Op Res α :=
  body.bind (next body k)

@[simp] theorem pure_eq (a : α) : (pure a : Prog Op Res α) = .ret a := rfl

@[simp] theorem bind_eq (p : Prog Op Res α) (f : α → Prog Op Res β) : (p >>= f) = p.bind f := rfl

@[simp] theorem ret_bind (a : α) (f : α → Prog Op Res β) : (ret a).bind f = f a := rfl

@[simp] theorem call_bind (o : Op) (k : Res o → Prog Op Res α) (f : α → Prog Op Res β) :
    (call o k).bind f = .call o fun r => (k r).bind f := rfl

@[simp] theorem op_bind (o : Op) (f : Res o → Prog Op Res β) : (op o).bind f = .call o f := rfl

@[simp] theorem iter_bind (b : Prog Op Res (Option γ)) (k : γ → Prog Op Res α)
    (f : α → Prog Op Res β) : (iter b k).bind f = .iter b fun x => (k x).bind f := rfl

@[simp] theorem loop_bind (b : Prog Op Res (Option γ)) (f : γ → Prog Op Res β) :
    (loop b).bind f = .iter b f := rfl

@[simp] theorem bind_ret (p : Prog Op Res α) : p.bind .ret = p := by
  induction p with
  | ret a => rfl
  | call o k ih => simp only [call_bind, ih]
  | iter b k _ ih => simp only [iter_bind, ih]

@[simp] theorem bind_assoc (p : Prog Op Res α) (f : α → Prog Op Res β) (g : β → Prog Op Res γ) :
    (p.bind f).bind g = p.bind fun a => (f a).bind g := by
  induction p with
  | ret a => rfl
  | call o k ih => simp only [call_bind, ih]
  | iter b k _ ih => simp only [iter_bind, ih]

@[simp] theorem ite_bind (c : Prop) [Decidable c] (p q : Prog Op Res α)
    (f : α → Prog Op Res β) : (if c then p else q).bind f = if c then p.bind f else q.bind f := by
  split <;> rfl

@[simp] theorem when_bind (c : Prop) [Decidable c] (p : Prog Op Res Unit)
    (f : Unit → Prog Op Res β) : (when c p).bind f = if c then p.bind f else f () :=
  ite_bind c p (.ret ()) f

theorem unroll_bind (b : Prog Op Res (Option γ)) (k : γ → Prog Op Res α)
    (f : α → Prog Op Res β) : (unroll b k).bind f = unroll b fun x => (k x).bind f := by
  unfold unroll
  rw [bind_assoc]
  congr 1
  funext x
  cases x <;> rfl

/-! ### The calls of a program -/

/-- Every call in the text of the program is among `N`. -/
def Calls (N : Op → Prop) : {α : Type} → Prog Op Res α → Prop
  | _, .ret _ => True
  | _, .call o k => N o ∧ ∀ r, (k r).Calls N
  | _, .iter b k => b.Calls N ∧ ∀ x, (k x).Calls N

variable {N : Op → Prop}

@[simp] theorem calls_ret (a : α) : (ret a : Prog Op Res α).Calls N := trivial

@[simp] theorem calls_call (o : Op) (k : Res o → Prog Op Res α) :
    (call o k).Calls N ↔ N o ∧ ∀ r, (k r).Calls N := Iff.rfl

@[simp] theorem calls_iter (b : Prog Op Res (Option β)) (k : β → Prog Op Res α) :
    (iter b k).Calls N ↔ b.Calls N ∧ ∀ x, (k x).Calls N := Iff.rfl

@[simp] theorem calls_op (o : Op) : (op o : Prog Op Res (Res o)).Calls N ↔ N o :=
  ⟨fun h => h.1, fun h => ⟨h, fun _ => trivial⟩⟩

@[simp] theorem calls_loop (b : Prog Op Res (Option β)) : (loop b).Calls N ↔ b.Calls N :=
  ⟨fun h => h.1, fun h => ⟨h, fun _ => trivial⟩⟩

theorem Calls.bind {p : Prog Op Res α} {f : α → Prog Op Res β} (hp : p.Calls N)
    (hf : ∀ a, (f a).Calls N) : (p.bind f).Calls N := by
  induction p with
  | ret a => exact hf a
  | call o k ih => exact ⟨hp.1, fun r => ih r (hp.2 r) hf⟩
  | iter b k _ ih => exact ⟨hp.1, fun x => ih x (hp.2 x) hf⟩

@[simp] theorem calls_ite (c : Prop) [Decidable c] (p q : Prog Op Res α) :
    (if c then p else q).Calls N ↔ (c → p.Calls N) ∧ (¬ c → q.Calls N) := by
  split <;> simp [*]

@[simp] theorem calls_when (c : Prop) [Decidable c] (p : Prog Op Res Unit) :
    (when c p).Calls N ↔ (c → p.Calls N) := by
  simp [when]

/-- A program among fewer calls is one among more. -/
theorem Calls.mono {M : Op → Prop} {p : Prog Op Res α} (hp : p.Calls N) (h : ∀ o, N o → M o) :
    p.Calls M := by
  induction p with
  | ret a => trivial
  | call o k ih => exact ⟨h o hp.1, fun r => ih r (hp.2 r)⟩
  | iter b k ihb ihk => exact ⟨ihb hp.1, fun x => ihk x (hp.2 x)⟩

theorem Calls.unroll {b : Prog Op Res (Option β)} {k : β → Prog Op Res α}
    (h : (iter b k).Calls N) : (unroll b k).Calls N := by
  refine h.1.bind fun x => ?_
  cases x with
  | none => exact h
  | some x => exact h.2 x

/-! ### Programs without loops -/

/-- Every call of the program is among `N`, and there is no loop in it. -/
def Straight (N : Op → Prop) : {α : Type} → Prog Op Res α → Prop
  | _, .ret _ => True
  | _, .call o k => N o ∧ ∀ r, (k r).Straight N
  | _, .iter _ _ => False

@[simp] theorem straight_ret (a : α) : (ret a : Prog Op Res α).Straight N := trivial

@[simp] theorem straight_call (o : Op) (k : Res o → Prog Op Res α) :
    (call o k).Straight N ↔ N o ∧ ∀ r, (k r).Straight N := Iff.rfl

@[simp] theorem straight_op (o : Op) : (op o : Prog Op Res (Res o)).Straight N ↔ N o :=
  ⟨fun h => h.1, fun h => ⟨h, fun _ => trivial⟩⟩

@[simp] theorem straight_ite (c : Prop) [Decidable c] (p q : Prog Op Res α) :
    (if c then p else q).Straight N ↔ (c → p.Straight N) ∧ (¬ c → q.Straight N) := by
  split <;> simp [*]

@[simp] theorem straight_when (c : Prop) [Decidable c] (p : Prog Op Res Unit) :
    (when c p).Straight N ↔ (c → p.Straight N) := by
  simp [when]

theorem Straight.bind {p : Prog Op Res α} {f : α → Prog Op Res β} (hp : p.Straight N)
    (hf : ∀ a, (f a).Straight N) : (p.bind f).Straight N := by
  induction p with
  | ret a => exact hf a
  | call o k ih => exact ⟨hp.1, fun r => ih r (hp.2 r) hf⟩
  | iter b k _ _ => exact hp.elim

theorem Straight.mono {M : Op → Prop} {p : Prog Op Res α} (hp : p.Straight N)
    (h : ∀ o, N o → M o) : p.Straight M := by
  induction p with
  | ret a => trivial
  | call o k ih => exact ⟨h o hp.1, fun r => ih r (hp.2 r)⟩
  | iter b k _ _ => exact hp.elim

theorem Straight.calls {p : Prog Op Res α} (hp : p.Straight N) : p.Calls N := by
  induction p with
  | ret a => trivial
  | call o k ih => exact ⟨hp.1, fun r => ih r (hp.2 r)⟩
  | iter b k _ _ => exact hp.elim

/-! ### What a program returns -/

/-- Whatever its calls are answered, the program returns nothing but `P`. -/
def Yields : {α : Type} → (α → Prop) → Prog Op Res α → Prop
  | _, P, .ret a => P a
  | _, P, .call _ k => ∀ r, (k r).Yields P
  | _, P, .iter (β := β) b k => ∃ M : β → Prop, b.Yields (fun x? => ∀ x ∈ x?, M x) ∧
      ∀ x, M x → (k x).Yields P

variable {P : α → Prop} {R : β → Prop}

@[simp] theorem yields_ret (a : α) : (ret a : Prog Op Res α).Yields P ↔ P a := Iff.rfl

@[simp] theorem yields_call (o : Op) (k : Res o → Prog Op Res α) :
    (call o k).Yields P ↔ ∀ r, (k r).Yields P := Iff.rfl

theorem Yields.bind {p : Prog Op Res α} {f : α → Prog Op Res β} (hp : p.Yields P)
    (hf : ∀ a, P a → (f a).Yields R) : (p.bind f).Yields R := by
  induction p with
  | ret a => exact hf a hp
  | call o k ih => exact fun r => ih r (hp r) hf
  | iter b k _ ih =>
      obtain ⟨M, hb, hk⟩ := hp
      exact ⟨M, hb, fun x hx => ih x (hk x hx) hf⟩

theorem yields_true (p : Prog Op Res α) : p.Yields fun _ => True := by
  induction p with
  | ret a => trivial
  | call o k ih => exact ih
  | iter b k ihb ihk => exact ⟨fun _ => True, by simpa using ihb, fun x _ => ihk x⟩

/-- What follows a part decides, whatever the part returns. -/
theorem Yields.of_rest {p : Prog Op Res α} {f : α → Prog Op Res β} (hf : ∀ a, (f a).Yields R) :
    (p.bind f).Yields R :=
  (yields_true p).bind fun a _ => hf a

theorem Yields.unroll {b : Prog Op Res (Option β)} {k : β → Prog Op Res α}
    (h : (iter b k).Yields P) : (unroll b k).Yields P := by
  obtain ⟨M, hb, hk⟩ := h
  refine hb.bind fun x? hx => ?_
  cases x? with
  | none => exact ⟨M, hb, hk⟩
  | some x => exact hk x (hx x rfl)

/-- A loop returns what a pass of its body yields. -/
theorem Yields.loop {b : Prog Op Res (Option β)} (hb : b.Yields fun x? => ∀ x ∈ x?, R x) :
    (loop b).Yields R :=
  ⟨R, hb, fun _ hx => hx⟩

@[simp] theorem yields_ite (c : Prop) [Decidable c] (p q : Prog Op Res α) :
    (if c then p else q).Yields P ↔ (c → p.Yields P) ∧ (¬ c → q.Yields P) := by
  split <;> simp [*]

/-! ### Running a program without loops -/

variable {S : Type}

/-- What the program returns and the state it leaves, if it comes to no loop. -/
def eval (answer : (o : Op) → S → Res o × S) : {α : Type} → Prog Op Res α → S → Option (α × S)
  | _, .ret a, s => some (a, s)
  | _, .call o k, s => (k (answer o s).1).eval answer (answer o s).2
  | _, .iter _ _, _ => none

variable {answer : (o : Op) → S → Res o × S} {s : S}

@[simp] theorem eval_ret (a : α) : (ret a : Prog Op Res α).eval answer s = some (a, s) := rfl

@[simp] theorem eval_call (o : Op) (k : Res o → Prog Op Res α) :
    (call o k).eval answer s = (k (answer o s).1).eval answer (answer o s).2 := rfl

theorem eval_bind (p : Prog Op Res α) (f : α → Prog Op Res β) :
    (p.bind f).eval answer s = (p.eval answer s).bind fun r => (f r.1).eval answer r.2 := by
  induction p generalizing s with
  | ret a => rfl
  | call o k ih => exact ih _ f
  | iter b k _ _ => rfl

/-- What every answer keeps is kept. -/
theorem eval_invariant {I : S → Prop} (hcall : ∀ o s, I s → I (answer o s).2) {p : Prog Op Res α}
    {a : α} {s' : S} (h : p.eval answer s = some (a, s')) (hs : I s) : I s' := by
  induction p generalizing s with
  | ret a =>
      cases h
      exact hs
  | call o k ih => exact ih _ h (hcall o s hs)
  | iter b k _ _ => cases h

/-- The program returns, and `Q` holds then. -/
def Ends (answer : (o : Op) → S → Res o × S) (Q : α → S → Prop) (p : Prog Op Res α) (s : S) :
    Prop :=
  ∃ a s', p.eval answer s = some (a, s') ∧ Q a s'

section Ends

variable {Q : α → S → Prop}

theorem Ends.ret {a : α} (h : Q a s) : Ends answer Q (.ret a) s := ⟨a, s, rfl, h⟩

theorem Ends.call {o : Op} {k : Res o → Prog Op Res α}
    (h : Ends answer Q (k (answer o s).1) (answer o s).2) : Ends answer Q (.call o k) s := h

theorem Ends.bind {R : β → S → Prop} {p : Prog Op Res β} {f : β → Prog Op Res α}
    (hp : Ends answer R p s) (hf : ∀ a s, R a s → Ends answer Q (f a) s) :
    Ends answer Q (p.bind f) s := by
  obtain ⟨a, s', h, hR⟩ := hp
  obtain ⟨a', s'', h', hQ⟩ := hf a s' hR
  exact ⟨a', s'', by rw [eval_bind, h, Option.bind_some, h'], hQ⟩

end Ends

end Prog
