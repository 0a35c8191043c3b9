import Lpa.NetActivity.Handler
import Mathlib.Logic.Function.Basic

/-!
# Network activity — suspending and resuming the NetX Duo stack

`cylpa_suspend_ns` takes the mutex of the IP instance and that of the DHCP client and deactivates
their timers; `cylpa_resume_ns` is the way back.  Neither remembers which timers were active, and
each undoes by hand what it has done when a call is refused.

* `cylpaSuspendNs_suspends`, `cylpaSuspendNs_refused`, `cylpaResumeNs_resumeIp`: what the two do,
  by what the calls answer.
* `suspend_resume_iff`: suspending is all or nothing and resuming its inverse exactly under certain
  answers.

The answers are given as a code for each call; neither function makes a call twice.  The interface
and the DHCP handle are the same for both.
-/

namespace Lpa.NetActivity

/-- The handles of the IP instance and the DHCP client. -/
structure NxHandles where
  ipPtr : Option Handle
  dhcpPtr : Option Handle
deriving DecidableEq

/-- The file's variables, which timers are active, and how often each mutex is held. -/
structure TxWorld where
  vars : NaVars
  timers : NxTimer → Bool
  mutexes : NxMutex → ℕ

/-- The codes the calls answer. -/
abbrev TxCodes := NaOp → UInt32

/-- The call succeeds. -/
def TxCodes.ok (r : TxCodes) (o : NaOp) : Bool := r o = txSuccess

namespace TxWorld

variable (r : TxCodes) (t : NxTimer) (m : NxMutex) (s : TxWorld)

/-- A timer set to active or inactive. -/
def setTimer (active : Bool) : TxWorld := { s with timers := Function.update s.timers t active }

/-- A mutex held so often. -/
def setMutex (n : ℕ) : TxWorld := { s with mutexes := Function.update s.mutexes m n }

/-- The stack marked as suspended or not. -/
def setSuspended (f : Bool) : TxWorld :=
  { s with vars := { s.vars with cylpaSNsSuspended := f } }

/-- `tx_timer_activate`. -/
def activate : TxWorld := s.setTimer t (s.timers t || r.ok (.txTimerActivate t))

/-- `tx_timer_deactivate`. -/
def deactivate : TxWorld := s.setTimer t (s.timers t && !r.ok (.txTimerDeactivate t))

/-- `tx_mutex_get`. -/
def get : TxWorld := s.setMutex m (s.mutexes m + (r.ok (.txMutexGet m)).toNat)

/-- `tx_mutex_put`. -/
def put : TxWorld := s.setMutex m (s.mutexes m - (r.ok (.txMutexPut m)).toNat)

/-- What becomes of a timer that is deactivated if it is active. -/
def stop : TxWorld :=
  s.setTimer t (s.timers t && !(r.ok (.txTimerInfoGet t) && r.ok (.txTimerDeactivate t)))

/-- What becomes of a timer that is activated if it is inactive. -/
def start : TxWorld :=
  s.setTimer t (s.timers t || r.ok (.txTimerInfoGet t) && r.ok (.txTimerActivate t))

@[simp] theorem setTimer_timers (active : Bool) (u : NxTimer) :
    (s.setTimer t active).timers u = if u = t then active else s.timers u :=
  Function.update_apply ..

@[simp] theorem setTimer_mutexes (active : Bool) : (s.setTimer t active).mutexes = s.mutexes := rfl

@[simp] theorem setTimer_vars (active : Bool) : (s.setTimer t active).vars = s.vars := rfl

@[simp] theorem setMutex_mutexes (n : ℕ) (u : NxMutex) :
    (s.setMutex m n).mutexes u = if u = m then n else s.mutexes u :=
  Function.update_apply ..

@[simp] theorem setMutex_timers (n : ℕ) : (s.setMutex m n).timers = s.timers := rfl

@[simp] theorem setMutex_vars (n : ℕ) : (s.setMutex m n).vars = s.vars := rfl

@[simp] theorem setSuspended_timers (f : Bool) : (s.setSuspended f).timers = s.timers := rfl

@[simp] theorem setSuspended_mutexes (f : Bool) : (s.setSuspended f).mutexes = s.mutexes := rfl

@[simp] theorem setSuspended_suspended (f : Bool) :
    (s.setSuspended f).vars.cylpaSNsSuspended = f := rfl

variable {t s} in
theorem setTimer_of_eq {active : Bool} (h : active = s.timers t) : s.setTimer t active = s := by
  simp [setTimer, h]

end TxWorld

/-- **What the calls do.**  A call that does not succeed changes nothing. -/
def txAnswer (n : NxHandles) (r : TxCodes) : (o : NaOp) → TxWorld → NaRes o × TxWorld
  | .load, s => (s.vars, s)
  | .store f, s => ((), { s with vars := f s.vars })
  | .cyNetworkGetNwInterface, s => (n.ipPtr, s)
  | .cyNetworkGetDhcpHandle, s => (n.dhcpPtr, s)
  | .txMutexGet m, s => (r (.txMutexGet m), s.get r m)
  | .txMutexPut m, s => (r (.txMutexPut m), s.put r m)
  | .txTimerInfoGet t, s =>
      ((r (.txTimerInfoGet t), if s.timers t then txTrue else txFalse), s)
  | .txTimerActivate t, s => (r (.txTimerActivate t), s.activate r t)
  | .txTimerDeactivate t, s => (r (.txTimerDeactivate t), s.deactivate r t)
  | o, s => (o.usual, s)

/-! ### What the two functions do -/

section Eval

variable (n : NxHandles) (r : TxCodes) (s : TxWorld) (t : NxTimer)

theorem deactivateIfActive_eval : (deactivateIfActive t).eval (txAnswer n r) s =
    some (r (.txTimerInfoGet t), s.stop r t) := by
  unfold deactivateIfActive TxWorld.stop
  cases ht : s.timers t with
  | false =>
      rw [TxWorld.setTimer_of_eq (by simp [ht])]
      simp [txAnswer, ht, Prog.when, txFalse, txTrue]
  | true =>
      by_cases hi : r (.txTimerInfoGet t) = txSuccess
      · simp [txAnswer, ht, hi, Prog.when, TxWorld.deactivate, TxCodes.ok]
      · rw [TxWorld.setTimer_of_eq (by simp [ht, hi, TxCodes.ok])]
        simp [txAnswer, hi, Prog.when]

theorem activateIfInactive_eval : (activateIfInactive t).eval (txAnswer n r) s =
    some (r (.txTimerInfoGet t), s.start r t) := by
  unfold activateIfInactive TxWorld.start
  cases ht : s.timers t with
  | true =>
      rw [TxWorld.setTimer_of_eq (by simp [ht])]
      simp [txAnswer, ht, Prog.when, txFalse, txTrue]
  | false =>
      by_cases hi : r (.txTimerInfoGet t) = txSuccess
      · simp [txAnswer, ht, hi, Prog.when, TxWorld.activate, TxCodes.ok]
      · rw [TxWorld.setTimer_of_eq (by simp [ht, hi, TxCodes.ok])]
        simp [txAnswer, hi, Prog.when]

variable {n r s} {ulp : Option UlpConfig} {i d : Handle}

/-- The stack once the IP instance is taken and its timers are stopped. -/
def TxWorld.quiet (r : TxCodes) (i : Handle) (s : TxWorld) : TxWorld :=
  ((s.get r (.nxIpProtection i)).stop r (.nxIpPeriodicTimer i)).stop r (.nxIpFastPeriodicTimer i)

/-- The IP instance can be taken. -/
structure TakesIp (n : NxHandles) (r : TxCodes) (s : TxWorld) (i : Handle) : Prop where
  running : s.vars.cylpaSNsSuspended = false
  ipPtr : n.ipPtr = some i
  get : r.ok (.txMutexGet (.nxIpProtection i)) = true

variable (ulp) in
/-- Suspended already, without an interface or refused its mutex, `cylpa_suspend_ns` does
nothing. -/
theorem cylpaSuspendNs_early (h : ∀ i, ¬ TakesIp n r s i) : ∃ state, state ≠ .success ∧
    (cylpaSuspendNs ⟨.netxduo, ulp⟩).eval (txAnswer n r) s = some (state, s) := by
  unfold cylpaSuspendNs suspendStack
  cases hf : s.vars.cylpaSNsSuspended with
  | true => exact ⟨.badState, by decide, by simp [txAnswer, hf]⟩
  | false =>
      refine ⟨.wifiNetSuspendedFailed, by decide, ?_⟩
      cases hi : n.ipPtr with
      | none => simp [txAnswer, hf, hi]
      | some i =>
          have hg : r.ok (.txMutexGet (.nxIpProtection i)) = false :=
            Bool.eq_false_iff.mpr fun hg => h i ⟨hf, hi, hg⟩
          have hg' : r (.txMutexGet (.nxIpProtection i)) ≠ txSuccess := by
            simpa [TxCodes.ok] using hg
          simp [txAnswer, hf, hi, hg', hg, TxWorld.get, TxWorld.setMutex]

/-- With the IP instance taken, it is up to the DHCP client. -/
theorem cylpaSuspendNs_takesIp (h : TakesIp n r s i) :
    (cylpaSuspendNs ⟨.netxduo, ulp⟩).eval (txAnswer n r) s =
      ((suspendDhcp i n.dhcpPtr).eval (txAnswer n r) (s.quiet r i)).map fun p =>
        if p.1 = .success then (.success, p.2.setSuspended true) else p := by
  have hg : r (.txMutexGet (.nxIpProtection i)) = txSuccess := by
    simpa [TxCodes.ok] using h.get
  unfold cylpaSuspendNs suspendStack
  simp only [txAnswer, h.running, h.ipPtr, hg, Prog.bind_eq, Prog.op_bind, Prog.eval_call,
    Prog.eval_bind, deactivateIfActive_eval, Option.bind_some, Bool.false_eq_true, if_false, ne_eq,
    not_true_eq_false, Prog.pure_eq]
  change (Prog.eval _ (suspendDhcp i n.dhcpPtr) (s.quiet r i)).bind _ = _
  cases (suspendDhcp i n.dhcpPtr).eval (txAnswer n r) (s.quiet r i) with
  | none => rfl
  | some p =>
      obtain ⟨state, s'⟩ := p
      by_cases hst : state = .success
      · simp [hst, txAnswer, TxWorld.setSuspended]
      · simp [hst]

/-- The stack when it is suspended. -/
def TxWorld.suspended (n : NxHandles) (r : TxCodes) (i : Handle) (s : TxWorld) : TxWorld :=
  match n.dhcpPtr with
  | none => (s.quiet r i).setSuspended true
  | some d =>
      (((s.quiet r i).get r (.nxDhcpMutex d)).stop r (.nxDhcpTimer d)).setSuspended true

/-- **Suspending succeeds** if the IP instance and the DHCP client can be taken. -/
theorem cylpaSuspendNs_suspends (h : TakesIp n r s i)
    (hd : ∀ d, n.dhcpPtr = some d → r.ok (.txMutexGet (.nxDhcpMutex d)) = true) :
    (cylpaSuspendNs ⟨.netxduo, ulp⟩).eval (txAnswer n r) s =
      some (.success, s.suspended n r i) := by
  rw [cylpaSuspendNs_takesIp h, TxWorld.suspended]
  cases hdhcp : n.dhcpPtr with
  | none => simp [suspendDhcp]
  | some d =>
      have hg : r (.txMutexGet (.nxDhcpMutex d)) = txSuccess := by
        simpa [TxCodes.ok] using hd d hdhcp
      simp [suspendDhcp, txAnswer, hg, Prog.eval_bind, deactivateIfActive_eval]

/-- **Suspending is refused** by the DHCP client: what was done is undone by hand. -/
theorem cylpaSuspendNs_refused (h : TakesIp n r s i) (hdhcp : n.dhcpPtr = some d)
    (hd : r.ok (.txMutexGet (.nxDhcpMutex d)) = false) :
    (cylpaSuspendNs ⟨.netxduo, ulp⟩).eval (txAnswer n r) s =
      some (.wifiNetSuspendedFailed, (((s.quiet r i).activate r (.nxIpPeriodicTimer i)).activate r
        (.nxIpFastPeriodicTimer i)).put r (.nxIpProtection i)) := by
  have hg : r (.txMutexGet (.nxDhcpMutex d)) ≠ txSuccess := by
    simpa [TxCodes.ok] using hd
  have hself : (s.quiet r i).get r (.nxDhcpMutex d) = s.quiet r i := by
    simp [TxWorld.get, hd, TxWorld.setMutex]
  rw [cylpaSuspendNs_takesIp h, hdhcp]
  simp [suspendDhcp, txAnswer, hg, hself]

/-! ### Resuming -/

/-- The stack once the DHCP client is resumed. -/
def TxWorld.dhcpResumed (n : NxHandles) (r : TxCodes) (s : TxWorld) : TxWorld :=
  match n.dhcpPtr with
  | none => s
  | some d => (s.start r (.nxDhcpTimer d)).put r (.nxDhcpMutex d)

/-- The stack once the IP instance is resumed too. -/
def TxWorld.ipResumed (n : NxHandles) (r : TxCodes) (i : Handle) (s : TxWorld) : TxWorld :=
  (((s.dhcpResumed n r).start r (.nxIpPeriodicTimer i)).start r (.nxIpFastPeriodicTimer i)).put r
    (.nxIpProtection i)

/-- The DHCP client taken again. -/
def TxWorld.dhcpRetaken (n : NxHandles) (r : TxCodes) (s : TxWorld) : TxWorld :=
  match n.dhcpPtr with
  | none => s
  | some d => (s.get r (.nxDhcpMutex d)).deactivate r (.nxDhcpTimer d)

/-- The DHCP client is not in the way. -/
def DhcpResumes (n : NxHandles) (r : TxCodes) : Prop :=
  ∀ d, n.dhcpPtr = some d → r.ok (.txTimerInfoGet (.nxDhcpTimer d)) = true

/-- **Resuming is refused** by the DHCP timer: the DHCP client's mutex is given back for all
that. -/
theorem cylpaResumeNs_dhcpRefused (hf : s.vars.cylpaSNsSuspended = true)
    (hdhcp : n.dhcpPtr = some d) (hd : r.ok (.txTimerInfoGet (.nxDhcpTimer d)) = false) :
    (cylpaResumeNs ⟨.netxduo, ulp⟩).eval (txAnswer n r) s = some (.wifiNetResumingFailed,
      (s.put r (.nxDhcpMutex d)).deactivate r (.nxDhcpTimer d)) := by
  have hi : r (.txTimerInfoGet (.nxDhcpTimer d)) ≠ txSuccess := by
    simpa [TxCodes.ok] using hd
  have hself : s.start r (.nxDhcpTimer d) = s := TxWorld.setTimer_of_eq (by simp [hd])
  unfold cylpaResumeNs resumeStack
  simp [txAnswer, hf, hdhcp, resumeDhcp, Prog.eval_bind, activateIfInactive_eval, hi, hself]

variable (ulp) in
/-- With the DHCP client resumed, it is up to the IP instance. -/
theorem cylpaResumeNs_resumeIp (hf : s.vars.cylpaSNsSuspended = true) (hip : n.ipPtr = some i)
    (hd : DhcpResumes n r) : (cylpaResumeNs ⟨.netxduo, ulp⟩).eval (txAnswer n r) s =
      if r.ok (.txMutexPut (.nxIpProtection i)) then
        some (.success, (s.ipResumed n r i).setSuspended false)
      else some (.wifiNetResumingFailed, (((s.ipResumed n r i).deactivate r
        (.nxIpPeriodicTimer i)).deactivate r (.nxIpFastPeriodicTimer i)).dhcpRetaken n r) := by
  have hdhcp : (resumeDhcp n.dhcpPtr).eval (txAnswer n r) s =
      some (.success, s.dhcpResumed n r) := by
    unfold TxWorld.dhcpResumed
    cases hdhcp : n.dhcpPtr with
    | none => simp [resumeDhcp]
    | some d =>
        have hi : r (.txTimerInfoGet (.nxDhcpTimer d)) = txSuccess := by
          simpa [TxCodes.ok] using hd d hdhcp
        simp [resumeDhcp, txAnswer, Prog.eval_bind, activateIfInactive_eval, hi]
  have hretake : ∀ s : TxWorld, (retakeDhcp n.dhcpPtr).eval (txAnswer n r) s =
      some ((), s.dhcpRetaken n r) := fun s => by
    unfold TxWorld.dhcpRetaken
    cases n.dhcpPtr <;> simp [retakeDhcp, txAnswer]
  unfold cylpaResumeNs resumeStack
  by_cases hput : r (.txMutexPut (.nxIpProtection i)) = txSuccess
  · have hok : r.ok (.txMutexPut (.nxIpProtection i)) = true := by simpa [TxCodes.ok] using hput
    simp [txAnswer, hf, hip, resumeIp, Prog.eval_bind, hdhcp, activateIfInactive_eval, hput, hok,
      TxWorld.ipResumed, TxWorld.setSuspended]
  · have hok : r.ok (.txMutexPut (.nxIpProtection i)) = false := by simpa [TxCodes.ok] using hput
    simp [txAnswer, hf, hip, resumeIp, Prog.eval_bind, hdhcp, activateIfInactive_eval, hput, hok,
      TxWorld.ipResumed, hretake]

end Eval

/-! ### All or nothing, and back -/

/-- The timers of the IP instance. -/
def NxHandles.ipTimers (n : NxHandles) : List NxTimer :=
  n.ipPtr.toList.flatMap fun i => [.nxIpPeriodicTimer i, .nxIpFastPeriodicTimer i]

/-- The timers of the stack. -/
def NxHandles.timers (n : NxHandles) : List NxTimer :=
  n.ipTimers ++ n.dhcpPtr.toList.map .nxDhcpTimer

/-- The mutexes of the stack. -/
def NxHandles.mutexes (n : NxHandles) : List NxMutex :=
  n.ipPtr.toList.map .nxIpProtection ++ n.dhcpPtr.toList.map .nxDhcpMutex

/-- The timers, the mutexes and the flag are as they were. -/
def SameStack (n : NxHandles) (s s' : TxWorld) : Prop :=
  (∀ t ∈ n.timers, s'.timers t = s.timers t) ∧ (∀ m ∈ n.mutexes, s'.mutexes m = s.mutexes m) ∧
    s'.vars.cylpaSNsSuspended = s.vars.cylpaSNsSuspended

/-- The stack is fully suspended: both mutexes held, the timers inactive, the flag set. -/
def FullySuspended (n : NxHandles) (s : TxWorld) : Prop :=
  (∀ t ∈ n.timers, s.timers t = false) ∧ (∀ m ∈ n.mutexes, 0 < s.mutexes m) ∧
    s.vars.cylpaSNsSuspended = true

/-- The timer is active after suspending: it was, and could not be stopped. -/
def leftActive (r : TxCodes) (s : TxWorld) (t : NxTimer) : Bool :=
  s.timers t && !(r.ok (.txTimerInfoGet t) && r.ok (.txTimerDeactivate t))

theorem succ_sub_toNat_eq_iff (k : ℕ) (b : Bool) : k + 1 - b.toNat = k ↔ b = true := by
  cases b <;> simp

section Exact

variable {n : NxHandles} {r r₁ r₂ : TxCodes} {s : TxWorld} {i d : Handle}

/-- The DHCP client can be taken, if there is one. -/
def TakesDhcp (n : NxHandles) (r : TxCodes) : Prop :=
  ∀ d, n.dhcpPtr = some d → r.ok (.txMutexGet (.nxDhcpMutex d)) = true

/-- **A refused suspend** leaves all as it was exactly if both timers of the IP instance come back
as they were and its mutex is given back. -/
theorem refused_same_iff (h : TakesIp n r s i) (hdhcp : n.dhcpPtr = some d) :
    SameStack n s ((((s.quiet r i).activate r (.nxIpPeriodicTimer i)).activate r
        (.nxIpFastPeriodicTimer i)).put r (.nxIpProtection i)) ↔
      (∀ t ∈ n.ipTimers, (leftActive r s t || r.ok (.txTimerActivate t)) = s.timers t) ∧
        r.ok (.txMutexPut (.nxIpProtection i)) = true := by
  simp [SameStack, NxHandles.timers, NxHandles.ipTimers, NxHandles.mutexes, h.ipPtr, hdhcp,
    TxWorld.quiet, TxWorld.activate, TxWorld.put, TxWorld.stop, TxWorld.get, h.get, leftActive,
    succ_sub_toNat_eq_iff]

/-- **Suspending and resuming** changes nothing exactly if every timer comes back as it was and the
DHCP client's mutex is given back. -/
theorem resumed_same_iff (h : TakesIp n r₁ s i) (hd : TakesDhcp n r₁) (hd₂ : DhcpResumes n r₂)
    (hput : r₂.ok (.txMutexPut (.nxIpProtection i)) = true) :
    SameStack n s (((s.suspended n r₁ i).ipResumed n r₂ i).setSuspended false) ↔
      (∀ t ∈ n.timers, (leftActive r₁ s t ||
          r₂.ok (.txTimerInfoGet t) && r₂.ok (.txTimerActivate t)) = s.timers t) ∧
        ∀ d, n.dhcpPtr = some d → r₂.ok (.txMutexPut (.nxDhcpMutex d)) = true := by
  cases hdhcp : n.dhcpPtr with
  | none =>
      simp [SameStack, NxHandles.timers, NxHandles.ipTimers, NxHandles.mutexes, h.ipPtr, hdhcp,
        TxWorld.quiet, TxWorld.put, TxWorld.stop, TxWorld.get, h.get, leftActive,
        TxWorld.suspended, TxWorld.ipResumed, TxWorld.dhcpResumed, TxWorld.start, hput, h.running]
  | some d =>
      simp [SameStack, NxHandles.timers, NxHandles.ipTimers, NxHandles.mutexes, h.ipPtr, hdhcp,
        TxWorld.quiet, TxWorld.put, TxWorld.stop, TxWorld.get, h.get, leftActive,
        TxWorld.suspended, TxWorld.ipResumed, TxWorld.dhcpResumed, TxWorld.start, hput, h.running,
        hd d hdhcp, hd₂ d hdhcp, succ_sub_toNat_eq_iff]

variable (r₂) in
/-- **A resume the DHCP timer refuses** leaves the stack fully suspended exactly if all timers are
stopped and the DHCP client's mutex is not given back. -/
theorem dhcpRefused_suspended_iff (h : TakesIp n r₁ s i) (hd : TakesDhcp n r₁)
    (hdhcp : n.dhcpPtr = some d) :
    FullySuspended n (((s.suspended n r₁ i).put r₂ (.nxDhcpMutex d)).deactivate r₂
        (.nxDhcpTimer d)) ↔
      (∀ t ∈ n.ipTimers, leftActive r₁ s t = false) ∧
        (leftActive r₁ s (.nxDhcpTimer d) && !r₂.ok (.txTimerDeactivate (.nxDhcpTimer d))) = false ∧
          (r₂.ok (.txMutexPut (.nxDhcpMutex d)) = true → 0 < s.mutexes (.nxDhcpMutex d)) := by
  cases hput : r₂.ok (.txMutexPut (.nxDhcpMutex d)) <;>
    simp [FullySuspended, NxHandles.timers, NxHandles.ipTimers, NxHandles.mutexes, h.ipPtr, hdhcp,
      TxWorld.quiet, TxWorld.put, TxWorld.stop, TxWorld.get, h.get, leftActive, TxWorld.suspended,
      TxWorld.deactivate, hd d hdhcp, hput, and_assoc]

/-- **A resume the IP instance refuses** leaves the stack fully suspended exactly if all timers are
stopped again and the DHCP client's mutex is held again. -/
theorem ipRefused_suspended_iff (h : TakesIp n r₁ s i) (hd : TakesDhcp n r₁)
    (hd₂ : DhcpResumes n r₂) (hput : r₂.ok (.txMutexPut (.nxIpProtection i)) = false) :
    FullySuspended n (((((s.suspended n r₁ i).ipResumed n r₂ i).deactivate r₂
        (.nxIpPeriodicTimer i)).deactivate r₂ (.nxIpFastPeriodicTimer i)).dhcpRetaken n r₂) ↔
      (∀ t ∈ n.timers, ((leftActive r₁ s t ||
          r₂.ok (.txTimerInfoGet t) && r₂.ok (.txTimerActivate t)) &&
            !r₂.ok (.txTimerDeactivate t)) = false) ∧
        ∀ d, n.dhcpPtr = some d → r₂.ok (.txMutexPut (.nxDhcpMutex d)) = true →
          r₂.ok (.txMutexGet (.nxDhcpMutex d)) = true ∨ 0 < s.mutexes (.nxDhcpMutex d) := by
  cases hdhcp : n.dhcpPtr with
  | none =>
      simp [FullySuspended, NxHandles.timers, NxHandles.ipTimers, NxHandles.mutexes, h.ipPtr, hdhcp,
        TxWorld.quiet, TxWorld.put, TxWorld.stop, TxWorld.get, h.get, leftActive,
        TxWorld.suspended, TxWorld.ipResumed, TxWorld.dhcpResumed, TxWorld.start, hput,
        TxWorld.dhcpRetaken, TxWorld.deactivate]
  | some d =>
      cases hdhcpPut : r₂.ok (.txMutexPut (.nxDhcpMutex d)) <;>
        cases hdhcpGet : r₂.ok (.txMutexGet (.nxDhcpMutex d)) <;>
        simp [FullySuspended, NxHandles.timers, NxHandles.ipTimers, NxHandles.mutexes, h.ipPtr,
          hdhcp, TxWorld.quiet, TxWorld.put, TxWorld.stop, TxWorld.get, h.get, leftActive,
          TxWorld.suspended, TxWorld.ipResumed, TxWorld.dhcpResumed, TxWorld.start, hput,
          TxWorld.dhcpRetaken, TxWorld.deactivate, hd d hdhcp, hd₂ d hdhcp, hdhcpPut, hdhcpGet]

end Exact

/-- **All or nothing, and reversible.**  A suspend that does not succeed changes nothing; one that
does is undone by a resume that succeeds, and still stands after a resume that does not. -/
def Reversible (ulp : Option UlpConfig) (n : NxHandles) (r₁ r₂ : TxCodes) (s : TxWorld) : Prop :=
  ∃ state₁ s₁, (cylpaSuspendNs ⟨.netxduo, ulp⟩).eval (txAnswer n r₁) s = some (state₁, s₁) ∧
    (state₁ ≠ .success → SameStack n s s₁) ∧
    (state₁ = .success → ∃ state₂ s₂,
      (cylpaResumeNs ⟨.netxduo, ulp⟩).eval (txAnswer n r₂) s₁ = some (state₂, s₂) ∧
        (state₂ = .success → SameStack n s s₂) ∧ (state₂ ≠ .success → FullySuspended n s₂))

/-- The answers under which it is, `r₁` those to the suspend and `r₂` those to the resume. -/
structure ReversibleAnswers (n : NxHandles) (r₁ r₂ : TxCodes) (s : TxWorld) : Prop where
  /-- Refused by the DHCP client, the timers come back as they were and the mutex is put. -/
  refused : ∀ i d, TakesIp n r₁ s i → n.dhcpPtr = some d →
    r₁.ok (.txMutexGet (.nxDhcpMutex d)) = false →
      (∀ t ∈ n.ipTimers, (leftActive r₁ s t || r₁.ok (.txTimerActivate t)) = s.timers t) ∧
        r₁.ok (.txMutexPut (.nxIpProtection i)) = true
  /-- Refused by the DHCP timer, no timer is active and the DHCP client's mutex is not put. -/
  dhcpRefused : ∀ i d, TakesIp n r₁ s i → TakesDhcp n r₁ → n.dhcpPtr = some d →
    r₂.ok (.txTimerInfoGet (.nxDhcpTimer d)) = false →
      (∀ t ∈ n.ipTimers, leftActive r₁ s t = false) ∧
        (leftActive r₁ s (.nxDhcpTimer d) && !r₂.ok (.txTimerDeactivate (.nxDhcpTimer d))) = false ∧
          (r₂.ok (.txMutexPut (.nxDhcpMutex d)) = true → 0 < s.mutexes (.nxDhcpMutex d))
  /-- Refused by the IP instance, every timer is stopped again and the mutex taken again. -/
  ipRefused : ∀ i, TakesIp n r₁ s i → TakesDhcp n r₁ → DhcpResumes n r₂ →
    r₂.ok (.txMutexPut (.nxIpProtection i)) = false →
      (∀ t ∈ n.timers, ((leftActive r₁ s t ||
          r₂.ok (.txTimerInfoGet t) && r₂.ok (.txTimerActivate t)) &&
            !r₂.ok (.txTimerDeactivate t)) = false) ∧
        ∀ d, n.dhcpPtr = some d → r₂.ok (.txMutexPut (.nxDhcpMutex d)) = true →
          r₂.ok (.txMutexGet (.nxDhcpMutex d)) = true ∨ 0 < s.mutexes (.nxDhcpMutex d)
  /-- Refused by none, every timer comes back as it was and the DHCP client's mutex is put. -/
  resumed : ∀ i, TakesIp n r₁ s i → TakesDhcp n r₁ → DhcpResumes n r₂ →
    r₂.ok (.txMutexPut (.nxIpProtection i)) = true →
      (∀ t ∈ n.timers, (leftActive r₁ s t ||
          r₂.ok (.txTimerInfoGet t) && r₂.ok (.txTimerActivate t)) = s.timers t) ∧
        ∀ d, n.dhcpPtr = some d → r₂.ok (.txMutexPut (.nxDhcpMutex d)) = true

section Reversible

variable {ulp : Option UlpConfig} {n : NxHandles} {r₁ r₂ : TxCodes} {s : TxWorld} {i d : Handle}

theorem TakesIp.unique {r : TxCodes} {j : Handle} (h : TakesIp n r s i) (h' : TakesIp n r s j) :
    i = j :=
  Option.some.inj (h.ipPtr.symm.trans h'.ipPtr)

/-- A suspend that does not succeed. -/
theorem reversible_iff_same {state : NetworkStackState} {s₁ : TxWorld} (hstate : state ≠ .success)
    (h : (cylpaSuspendNs ⟨.netxduo, ulp⟩).eval (txAnswer n r₁) s = some (state, s₁)) :
    Reversible ulp n r₁ r₂ s ↔ SameStack n s s₁ := by
  simp [Reversible, h, hstate]

/-- A suspend that succeeds, and a resume. -/
theorem reversible_iff_resume {state : NetworkStackState} {s₁ s₂ : TxWorld}
    (h₁ : (cylpaSuspendNs ⟨.netxduo, ulp⟩).eval (txAnswer n r₁) s = some (.success, s₁))
    (h₂ : (cylpaResumeNs ⟨.netxduo, ulp⟩).eval (txAnswer n r₂) s₁ = some (state, s₂)) :
    Reversible ulp n r₁ r₂ s ↔ (state = .success → SameStack n s s₂) ∧
      (state ≠ .success → FullySuspended n s₂) := by
  simp [Reversible, h₁, h₂]

/-- Where the IP instance cannot be taken, nothing happens. -/
theorem reversible_early (hno : ∀ i, ¬ TakesIp n r₁ s i) :
    Reversible ulp n r₁ r₂ s ↔ ReversibleAnswers n r₁ r₂ s := by
  obtain ⟨state, hstate, heval⟩ := cylpaSuspendNs_early ulp hno
  refine iff_of_true ?_ ⟨fun i _ h => absurd h (hno i), fun i _ h => absurd h (hno i),
    fun i h => absurd h (hno i), fun i h => absurd h (hno i)⟩
  exact (reversible_iff_same hstate heval).mpr ⟨fun _ _ => rfl, fun _ _ => rfl, rfl⟩

theorem reversible_refused (hi : TakesIp n r₁ s i) (hdhcp : n.dhcpPtr = some d)
    (hd : r₁.ok (.txMutexGet (.nxDhcpMutex d)) = false) :
    Reversible ulp n r₁ r₂ s ↔ ReversibleAnswers n r₁ r₂ s := by
  have hno : ¬ TakesDhcp n r₁ := fun h => by simp [h d hdhcp] at hd
  rw [reversible_iff_same (by decide) (cylpaSuspendNs_refused hi hdhcp hd),
    refused_same_iff hi hdhcp]
  refine ⟨fun h => ⟨fun j _ hj _ _ => hi.unique hj ▸ h, fun _ _ _ h => absurd h hno,
    fun _ _ h => absurd h hno, fun _ _ h => absurd h hno⟩, fun h => h.refused i d hi hdhcp hd⟩

/-- The DHCP client cannot both be taken and refuse. -/
theorem TakesDhcp.not_refused {P : Prop} (hd : TakesDhcp n r₁) (hdhcp : n.dhcpPtr = some d)
    (h : r₁.ok (.txMutexGet (.nxDhcpMutex d)) = false) : P := by
  simp [hd d hdhcp] at h

theorem suspended_suspended (n : NxHandles) (r : TxCodes) (i : Handle) (s : TxWorld) :
    (s.suspended n r i).vars.cylpaSNsSuspended = true := by
  unfold TxWorld.suspended
  cases n.dhcpPtr <;> rfl

theorem reversible_dhcpRefused (hi : TakesIp n r₁ s i) (hd : TakesDhcp n r₁)
    (hdhcp : n.dhcpPtr = some d) (hd₂ : r₂.ok (.txTimerInfoGet (.nxDhcpTimer d)) = false) :
    Reversible ulp n r₁ r₂ s ↔ ReversibleAnswers n r₁ r₂ s := by
  have hno : ¬ DhcpResumes n r₂ := fun h => by simp [h d hdhcp] at hd₂
  rw [reversible_iff_resume (cylpaSuspendNs_suspends hi hd)
    (cylpaResumeNs_dhcpRefused (suspended_suspended ..) hdhcp hd₂)]
  have hiff := dhcpRefused_suspended_iff r₂ hi hd hdhcp
  refine ⟨fun h => ⟨fun _ _ _ h' => hd.not_refused h', fun j e hj _ he _ => ?_,
    fun _ _ _ h => absurd h hno, fun _ _ _ h => absurd h hno⟩, fun h => ⟨fun e => (by cases e),
      fun _ => hiff.mpr (h.dhcpRefused i d hi hd hdhcp hd₂)⟩⟩
  obtain rfl := Option.some.inj (hdhcp.symm.trans he)
  exact hiff.mp (h.2 (by decide))

theorem reversible_ipRefused (hi : TakesIp n r₁ s i) (hd : TakesDhcp n r₁)
    (hd₂ : DhcpResumes n r₂) (hput : r₂.ok (.txMutexPut (.nxIpProtection i)) = false) :
    Reversible ulp n r₁ r₂ s ↔ ReversibleAnswers n r₁ r₂ s := by
  have hresume := cylpaResumeNs_resumeIp ulp (suspended_suspended n r₁ i s) hi.ipPtr hd₂
  rw [hput, if_neg Bool.false_ne_true] at hresume
  rw [reversible_iff_resume (cylpaSuspendNs_suspends hi hd) hresume]
  have hiff := ipRefused_suspended_iff hi hd hd₂ hput
  refine ⟨fun h => ⟨fun _ _ _ h' => hd.not_refused h', fun j e _ _ he h' => ?_,
    fun j hj _ _ _ => ?_, fun j hj _ _ h' => ?_⟩, fun h => ⟨fun e => (by cases e),
      fun _ => hiff.mpr (h.ipRefused i hi hd hd₂ hput)⟩⟩
  · simp [hd₂ e he] at h'
  · exact hiff.mp (h.2 (by decide))
  · simp [← hi.unique hj, hput] at h'

theorem reversible_resumed (hi : TakesIp n r₁ s i) (hd : TakesDhcp n r₁)
    (hd₂ : DhcpResumes n r₂) (hput : r₂.ok (.txMutexPut (.nxIpProtection i)) = true) :
    Reversible ulp n r₁ r₂ s ↔ ReversibleAnswers n r₁ r₂ s := by
  have hresume := cylpaResumeNs_resumeIp ulp (suspended_suspended n r₁ i s) hi.ipPtr hd₂
  rw [hput, if_pos rfl] at hresume
  rw [reversible_iff_resume (cylpaSuspendNs_suspends hi hd) hresume]
  have hiff := resumed_same_iff hi hd hd₂ hput
  refine ⟨fun h => ⟨fun _ _ _ h' => hd.not_refused h', fun j e _ _ he h' => ?_,
    fun j hj _ _ h' => ?_, fun j hj _ _ _ => ?_⟩, fun h => ⟨fun _ =>
      hiff.mpr (h.resumed i hi hd hd₂ hput), fun hne => absurd rfl hne⟩⟩
  · simp [hd₂ e he] at h'
  · simp [← hi.unique hj, hput] at h'
  · exact hiff.mp (h.1 rfl)

/-- **Suspending and resuming the NetX Duo stack is all-or-nothing and reversible exactly under
these answers.** -/
theorem suspend_resume_iff (ulp : Option UlpConfig) (n : NxHandles) (r₁ r₂ : TxCodes)
    (s : TxWorld) : Reversible ulp n r₁ r₂ s ↔ ReversibleAnswers n r₁ r₂ s := by
  by_cases hip : ∃ i, TakesIp n r₁ s i
  case neg => exact reversible_early (not_exists.mp hip)
  obtain ⟨i, hi⟩ := hip
  by_cases hd : TakesDhcp n r₁
  case neg =>
    unfold TakesDhcp at hd
    push Not at hd
    obtain ⟨d, hdhcp, hd⟩ := hd
    exact reversible_refused hi hdhcp (Bool.eq_false_iff.mpr hd)
  by_cases hd₂ : DhcpResumes n r₂
  case neg =>
    unfold DhcpResumes at hd₂
    push Not at hd₂
    obtain ⟨d, hdhcp, hd₂⟩ := hd₂
    exact reversible_dhcpRefused hi hd hdhcp (Bool.eq_false_iff.mpr hd₂)
  cases hput : r₂.ok (.txMutexPut (.nxIpProtection i)) with
  | false => exact reversible_ipRefused hi hd hd₂ hput
  | true => exact reversible_resumed hi hd hd₂ hput

end Reversible

/-- A DHCP timer the resume cannot read leaves the DHCP client's mutex released. -/
theorem suspend_resume_not_reversible :
    ¬ ∀ (ulp : Option UlpConfig) (n : NxHandles) (r₁ r₂ : TxCodes) (s : TxWorld),
      Reversible ulp n r₁ r₂ s := by
  intro h
  have hrev := h none ⟨some 1, some 2⟩ (fun _ => txSuccess)
    (fun o => match o with | .txTimerInfoGet (.nxDhcpTimer _) => 1 | _ => txSuccess)
    ⟨.boot, fun _ => true, fun _ => 0⟩
  have hi : TakesIp ⟨some 1, some 2⟩ (fun _ => txSuccess) ⟨.boot, fun _ => true, fun _ => 0⟩ 1 :=
    ⟨rfl, rfl, by decide⟩
  rw [reversible_iff_resume (cylpaSuspendNs_suspends hi fun _ _ => by simp [TxCodes.ok])
    (cylpaResumeNs_dhcpRefused (d := 2) (suspended_suspended ..) rfl (by decide))] at hrev
  exact absurd ((hrev.2 (by decide)).2.1 (.nxDhcpMutex 2) (by decide)) (by decide)

end Lpa.NetActivity
