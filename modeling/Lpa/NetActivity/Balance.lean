import Lpa.NetActivity.Handler
import Lpa.Support.Interference

/-!
# Network activity — what `wait_net_suspend` gives back

On its way `wait_net_suspend` locks deep sleep, has the WHD's packets queued, and suspends the
stack.  Here every external call may answer anything.

* `waitNetSuspend_sleepLocks`: deep sleep is unlocked as often as it is locked.
* `waitNetSuspend_givesBack_iff`: the rest is given back exactly under certain answers.  With lwIP
  the callback for the packets is registered before the result of `cylpa_suspend_ns` is looked at,
  and stays registered if the stack was suspended already; with NetX Duo a refusal in
  `cylpa_resume_ns` leaves the stack suspended.

`held` and `answers` read a history; `Ends` follows a program with them, and what is quiet for
both (`Quiet`) is framed.
-/

namespace Lpa.NetActivity

open Prog (Label Safe Reach)

/-- What the calls have been, and how they were answered. -/
abbrev NaHist := List (Label NaOp NaRes Empty)

/-- **Any answer**: only the file's own variables have a meaning. -/
@[simp] def anyAnswer : (o : NaOp) → NaVars → NaRes o → NaVars → Prop
  | .load, v, r, v' => r = v ∧ v' = v
  | .store f, v, _, v' => v' = f v
  | _, v, _, v' => v' = v

/-- The call writes the file's variables. -/
def isStore : NaOp → Bool
  | .store _ => true
  | _ => false

theorem anyAnswer_of_not_store {o : NaOp} (ho : isStore o = false) {v v' : NaVars} {r : NaRes o}
    (hv : anyAnswer o v r v') : v' = v := by
  cases o with
  | load => exact hv.2
  | store f => cases ho
  | _ => exact hv

/-- No steps but the file's own. -/
def noEnv (e : Empty) : NaVars → NaVars → Prop := e.elim

/-- What has been taken and not given back: how often deep sleep is locked, and what was last
registered for the WHD's packets, if anything was. -/
structure Held where
  sleepLocks : ℤ
  rxQueueCb : Option Bool
deriving DecidableEq

@[simp] def Held.next (k : Held) : Label NaOp NaRes Empty → Held
  | .call .lockDeepsleep _ => { k with sleepLocks := k.sleepLocks + 1 }
  | .call .unlockDeepsleep _ => { k with sleepLocks := k.sleepLocks - 1 }
  | .call (.cyNetworkRegisterRxQueueCb cb) _ => { k with rxQueueCb := some cb }
  | _ => k

def held (h : NaHist) : Held := h.foldl Held.next ⟨0, none⟩

/-- The answers that matter: whether the network was found to be quiet, and whether, on the way
back to an awake host, a call was refused. -/
structure Answers where
  inactive : Bool
  awaking : Bool
  refused : Bool
deriving DecidableEq

@[simp] def Answers.next (a : Answers) : Label NaOp NaRes Empty → Answers
  | .call (.cyRtosWaitbitsEvent .inactivity _ _) (r : CyRslt) =>
      { a with inactive := a.inactive || decide (r = .rtosTimeout) }
  | .call (.cylpaOlmDispatchPmNotification .awake) _ => { a with awaking := true }
  | .call (.txTimerInfoGet (.nxDhcpTimer _)) (r : UInt32 × UInt32) =>
      { a with refused := a.refused || a.awaking && decide (r.1 ≠ txSuccess) }
  | .call .cyNetworkGetNwInterface (r : Option Handle) =>
      { a with refused := a.refused || a.awaking && decide (r = none) }
  | .call (.txMutexPut (.nxIpProtection _)) (r : UInt32) =>
      { a with refused := a.refused || a.awaking && decide (r ≠ txSuccess) }
  | _ => a

def answers (h : NaHist) : Answers := h.foldl Answers.next ⟨false, false, false⟩

/-- **All is given back**: deep sleep is unlocked as often as locked, no packets are diverted any
more, and the stack is as suspended as it was. -/
def GivesBack (v v' : NaVars) (h : NaHist) : Prop :=
  (held h).sleepLocks = 0 ∧ (held h).rxQueueCb ≠ some true ∧
    v'.cylpaSNsSuspended = v.cylpaSNsSuspended

/-- The answers under which all is given back, by network stack: with lwIP the network must not be
found quiet while the stack is suspended already, with NetX Duo nothing may be refused on the way
back. -/
def Answers.giveBack (a : Answers) (suspended : Bool) : NetworkStack → Prop
  | .lwip => suspended = true → a.inactive = false
  | .netxduo => a.refused = false

@[simp] theorem held_append (h : NaHist) (l : Label NaOp NaRes Empty) :
    held (h ++ [l]) = (held h).next l := by
  simp [held]

@[simp] theorem answers_append (h : NaHist) (l : Label NaOp NaRes Empty) :
    answers (h ++ [l]) = (answers h).next l := by
  simp [answers]

/-! ### Quiet calls -/

/-- Where a run stands. -/
def At (k : Held) (a : Answers) (f : Bool) (h : NaHist) (v : NaVars) : Prop :=
  held h = k ∧ answers h = a ∧ v.cylpaSNsSuspended = f

/-- A call that changes nothing of it, whatever its answer. -/
def Quiet (a : Answers) (o : NaOp) : Prop :=
  (∀ k r, Held.next k (.call o r) = k) ∧ (∀ r, a.next (.call o r) = a) ∧
    ∀ v r v', anyAnswer o v r v' → v'.cylpaSNsSuspended = v.cylpaSNsSuspended

/-- Every run of the program that returns ends in `Q`. -/
def Ends {α : Type} (Q : α → NaHist → NaVars → Prop) (p : Na α) (h : NaHist) (v : NaVars) :
    Prop :=
  Safe anyAnswer noEnv (fun _ _ _ => True) Q p h v

section Rules

variable {α β : Type} {k : Held} {a : Answers} {f : Bool} {h : NaHist} {v : NaVars}

theorem Ends.ret {Q : α → NaHist → NaVars → Prop} {x : α} (hQ : Q x h v) :
    Ends Q (.ret x) h v :=
  Safe.ret (Prog.stable_alone _) hQ

theorem Ends.bind {Q : β → NaHist → NaVars → Prop} {p : Na α} {g : α → Na β}
    (R : α → NaHist → NaVars → Prop) (hp : Ends R p h v)
    (hg : ∀ x h v, R x h v → Ends Q (g x) h v) : Ends Q (p.bind g) h v :=
  Safe.bind R hp hg

theorem Ends.mono {Q Q' : α → NaHist → NaVars → Prop} {p : Na α} (hp : Ends Q p h v)
    (hQ : ∀ x h v, Q x h v → Q' x h v) : Ends Q' p h v :=
  Safe.mono hp (fun _ _ _ h => h) hQ

theorem Ends.quiet {p : Na α} (hp : p.Calls (Quiet a)) (hat : At k a f h v) :
    Ends (fun _ => At k a f) p h v := by
  refine Safe.frame hp (Prog.stable_alone _) (fun _ _ _ _ _ => trivial) ?_ hat
  rintro o h v r v' ⟨hk, ha, hf⟩ ⟨rfl, rfl, rfl⟩ hv
  exact ⟨(held_append _ _).trans (hk _ _), (answers_append _ _).trans (ha _), hf _ _ _ hv⟩

/-- A quiet program, and what follows it. -/
theorem Ends.quiet_bind {Q : β → NaHist → NaVars → Prop} {p : Na α} {g : α → Na β}
    (hp : p.Calls (Quiet a)) (hat : At k a f h v)
    (hg : ∀ x h v, At k a f h v → Ends Q (g x) h v) : Ends Q (p.bind g) h v :=
  (Ends.quiet hp hat).bind _ hg

/-- A call that is no store. -/
theorem Ends.call {Q : α → NaHist → NaVars → Prop} {o : NaOp} {g : NaRes o → Na α}
    (hat : At k a f h v) (ho : isStore o = false)
    (hg : ∀ r h v, At (k.next (.call o r)) (a.next (.call o r)) f h v → Ends Q (g r) h v) :
    Ends Q ((op o).bind g) h v := by
  refine Safe.call (At k a f) (Prog.stable_alone _) hat (fun _ _ _ => trivial) ?_
  rintro h v r v' ⟨rfl, rfl, rfl⟩ hv
  obtain rfl := anyAnswer_of_not_store ho hv
  exact hg r _ _ ⟨held_append _ _, answers_append _ _, rfl⟩

theorem Ends.load {Q : α → NaHist → NaVars → Prop} {g : NaVars → Na α} (hat : At k a f h v)
    (hg : ∀ u h v, u.cylpaSNsSuspended = f → At k a f h v → Ends Q (g u) h v) :
    Ends Q ((op .load).bind g) h v := by
  refine Safe.call (At k a f) (Prog.stable_alone _) hat (fun _ _ _ => trivial) ?_
  rintro h v r v' ⟨hk, ha, hf⟩ ⟨rfl, rfl⟩
  exact hg _ _ _ hf ⟨(held_append _ _).trans hk, (answers_append _ _).trans ha, hf⟩

/-- A store that sets whether the stack is suspended. -/
theorem Ends.store {Q : α → NaHist → NaVars → Prop} {f' : Bool} {u : NaVars → NaVars}
    {g : Unit → Na α} (hat : At k a f h v) (hu : ∀ v, (u v).cylpaSNsSuspended = f')
    (hg : ∀ h v, At k a f' h v → Ends Q (g ()) h v) : Ends Q ((op (.store u)).bind g) h v := by
  refine Safe.call (At k a f) (Prog.stable_alone _) hat (fun _ _ _ => trivial) ?_
  rintro h v r v' ⟨hk, ha, hf⟩ rfl
  exact hg _ _ ⟨(held_append _ _).trans hk, (answers_append _ _).trans ha, hu v⟩

end Rules

/-! ### Quiet programs -/

section Quiet

variable {a : Answers}

theorem initHandlerOnce_quiet : initHandlerOnce.Calls (Quiet a) := by
  simp [initHandlerOnce, cylpaNetworkActHandlerInit, cylpaRegisterNetworkActivityCallback, Quiet]

theorem initRxPktQueueOnce_quiet (b : NaBuild) : (initRxPktQueueOnce b).Calls (Quiet a) := by
  simp [initRxPktQueueOnce, Quiet]

theorem connectedInterface_quiet (b : NaBuild) (i x : Bool) :
    (connectedInterface b).Calls (Quiet ⟨i, false, x⟩) := by
  cases h : b.stack <;>
    simp [connectedInterface, Option.forall, h, Quiet]

theorem configUlpOnce_quiet (ulp : UlpConfig) (ifp : Handle) (w : UInt32) :
    (configUlpOnce ulp ifp w).Calls (Quiet a) := by
  simp [configUlpOnce, Quiet]

theorem suspendStack_quiet (s : NetworkStack) (i x : Bool) :
    (suspendStack s).Calls (Quiet ⟨i, false, x⟩) := by
  cases s <;>
    simp [suspendStack, suspendDhcp, deactivateIfActive, Option.forall, Quiet]

theorem retakeDhcp_quiet (d : Option Handle) : (retakeDhcp d).Calls (Quiet a) := by
  cases d <;> simp [retakeDhcp, Quiet]

theorem printBusStats_quiet (b : NaBuild) (wifi : Handle) :
    (printBusStats b wifi).Calls (Quiet a) := by
  cases h : b.stack <;>
    simp [printBusStats, cylpaPrintWhdBusStats, interfaceIsUp, h, Option.forall, Quiet]

theorem notifyApplication_quiet (t : CylpaNotifyEventType) :
    (notifyApplication t).Calls (Quiet a) := by
  refine ⟨by simp [Quiet], fun v => ?_⟩
  cases h : v.suspendNotifyCb <;> simp [h, Quiet]

theorem cylpaRxQueuePktInput_quiet : cylpaRxQueuePktInput.Calls (Quiet a) := by
  simp [cylpaRxQueuePktInput, rxQueueRound, rxQueuePkt, Option.forall, Quiet]

end Quiet

/-! ### The parts of a run -/

section Parts

variable {k : Held} {f : Bool} {h : NaHist} {v : NaVars}

/-- A round of the wait ends it successfully exactly if the network was found quiet. -/
theorem inactivityRound_ends {cfg : Na Unit} (hcfg : ∀ a, cfg.Calls (Quiet a)) (t i w : UInt32)
    (hat : At k ⟨false, false, false⟩ f h v) :
    Ends (Prog.passPost (At k ⟨false, false, false⟩ f)
      fun s => At k ⟨decide (s = .success), false, false⟩ f)
      (inactivityRound cfg t i w) h v := by
  refine Ends.quiet_bind (hcfg _) hat fun _ h v hat => ?_
  refine Ends.call hat rfl fun (r : CyRslt) h v hat => ?_
  change At k ⟨decide (r = .rtosTimeout), false, false⟩ f h v at hat
  by_cases hr : r = .rtosTimeout
  · rw [if_pos hr]
    rw [decide_eq_true hr] at hat
    exact Ends.ret hat
  · rw [if_neg hr]
    rw [decide_eq_false hr] at hat
    refine Ends.call hat rfl fun (e : UInt32) h v hat => ?_
    dsimp only
    split
    · exact Ends.ret hat
    · exact Ends.ret hat

theorem monitorInactivity_ends {cfg : Na Unit} (hcfg : ∀ a, cfg.Calls (Quiet a)) (i w : UInt32)
    (hat : At k ⟨false, false, false⟩ f h v) :
    Ends (fun s => At k ⟨decide (s = .success), false, false⟩ f) (monitorInactivity cfg i w)
      h v := by
  unfold monitorInactivity
  split
  · refine Ends.call hat rfl fun _ h v hat => ?_
    refine Ends.call hat rfl fun (t : UInt32) h v hat => ?_
    refine Safe.iter (At k ⟨false, false, false⟩ f)
      (fun s => At k ⟨decide (s = .success), false, false⟩ f) (Prog.stable_alone _) hat
      (fun h v hat => inactivityRound_ends hcfg t i w hat) fun s h v hat => Ends.ret hat
  · exact Ends.ret hat

/-- **Waiting for the network to fall quiet** succeeds exactly if it was found quiet. -/
theorem cylpaWaitNetInactivity_ends (b : NaBuild) (i w : UInt32)
    (hat : At k ⟨false, false, false⟩ f h v) :
    Ends (fun s => At k ⟨decide (s = .success), false, false⟩ f)
      (cylpaWaitNetInactivity b i w) h v := by
  unfold cylpaWaitNetInactivity
  cases b.ulp with
  | none => exact monitorInactivity_ends (fun _ => Prog.calls_ret ()) i w hat
  | some ulp =>
      refine Ends.call hat rfl fun (ifp : Option Handle) h v hat => ?_
      cases ifp with
      | none => exact Ends.ret hat
      | some ifp => exact monitorInactivity_ends (fun _ => configUlpOnce_quiet ulp ifp w) i w hat

/-- **Suspending** succeeds only where the stack was not suspended; with lwIP, exactly there. -/
theorem cylpaSuspendNs_ends (b : NaBuild) {i : Bool} (hat : At k ⟨i, false, false⟩ f h v) :
    Ends (fun s h v => (s = .success ∧ f = false ∧ At k ⟨i, false, false⟩ true h v) ∨
        (s ≠ .success ∧ (b.stack = .lwip → f = true) ∧ At k ⟨i, false, false⟩ f h v))
      (cylpaSuspendNs b) h v := by
  refine Ends.load hat fun u h v hu hat => ?_
  by_cases hf : u.cylpaSNsSuspended = true
  · rw [if_pos hf]
    exact Ends.ret (.inr ⟨by decide, fun _ => hu ▸ hf, hat⟩)
  · rw [if_neg hf]
    have hf : f = false := by rw [← hu]; exact Bool.eq_false_iff.mpr hf
    refine Ends.bind (fun s h v => (b.stack = .lwip → s = .success) ∧
      At k ⟨i, false, false⟩ f h v) ?_ fun s h v ⟨hs, hat⟩ => ?_
    · cases b.stack with
      | lwip =>
          refine Ends.call hat rfl fun _ h v hat => ?_
          exact Ends.ret ⟨fun _ => rfl, hat⟩
      | netxduo =>
          exact (Ends.quiet (suspendStack_quiet .netxduo i false) hat).mono
            fun s h v hat => ⟨by simp, hat⟩
    · by_cases hsucc : s = .success
      · rw [if_pos hsucc]
        refine Ends.store hat (fun _ => rfl) fun h v hat => ?_
        exact Ends.ret (.inl ⟨rfl, hf, hat⟩)
      · rw [if_neg hsucc]
        exact Ends.ret (.inr ⟨hsucc, fun hl => absurd (hs hl) hsucc, hat⟩)

/-- A timer of the IP instance is started without anything being refused. -/
theorem activateIfInactive_quiet {a : Answers} {t : NxTimer} (ht : ∀ d, t ≠ .nxDhcpTimer d) :
    (activateIfInactive t).Calls (Quiet a) := by
  cases t with
  | nxDhcpTimer d => exact absurd rfl (ht d)
  | nxIpPeriodicTimer ip => simp [activateIfInactive, Quiet]
  | nxIpFastPeriodicTimer ip =>
      simp [activateIfInactive, Quiet]

theorem resumeDhcp_ends (d : Option Handle) {i : Bool} (hat : At k ⟨i, true, false⟩ f h v) :
    Ends (fun s => At k ⟨i, true, decide (s ≠ .success)⟩ f) (resumeDhcp d) h v := by
  cases d with
  | none => exact Ends.ret hat
  | some d =>
      refine Ends.bind (fun res => At k ⟨i, true, decide (res ≠ txSuccess)⟩ f) ?_
        fun res h v hat => ?_
      · refine Ends.call hat rfl fun (r : UInt32 × UInt32) h v hat => ?_
        refine Ends.quiet_bind (a := ⟨i, true, decide (r.1 ≠ txSuccess)⟩) ?_ hat
          fun _ h v hat => Ends.ret hat
        simp [Quiet]
      · refine Ends.call hat rfl fun _ h v hat => ?_
        change At k ⟨i, true, decide (res ≠ txSuccess)⟩ f h v at hat
        by_cases hres : res ≠ txSuccess
        · rw [if_pos hres]
          rw [decide_eq_true hres] at hat
          exact Ends.call hat rfl fun _ h v hat => Ends.ret hat
        · rw [if_neg hres]
          rw [decide_eq_false hres] at hat
          exact Ends.ret hat

theorem resumeIp_ends (d ip : Option Handle) {i : Bool}
    (hat : At k ⟨i, true, decide (ip = none)⟩ f h v) :
    Ends (fun s => At k ⟨i, true, decide (s ≠ .success)⟩ f) (resumeIp d ip) h v := by
  cases ip with
  | none => exact Ends.quiet_bind (retakeDhcp_quiet d) hat fun _ h v hat => Ends.ret hat
  | some ip =>
      refine Ends.quiet_bind (activateIfInactive_quiet fun _ => by simp) hat fun _ h v hat => ?_
      refine Ends.quiet_bind (activateIfInactive_quiet fun _ => by simp) hat fun _ h v hat => ?_
      refine Ends.call hat rfl fun (res : UInt32) h v hat => ?_
      change At k ⟨i, true, decide (res ≠ txSuccess)⟩ f h v at hat
      by_cases hres : res ≠ txSuccess
      · rw [if_pos hres]
        rw [decide_eq_true hres] at hat
        refine Ends.call hat rfl fun _ h v hat => ?_
        refine Ends.call hat rfl fun _ h v hat => ?_
        exact Ends.quiet_bind (retakeDhcp_quiet d) hat fun _ h v hat => Ends.ret hat
      · rw [if_neg hres]
        rw [decide_eq_false hres] at hat
        exact Ends.ret hat

/-- **Resuming** fails exactly if something is refused; with lwIP nothing can be. -/
theorem resumeStack_ends (st : NetworkStack) {i : Bool} (hat : At k ⟨i, true, false⟩ f h v) :
    Ends (fun s h v => (st = .lwip → s = .success) ∧
      At k ⟨i, true, decide (s ≠ .success)⟩ f h v) (resumeStack st) h v := by
  cases st with
  | lwip =>
      refine Ends.call hat rfl fun _ h v hat => ?_
      exact Ends.ret ⟨fun _ => rfl, hat⟩
  | netxduo =>
      refine Ends.call hat rfl fun (d : Option Handle) h v hat => ?_
      refine (resumeDhcp_ends d hat).bind _ fun s h v hat => ?_
      by_cases hs : s = .success
      · rw [if_pos hs]
        refine Ends.call hat rfl fun (ip : Option Handle) h v hat => ?_
        refine (resumeIp_ends d ip ?_).mono fun s h v hat => ⟨by simp, hat⟩
        subst hs
        exact hat
      · rw [if_neg hs]
        exact Ends.ret ⟨by simp, hat⟩

theorem cylpaResumeNs_ends (b : NaBuild) {i : Bool} (hat : At k ⟨i, true, false⟩ true h v) :
    Ends (fun _ h v => ∃ x, (b.stack = .lwip → x = false) ∧ At k ⟨i, true, x⟩ x h v)
      (cylpaResumeNs b) h v := by
  refine Ends.load hat fun u h v hu hat => ?_
  rw [if_neg (by simp [hu])]
  refine (resumeStack_ends b.stack hat).bind _ fun s h v ⟨hl, hat⟩ => ?_
  by_cases hs : s = .success
  · rw [if_pos hs]
    refine Ends.store hat (fun _ => rfl) fun h v hat => Ends.ret ⟨false, fun _ => rfl, ?_⟩
    subst hs
    exact hat
  · rw [if_neg hs]
    rw [decide_eq_true hs] at hat
    exact Ends.ret ⟨true, fun h => absurd (hl h) hs, hat⟩

theorem waitNetActivity_ends (waitMs : UInt32) {n : ℤ} {cb : Option Bool} {i : Bool}
    (hat : At ⟨n, cb⟩ ⟨i, false, false⟩ f h v) :
    Ends (fun _ => At ⟨n - 1, cb⟩ ⟨i, false, false⟩ f) (waitNetActivity waitMs) h v := by
  refine Ends.quiet_bind (notifyApplication_quiet _) hat fun _ h v hat => ?_
  -- the event is cleared and the offloads told
  refine Ends.call hat rfl fun _ h v hat => ?_
  refine Ends.call hat rfl fun _ h v hat => ?_
  -- deep sleep is unlocked
  refine Ends.call hat rfl fun _ h v hat => ?_
  -- the wait, between two looks at the clock
  refine Ends.call hat rfl fun _ h v hat => ?_
  refine Ends.call hat rfl fun _ h v hat => ?_
  refine Ends.call hat rfl fun _ h v hat => ?_
  exact Ends.ret hat

/-- What is registered for packets after the wake-up. -/
def awakeRxQueueCb (b : NaBuild) (cb : Option Bool) : Option Bool :=
  if b.stack = .lwip then some false else cb

theorem queueRxPackets_ends (b : NaBuild) {n : ℤ} {a : Answers} (hat : At ⟨n, none⟩ a f h v) :
    Ends (fun _ => At ⟨n, if b.stack = .lwip then some true else none⟩ a f) (queueRxPackets b)
      h v := by
  unfold queueRxPackets Prog.when
  split
  · exact Ends.call (o := .cyNetworkRegisterRxQueueCb true) (g := .ret) hat rfl
      fun _ h v hat => Ends.ret hat
  · exact Ends.ret hat

theorem takeRxPackets_ends (b : NaBuild) {n : ℤ} {cb : Option Bool} {a : Answers}
    (hat : At ⟨n, cb⟩ a f h v) :
    Ends (fun _ => At ⟨n, awakeRxQueueCb b cb⟩ a f)
      (takeRxPackets b) h v := by
  unfold takeRxPackets Prog.when awakeRxQueueCb
  split
  · refine Ends.call hat rfl fun _ h v hat => ?_
    exact Ends.quiet cylpaRxQueuePktInput_quiet hat
  · exact Ends.ret hat

/-- **The resume section** locks deep sleep again, lets the packets go, and leaves the stack
suspended exactly if something was refused. -/
theorem resumeSection_ends (b : NaBuild) (wifi : Handle) (waitMs : UInt32)
    (state : NetworkStackState) (lpTime : UInt32) {n : ℤ} {cb : Option Bool} {i : Bool}
    (hat : At ⟨n, cb⟩ ⟨i, false, false⟩ true h v) :
    Ends (fun _ h v => ∃ x, (b.stack = .lwip → x = false) ∧
      At ⟨n + 1, awakeRxQueueCb b cb⟩ ⟨i, true, x⟩ x h v)
      (resumeSection b wifi waitMs state lpTime) h v := by
  -- the mutex, then deep sleep is locked
  refine Ends.call hat rfl fun _ h v hat => ?_
  refine Ends.call hat rfl fun _ h v hat => ?_
  refine Ends.quiet_bind ((Prog.calls_op _).mpr (by simp [Quiet])) hat fun _ h v hat => ?_
  refine Ends.quiet_bind (printBusStats_quiet b wifi) hat fun _ h v hat => ?_
  refine Ends.quiet_bind (notifyApplication_quiet _) hat fun _ h v hat => ?_
  -- the offloads are told: from here on refusals count
  refine Ends.call hat rfl fun _ h v hat => ?_
  refine (takeRxPackets_ends b hat).bind _ fun _ h v hat => ?_
  refine (cylpaResumeNs_ends b hat).bind _ fun _ h v ⟨x, hx, hat⟩ => ?_
  refine Ends.call hat rfl fun _ h v hat => ?_
  exact Ends.ret ⟨x, hx, hat⟩

/-- The deep-sleep lock is held once, and the rest is given back exactly under the answers for
it. -/
def GivenBack (b : NaBuild) (f : Bool) (h : NaHist) (v : NaVars) : Prop :=
  (held h).sleepLocks = 1 ∧
    ((held h).rxQueueCb ≠ some true ∧ v.cylpaSNsSuspended = f ↔ (answers h).giveBack f b.stack)

theorem GivenBack.of_at {b : NaBuild} {cb : Option Bool} {a : Answers} {f' : Bool}
    (hat : At ⟨1, cb⟩ a f' h v) (hiff : cb ≠ some true ∧ f' = f ↔ a.giveBack f b.stack) :
    GivenBack b f h v := by
  obtain ⟨hk, ha, hf⟩ := hat
  unfold GivenBack
  rw [hk, ha, hf]
  exact ⟨rfl, hiff⟩

/-- **A network that has fallen quiet**: the stack is suspended and resumed, or refuses. -/
theorem suspendUntilActivity_ends (b : NaBuild) (wifi : Handle) (waitMs : UInt32)
    (hq : At ⟨1, none⟩ ⟨true, false, false⟩ f h v) :
    Ends (fun _ => GivenBack b f) (suspendUntilActivity b wifi waitMs) h v := by
  refine (cylpaSuspendNs_ends b hq).bind _ fun s h v hs => ?_
  rcases hs with ⟨rfl, rfl, hat⟩ | ⟨hs, hl, hat⟩
  · refine (queueRxPackets_ends b hat).bind _ fun _ h v hat => ?_
    rw [if_pos rfl]
    refine (waitNetActivity_ends waitMs hat).bind _ fun r h v hat => ?_
    refine (resumeSection_ends b wifi waitMs r.1 r.2 hat).mono fun _ h v ⟨x, hx, hat⟩ => ?_
    refine GivenBack.of_at hat ?_
    cases hb : b.stack with
    | lwip => simp [awakeRxQueueCb, hb, Answers.giveBack, hx hb]
    | netxduo => simp [awakeRxQueueCb, hb, Answers.giveBack]
  · -- refused, with the callback registered all the same
    refine (queueRxPackets_ends b hat).bind _ fun _ h v hat => ?_
    rw [if_neg hs]
    refine Ends.ret (GivenBack.of_at hat ?_)
    cases hb : b.stack with
    | lwip => simp [Answers.giveBack, hl hb]
    | netxduo => simp [Answers.giveBack]

theorem suspendIfInactive_ends (b : NaBuild) (wifi : Handle) (waitMs interval window : UInt32)
    (hat : At ⟨1, none⟩ ⟨false, false, false⟩ f h v) :
    Ends (fun _ => GivenBack b f) (suspendIfInactive b wifi waitMs interval window) h v := by
  refine (cylpaWaitNetInactivity_ends b interval window hat).bind _ fun s h v hat => ?_
  by_cases hs : s = .success
  · rw [if_pos hs]
    rw [decide_eq_true hs] at hat
    exact suspendUntilActivity_ends b wifi waitMs hat
  · rw [if_neg hs]
    rw [decide_eq_false hs] at hat
    refine Ends.ret (GivenBack.of_at hat ?_)
    cases b.stack <;> simp [Answers.giveBack]

/-- What `wait_net_suspend` leaves behind. -/
theorem waitNetSuspend_ends (b : NaBuild) (waitMs interval window : UInt32) (v : NaVars) :
    Ends (fun _ h v' => (held h).sleepLocks = 0 ∧ (GivesBack v v' h ↔
        (answers h).giveBack v.cylpaSNsSuspended b.stack))
      (waitNetSuspend b waitMs interval window) [] v := by
  have hat : At ⟨0, none⟩ ⟨false, false, false⟩ v.cylpaSNsSuspended [] v := ⟨rfl, rfl, rfl⟩
  refine Ends.quiet_bind (connectedInterface_quiet b false false) hat fun wifi h u hat => ?_
  cases wifi with
  | none =>
      -- no interface, so nothing has been taken
      obtain ⟨hk, ha, hf⟩ := hat
      refine Ends.ret ?_
      rw [GivesBack, hk, ha, hf]
      refine ⟨rfl, iff_of_true ⟨rfl, by simp, rfl⟩ ?_⟩
      cases b.stack <;> simp [Answers.giveBack]
  | some wifi =>
      refine Ends.quiet_bind initHandlerOnce_quiet hat fun _ h u hat => ?_
      refine Ends.quiet_bind (initRxPktQueueOnce_quiet b) hat fun _ h u hat => ?_
      refine Ends.call hat rfl fun _ h u hat => ?_
      refine (suspendIfInactive_ends b wifi waitMs interval window hat).bind _
        fun _ h u hgb => ?_
      obtain ⟨hk, hiff⟩ := hgb
      have hat : At (held h) (answers h) u.cylpaSNsSuspended h u := ⟨rfl, rfl, rfl⟩
      refine Ends.call hat rfl fun _ h' u' hat' => Ends.ret ?_
      obtain ⟨hk', ha', hf'⟩ := hat'
      change answers h' = answers h at ha'
      rw [GivesBack, hk', ha', hf', ← hiff]
      have hlocks : ((held h).next (.call .unlockDeepsleep ())).sleepLocks = 0 := by
        simp [hk]
      exact ⟨hlocks, and_iff_right hlocks⟩

end Parts

/-! ### Whole runs -/

/-- The run of `wait_net_suspend` ends with these calls and variables. -/
def Returns (b : NaBuild) (waitMs interval window : UInt32) (v : NaVars)
    (state : NetworkStackState) (h : NaHist) (v' : NaVars) : Prop :=
  Reach anyAnswer noEnv ⟨waitNetSuspend b waitMs interval window, [], v⟩
    ⟨.ret state, h, v'⟩

/-- The deep-sleep lock is given back whatever the answers. -/
theorem waitNetSuspend_sleepLocks {b : NaBuild} {waitMs interval window : UInt32}
    {v v' : NaVars} {state : NetworkStackState} {h : NaHist}
    (hrun : Returns b waitMs interval window v state h v') : (held h).sleepLocks = 0 :=
  ((waitNetSuspend_ends b waitMs interval window v _ hrun).2 state rfl).1

/-- **`wait_net_suspend` gives back everything it takes exactly when** the network is not found
quiet while the stack is suspended already (lwIP), or nothing is refused on the way back (NetX
Duo). -/
theorem waitNetSuspend_givesBack_iff (b : NaBuild) (waitMs interval window : UInt32)
    (v v' : NaVars) (state : NetworkStackState) (h : NaHist)
    (hrun : Returns b waitMs interval window v state h v') :
    GivesBack v v' h ↔ (answers h).giveBack v.cylpaSNsSuspended b.stack :=
  ((waitNetSuspend_ends b waitMs interval window v _ hrun).2 state rfl).2

/-- The answers of a network that is quiet throughout. -/
def usualAnswer : (o : NaOp) → NaHist → NaVars → NaRes o × NaVars
  | .load, _, v => (v, v)
  | .store f, _, v => ((), f v)
  | o, _, v => (o.usual, v)

theorem usualAnswer_answers (o : NaOp) (h : NaHist) (v : NaVars) :
    anyAnswer o v (usualAnswer o h v).1 (usualAnswer o h v).2 := by
  cases o <;> first | exact ⟨rfl, rfl⟩ | rfl

/-- A whole run of the NetX Duo build. -/
theorem waitNetSuspend_givesBack_iff_netxduo : ∃ state h v',
    Returns ⟨.netxduo, none⟩ 1000 20 10 .boot state h v' ∧ GivesBack .boot v' h := by
  have hrun : Reach anyAnswer noEnv _ _ := Prog.reach_exec usualAnswer_answers 50
    ⟨waitNetSuspend ⟨.netxduo, none⟩ 1000 20 10, [], .boot⟩
  exact ⟨_, _, _, hrun, (waitNetSuspend_givesBack_iff _ _ _ _ _ _ _ _ hrun).mpr rfl⟩

/-- With the stack suspended already, the callback for the packets stays registered. -/
theorem waitNetSuspend_not_givesBack :
    ¬ ∀ (b : NaBuild) (waitMs interval window : UInt32) (v v' : NaVars)
      (state : NetworkStackState) (h : NaHist),
      Returns b waitMs interval window v state h v' → GivesBack v v' h := by
  intro hall
  have hrun : Reach anyAnswer noEnv _ _ := Prog.reach_exec usualAnswer_answers 20
    ⟨waitNetSuspend ⟨.lwip, none⟩ 1000 20 10, [], { NaVars.boot with cylpaSNsSuspended := true }⟩
  exact absurd (hall _ _ _ _ _ _ _ _ hrun).2.1 (by decide)

end Lpa.NetActivity
