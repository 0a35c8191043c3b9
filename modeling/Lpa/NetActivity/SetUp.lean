import Lpa.NetActivity.Balance
import Lpa.NetActivity.Packets

/-!
# Network activity — the set-up before the stack is suspended

The first call of `wait_net_suspend` initialises the event and the mutex and registers the callback
that wakes it up.  Whether it has succeeded is dropped, and it is not tried again.

* `waitNetSuspends_setUp_iff`: in any number of calls, and whatever the set-up calls answer, a
  suspended stack can be woken up exactly if none of them has failed.

`setUp` reads the history; after the set-up no call adds to it (`Later`).
-/

namespace Lpa.NetActivity

open Prog (Label Safe Reach)

/-- What the set-up calls have done: the event initialised, the mutex initialised, the callback
registered; and whether one has failed. -/
structure SetUp where
  event : Bool
  mutex : Bool
  callback : Bool
  failed : Bool
deriving DecidableEq

@[simp] def SetUp.next (k : SetUp) : Label NaOp NaRes Empty → SetUp
  | .call .cyRtosInitEvent (r : CyRslt) =>
      { k with event := k.event || decide (r = .success),
               failed := k.failed || decide (r ≠ .success) }
  | .call .cyRtosInitMutex (r : CyRslt) =>
      { k with mutex := k.mutex || decide (r = .success),
               failed := k.failed || decide (r ≠ .success) }
  | .call .cyNetworkActivityRegisterCb _ => { k with callback := true }
  | _ => k

/-- Before any call. -/
def SetUp.fresh : SetUp := ⟨false, false, false, false⟩

def setUp (h : NaHist) : SetUp := h.foldl SetUp.next .fresh

@[simp] theorem setUp_append (h : NaHist) (l : Label NaOp NaRes Empty) :
    setUp (h ++ [l]) = (setUp h).next l := by
  simp [setUp]

/-- **The stack can be woken up**: the event and the mutex are there and the callback is
registered. -/
def SetUp.Complete (k : SetUp) : Prop := k.event = true ∧ k.mutex = true ∧ k.callback = true

/-- The set-up is complete exactly if no call has failed. -/
def SetUp.Settled (k : SetUp) : Prop := k.Complete ↔ k.failed = false

/-- Whether a call has to do with the set-up; a store may. -/
abbrev isSetUpOp : NaOp → Bool
  | .store _ => true
  | .cyRtosInitEvent => true
  | .cyRtosInitMutex => true
  | .cyNetworkActivityRegisterCb => true
  | _ => false

/-- A call that has nothing to do with the set-up. -/
inductive Later : NaOp → Prop where
  | call {o : NaOp} (ho : isSetUpOp o = false) : Later o
  | store {f : NaVars → NaVars}
      (hf : ∀ v, (f v).emacActivityCallbackRegistered = v.emacActivityCallbackRegistered) :
      Later (.store f)

/-! ### What comes before and after the set-up -/

theorem connectedInterface_noSetUp (b : NaBuild) :
    (connectedInterface b).Calls (isSetUpOp · = false) := by
  cases h : b.stack <;> simp [connectedInterface, Option.forall, h]

theorem initRxPktQueueOnce_later (b : NaBuild) : (initRxPktQueueOnce b).Calls Later := by
  simp [initRxPktQueueOnce, Later.call, Later.store]

theorem configUlpOnce_later (ulp : UlpConfig) (ifp : Handle) (w : UInt32) :
    (configUlpOnce ulp ifp w).Calls Later := by
  simp [configUlpOnce, Later.call, Later.store]

theorem monitorInactivity_later {cfg : Na Unit} (hcfg : cfg.Calls Later) (i w : UInt32) :
    (monitorInactivity cfg i w).Calls Later := by
  have hround : ∀ t, (inactivityRound cfg t i w).Calls Later := fun t =>
    hcfg.bind fun _ => by simp [Later.call]
  unfold monitorInactivity
  simp [Later.call, hround]

theorem cylpaWaitNetInactivity_later (b : NaBuild) (i w : UInt32) :
    (cylpaWaitNetInactivity b i w).Calls Later := by
  unfold cylpaWaitNetInactivity
  cases b.ulp with
  | none => exact monitorInactivity_later (Prog.calls_ret ()) i w
  | some ulp =>
      refine ⟨.call rfl, fun ifp => ?_⟩
      cases ifp with
      | none => trivial
      | some ifp => exact monitorInactivity_later (configUlpOnce_later ulp ifp w) i w

theorem cylpaSuspendNs_later (b : NaBuild) : (cylpaSuspendNs b).Calls Later := by
  cases h : b.stack <;>
    simp [cylpaSuspendNs, suspendStack, suspendDhcp, deactivateIfActive, Option.forall, h,
      Later.call, Later.store]

theorem cylpaResumeNs_later (b : NaBuild) : (cylpaResumeNs b).Calls Later := by
  cases h : b.stack <;>
    simp [cylpaResumeNs, resumeStack, resumeDhcp, resumeIp, retakeDhcp, activateIfInactive,
      Option.forall, h, Later.call, Later.store]

theorem notifyApplication_later (t : CylpaNotifyEventType) :
    (notifyApplication t).Calls Later := by
  refine ⟨.call rfl, fun v => ?_⟩
  cases h : v.suspendNotifyCb <;> simp [h, Later.call]

theorem suspendUntilActivity_later (b : NaBuild) (wifi : Handle) (waitMs : UInt32) :
    (suspendUntilActivity b wifi waitMs).Calls Later := by
  have hprint : (printBusStats b wifi).Calls Later := by
    cases h : b.stack <;>
      simp [printBusStats, cylpaPrintWhdBusStats, interfaceIsUp, h, Option.forall, Later.call]
  have htake : (takeRxPackets b).Calls Later := by
    simp [takeRxPackets, cylpaRxQueuePktInput, rxQueueRound, rxQueuePkt, Option.forall, Later.call]
  have hwait : (waitNetActivity waitMs).Calls Later :=
    (notifyApplication_later _).bind fun _ => by simp [Later.call]
  have hresume : ∀ state lpTime, (resumeSection b wifi waitMs state lpTime).Calls Later := by
    intro state lpTime
    refine ⟨.call rfl, fun _ => ⟨.call rfl, fun _ => ⟨.store fun _ => rfl, fun _ => ?_⟩⟩⟩
    refine hprint.bind fun _ => (notifyApplication_later _).bind fun _ => ⟨.call rfl, fun _ => ?_⟩
    refine htake.bind fun _ => (cylpaResumeNs_later b).bind fun _ => ?_
    simp [Later.call]
  refine (cylpaSuspendNs_later b).bind fun state => ?_
  refine Prog.Calls.bind (by simp [queueRxPackets, Later.call]) fun _ => ?_
  split
  · exact hwait.bind fun r => hresume r.1 r.2
  · trivial

/-- What `wait_net_suspend` does after the set-up. -/
theorem suspendIfInactive_later (b : NaBuild) (wifi : Handle)
    (waitMs interval window : UInt32) :
    (suspendIfInactive b wifi waitMs interval window).Calls Later := by
  refine (cylpaWaitNetInactivity_later b interval window).bind fun state => ?_
  split
  · exact suspendUntilActivity_later b wifi waitMs
  · trivial

/-! ### Runs -/

/-- Where a run stands. -/
def SetUp.At (k : SetUp) (done suspended : Bool) (h : NaHist) (v : NaVars) : Prop :=
  setUp h = k ∧ v.emacActivityCallbackRegistered = done ∧ v.cylpaSNsSuspended = suspended

/-- The set-up is behind us, and is complete exactly if none of its calls has failed. -/
def SetUpDone (h : NaHist) (v : NaVars) : Prop :=
  v.emacActivityCallbackRegistered = true ∧ (setUp h).Settled

/-- Between two calls the set-up is behind us, or the stack is not suspended and nothing has been
set up. -/
def BetweenCalls (h : NaHist) (v : NaVars) : Prop := SetUp.fresh.At false false h v ∨ SetUpDone h v

/-- Whenever the stack is suspended, the set-up is complete exactly if no call has failed. -/
def Wakeable (h : NaHist) (v : NaVars) : Prop := v.cylpaSNsSuspended = true → (setUp h).Settled

theorem BetweenCalls.wakeable {h : NaHist} {v : NaVars} (hb : BetweenCalls h v) : Wakeable h v := by
  intro hf
  rcases hb with ⟨-, -, hnot⟩ | hdone
  · simp [hnot] at hf
  · exact hdone.2

/-- Every run of the program is wakeable at its calls, and ends in `Q`. -/
def Wakes {α : Type} (Q : α → NaHist → NaVars → Prop) (p : Na α) (h : NaHist) (v : NaVars) :
    Prop :=
  Safe anyAnswer noEnv (fun _ => Wakeable) Q p h v

section Rules

variable {α β : Type} {k : SetUp} {done suspended : Bool} {h : NaHist} {v : NaVars}

theorem Wakes.ret {Q : α → NaHist → NaVars → Prop} {x : α} (hQ : Q x h v) : Wakes Q (.ret x) h v :=
  Safe.ret (Prog.stable_alone _) hQ

theorem Wakes.bind {Q : β → NaHist → NaVars → Prop} {p : Na α} {g : α → Na β}
    (R : α → NaHist → NaVars → Prop) (hp : Wakes R p h v)
    (hg : ∀ x h v, R x h v → Wakes Q (g x) h v) : Wakes Q (p.bind g) h v :=
  Safe.bind R hp hg

theorem next_of_not_setUpOp {o : NaOp} (ho : isSetUpOp o = false) (k : SetUp) (r : NaRes o) :
    k.next (.call o r) = k := by
  cases o <;> first | rfl | cases ho

/-- Calls that have nothing to do with the set-up keep it as it is. -/
theorem Wakes.later {p : Na α} (hp : p.Calls Later) (hd : SetUpDone h v) :
    Wakes (fun _ => SetUpDone) p h v := by
  refine Safe.frame hp (Prog.stable_alone _) (fun _ _ _ _ hd _ => hd.2) ?_ hd
  rintro o h v r v' ho ⟨he, hs⟩ hv
  cases ho with
  | call ho =>
      obtain rfl := anyAnswer_of_not_store (by cases o <;> first | rfl | cases ho) hv
      exact ⟨he, by rwa [setUp_append, next_of_not_setUpOp ho]⟩
  | store hf =>
      obtain rfl := hv
      exact ⟨(hf v).trans he, by rwa [setUp_append]⟩

/-- So do calls before it. -/
theorem Wakes.before {p : Na α} (hp : p.Calls (isSetUpOp · = false)) (hb : BetweenCalls h v) :
    Wakes (fun _ => BetweenCalls) p h v := by
  refine Safe.frame hp (Prog.stable_alone _) (fun _ _ _ _ hb => hb.wakeable) ?_ hb
  rintro o h v r v' ho hb hv
  obtain rfl := anyAnswer_of_not_store (by cases o <;> first | rfl | cases ho) hv
  unfold BetweenCalls SetUp.At SetUpDone
  rwa [setUp_append, next_of_not_setUpOp ho]

/-- A call that is no store, while the stack is not suspended. -/
theorem Wakes.call {Q : α → NaHist → NaVars → Prop} {o : NaOp} {g : NaRes o → Na α}
    (hat : k.At done false h v) (ho : isStore o = false)
    (hg : ∀ r h v, anyAnswer o v r v → (k.next (.call o r)).At done false h v →
      Wakes Q (g r) h v) :
    Wakes Q ((op o).bind g) h v := by
  refine Safe.call (k.At done false) (Prog.stable_alone _) hat
    (fun _ _ hat hf => by simp [hat.2.2] at hf) ?_
  rintro h v r v' ⟨rfl, rfl, hf⟩ hv
  obtain rfl := anyAnswer_of_not_store ho hv
  exact hg r _ _ hv ⟨setUp_append _ _, rfl, hf⟩

/-- A store, while the stack is not suspended. -/
theorem Wakes.store {Q : α → NaHist → NaVars → Prop} {u : NaVars → NaVars} {done' : Bool}
    {g : Unit → Na α} (hat : k.At done false h v)
    (hdone : ∀ v, v.emacActivityCallbackRegistered = done →
      (u v).emacActivityCallbackRegistered = done')
    (hsusp : ∀ v, (u v).cylpaSNsSuspended = v.cylpaSNsSuspended)
    (hg : ∀ h v, k.At done' false h v → Wakes Q (g ()) h v) :
    Wakes Q ((op (.store u)).bind g) h v := by
  refine Safe.call (k.At done false) (Prog.stable_alone _) hat
    (fun _ _ hat hf => by simp [hat.2.2] at hf) ?_
  rintro h v r v' ⟨hk, hd, hf⟩ rfl
  exact hg _ _ ⟨(setUp_append _ _).trans hk, hdone v hd, (hsusp v).trans hf⟩

end Rules

section Parts

variable {h : NaHist} {v : NaVars}

/-- **The set-up calls** complete the set-up exactly if none fails. -/
theorem cylpaRegisterNetworkActivityCallback_wakes (hat : SetUp.fresh.At false false h v) :
    Wakes (fun _ h v => ∃ k : SetUp, k.Settled ∧ k.At false false h v)
      cylpaRegisterNetworkActivityCallback h v := by
  refine Wakes.call hat rfl fun (r : CyRslt) h v _ hat => ?_
  by_cases hr : r = .success
  · rw [if_neg (not_not.mpr hr)]
    refine Wakes.store hat (fun _ hd => hd) (fun _ => rfl) fun h v hat => ?_
    refine Wakes.call hat rfl fun (r' : CyRslt) h v _ hat => ?_
    by_cases hr' : r' = .success
    · rw [if_neg (not_not.mpr hr')]
      refine Wakes.call hat rfl fun _ h v _ hat => ?_
      exact Wakes.ret ⟨_, by simp [SetUp.Settled, SetUp.Complete, SetUp.fresh, hr, hr'], hat⟩
    · rw [if_pos hr']
      exact Wakes.ret ⟨_, by simp [SetUp.Settled, SetUp.Complete, SetUp.fresh, hr'], hat⟩
  · rw [if_pos hr]
    exact Wakes.ret ⟨_, by simp [SetUp.Settled, SetUp.Complete, SetUp.fresh, hr], hat⟩

/-- The first call tries the set-up, and no other does. -/
theorem initHandlerOnce_wakes (hb : BetweenCalls h v) :
    Wakes (fun _ => SetUpDone) initHandlerOnce h v := by
  unfold initHandlerOnce
  rcases hb with hat | hd
  · refine Wakes.call hat rfl fun v' h v hv hat => ?_
    obtain ⟨rfl, -⟩ := hv
    unfold Prog.when
    rw [if_pos hat.2.1]
    refine Wakes.bind (fun _ h v => ∃ k : SetUp, k.Settled ∧ k.At false false h v)
      ((cylpaRegisterNetworkActivityCallback_wakes hat).bind _ fun _ h v hk => Wakes.ret hk) ?_
    rintro _ h v ⟨k, hk, hat⟩
    refine Wakes.store (g := .ret) (u := fun v => { v with emacActivityCallbackRegistered := true })
      hat (fun _ _ => rfl) (fun _ => rfl) fun h v hat => Wakes.ret ?_
    exact ⟨hat.2.1, hat.1 ▸ hk⟩
  · refine Safe.call SetUpDone (Prog.stable_alone _) hd (fun _ _ hd _ => hd.2) ?_
    rintro h v v' _ ⟨hdone, hset⟩ ⟨rfl, rfl⟩
    unfold Prog.when
    rw [Prog.ret_bind, if_neg (by simp [hdone])]
    exact Wakes.ret ⟨hdone, by rwa [setUp_append]⟩

/-- **A call of `wait_net_suspend`.** -/
theorem waitNetSuspend_wakes (b : NaBuild) (waitMs interval window : UInt32)
    (hb : BetweenCalls h v) :
    Wakes (fun _ => BetweenCalls) (waitNetSuspend b waitMs interval window) h v := by
  refine (Wakes.before (connectedInterface_noSetUp b) hb).bind _ fun wifi h v hb => ?_
  cases wifi with
  | none => exact Wakes.ret hb
  | some wifi =>
      refine (initHandlerOnce_wakes hb).bind _ fun _ h v hd => ?_
      refine (Wakes.later ?_ hd).mono (fun _ _ _ hj => hj) fun _ _ _ hd => .inr hd
      refine (initRxPktQueueOnce_later b).bind fun _ => ⟨.call rfl, fun _ => ?_⟩
      exact (suspendIfInactive_later b wifi waitMs interval window).bind fun _ => by
        simp [Later.call]

theorem waitNetSuspends_wakes (b : NaBuild) (calls : List WaitArgs) (hb : BetweenCalls h v) :
    Wakes (fun _ => BetweenCalls) (waitNetSuspends b calls) h v := by
  induction calls generalizing h v with
  | nil => exact Wakes.ret hb
  | cons a as ih =>
      refine (waitNetSuspend_wakes b _ _ _ hb).bind _ fun _ h v hb => ?_
      exact (ih hb).bind _ fun _ h v hb => Wakes.ret hb

end Parts

/-- A run of some calls of `wait_net_suspend`, so far. -/
abbrev NaRun := Prog.Config NaOp NaRes Empty NaVars (List NetworkStackState)

/-- **The stack is never suspended without a way to wake it up, exactly if** no set-up call has
failed: in any number of calls of `wait_net_suspend`, from a program just started, whenever the
stack is suspended, the event and the mutex are initialised and the callback is registered if and
only if every call to initialise one of them has succeeded. -/
theorem waitNetSuspends_setUp_iff (b : NaBuild) (calls : List WaitArgs) (v₀ : NaVars)
    (hfirst : v₀.emacActivityCallbackRegistered = false) (hrunning : v₀.cylpaSNsSuspended = false)
    (c : NaRun) (hrun : Reach anyAnswer noEnv ⟨waitNetSuspends b calls, [], v₀⟩ c)
    (hpaused : c.Paused) (hsusp : c.st.cylpaSNsSuspended = true) :
    (setUp c.hist).Complete ↔ (setUp c.hist).failed = false :=
  Safe.paused ((waitNetSuspends_wakes b calls (.inl ⟨rfl, hfirst, hrunning⟩)).mono
    (fun _ _ _ hj => hj) fun _ _ _ hb => hb.wakeable) hrun hpaused hsusp

/-- A run of the NetX Duo build to the wait for the network to wake up. -/
theorem waitNetSuspends_setUp_iff_netxduo : ∃ c : NaRun,
    Reach anyAnswer noEnv ⟨waitNetSuspends ⟨.netxduo, none⟩ [⟨1000, 20, 10⟩], [], .boot⟩ c ∧
      c.st.cylpaSNsSuspended = true ∧ (setUp c.hist).Complete := by
  have hrun : Reach anyAnswer noEnv _ _ := Prog.reach_exec usualAnswer_answers 30
    ⟨waitNetSuspends ⟨.netxduo, none⟩ [⟨1000, 20, 10⟩], [], .boot⟩
  exact ⟨_, hrun, by decide, (waitNetSuspends_setUp_iff _ _ _ rfl rfl _ hrun (.inl ⟨_, _, rfl⟩)
    (by decide)).mpr (by decide)⟩

/-- A mutex that cannot be initialised. -/
def mutexFails : (o : NaOp) → NaHist → NaVars → NaRes o × NaVars
  | .cyRtosInitMutex, _, v => (.error 1, v)
  | o, h, v => usualAnswer o h v

theorem mutexFails_answers (o : NaOp) (h : NaHist) (v : NaVars) :
    anyAnswer o v (mutexFails o h v).1 (mutexFails o h v).2 := by
  cases o <;> first | exact ⟨rfl, rfl⟩ | rfl

/-- Without its mutex the stack is suspended all the same, and no callback wakes it up. -/
theorem waitNetSuspends_not_setUp :
    ¬ ∀ (b : NaBuild) (calls : List WaitArgs) (v₀ : NaVars) (c : NaRun),
      v₀.emacActivityCallbackRegistered = false → v₀.cylpaSNsSuspended = false →
      Reach anyAnswer noEnv ⟨waitNetSuspends b calls, [], v₀⟩ c → c.Paused →
      c.st.cylpaSNsSuspended = true → (setUp c.hist).Complete := by
  intro hall
  have hrun : Reach anyAnswer noEnv _ _ := Prog.reach_exec mutexFails_answers 30
    ⟨waitNetSuspends ⟨.netxduo, none⟩ [⟨1000, 20, 10⟩], [], .boot⟩
  have hcomplete := hall _ _ _ _ rfl rfl hrun (.inl ⟨_, _, rfl⟩) (by decide)
  exact absurd hcomplete.2.2 (by decide)

end Lpa.NetActivity
