import Lpa.NetActivity.Packets
import Lpa.NetActivity.Balance
import Lpa.Support.Monitor
import Mathlib.Algebra.Group.Nat.Defs

/-!
# Network activity — the power protocol

`wait_net_suspend` has several partners: the deep-sleep lock, the offload manager, the application,
the WHD's packets and the network stack.  `HostState` is where it stands with them, and
`HostState.allows` says which calls may be made there.

* `waitNetSuspends_follows`: in any number of calls, whatever they are answered and whenever the
  application registers its callback, `wait_net_suspend` makes no other calls, and the stack is
  suspended for as long as the offload manager is told that the host sleeps.
* `waitNetSuspends_notifications`: the offload manager is told of sleep and wake-up in turns, and
  once for every answer that says the host has slept.
-/

namespace Lpa.NetActivity

open Prog (Reach Config Label)
open Monitor (Follows Kept Silent)

/-! ### The application's callback -/

/-- `cylpa_register_suspend_notify_callback`. -/
def cylpaRegisterSuspendNotifyCallback (callback userData : Option Handle) (v : NaVars) :
    NetworkStackState × NaVars :=
  match callback with
  | none => (.badArgs, v)
  | some cb => (.success, { v with suspendNotifyCb := some cb, cbData := userData })

/-- The two stores of a registration, by another thread. -/
inductive Registration where
  | suspendNotifyCb (cb : Handle)
  | cbData (data : Option Handle)
deriving DecidableEq

/-- What a store makes of the variables. -/
def Registration.store : Registration → NaVars → NaVars
  | .suspendNotifyCb cb, v => { v with suspendNotifyCb := some cb }
  | .cbData data, v => { v with cbData := data }

def registers (e : Registration) (v v' : NaVars) : Prop := v' = e.store v

/-- A registration is its two stores, one after the other. -/
theorem cylpaRegisterSuspendNotifyCallback_eq (cb : Handle) (data : Option Handle) (v : NaVars) :
    (cylpaRegisterSuspendNotifyCallback (some cb) data v).2 =
      (Registration.cbData data).store ((Registration.suspendNotifyCb cb).store v) := rfl

/-! ### The protocol -/

/-- Where the host stands: whether deep sleep is locked, what the offload manager was told last and
how often it was told of sleep, whether the core of the lwIP stack is locked, and whether packets
are queued for it. -/
structure HostState where
  sleepLocked : Bool
  told : OlPmSt
  sleeps : ℕ
  coreLocked : Bool
  rxQueued : Bool
deriving DecidableEq

namespace HostState

/-- **Awake**: the stack takes its packets itself. -/
def Awake (q : HostState) : Prop :=
  q.told = .awake ∧ q.coreLocked = false ∧ q.rxQueued = false

/-- **Asleep**: the offload manager knows, and with lwIP the stack is locked and packets queue. -/
def Asleep (b : NaBuild) (q : HostState) : Prop :=
  q.told = .goingToSleep ∧ (b.stack = .lwip → q.coreLocked = true ∧ q.rxQueued = true)

/-- Under the deep-sleep lock, the offload manager being told that the host is awake. -/
def Watches (q : HostState) : Prop := q.sleepLocked = true ∧ q.told = .awake

/-- **The calls that may be made.** -/
@[reducible] def allows (b : NaBuild) (q : HostState) : NaOp → Prop
  | .lockDeepsleep => q.sleepLocked = false
  -- deep sleep is unlocked awake or asleep, never in between
  | .unlockDeepsleep => q.sleepLocked = true ∧ (q.Awake ∨ q.Asleep b)
  | .cyRtosWaitbitsEvent .inactivity _ _ => q.Watches ∧ q.Awake
  | .cyRtosWaitbitsEvent .wakeUp _ _ => q.sleepLocked = false ∧ q.Asleep b
  | .whdWifiConfigUlpMode _ _ _ => q.Watches ∧ q.Awake
  | .cylpaOlmDispatchPmNotification .goingToSleep =>
      q.Watches ∧ (b.stack = .lwip → q.coreLocked = true ∧ q.rxQueued = true)
  | .cylpaOlmDispatchPmNotification .awake => q.sleepLocked = true ∧ q.Asleep b
  | .cylpaOlmDispatchPmNotification .max => False
  | .suspendNotifyCb _ .nwSuspended _ =>
      q.Watches ∧ (b.stack = .lwip → q.coreLocked = true ∧ q.rxQueued = true)
  | .suspendNotifyCb _ .nwResuming _ => q.sleepLocked = true ∧ q.Asleep b
  | .lockTcpipCore => q.Watches ∧ q.coreLocked = false
  | .unlockTcpipCore => q.Watches ∧ q.coreLocked = true ∧ q.rxQueued = false
  | .cyNetworkRegisterRxQueueCb on => q.Watches ∧ q.coreLocked = true ∧ q.rxQueued = !on
  | .cyRtosQueueGet => q.Watches ∧ q.coreLocked = true ∧ q.rxQueued = false
  | .netifInput _ => q.Watches ∧ q.coreLocked = true ∧ q.rxQueued = false
  | .txMutexGet _ => q.Watches
  | .txMutexPut _ => q.Watches
  | .txTimerActivate _ => q.Watches
  | .txTimerDeactivate _ => q.Watches
  | _ => True

/-- Where a call leads. -/
@[simp, reducible] def next (q : HostState) : NaOp → HostState
  | .lockDeepsleep => { q with sleepLocked := true }
  | .unlockDeepsleep => { q with sleepLocked := false }
  | .cylpaOlmDispatchPmNotification .goingToSleep =>
      { q with told := .goingToSleep, sleeps := q.sleeps + 1 }
  | .cylpaOlmDispatchPmNotification .awake => { q with told := .awake }
  | .lockTcpipCore => { q with coreLocked := true }
  | .unlockTcpipCore => { q with coreLocked := false }
  | .cyNetworkRegisterRxQueueCb on => { q with rxQueued := on }
  | _ => q

/-- Between two calls of `wait_net_suspend`. -/
def resting (n : ℕ) : HostState := ⟨false, .awake, n, false, false⟩

end HostState

/-- The protocol as a monitor. -/
abbrev powerProtocol (b : NaBuild) : Monitor NaOp NaRes where
  State := HostState
  start := .resting 0
  allows := HostState.allows b
  next q o _ := q.next o

/-- While the offload manager is told that the host sleeps, the stack is suspended. -/
def StackSuspended (q : HostState) (v : NaVars) : Prop :=
  q.told = .goingToSleep → v.cylpaSNsSuspended = true

/-- What the calls have been, how they were answered, and the registrations in between. -/
abbrev PowerHist := List (Label NaOp NaRes Registration)

/-- The host stands in `q`, and the stack is suspended or not. -/
def Stands (b : NaBuild) (q : HostState) (f : Bool) : PowerHist → NaVars → Prop :=
  (powerProtocol b).At q fun v => v.cylpaSNsSuspended = f

/-- Every run keeps to the protocol and ends in `Q`. -/
def Obeys (b : NaBuild) {α : Type} (Q : α → PowerHist → NaVars → Prop) (p : Na α)
    (h : PowerHist) (v : NaVars) : Prop :=
  (powerProtocol b).Follows anyAnswer registers StackSuspended Q p h v

/-- A call that may be made in `q` and changes nothing there. -/
inductive Idle (b : NaBuild) (q : HostState) : NaOp → Prop where
  | call {o : NaOp} (ho : ∀ u, o ≠ .store u) (hallow : q.allows b o) (hnext : q.next o = q) :
      Idle b q o
  | store {u : NaVars → NaVars}
      (hu : ∀ v, (u v).cylpaSNsSuspended = v.cylpaSNsSuspended) : Idle b q (.store u)

theorem Idle.silent {b : NaBuild} {q : HostState} {f : Bool} {o : NaOp} (ho : Idle b q o) :
    (powerProtocol b).Silent anyAnswer q (fun v => v.cylpaSNsSuspended = f) o := by
  cases ho with
  | call ho hallow hnext =>
      have hstore : isStore o = false := by
        cases o with
        | store u => exact absurd rfl (ho u)
        | _ => rfl
      refine ⟨hallow, fun _ => hnext, fun v r v' hv hs => ?_⟩
      rw [anyAnswer_of_not_store hstore hs]
      exact hv
  | store hu =>
      refine ⟨trivial, fun _ => rfl, ?_⟩
      rintro v r v' hv rfl
      exact (hu v).trans hv

section Rules

variable {α β : Type} {b : NaBuild} {q : HostState} {f : Bool} {h : PowerHist} {v : NaVars}

theorem suspended_kept : Kept registers fun v => v.cylpaSNsSuspended = f := by
  rintro e v v' hv rfl
  cases e <;> exact hv

theorem coupled (hC : q.told = .awake ∨ f = true) (v : NaVars)
    (hv : v.cylpaSNsSuspended = f) : StackSuspended q v := by
  intro hq
  rcases hC with h | h
  · rw [h] at hq
    cases hq
  · exact hv.trans h

theorem Stands.stable : Prog.Stable registers (Stands b q f) := Monitor.At.stable suspended_kept

theorem Obeys.ret {Q : α → PowerHist → NaVars → Prop} {a : α} (hat : Stands b q f h v)
    (hQ : ∀ h v, Stands b q f h v → Q a h v) : Obeys b Q (.ret a) h v := by
  have hst : Prog.Stable registers fun h v => a = a ∧ Stands b q f h v :=
    fun e h v v' hv he => ⟨rfl, Stands.stable e h v v' hv.2 he⟩
  refine Follows.mono (Follows.ret (Q := fun a' h v => a = a' ∧ Stands b q f h v) hst ⟨rfl, hat⟩) ?_
  rintro a h v ⟨rfl, hat⟩
  exact hQ h v hat

theorem Obeys.mono {Q Q' : α → PowerHist → NaVars → Prop} {p : Na α} (hp : Obeys b Q p h v)
    (hQ : ∀ a h v, Q a h v → Q' a h v) : Obeys b Q' p h v :=
  Follows.mono hp hQ

theorem Obeys.bind {Q : β → PowerHist → NaVars → Prop} {R : α → PowerHist → NaVars → Prop}
    {p : Na α} {g : α → Na β} (hp : Obeys b R p h v)
    (hg : ∀ a h v, R a h v → Obeys b Q (g a) h v) : Obeys b Q (p.bind g) h v :=
  Follows.bind hp hg

/-- A part of the run that is idle in `q`. -/
theorem Obeys.idle {p : Na α} (hp : p.Calls (Idle b q)) (hC : q.told = .awake ∨ f = true)
    (hat : Stands b q f h v) : Obeys b (fun _ => Stands b q f) p h v :=
  Follows.silent (hp.mono fun _ => Idle.silent) suspended_kept (coupled hC) hat

/-- What such a part returns is among what it may return. -/
theorem Obeys.idle_yields {P : α → Prop} {p : Na α} (hp : p.Calls (Idle b q)) (hy : p.Yields P)
    (hC : q.told = .awake ∨ f = true) (hat : Stands b q f h v) :
    Obeys b (fun a h v => P a ∧ Stands b q f h v) p h v :=
  Follows.yields hy (Obeys.idle hp hC hat)

/-- A call that is no store. -/
theorem Obeys.call {Q : β → PowerHist → NaVars → Prop} {o : NaOp} {g : NaRes o → Na β}
    (ho : isStore o = false) (hallow : q.allows b o) (hC : q.told = .awake ∨ f = true)
    (hat : Stands b q f h v)
    (hg : ∀ r h v, Stands b (q.next o) f h v → Obeys b Q (g r) h v) :
    Obeys b Q ((op o).bind g) h v := by
  refine Follows.call (fun _ v => v.cylpaSNsSuspended = f) suspended_kept hat hallow
    (coupled hC) ?_ hg
  intro v r v' hv hs
  rw [anyAnswer_of_not_store ho hs]
  exact hv

theorem Obeys.load {Q : β → PowerHist → NaVars → Prop} {g : NaVars → Na β}
    (hC : q.told = .awake ∨ f = true) (hat : Stands b q f h v)
    (hg : ∀ u h v, u.cylpaSNsSuspended = f → Stands b q f h v → Obeys b Q (g u) h v) :
    Obeys b Q ((op .load).bind g) h v := by
  refine Follows.call (fun (u : NaVars) v => u.cylpaSNsSuspended = f ∧ v.cylpaSNsSuspended = f)
    suspended_kept hat trivial (coupled hC) ?_ ?_
  · rintro v r v' hv ⟨rfl, rfl⟩
    exact ⟨hv, hv⟩
  · exact fun u h v hat => hg u h v hat.2.1 ⟨hat.1, hat.2.2⟩

/-- A store that sets whether the stack is suspended. -/
theorem Obeys.store {Q : β → PowerHist → NaVars → Prop} (f' : Bool) {u : NaVars → NaVars}
    {g : Unit → Na β} (hu : ∀ v, (u v).cylpaSNsSuspended = f')
    (hC : q.told = .awake ∨ f = true) (hat : Stands b q f h v)
    (hg : ∀ h v, Stands b q f' h v → Obeys b Q (g ()) h v) :
    Obeys b Q ((op (.store u)).bind g) h v := by
  refine Follows.call (fun _ v => v.cylpaSNsSuspended = f') suspended_kept hat trivial
    (coupled hC) ?_ fun _ => hg
  rintro v r v' - rfl
  exact hu v

end Rules

/-! ### The stages of a call -/

/-- Whether the file is compiled for lwIP. -/
abbrev isLwip (b : NaBuild) : Bool := decide (b.stack = .lwip)

/-- Deep sleep is locked, to watch the network. -/
def watching (n : ℕ) : HostState := ⟨true, .awake, n, false, false⟩

/-- The stack is suspended, or about to be resumed. -/
def quiesced (b : NaBuild) (n : ℕ) : HostState := ⟨true, .awake, n, isLwip b, false⟩

/-- The stack is suspended and with lwIP packets queue. -/
def suspended (b : NaBuild) (n : ℕ) : HostState := ⟨true, .awake, n, isLwip b, isLwip b⟩

/-- The offload manager has been told, deep sleep is still or again locked. -/
def settled (b : NaBuild) (n : ℕ) : HostState :=
  ⟨true, .goingToSleep, n + 1, isLwip b, isLwip b⟩

/-- Deep sleep is unlocked. -/
def sleeping (b : NaBuild) (n : ℕ) : HostState :=
  ⟨false, .goingToSleep, n + 1, isLwip b, isLwip b⟩

theorem watching_awake (n : ℕ) : (watching n).Watches ∧ (watching n).Awake :=
  ⟨⟨rfl, rfl⟩, rfl, rfl, rfl⟩

theorem settled_asleep (b : NaBuild) (n : ℕ) : (settled b n).Asleep b :=
  ⟨rfl, fun hb => ⟨decide_eq_true hb, decide_eq_true hb⟩⟩

theorem sleeping_asleep (b : NaBuild) (n : ℕ) : (sleeping b n).Asleep b :=
  settled_asleep b n

section Quiet

variable {b : NaBuild} {q : HostState} {f : Bool} {n : ℕ}

theorem connectedInterface_idle : (connectedInterface b).Calls (Idle b q) := by
  cases h : b.stack <;>
    simp [connectedInterface, Option.forall, h, Idle.call, HostState.allows]

theorem initHandlerOnce_idle : initHandlerOnce.Calls (Idle b q) := by
  simp [initHandlerOnce, cylpaNetworkActHandlerInit, cylpaRegisterNetworkActivityCallback,
    Idle.call, Idle.store, HostState.allows]

theorem initRxPktQueueOnce_idle : (initRxPktQueueOnce b).Calls (Idle b q) := by
  simp [initRxPktQueueOnce, Idle.call, Idle.store, HostState.allows]

theorem printBusStats_idle (wifi : Handle) : (printBusStats b wifi).Calls (Idle b q) := by
  cases h : b.stack <;>
    simp [printBusStats, cylpaPrintWhdBusStats, interfaceIsUp, h, Option.forall, Idle.call,
      HostState.allows]

/-- The application is told where the protocol lets it be. -/
theorem notifyApplication_idle {t : CylpaNotifyEventType}
    (ht : ∀ cb data, q.allows b (.suspendNotifyCb cb t data)) :
    (notifyApplication t).Calls (Idle b q) := by
  refine ⟨.call nofun trivial rfl, fun v => ?_⟩
  cases h : v.suspendNotifyCb <;> simp [h, ht, Idle.call]

theorem configUlpOnce_idle (ulp : UlpConfig) (ifp : Handle) (w : UInt32) :
    (configUlpOnce ulp ifp w).Calls (Idle b (watching n)) := by
  simp [configUlpOnce, Idle.call, Idle.store, HostState.allows, watching_awake]

theorem monitorInactivity_idle {cfg : Na Unit} (hcfg : cfg.Calls (Idle b (watching n)))
    (i w : UInt32) : (monitorInactivity cfg i w).Calls (Idle b (watching n)) := by
  have hround : ∀ t, (inactivityRound cfg t i w).Calls (Idle b (watching n)) := fun t =>
    hcfg.bind fun _ => by simp [Idle.call, HostState.allows, watching_awake]
  unfold monitorInactivity
  simp [Idle.call, HostState.allows, hround]

theorem cylpaWaitNetInactivity_idle (i w : UInt32) :
    (cylpaWaitNetInactivity b i w).Calls (Idle b (watching n)) := by
  unfold cylpaWaitNetInactivity
  cases b.ulp with
  | none => exact monitorInactivity_idle (Prog.calls_ret ()) i w
  | some ulp =>
      refine ⟨.call nofun trivial rfl, fun ifp => ?_⟩
      cases ifp with
      | none => trivial
      | some ifp => exact monitorInactivity_idle (configUlpOnce_idle ulp ifp w) i w

end Quiet

/-! ### What a call answers -/

/-- The answers of a call that has put the host to sleep. -/
def Slept (s : NetworkStackState) : Prop := s = .netActivity ∨ s = .waitTimeoutExpired

instance (s : NetworkStackState) : Decidable (Slept s) := inferInstanceAs (Decidable (_ ∨ _))

/-- How often a call with this answer has put the host to sleep. -/
def sleptOnce (s : NetworkStackState) : ℕ := if Slept s then 1 else 0

theorem monitorInactivity_yields (cfg : Na Unit) (i w : UInt32) :
    (monitorInactivity cfg i w).Yields (¬ Slept ·) := by
  have hround : ∀ t, (inactivityRound cfg t i w).Yields fun s? => ∀ s ∈ s?, ¬ Slept s :=
    fun t => .of_rest fun _ => by simp [Slept]
  unfold monitorInactivity
  split
  · exact fun _ t => .loop (hround t)
  · simp [Slept]

theorem cylpaWaitNetInactivity_yields (b : NaBuild) (i w : UInt32) :
    (cylpaWaitNetInactivity b i w).Yields (¬ Slept ·) := by
  unfold cylpaWaitNetInactivity
  cases b.ulp with
  | none => exact monitorInactivity_yields _ i w
  | some ulp =>
      refine fun ifp => ?_
      cases ifp with
      | none => simp [Slept]
      | some ifp => exact monitorInactivity_yields _ i w

theorem suspendStack_yields (s : NetworkStack) : (suspendStack s).Yields (¬ Slept ·) := by
  have hdhcp : ∀ ip d, (suspendDhcp ip d).Yields (¬ Slept ·) := by
    intro ip d
    cases d with
    | none => simp [suspendDhcp, Slept]
    | some d => simp [suspendDhcp, deactivateIfActive, Slept]
  cases s with
  | lwip => simp [suspendStack, Slept]
  | netxduo =>
      refine fun ip => ?_
      cases ip with
      | none => simp [Slept]
      | some ip =>
          refine fun res => ?_
          simp only [Prog.ret_bind, Prog.yields_ite]
          refine ⟨fun _ => by simp [Slept], fun _ => ?_⟩
          refine .of_rest fun _ => .of_rest fun _ d => ?_
          exact hdhcp ip d

/-! ### The parts of a call -/

theorem quiesced_netxduo {b : NaBuild} (hb : b.stack = .netxduo) (n : ℕ) :
    quiesced b n = watching n := by
  simp [quiesced, watching, hb]

theorem suspended_netxduo {b : NaBuild} (hb : b.stack = .netxduo) (n : ℕ) :
    suspended b n = watching n := by
  simp [suspended, watching, hb]

section Parts

variable {b : NaBuild} {n : ℕ} {f : Bool} {h : PowerHist} {v : NaVars}

/-- The stack is suspended under the deep-sleep lock, or NetX Duo refuses. -/
theorem suspendStack_obeys (hat : Stands b (watching n) f h v) :
    Obeys b (fun s h v => ¬ Slept s ∧ (s ≠ .success → b.stack = .netxduo) ∧
      Stands b (quiesced b n) f h v) (suspendStack b.stack) h v := by
  cases hb : b.stack with
  | lwip =>
      refine Obeys.call (o := .lockTcpipCore) rfl ⟨⟨rfl, rfl⟩, rfl⟩ (.inl rfl) hat
        fun _ h v hat => ?_
      refine Obeys.ret hat fun h v hat => ⟨by simp [Slept], by simp, ?_⟩
      simpa [HostState.next, quiesced, watching, isLwip, hb] using hat
  | netxduo =>
      have hidle : (suspendStack .netxduo).Calls (Idle b (watching n)) := by
        have hw : (watching n).Watches := (watching_awake n).1
        simp [suspendStack, suspendDhcp, deactivateIfActive, Option.forall, Idle.call,
          HostState.allows, hw]
      refine (Obeys.idle_yields hidle (suspendStack_yields .netxduo) (.inl rfl) hat).mono ?_
      rintro s h v ⟨hs, hat⟩
      exact ⟨hs, fun _ => rfl, quiesced_netxduo hb n ▸ hat⟩

theorem cylpaSuspendNs_obeys (hf : b.stack = .lwip → f = false)
    (hat : Stands b (watching n) f h v) :
    Obeys b (fun s h v => ¬ Slept s ∧ (s ≠ .success → b.stack = .netxduo) ∧
      ∃ f', (s = .success → f' = true) ∧ Stands b (quiesced b n) f' h v)
      (cylpaSuspendNs b) h v := by
  refine Obeys.load (.inl rfl) hat fun u h v hu hat => ?_
  by_cases hsusp : u.cylpaSNsSuspended = true
  · rw [if_pos hsusp]
    have hb : b.stack = .netxduo := by
      cases hb : b.stack with
      | lwip => rw [hf hb, hsusp] at hu; cases hu
      | netxduo => rfl
    refine Obeys.ret hat fun h v hat => ⟨by simp [Slept], fun _ => hb, f, by simp, ?_⟩
    exact quiesced_netxduo hb n ▸ hat
  · rw [if_neg hsusp]
    refine (suspendStack_obeys hat).bind fun s h v ⟨hslept, hnx, hat⟩ => ?_
    by_cases hs : s = .success
    · rw [if_pos hs]
      refine Obeys.store true (fun _ => rfl) (.inl rfl) hat fun h v hat => ?_
      exact Obeys.ret hat fun h v hat => ⟨by simp [Slept], by simp, true, fun _ => rfl, hat⟩
    · rw [if_neg hs]
      exact Obeys.ret hat fun h v hat => ⟨hslept, hnx, f, fun h => absurd h hs, hat⟩

theorem queueRxPackets_obeys (hat : Stands b (quiesced b n) f h v) :
    Obeys b (fun _ => Stands b (suspended b n) f) (queueRxPackets b) h v := by
  unfold queueRxPackets Prog.when
  cases hb : b.stack with
  | lwip =>
      have hlwip : (quiesced b n).coreLocked = true := decide_eq_true hb
      refine Obeys.call (o := .cyNetworkRegisterRxQueueCb true) (g := .ret) rfl
        ⟨⟨rfl, rfl⟩, hlwip, rfl⟩ (.inl rfl) hat fun _ h v hat => ?_
      refine Obeys.ret hat fun h v hat => ?_
      simpa [HostState.next, quiesced, suspended, isLwip, hb] using hat
  | netxduo =>
      refine Obeys.ret hat fun h v hat => ?_
      rwa [quiesced_netxduo hb, ← suspended_netxduo hb] at hat

/-- **From the stack suspended to the wake-up.** -/
theorem waitNetActivity_obeys (waitMs : UInt32) (hat : Stands b (suspended b n) true h v) :
    Obeys b (fun r h v => Slept r.1 ∧ Stands b (sleeping b n) true h v) (waitNetActivity waitMs)
      h v := by
  have hready : (suspended b n).Watches ∧ (b.stack = .lwip →
      (suspended b n).coreLocked = true ∧ (suspended b n).rxQueued = true) :=
    ⟨⟨rfl, rfl⟩, fun hb => ⟨decide_eq_true hb, decide_eq_true hb⟩⟩
  refine (Obeys.idle (notifyApplication_idle fun _ _ => hready) (.inl rfl) hat).bind
    fun _ h v hat => ?_
  -- the event is cleared and the offload manager told
  refine Obeys.call rfl trivial (.inl rfl) hat fun _ h v hat => ?_
  refine Obeys.call (o := .cylpaOlmDispatchPmNotification .goingToSleep) rfl hready (.inl rfl) hat
    fun _ h v hat => ?_
  -- deep sleep is unlocked
  refine Obeys.call (q := settled b n) rfl ⟨rfl, .inr (settled_asleep b n)⟩ (.inr rfl) hat
    fun _ h v hat => ?_
  -- the wait, between two looks at the clock
  refine Obeys.call (q := sleeping b n) rfl trivial (.inr rfl) hat fun _ h v hat => ?_
  refine Obeys.call (q := sleeping b n) rfl ⟨rfl, sleeping_asleep b n⟩ (.inr rfl) hat
    fun (r : CyRslt) h v hat => ?_
  refine Obeys.call (q := sleeping b n) rfl trivial (.inr rfl) hat fun _ h v hat => ?_
  refine Obeys.ret hat fun h v hat => ⟨?_, hat⟩
  by_cases hr : r = .rtosTimeout <;> simp [hr, Slept]

theorem takeRxPackets_obeys (hat : Stands b (suspended b n) f h v) :
    Obeys b (fun _ => Stands b (quiesced b n) f) (takeRxPackets b) h v := by
  unfold takeRxPackets Prog.when
  cases hb : b.stack with
  | lwip =>
      have hlwip : isLwip b = true := decide_eq_true hb
      have hready : (quiesced b n).Watches ∧ (quiesced b n).coreLocked = true ∧
        (quiesced b n).rxQueued = false := ⟨⟨rfl, rfl⟩, hlwip, rfl⟩
      have hidle : cylpaRxQueuePktInput.Calls (Idle b (quiesced b n)) := by
        simp [cylpaRxQueuePktInput, rxQueueRound, rxQueuePkt, Option.forall, Idle.call,
          HostState.allows, hready]
      refine Obeys.call (o := .cyNetworkRegisterRxQueueCb false) rfl
        ⟨⟨rfl, rfl⟩, hlwip, hlwip⟩ (.inl rfl) hat fun _ h v hat => ?_
      exact Obeys.idle hidle (.inl rfl) hat
  | netxduo =>
      refine Obeys.ret hat fun h v hat => ?_
      rwa [suspended_netxduo hb, ← quiesced_netxduo hb] at hat

/-- **The stack is resumed** under the deep-sleep lock; NetX Duo may refuse. -/
theorem cylpaResumeNs_obeys (hat : Stands b (quiesced b n) true h v) :
    Obeys b (fun _ h v => ∃ f', (b.stack = .lwip → f' = false) ∧ Stands b (watching n) f' h v)
      (cylpaResumeNs b) h v := by
  refine Obeys.load (.inl rfl) hat fun u h v hu hat => ?_
  rw [if_neg (by simp [hu])]
  refine Obeys.bind (R := fun s h v => (b.stack = .lwip → s = .success) ∧
    Stands b (watching n) true h v) ?_ fun s h v ⟨hl, hat⟩ => ?_
  · cases hb : b.stack with
    | lwip =>
        have hlwip : (quiesced b n).coreLocked = true := decide_eq_true hb
        refine Obeys.call (o := .unlockTcpipCore) rfl ⟨⟨rfl, rfl⟩, hlwip, rfl⟩ (.inl rfl) hat
          fun _ h v hat => ?_
        exact Obeys.ret hat fun h v hat => ⟨fun _ => rfl, hat⟩
    | netxduo =>
        rw [quiesced_netxduo hb] at hat
        have hidle : (resumeStack .netxduo).Calls (Idle b (watching n)) := by
          have hw : (watching n).Watches := (watching_awake n).1
          simp [resumeStack, resumeDhcp, resumeIp, retakeDhcp, activateIfInactive, Option.forall,
            Idle.call, HostState.allows, hw]
        exact (Obeys.idle hidle (.inl rfl) hat).mono fun s h v hat => ⟨by simp, hat⟩
  · by_cases hs : s = .success
    · rw [if_pos hs]
      refine Obeys.store false (fun _ => rfl) (.inl rfl) hat fun h v hat => ?_
      exact Obeys.ret hat fun h v hat => ⟨false, fun _ => rfl, hat⟩
    · rw [if_neg hs]
      exact Obeys.ret hat fun h v hat => ⟨true, fun hb => absurd (hl hb) hs, hat⟩

/-- **From the wake-up to the stack resumed.** -/
theorem resumeSection_obeys (wifi : Handle) (waitMs : UInt32) {state : NetworkStackState}
    (hstate : Slept state) (lpTime : UInt32) (hat : Stands b (sleeping b n) true h v) :
    Obeys b (fun s h v => Slept s ∧ ∃ f', (b.stack = .lwip → f' = false) ∧
      Stands b (watching (n + 1)) f' h v) (resumeSection b wifi waitMs state lpTime) h v := by
  refine Obeys.call (q := sleeping b n) rfl trivial (.inr rfl) hat fun _ h v hat => ?_
  -- deep sleep is locked
  refine Obeys.call (q := sleeping b n) rfl rfl (.inr rfl) hat fun _ h v hat => ?_
  have htime : Idle b (settled b n) (.store fun v =>
      { v with cyDsleepNwSuspendTime := v.cyDsleepNwSuspendTime + lpTime }) := .store fun _ => rfl
  refine (Obeys.idle ((Prog.calls_op _).mpr htime) (.inr rfl) hat).bind fun _ h v hat => ?_
  refine (Obeys.idle (printBusStats_idle wifi) (.inr rfl) hat).bind fun _ h v hat => ?_
  have hnotify : (notifyApplication .nwResuming).Calls (Idle b (settled b n)) :=
    notifyApplication_idle fun _ _ => ⟨rfl, settled_asleep b n⟩
  refine (Obeys.idle hnotify (.inr rfl) hat).bind fun _ h v hat => ?_
  -- the offload manager is told
  refine Obeys.call (q := settled b n) (o := .cylpaOlmDispatchPmNotification .awake) rfl
    ⟨rfl, settled_asleep b n⟩ (.inr rfl) hat fun _ h v hat => ?_
  refine (takeRxPackets_obeys (n := n + 1) hat).bind fun _ h v hat => ?_
  refine (cylpaResumeNs_obeys hat).bind fun _ h v ⟨f', hf', hat⟩ => ?_
  refine Obeys.call rfl trivial (.inl rfl) hat fun _ h v hat => ?_
  refine Obeys.ret hat fun h v hat => ⟨?_, f', hf', hat⟩
  split
  · exact .inr rfl
  · exact hstate

theorem suspendUntilActivity_obeys (wifi : Handle) (waitMs : UInt32)
    (hf : b.stack = .lwip → f = false) (hat : Stands b (watching n) f h v) :
    Obeys b (fun s h v => ∃ f', (b.stack = .lwip → f' = false) ∧
      Stands b (watching (n + sleptOnce s)) f' h v) (suspendUntilActivity b wifi waitMs) h v := by
  refine (cylpaSuspendNs_obeys hf hat).bind fun s h v ⟨hslept, hnx, f', hf', hat⟩ => ?_
  refine (queueRxPackets_obeys hat).bind fun _ h v hat => ?_
  by_cases hs : s = .success
  · rw [if_pos hs]
    obtain rfl := hf' hs
    refine (waitNetActivity_obeys waitMs hat).bind fun r h v ⟨hr, hat⟩ => ?_
    refine (resumeSection_obeys wifi waitMs hr r.2 hat).mono fun s h v ⟨hs, f', hf', hat⟩ => ?_
    rw [sleptOnce, if_pos hs]
    exact ⟨f', hf', hat⟩
  · -- NetX Duo has refused
    rw [if_neg hs]
    have hb := hnx hs
    refine Obeys.ret hat fun h v hat => ⟨f', by simp [hb], ?_⟩
    rw [sleptOnce, if_neg hslept]
    exact suspended_netxduo hb n ▸ hat

theorem suspendIfInactive_obeys (wifi : Handle) (waitMs interval window : UInt32)
    (hf : b.stack = .lwip → f = false) (hat : Stands b (watching n) f h v) :
    Obeys b (fun s h v => ∃ f', (b.stack = .lwip → f' = false) ∧
      Stands b (watching (n + sleptOnce s)) f' h v)
      (suspendIfInactive b wifi waitMs interval window) h v := by
  refine (Obeys.idle_yields (cylpaWaitNetInactivity_idle interval window)
    (cylpaWaitNetInactivity_yields b interval window) (.inl rfl) hat).bind
      fun s h v ⟨hslept, hat⟩ => ?_
  by_cases hs : s = .success
  · rw [if_pos hs]
    exact suspendUntilActivity_obeys wifi waitMs hf hat
  · rw [if_neg hs]
    refine Obeys.ret hat fun h v hat => ⟨f, hf, ?_⟩
    rw [sleptOnce, if_neg hslept]
    exact hat

/-- **A call of `wait_net_suspend`** starts and ends with the host awake, and has put it to sleep
once exactly if it says so. -/
theorem waitNetSuspend_obeys (waitMs interval window : UInt32) (hf : b.stack = .lwip → f = false)
    (hat : Stands b (.resting n) f h v) :
    Obeys b (fun s h v => ∃ f', (b.stack = .lwip → f' = false) ∧
      Stands b (.resting (n + sleptOnce s)) f' h v) (waitNetSuspend b waitMs interval window)
      h v := by
  refine (Obeys.idle connectedInterface_idle (.inl rfl) hat).bind fun wifi h v hat => ?_
  cases wifi with
  | none => exact Obeys.ret hat fun h v hat => ⟨f, hf, hat⟩
  | some wifi =>
      refine (Obeys.idle initHandlerOnce_idle (.inl rfl) hat).bind fun _ h v hat => ?_
      refine (Obeys.idle initRxPktQueueOnce_idle (.inl rfl) hat).bind fun _ h v hat => ?_
      refine Obeys.call (q := .resting n) rfl rfl (.inl rfl) hat fun _ h v hat => ?_
      refine (suspendIfInactive_obeys wifi waitMs interval window hf hat).bind
        fun s h v ⟨f', hf', hat⟩ => ?_
      refine Obeys.call (q := watching (n + sleptOnce s)) rfl
        ⟨rfl, .inl (watching_awake _).2⟩ (.inl rfl) hat fun _ h v hat => ?_
      exact Obeys.ret hat fun h v hat => ⟨f', hf', hat⟩

end Parts

/-! ### Whole runs -/

/-- Where the host stands after a history. -/
def hostState (b : NaBuild) (h : PowerHist) : HostState := (powerProtocol b).after h

/-- A run of successive calls of `wait_net_suspend`. -/
abbrev PowerRun := Config NaOp NaRes Registration NaVars (List NetworkStackState)

theorem waitNetSuspends_obeys (b : NaBuild) (calls : List WaitArgs) {n : ℕ} {f : Bool}
    {h : PowerHist} {v : NaVars} (hf : b.stack = .lwip → f = false)
    (hat : Stands b (.resting n) f h v) :
    Obeys b (fun ss h v => ∃ f', Stands b (.resting (n + ss.countP (Slept ·))) f' h v)
      (waitNetSuspends b calls) h v := by
  induction calls generalizing n f h v with
  | nil => exact Obeys.ret hat fun h v hat => ⟨f, hat⟩
  | cons a as ih =>
      refine (waitNetSuspend_obeys _ _ _ hf hat).bind fun s h v ⟨f', hf', hat⟩ => ?_
      refine (ih hf' hat).bind fun ss h v ⟨f'', hat⟩ => ?_
      refine Obeys.ret hat fun h v hat => ⟨f'', ?_⟩
      have hcount : (s :: ss).countP (Slept ·) = sleptOnce s + ss.countP (Slept ·) := by
        rw [List.countP_cons, Nat.add_comm, sleptOnce]
        simp
      rw [hcount, ← Nat.add_assoc]
      exact hat

/-- **`wait_net_suspend` keeps to the power protocol.**  In any number of calls, whatever they are
answered and whenever the application registers its callback, the next call to be made is one the
protocol allows, and the stack is suspended if the offload manager was told last that the host
sleeps; after the last call the host is awake, deep sleep is unlocked and the stack takes its own
packets. -/
theorem waitNetSuspends_follows (b : NaBuild) (calls : List WaitArgs) (v₀ : NaVars)
    (hv₀ : b.stack = .lwip → v₀.cylpaSNsSuspended = false) (c : PowerRun)
    (hrun : Reach anyAnswer registers ⟨waitNetSuspends b calls, [], v₀⟩ c) :
    (∀ o k, c.prog = .call o k →
      (hostState b c.hist).allows b o ∧ StackSuspended (hostState b c.hist) c.st) ∧
    ∀ states, c.prog = .ret states →
      hostState b c.hist = .resting (states.countP (Slept ·)) := by
  obtain ⟨hcall, hret⟩ := waitNetSuspends_obeys b calls (n := 0) hv₀ ⟨rfl, rfl⟩ c hrun
  refine ⟨hcall, fun states e => ?_⟩
  obtain ⟨f', hq, -⟩ := hret states e
  rw [Nat.zero_add] at hq
  exact hq

/-- The answers of a quiet network. -/
def quietAnswer (o : NaOp) (_ : PowerHist) (v : NaVars) : NaRes o × NaVars := usualAnswer o [] v

/-- Two calls, the application registering its callback during the first. -/
def registeredRun (b : NaBuild) : PowerRun :=
  ((Config.exec quietAnswer 12 ⟨waitNetSuspends b [⟨1000, 20, 10⟩, ⟨1000, 20, 10⟩], [],
    .boot⟩).disturb Registration.store (.suspendNotifyCb 5)).exec quietAnswer 100

theorem reach_registeredRun (b : NaBuild) : Reach anyAnswer registers
    ⟨waitNetSuspends b [⟨1000, 20, 10⟩, ⟨1000, 20, 10⟩], [], .boot⟩ (registeredRun b) :=
  ((Prog.reach_exec (fun o _ v => usualAnswer_answers o [] v) 12 _).trans
    (Prog.reach_disturb rfl)).trans
    (Prog.reach_exec (fun o _ v => usualAnswer_answers o [] v) 100 _)

theorem waitNetSuspends_follows_registered :
    hostState ⟨.lwip, none⟩ (registeredRun ⟨.lwip, none⟩).hist = .resting 2 :=
  (waitNetSuspends_follows ⟨.lwip, none⟩ _ .boot (fun _ => rfl) _ (reach_registeredRun _)).2
    [.waitTimeoutExpired, .waitTimeoutExpired] rfl

/-! ### What the offload manager is told -/

/-- The notification of a call. -/
def notification : Label NaOp NaRes Registration → Option OlPmSt
  | .call (.cylpaOlmDispatchPmNotification st) _ => some st
  | _ => none

/-- The notifications of a history. -/
def notifications (h : PowerHist) : List OlPmSt := h.filterMap notification

/-- `n` times asleep and awake again. -/
def sleepCycles (n : ℕ) : List OlPmSt :=
  (List.replicate n [OlPmSt.goingToSleep, OlPmSt.awake]).flatten

theorem sleepCycles_succ (n : ℕ) :
    sleepCycles (n + 1) = sleepCycles n ++ [.goingToSleep, .awake] := by
  simp [sleepCycles, List.replicate_succ']

/-- The notifications there have been where the host stands. -/
inductive HostState.Told (q : HostState) : List OlPmSt → Prop where
  | awake (h : q.told = .awake) : Told q (sleepCycles q.sleeps)
  | asleep {n : ℕ} (h : q.told = .goingToSleep) (hn : q.sleeps = n + 1) :
      Told q (sleepCycles n ++ [.goingToSleep])

theorem HostState.Told.of_eq {q q' : HostState} {ns : List OlPmSt} (h : q.Told ns)
    (htold : q'.told = q.told) (hsleeps : q'.sleeps = q.sleeps) : q'.Told ns := by
  cases h with
  | awake h => exact hsleeps ▸ .awake (htold.trans h)
  | asleep h hn => exact .asleep (htold.trans h) (hsleeps.trans hn)

/-- A call the protocol allows, and the notification it is, if it is one. -/
theorem HostState.Told.next {b : NaBuild} {q : HostState} {ns : List OlPmSt} (h : q.Told ns)
    {o : NaOp} (r : NaRes o) (hallow : q.allows b o) :
    (q.next o).Told (ns ++ (notification (.call o r)).toList) := by
  cases o with
  | cylpaOlmDispatchPmNotification st =>
      cases st with
      | max => exact hallow.elim
      | goingToSleep =>
          cases h with
          | awake h => exact .asleep rfl rfl
          | asleep h hn => exact absurd (hallow.1.2.symm.trans h) (by decide)
      | awake =>
          cases h with
          | awake h => exact absurd (hallow.2.1.symm.trans h) (by decide)
          | @asleep n h hn =>
              have hcycles : sleepCycles q.sleeps = sleepCycles n ++ [.goingToSleep, .awake] := by
                rw [hn, sleepCycles_succ]
              have hadd : (sleepCycles n ++ [.goingToSleep]) ++
                  (notification (.call (.cylpaOlmDispatchPmNotification .awake) r)).toList =
                  sleepCycles q.sleeps := by
                rw [hcycles, List.append_assoc]
                rfl
              rw [hadd]
              exact .awake rfl
  | _ =>
      rw [show (notification _).toList = [] from rfl, List.append_nil]
      exact h.of_eq rfl rfl

/-- **What the host was told last** and how often says all it was told, if the protocol was kept
to. -/
theorem told_of_accepts {b : NaBuild} {h : PowerHist} (hacc : (powerProtocol b).Accepts h) :
    (hostState b h).Told (notifications h) := by
  induction h using List.reverseRecOn with
  | nil => exact .awake rfl
  | append_singleton h l ih =>
      obtain ⟨hprev, hallow⟩ := Monitor.accepts_concat.mp hacc
      have hnote : notifications (h ++ [l]) = notifications h ++ (notification l).toList := by
        cases hl : notification l <;> simp [notifications, hl]
      rw [hnote]
      cases l with
      | env e =>
          have hstate : hostState b (h ++ [.env e]) = hostState b h := Monitor.after_env e
          rw [hstate]
          simpa [notification] using ih hprev
      | call o r =>
          have hstate : hostState b (h ++ [.call o r]) = (hostState b h).next o :=
            Monitor.after_call o r
          rw [hstate]
          exact (ih hprev).next r (hallow o r rfl)

/-- **Sleep and wake-up are announced in turns.**  In any number of calls the offload manager is
told that the host goes to sleep and that it is awake again, over and over in this order, and by
the last call once for every call that answers that the network woke up or the time was over. -/
theorem waitNetSuspends_notifications (b : NaBuild) (calls : List WaitArgs) (v₀ : NaVars)
    (hv₀ : b.stack = .lwip → v₀.cylpaSNsSuspended = false) (c : PowerRun)
    (hrun : Reach anyAnswer registers ⟨waitNetSuspends b calls, [], v₀⟩ c) :
    (∃ n, notifications c.hist = sleepCycles n ∨
      notifications c.hist = sleepCycles n ++ [.goingToSleep]) ∧
    ∀ states, c.prog = .ret states →
      notifications c.hist = sleepCycles (states.countP (Slept ·)) := by
  have hacc : (powerProtocol b).Accepts c.hist :=
    (waitNetSuspends_obeys b calls (n := 0) hv₀ ⟨rfl, rfl⟩).accepts Monitor.accepts_nil hrun
  have htold := told_of_accepts hacc
  refine ⟨?_, fun states e => ?_⟩
  · generalize notifications c.hist = ns at htold
    cases htold with
    | awake h => exact ⟨_, .inl rfl⟩
    | @asleep n h hn => exact ⟨n, .inr rfl⟩
  · have hq := (waitNetSuspends_follows b calls v₀ hv₀ c hrun).2 states e
    rw [hq] at htold
    generalize notifications c.hist = ns at htold
    cases htold with
    | awake h => rfl
    | asleep h hn => cases h

theorem waitNetSuspends_notifications_registered :
    notifications (registeredRun ⟨.netxduo, none⟩).hist = sleepCycles 2 :=
  (waitNetSuspends_notifications ⟨.netxduo, none⟩ _ .boot (by decide) _
    (reach_registeredRun _)).2 [.waitTimeoutExpired, .waitTimeoutExpired] rfl

end Lpa.NetActivity
