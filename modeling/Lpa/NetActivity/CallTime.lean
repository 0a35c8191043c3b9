import Lpa.NetActivity.Inactivity
import Lpa.NetActivity.SuspendTime

/-!
# Network activity — a call on the timeline

A whole call of `wait_net_suspend` in the lwIP build, against the timeline of activity of
`Inactivity.lean`.  Only its two waits take time.  Clearing the event takes notice of any
activities that have been there by then, and packets may come into the queue during the waits.

* `waitNetSuspend_outcome`: the call returns; the stack is suspended exactly at the end of the first
  quiet window, and resumed at the first activity after that or when the time is up; what is added
  to the total is the time in between.

It is followed when `cylpa_ns_suspended` changes: a call that suspends the stack and resumes it
leaves both times in `changes`.
-/

namespace Lpa.NetActivity

open Prog (Total)

/-! ### The world -/

/-- What a call finds: the tick it starts at, the WHD interface, the network interface, and what
`cy_wcm_is_connected_to_ap` answers at a time. -/
structure CallHost where
  startTick : UInt32
  whd : Option Handle
  wifi : Option Handle
  connected : ℕ → UInt8

/-- There is an interface, it is connected, and the WHD interface is there if the build asks for
it. -/
def CallHost.Ready (host : CallHost) (b : NaBuild) : Prop :=
  host.wifi.isSome ∧ host.connected 0 ≠ 0 ∧ (b.ulp.isSome → host.whd.isSome)

/-- The world of the wait for the network to fall quiet, the packets in the queue, and when
`cylpa_ns_suspended` has been set or cleared. -/
structure CallWorld extends QuietWorld where
  rxPktQ : List CylpaRxQueue
  changes : List (ℕ × Bool)

/-- The file's variables are written. -/
def CallWorld.set (s : CallWorld) (vars : NaVars) : CallWorld :=
  { s with
    vars := vars
    changes :=
      if vars.cylpaSNsSuspended = s.vars.cylpaSNsSuspended then s.changes
      else s.changes ++ [(s.now, vars.cylpaSNsSuspended)] }

/-- **What a call does**: as for the wait for the network to fall quiet, but that clearing the
event takes notice of any activities there have been, and the queue holds packets. -/
def callSem (t : Timeline) (host : CallHost) :
    (o : NaOp) → CallWorld → NaRes o → CallWorld → Prop
  | .store f, s, _, s' => s' = s.set (f s.vars)
  | .cyNetworkGetNwInterface, s, (r : Option Handle), s' => r = host.wifi ∧ s' = s
  | .cyWcmIsConnectedToAp, s, (r : UInt8), s' => r = host.connected s.now ∧ s' = s
  | .cyRtosClearbitsEvent _, s, _, s' =>
      ∃ m, s.seen ≤ m ∧ (m ≠ s.seen → t.time m ≤ s.now) ∧ s' = { s with seen := m }
  | .cyRtosWaitbitsEvent wait flags timeout, s, r, s' =>
      quietSem t host.startTick host.whd (.cyRtosWaitbitsEvent wait flags timeout) s.toQuietWorld r
        s'.toQuietWorld ∧ s.rxPktQ <+: s'.rxPktQ ∧ s'.changes = s.changes
  | .cyRtosQueueCount, s, (r : ℕ), s' => r = s.rxPktQ.length ∧ s' = s
  | .cyRtosQueueGet, s, r, s' => r = s.rxPktQ.head? ∧ s' = { s with rxPktQ := s.rxPktQ.tail }
  | o, s, r, s' =>
      quietSem t host.startTick host.whd o s.toQuietWorld r s'.toQuietWorld ∧
        s'.rxPktQ = s.rxPktQ ∧ s'.changes = s.changes

/-- Whether the stack is suspended, the total, and when the former has changed. -/
structure Account where
  suspended : Bool
  total : UInt32
  changes : List (ℕ × Bool)

def CallWorld.account (s : CallWorld) : Account :=
  ⟨s.vars.cylpaSNsSuspended, s.vars.cyDsleepNwSuspendTime, s.changes⟩

/-- What is followed of a call: the time, the activities seen, and the account. -/
structure Moment where
  now : ℕ
  seen : ℕ
  account : Account

def CallWorld.moment (s : CallWorld) : Moment := ⟨s.now, s.seen, s.account⟩

/-! ### How a call ends -/

/-- The window after activity `k` is the first quiet one. -/
def Timeline.FirstQuiet (t : Timeline) (interval window k : ℕ) : Prop :=
  t.Quiet interval window k ∧ ∀ i < k, ¬ t.Quiet interval window i

/-- **How a call ends.**  `T` is the end of the first quiet window. -/
inductive SuspendOutcome (t : Timeline) (host : CallHost) (b : NaBuild)
    (interval window waitMs : ℕ) (total : UInt32) : NetworkStackState → CallWorld → Prop where
  /-- There is no interface to suspend, or it is not connected, or the WHD interface is missing. -/
  | notReady {s : CallWorld} (hready : ¬ host.Ready b) (hnow : s.now = 0)
      (haccount : s.account = ⟨false, total, []⟩) :
      SuspendOutcome t host b interval window waitMs total .badState s
  /-- No window was quiet. -/
  | busy {s : CallWorld} (hready : host.Ready b) (hk : ∀ k, ¬ t.Quiet interval window k)
      (hnow : s.now < interval + window) (haccount : s.account = ⟨false, total, []⟩) :
      SuspendOutcome t host b interval window waitMs total .waitInactivityTimeoutExpired s
  /-- The stack is suspended at `T`; activity `j` wakes the network up, and between `T` and it there
  was none. -/
  | woken {s : CallWorld} {k j d T : ℕ} (hready : host.Ready b)
      (hk : t.FirstQuiet interval window k) (hT : (T : ℕ∞) = t.time k + window) (hj : k < j)
      (hnow : s.now = T + d) (hwake : (s.now : ℕ∞) = t.time j) (hd : d < waitMs)
      (hfirst : ∀ i, k < i → t.time i ≤ T ∨ t.time j ≤ t.time i)
      (haccount : s.account = ⟨false, total + UInt32.ofNat d, [(T, true), (T + d, false)]⟩) :
      SuspendOutcome t host b interval window waitMs total .netActivity s
  /-- The stack is suspended at `T`, and nothing happens until the time is up. -/
  | timedOut {s : CallWorld} {k T : ℕ} (hready : host.Ready b)
      (hk : t.FirstQuiet interval window k) (hT : (T : ℕ∞) = t.time k + window)
      (hnow : s.now = T + waitMs)
      (hnone : ∀ i, k < i → t.time i ≤ T ∨ (T + waitMs : ℕ) ≤ t.time i)
      (haccount : s.account =
        ⟨false, total + UInt32.ofNat waitMs, [(T, true), (T + waitMs, false)]⟩) :
      SuspendOutcome t host b interval window waitMs total .waitTimeoutExpired s

/-! ### The calls -/

/-- The calls that may take time, or take notice of activity. -/
abbrev isTimed : NaOp → Bool
  | .cyRtosWaitbitsEvent _ _ _ => true
  | .cyRtosClearbitsEvent _ => true
  | _ => false

/-- A call that neither suspends the stack nor adds to the total. -/
inductive Unaccounted : NaOp → Prop where
  | call {o : NaOp} (ho : ∀ u, o ≠ .store u) : Unaccounted o
  | store {u : NaVars → NaVars}
      (hs : ∀ v, (u v).cylpaSNsSuspended = v.cylpaSNsSuspended)
      (ht : ∀ v, (u v).cyDsleepNwSuspendTime = v.cyDsleepNwSuspendTime) : Unaccounted (.store u)

/-- Such a call that takes no time either. -/
inductive Timeless : NaOp → Prop where
  | call {o : NaOp} (ho : ∀ u, o ≠ .store u) (ht : isTimed o = false) : Timeless o
  | store {u : NaVars → NaVars}
      (hs : ∀ v, (u v).cylpaSNsSuspended = v.cylpaSNsSuspended)
      (ht : ∀ v, (u v).cyDsleepNwSuspendTime = v.cyDsleepNwSuspendTime) : Timeless (.store u)

theorem Timeless.unaccounted {o : NaOp} (ho : Timeless o) : Unaccounted o := by
  cases ho with
  | call ho ht => exact .call ho
  | store hs ht => exact .store hs ht

section Rules

variable {t : Timeline} {host : CallHost} {s s' : CallWorld}

theorem CallWorld.eq_of (hquiet : s'.toQuietWorld = s.toQuietWorld) (hq : s'.rxPktQ = s.rxPktQ)
    (hchanges : s'.changes = s.changes) : s' = s := by
  cases s
  cases s'
  simp_all

/-- Every call is answered. -/
theorem callSem_exists (o : NaOp) (s : CallWorld) : ∃ r s', callSem t host o s r s' := by
  cases o with
  | load => exact ⟨s.vars, s, ⟨rfl, rfl⟩, rfl, rfl⟩
  | store f => exact ⟨(), _, rfl⟩
  | cyNetworkGetNwInterface => exact ⟨_, s, rfl, rfl⟩
  | cyWcmIsConnectedToAp => exact ⟨_, s, rfl, rfl⟩
  | cyRtosClearbitsEvent bits => exact ⟨.success, _, s.seen, le_rfl, fun h => absurd rfl h, rfl⟩
  | cyRtosWaitbitsEvent wait flags timeout =>
      obtain ⟨r, s', hs⟩ : ∃ r s', quietSem t host.startTick host.whd
          (.cyRtosWaitbitsEvent wait flags timeout) s.toQuietWorld r s' :=
        quietSem_waitbits_exists wait flags timeout
      exact ⟨r, ⟨s', s.rxPktQ, s.changes⟩, hs, List.prefix_refl _, rfl⟩
  | cyRtosGetTime => exact ⟨_, s, ⟨rfl, rfl⟩, rfl, rfl⟩
  | cyOlmGetWhdInterface => exact ⟨_, s, ⟨rfl, rfl⟩, rfl, rfl⟩
  | cyRtosQueueCount => exact ⟨_, s, rfl, rfl⟩
  | cyRtosQueueGet => exact ⟨_, _, rfl, rfl⟩
  | _ => exact ⟨NaOp.usual _, s, rfl, rfl, rfl⟩

/-- But for clearing the event, a call is one of the wait for the network to fall quiet. -/
theorem quietSem_of_callSem {o : NaOp} (ho : ∀ bits, o ≠ .cyRtosClearbitsEvent bits)
    {r : NaRes o} (hs : callSem t host o s r s') :
    quietSem t host.startTick host.whd o s.toQuietWorld r s'.toQuietWorld := by
  cases o with
  | cyRtosClearbitsEvent bits => exact absurd rfl (ho bits)
  | store f =>
      obtain rfl : s' = s.set (f s.vars) := hs
      rfl
  | cyNetworkGetNwInterface => exact congrArg CallWorld.toQuietWorld hs.2
  | cyWcmIsConnectedToAp => exact congrArg CallWorld.toQuietWorld hs.2
  | cyRtosQueueCount => exact congrArg CallWorld.toQuietWorld hs.2
  | cyRtosQueueGet =>
      have hquiet := congrArg CallWorld.toQuietWorld hs.2
      exact hquiet
  | _ => exact hs.1

/-- A call that is no store and not timed leaves all but the queue as it is. -/
theorem callSem_moment {o : NaOp} (ho : ∀ u, o ≠ .store u) (ht : isTimed o = false)
    {r : NaRes o} (hs : callSem t host o s r s') : s'.moment = s.moment := by
  cases o with
  | store u => exact absurd rfl (ho u)
  | cyRtosWaitbitsEvent wait flags timeout => cases ht
  | cyRtosClearbitsEvent bits => cases ht
  | cyNetworkGetNwInterface => rw [hs.2]
  | cyWcmIsConnectedToAp => rw [hs.2]
  | cyRtosQueueCount => rw [hs.2]
  | cyRtosQueueGet => rw [hs.2]; rfl
  | load => rw [CallWorld.eq_of hs.1.2 hs.2.1 hs.2.2]
  | cyOlmGetWhdInterface => rw [CallWorld.eq_of hs.1.2 hs.2.1 hs.2.2]
  | cyRtosGetTime => rw [CallWorld.eq_of hs.1.2 hs.2.1 hs.2.2]
  | _ => rw [CallWorld.eq_of hs.1 hs.2.1 hs.2.2]

/-- The calls that leave all as it is, the queue too. -/
abbrev isIdle : NaOp → Bool
  | .netifInputIsNull _ | .netifInput _ | .cyBufferRelease _ => true
  | .lockTcpipCore | .unlockTcpipCore | .unlockDeepsleep => true
  | .cylpaOlmDispatchPmNotification _ => true
  | _ => false

theorem callSem_idle {o : NaOp} (ho : isIdle o = true) {r : NaRes o}
    (hs : callSem t host o s r s') : s' = s := by
  cases o with
  | netifInputIsNull iface => exact CallWorld.eq_of hs.1 hs.2.1 hs.2.2
  | netifInput item => exact CallWorld.eq_of hs.1 hs.2.1 hs.2.2
  | cyBufferRelease buf => exact CallWorld.eq_of hs.1 hs.2.1 hs.2.2
  | lockTcpipCore => exact CallWorld.eq_of hs.1 hs.2.1 hs.2.2
  | unlockTcpipCore => exact CallWorld.eq_of hs.1 hs.2.1 hs.2.2
  | unlockDeepsleep => exact CallWorld.eq_of hs.1 hs.2.1 hs.2.2
  | cylpaOlmDispatchPmNotification st => exact CallWorld.eq_of hs.1 hs.2.1 hs.2.2
  | _ => cases ho

/-- A write that leaves the stack suspended or not, and the total. -/
theorem CallWorld.moment_set {vars : NaVars}
    (hs : vars.cylpaSNsSuspended = s.vars.cylpaSNsSuspended)
    (ht : vars.cyDsleepNwSuspendTime = s.vars.cyDsleepNwSuspendTime) :
    (s.set vars).moment = s.moment := by
  simp [CallWorld.moment, CallWorld.account, CallWorld.set, hs, ht]

theorem Timeless.moment_eq {o : NaOp} (ho : Timeless o) {r : NaRes o}
    (hs : callSem t host o s r s') : s'.moment = s.moment := by
  cases ho with
  | call ho ht => exact callSem_moment ho ht hs
  | @store u hsusp htotal =>
      obtain rfl : s' = s.set (u s.vars) := hs
      exact CallWorld.moment_set (hsusp _) (htotal _)

theorem Unaccounted.account_eq {o : NaOp} (ho : Unaccounted o) {r : NaRes o}
    (hs : callSem t host o s r s') : s'.account = s.account := by
  cases ho with
  | store hsusp htotal =>
      exact congrArg Moment.account ((Timeless.store hsusp htotal).moment_eq hs)
  | call ho =>
      cases o with
      | cyRtosWaitbitsEvent wait flags timeout =>
          obtain ⟨hwait, -, hchanges⟩ := hs
          have hvars : s'.vars = s.vars := by
            rcases hwait with ⟨-, -, -, hvars, -⟩ | ⟨-, -, hquiet⟩
            · exact hvars
            · have hvars := congrArg QuietWorld.vars hquiet
              exact hvars
          simp [CallWorld.account, hvars, hchanges]
      | cyRtosClearbitsEvent bits =>
          obtain ⟨m, -, -, rfl⟩ := hs
          rfl
      | _ => exact congrArg Moment.account (callSem_moment ho rfl hs)

variable {α β : Type} {Q : α → CallWorld → Prop}

variable (t host) in
/-- Every run of the program returns, and leaves the world in `Q`. -/
abbrev Completes (Q : α → CallWorld → Prop) (p : Na α) (s : CallWorld) : Prop :=
  Total (callSem t host) Q p s

/-- A call, which what follows it goes on from. -/
theorem Completes.call {o : NaOp} {g : NaRes o → Na α}
    (hg : ∀ r s', callSem t host o s r s' → Completes t host Q (g r) s') :
    Completes t host Q ((op o).bind g) s :=
  Total.op (callSem_exists o s) hg

/-- A call that leaves all as it is, and what follows it. -/
theorem Completes.idle {o : NaOp} {g : NaRes o → Na α} (ho : isIdle o = true)
    (hg : ∀ r, Completes t host Q (g r) s) : Completes t host Q ((op o).bind g) s := by
  refine Completes.call fun r s' hs => ?_
  obtain rfl := callSem_idle ho hs
  exact hg r

/-- The variables are read. -/
theorem Completes.load {g : NaVars → Na α} (hg : Completes t host Q (g s.vars) s) :
    Completes t host Q ((op .load).bind g) s := by
  refine Completes.call fun v s' hs => ?_
  obtain ⟨⟨rfl, hquiet⟩, hq, hchanges⟩ := hs
  obtain rfl := CallWorld.eq_of hquiet hq hchanges
  exact hg

/-- The clock is read. -/
theorem Completes.getTime {g : UInt32 → Na α}
    (hg : Completes t host Q (g (host.startTick + UInt32.ofNat s.now)) s) :
    Completes t host Q ((op .cyRtosGetTime).bind g) s := by
  refine Completes.call fun r s' hs => ?_
  obtain ⟨⟨rfl, hquiet⟩, hq, hchanges⟩ := hs
  obtain rfl := CallWorld.eq_of hquiet hq hchanges
  exact hg

/-- The WHD interface is asked for. -/
theorem Completes.getWhdInterface {g : Option Handle → Na α}
    (hg : Completes t host Q (g host.whd) s) :
    Completes t host Q ((op .cyOlmGetWhdInterface).bind g) s := by
  refine Completes.call fun r s' hs => ?_
  obtain ⟨⟨rfl, hquiet⟩, hq, hchanges⟩ := hs
  obtain rfl := CallWorld.eq_of hquiet hq hchanges
  exact hg

theorem Completes.timeless {p : Na α} (hp : p.Straight Timeless) :
    Completes t host (fun _ s' => s'.moment = s.moment) p s :=
  Total.straight hp (fun o s _ _ => callSem_exists o s)
    (fun _ _ _ _ ho hI hs => (ho.moment_eq hs).trans hI) rfl

/-- A timeless part, and what follows it. -/
theorem Completes.timeless_bind {Q' : β → CallWorld → Prop} {p : Na α} {g : α → Na β}
    (hp : p.Straight Timeless)
    (hg : ∀ a s', s'.moment = s.moment → Completes t host Q' (g a) s') :
    Completes t host Q' (p.bind g) s :=
  (Completes.timeless hp).bind _ hg

/-- A call that is neither a store nor timed, and what follows it. -/
theorem Completes.plain {o : NaOp} {g : NaRes o → Na α} (ho : ∀ u, o ≠ .store u)
    (ht : isTimed o = false) (hg : ∀ r s', s'.moment = s.moment → Completes t host Q (g r) s') :
    Completes t host Q ((op o).bind g) s :=
  Completes.call fun r s' hs => hg r s' (callSem_moment ho ht hs)

theorem Completes.account {p : Na α} (hp : p.Straight Unaccounted) :
    Completes t host (fun _ s' => s'.account = s.account) p s :=
  Total.straight hp (fun o s _ _ => callSem_exists o s)
    (fun _ _ _ _ ho hI hs => (ho.account_eq hs).trans hI) rfl

end Rules

/-! ### Timeless parts -/

section Timeless

variable {b : NaBuild} {t : Timeline} {host : CallHost} {s : CallWorld}

theorem initHandlerOnce_timeless : initHandlerOnce.Straight Timeless := by
  simp [initHandlerOnce, cylpaNetworkActHandlerInit, cylpaRegisterNetworkActivityCallback,
    Timeless.call, Timeless.store]

theorem initRxPktQueueOnce_timeless : (initRxPktQueueOnce b).Straight Timeless := by
  simp [initRxPktQueueOnce, Timeless.call, Timeless.store]

theorem configUlpOnce_timeless (ulp : UlpConfig) (ifp : Handle) (w : UInt32) :
    (configUlpOnce ulp ifp w).Straight Timeless := by
  simp [configUlpOnce, Timeless.call, Timeless.store]

theorem notifyApplication_timeless (type : CylpaNotifyEventType) :
    (notifyApplication type).Straight Timeless := by
  refine ⟨.call nofun rfl, fun v => ?_⟩
  cases h : v.suspendNotifyCb <;> simp [h, Timeless.call]

theorem printBusStats_timeless (wifi : Handle) : (printBusStats b wifi).Straight Timeless := by
  cases h : b.stack <;>
    simp [printBusStats, cylpaPrintWhdBusStats, interfaceIsUp, h, Option.forall, Timeless.call]

theorem queueRxPackets_timeless : (queueRxPackets b).Straight Timeless := by
  simp [queueRxPackets, Timeless.call]

/-- What is done with a packet leaves the rest of the queue alone. -/
theorem rxQueuePkt_completes (item : Option CylpaRxQueue) :
    Completes t host (fun _ s' => s' = s) (rxQueuePkt item) s := by
  have hstraight : (rxQueuePkt item).Straight fun o => isIdle o = true := by
    cases item <;> simp [rxQueuePkt]
  exact Total.straight hstraight (fun o s _ _ => callSem_exists o s)
    (fun _ _ _ _ ho hI hs => (callSem_idle ho hs).trans hI) rfl

/-- The packets in the queue are taken one by one, and then there is none left. -/
theorem cylpaRxQueuePktInput_completes :
    Completes t host (fun _ s' => s'.moment = s.moment) cylpaRxQueuePktInput s := by
  refine Total.iter_of_measure (fun s' => s'.moment = s.moment) (fun s' => s'.rxPktQ.length)
    (fun _ s' => s'.moment = s.moment) rfl (fun s₁ hs₁ => ?_) fun _ s' hs' => .ret hs'
  refine Completes.call fun count s₂ hs₂ => ?_
  obtain ⟨hcount, rfl⟩ := hs₂
  split
  · exact .ret hs₁
  · rename_i hne
    refine Completes.call fun item s₃ hs₃ => ?_
    obtain ⟨-, rfl⟩ := hs₃
    refine (rxQueuePkt_completes item).bind _ fun _ s₄ hs₄ => .ret ?_
    subst hs₄
    rw [hcount] at hne
    refine ⟨hs₁, ?_⟩
    change s₂.rxPktQ.tail.length < s₂.rxPktQ.length
    rw [List.length_tail]
    exact Nat.sub_lt (Nat.pos_of_ne_zero hne) Nat.one_pos

theorem takeRxPackets_completes :
    Completes t host (fun _ s' => s'.moment = s.moment) (takeRxPackets b) s := by
  unfold takeRxPackets Prog.when
  split
  · refine Completes.plain nofun rfl fun _ s₁ hs₁ => ?_
    exact cylpaRxQueuePktInput_completes.mono fun _ s₂ hs₂ => hs₂.trans hs₁
  · exact .ret rfl

end Timeless

/-! ### The wait for the network to fall quiet -/

section Wait

variable {t : Timeline} {host : CallHost} {s : CallWorld} {α : Type}

/-- A successful wait has met no quiet window among the activities seen, and the next is still to
come. -/
def UpToDate (t : Timeline) (window : ℕ) (state : NetworkStackState) (s : QuietWorld) : Prop :=
  state = .success → (∀ j < s.seen, t.time (j + 1) < t.time j + window) ∧
    (s.now : ℕ∞) ≤ t.time (s.seen + 1)

theorem inactivityRound_upToDate {startTick : UInt32} {whd : Option Handle} {s : QuietWorld}
    {configUlp : Na Unit}
    (hcfg : ∀ s, Total (quietSem t startTick whd) (Still s) configUlp s) (tick i w : UInt32)
    {interval window : ℕ} (hs : Searching t interval window s) :
    Total (quietSem t startTick whd)
      (fun state? s' => ∀ state ∈ state?, UpToDate t window state s')
      (inactivityRound configUlp tick i w) s := by
  refine (hcfg s).bind _ fun _ s₁ ⟨_, hseen⟩ => ?_
  refine Total.op (quietSem_waitbits_exists _ _ _) fun r s₂ hs₂ => ?_
  rcases hs₂ with ⟨hr, -⟩ | ⟨hr, hw, rfl⟩
  · obtain rfl : r = .success := hr
    rw [if_neg (by simp)]
    refine Total.op ⟨_, _, rfl, rfl⟩ fun e s₃ _ => ?_
    dsimp only
    split <;> exact .ret (by simp [UpToDate])
  · obtain rfl : r = .rtosTimeout := hr
    rw [if_pos rfl]
    refine .ret fun state _ _ => ⟨?_, hw⟩
    dsimp only
    rw [hseen]
    exact hs.busy

/-- How the wait ends: as the search does, up to date, and with nothing suspended or added. -/
structure WaitEnds (t : Timeline) (interval window : ℕ) (account : Account)
    (state : NetworkStackState) (s : CallWorld) : Prop where
  found : Found t interval window state s.toQuietWorld
  upToDate : UpToDate t window state s.toQuietWorld
  account : s.account = account

variable {inactiveIntervalMs inactiveWindowMs : UInt32} {configUlp : Na Unit}
variable (hcfg : ∀ s, Total (quietSem t host.startTick host.whd) (Still s) configUlp s)
variable (hcalls : configUlp.Straight Timeless)
variable (hpos : 0 < inactiveWindowMs.toNat)
variable (hsum : inactiveIntervalMs.toNat + inactiveWindowMs.toNat < 2 ^ 32)

include hcalls in
theorem inactivityRound_straight (tick i w : UInt32) :
    (inactivityRound configUlp tick i w).Straight
      fun o => Unaccounted o ∧ ∀ bits, o ≠ .cyRtosClearbitsEvent bits := by
  have hclear : ∀ {o}, Timeless o → ∀ bits, o ≠ .cyRtosClearbitsEvent bits := by
    rintro o ho bits rfl
    cases ho with
    | call _ ht => cases ht
  exact (hcalls.mono fun o ho => ⟨ho.unaccounted, hclear ho⟩).bind fun _ => by
    simp [Unaccounted.call]

include hcfg hcalls hpos hsum in
/-- The loop ends as the wait should, if a search cannot see more than `n` activities. -/
theorem loop_completes {n : ℕ}
    (hn : ∀ s, Searching t inactiveIntervalMs.toNat inactiveWindowMs.toNat s → s.seen ≤ n)
    (hs : Searching t inactiveIntervalMs.toNat inactiveWindowMs.toNat s.toQuietWorld) :
    Completes t host (WaitEnds t inactiveIntervalMs.toNat inactiveWindowMs.toNat s.account)
      (Prog.loop (inactivityRound configUlp host.startTick inactiveIntervalMs inactiveWindowMs))
      s := by
  have hround := inactivityRound_straight hcalls host.startTick inactiveIntervalMs inactiveWindowMs
  refine Total.iter_of_measure
    (fun s' => Searching t inactiveIntervalMs.toNat inactiveWindowMs.toNat s'.toQuietWorld ∧
      s'.account = s.account)
    (fun s' => n - s'.seen)
    (WaitEnds t inactiveIntervalMs.toNat inactiveWindowMs.toNat s.account)
    ⟨hs, rfl⟩ (fun s₁ ⟨hs₁, hacc⟩ => ?_) fun state s' hends => .ret hends
  have htotal := (inactivityRound_total hcfg hpos hsum hs₁).and
    (inactivityRound_upToDate hcfg host.startTick inactiveIntervalMs inactiveWindowMs hs₁)
  have hlifted : Completes t host _ _ s₁ := htotal.lift CallWorld.toQuietWorld hround.calls
    (fun o _ s' _ => callSem_exists o s') fun o ho s' r s'' => quietSem_of_callSem ho.2
  refine (hlifted.and (Completes.account (hround.mono fun _ ho => ho.1))).mono ?_
  rintro (_ | state) s₂ ⟨⟨hpost, hup⟩, hacc₂⟩
  · have hle := hn _ hpost.1
    have hlt := hpost.2
    exact ⟨⟨hpost.1, hacc₂.trans hacc⟩, by dsimp only; omega⟩
  · exact ⟨hpost, hup state rfl, hacc₂.trans hacc⟩

include hcfg hcalls hpos hsum in
theorem monitorInactivity_completes (hlt : inactiveWindowMs < inactiveIntervalMs) {n : ℕ}
    (hn : ∀ s, Searching t inactiveIntervalMs.toNat inactiveWindowMs.toNat s → s.seen ≤ n)
    (hnow : s.now = 0) (hseen : s.seen = 0) :
    Completes t host (WaitEnds t inactiveIntervalMs.toNat inactiveWindowMs.toNat s.account)
      (monitorInactivity configUlp inactiveIntervalMs inactiveWindowMs) s := by
  rw [monitorInactivity, if_pos hlt]
  refine Completes.call fun _ s₁ hs₁ => ?_
  obtain ⟨m, -, hm, rfl⟩ := hs₁
  -- the activities cleared are those of the instant the wait starts
  have hzero : ∀ j ≤ m, t.time j = 0 := by
    intro j hj
    refine le_antisymm ((t.mono hj).trans ?_) bot_le
    rcases eq_or_ne m s.seen with rfl | hne
    · rw [hseen, t.time_zero]
    · exact (hm hne).trans (by simp [hnow])
  refine Completes.getTime ?_
  have htick : host.startTick + UInt32.ofNat s.now = host.startTick := by
    rw [hnow]
    exact UInt32.add_zero host.startTick
  have hsearch : Searching t inactiveIntervalMs.toNat inactiveWindowMs.toNat
      { s.toQuietWorld with seen := m } := by
    refine ⟨?_, ?_, fun j hj => ?_⟩
    · simp [hnow, hzero m le_rfl]
    · have := UInt32.lt_iff_toNat_lt.mp hlt
      rw [hzero m le_rfl]
      exact_mod_cast (by omega : 0 < inactiveIntervalMs.toNat)
    · rw [hzero (j + 1) hj, hzero j (Nat.le_of_succ_le hj)]
      exact_mod_cast (by omega : 0 < 0 + inactiveWindowMs.toNat)
  dsimp only
  rw [htick]
  exact loop_completes (s := { s with seen := m }) hcfg hcalls hpos hsum hn hsearch

end Wait

section Wait

variable {t : Timeline} {host : CallHost} {s : CallWorld} (b : NaBuild)

theorem cylpaWaitNetInactivity_completes (hwhd : b.ulp.isSome → host.whd.isSome)
    {interval window : UInt32} (hpos : 0 < window.toNat) (hlt : window < interval)
    (hsum : interval.toNat + window.toNat < 2 ^ 32) {n : ℕ}
    (hn : ∀ s, Searching t interval.toNat window.toNat s → s.seen ≤ n)
    (hnow : s.now = 0) (hseen : s.seen = 0) :
    Completes t host (WaitEnds t interval.toNat window.toNat s.account)
      (cylpaWaitNetInactivity b interval window) s := by
  unfold cylpaWaitNetInactivity
  cases hb : b.ulp with
  | none =>
      exact monitorInactivity_completes (fun s => .ret ⟨rfl, rfl⟩) trivial hpos hsum hlt hn hnow
        hseen
  | some ulp =>
      obtain ⟨ifp, hifp⟩ := Option.isSome_iff_exists.mp (hwhd (by rw [hb]; rfl))
      refine Completes.getWhdInterface ?_
      rw [hifp]
      exact monitorInactivity_completes (configUlpOnce_total ulp ifp window)
        (configUlpOnce_timeless ulp ifp window) hpos hsum hlt hn hnow hseen

/-- Without the WHD interface the build asks for, the wait gives up at once. -/
theorem cylpaWaitNetInactivity_noWhd (hulp : b.ulp.isSome) (hwhd : host.whd = none)
    (interval window : UInt32) :
    Completes t host (fun state s' => state = .badState ∧ s'.moment = s.moment)
      (cylpaWaitNetInactivity b interval window) s := by
  obtain ⟨ulp, hulp⟩ := Option.isSome_iff_exists.mp hulp
  unfold cylpaWaitNetInactivity
  rw [hulp]
  refine Completes.getWhdInterface ?_
  rw [hwhd]
  exact .ret ⟨rfl, rfl⟩

end Wait

/-! ### The wait for the wake-up -/

/-- How the wait for the wake-up ends, which the host starts at `T` with `m` activities seen. -/
inductive WakeEnds (t : Timeline) (T m waitMs : ℕ) : NetworkStackState → ℕ → Prop where
  | woken {j now : ℕ} (hj : m < j) (hnow : (now : ℕ∞) = max (T : ℕ∞) (t.time j))
      (hd : t.time j < (T + waitMs : ℕ)) (hfirst : ∀ i, m < i → i < j → t.time i ≤ T) :
      WakeEnds t T m waitMs .netActivity now
  | timedOut {j : ℕ} (hj : m < j) (hd : (T + waitMs : ℕ) ≤ t.time j)
      (hfirst : ∀ i, m < i → i < j → t.time i ≤ T) :
      WakeEnds t T m waitMs .waitTimeoutExpired (T + waitMs)

section WakeUp

variable {t : Timeline} {host : CallHost} {s : CallWorld}

theorem waitNetActivity_completes (waitMs : UInt32) :
    Completes t host (fun r s' => s'.account = s.account ∧
        WakeEnds t s.now s.seen waitMs.toNat r.1 s'.now ∧
        r.2 = suspendDuration (host.startTick + UInt32.ofNat s.now)
          (host.startTick + UInt32.ofNat s'.now))
      (waitNetActivity waitMs) s := by
  refine Completes.timeless_bind (notifyApplication_timeless _) fun _ s₁ hs₁ => ?_
  have hnow₁ : s₁.now = s.now := congrArg Moment.now hs₁
  have hseen₁ : s₁.seen = s.seen := congrArg Moment.seen hs₁
  have hacc₁ : s₁.account = s.account := congrArg Moment.account hs₁
  -- the event is cleared
  refine Completes.call fun _ s₂ hs₂ => ?_
  obtain ⟨m, hm, hle, rfl⟩ := hs₂
  -- the offload manager is told, and deep sleep is unlocked
  refine Completes.idle rfl fun _ => Completes.idle rfl fun _ => ?_
  -- the wait, between two looks at the clock
  refine Completes.getTime ?_
  refine Completes.call fun r s₃ hs₃ => ?_
  refine Completes.getTime ?_
  have hfirst : ∀ i, s.seen < i → i < m + 1 → t.time i ≤ s.now := by
    intro i hi him
    rw [← hnow₁]
    exact (t.mono (Nat.lt_succ_iff.mp him)).trans (hle (by omega))
  have hacc₃ : s₃.account = s.account :=
    (Unaccounted.account_eq (o := .cyRtosWaitbitsEvent .wakeUp cyLpaEventFlags waitMs)
      (.call nofun) hs₃).trans hacc₁
  obtain ⟨hwait, -, -⟩ := hs₃
  rcases hwait with ⟨rfl, hlt, -, -, hnow, -⟩ | ⟨rfl, hge, hquiet⟩
  · refine .ret ⟨hacc₃, ?_, ?_⟩
    · dsimp only at hlt hnow
      rw [hnow₁] at hlt hnow
      exact .woken (by omega) hnow hlt hfirst
    · rw [← hnow₁]
      rfl
  · have hnow : s₃.now = s.now + waitMs.toNat := by
      rw [← hnow₁]
      exact congrArg QuietWorld.now hquiet
    refine .ret ⟨hacc₃, ?_, ?_⟩
    · dsimp only at hge ⊢
      rw [hnow₁] at hge
      rw [hnow]
      exact .timedOut (by omega) hge hfirst
    · rw [← hnow₁]
      rfl

/-- Suspending takes no time, and with lwIP succeeds where the stack is not suspended. -/
theorem cylpaSuspendNs_completes {b : NaBuild} (hb : b.stack = .lwip)
    (hs : s.vars.cylpaSNsSuspended = false) :
    Completes t host (fun state s' => state = .success ∧
        s'.moment = ⟨s.now, s.seen, true, s.account.total, s.changes ++ [(s.now, true)]⟩)
      (cylpaSuspendNs b) s := by
  refine Completes.load ?_
  rw [if_neg (by simp [hs]), hb]
  refine Completes.idle (o := .lockTcpipCore) rfl fun _ => ?_
  refine Completes.call fun _ s₁ hs₁ => ?_
  obtain rfl : s₁ = _ := hs₁
  refine .ret ⟨rfl, ?_⟩
  simp [CallWorld.moment, CallWorld.account, CallWorld.set, hs]

/-- Resuming a stack that is suspended takes no time and adds nothing. -/
theorem cylpaResumeNs_completes {b : NaBuild} (hb : b.stack = .lwip)
    (hs : s.vars.cylpaSNsSuspended = true) :
    Completes t host (fun _ s' => s'.moment =
        ⟨s.now, s.seen, false, s.account.total, s.changes ++ [(s.now, false)]⟩)
      (cylpaResumeNs b) s := by
  refine Completes.load ?_
  rw [if_neg (by simp [hs]), hb]
  refine Completes.idle (o := .unlockTcpipCore) rfl fun _ => ?_
  refine Completes.call fun _ s₁ hs₁ => ?_
  obtain rfl : s₁ = _ := hs₁
  refine .ret ?_
  simp [CallWorld.moment, CallWorld.account, CallWorld.set, hs]

/-- From the wake-up on no time goes by; the time of the wait is added, and the stack resumed. -/
theorem resumeSection_completes {b : NaBuild} (hb : b.stack = .lwip) (wifi : Handle)
    (waitMs : UInt32) (state : NetworkStackState) (lpTime : UInt32)
    (hs : s.account.suspended = true) :
    Completes t host (fun state' s' => s'.now = s.now ∧
        s'.account = ⟨false, s.account.total + lpTime, s.changes ++ [(s.now, false)]⟩ ∧
        state' = if lpTime > waitMs then .waitTimeoutExpired else state)
      (resumeSection b wifi waitMs state lpTime) s := by
  refine Completes.plain nofun rfl fun _ s₁ hs₁ => ?_
  refine Completes.plain nofun rfl fun _ s₂ hs₂ => ?_
  have hmoment₂ : s₂.moment = s.moment := hs₂.trans hs₁
  -- the time is added to the total
  refine Completes.call fun _ s₃ hs₃ => ?_
  have hmoment₃ : s₃.moment = ⟨s.now, s.seen, true, s.account.total + lpTime, s.changes⟩ := by
    have hmoment : s₂.moment = ⟨s.now, s.seen, true, s.account.total, s.changes⟩ :=
      hmoment₂.trans (by rw [← hs]; rfl)
    obtain rfl : s₃ = _ := hs₃
    simp only [CallWorld.moment, CallWorld.account, Moment.mk.injEq, Account.mk.injEq] at hmoment
    obtain ⟨hnow, hseen, hsusp, htotal, hchanges⟩ := hmoment
    simp [CallWorld.moment, CallWorld.account, CallWorld.set, hnow, hseen, hsusp, htotal, hchanges]
  refine Completes.timeless_bind (printBusStats_timeless wifi) fun _ s₄ hs₄ => ?_
  refine Completes.timeless_bind (notifyApplication_timeless _) fun _ s₅ hs₅ => ?_
  refine Completes.plain nofun rfl fun _ s₆ hs₆ => ?_
  refine takeRxPackets_completes.bind _ fun _ s₇ hs₇ => ?_
  have hmoment₇ : s₇.moment = ⟨s.now, s.seen, true, s.account.total + lpTime, s.changes⟩ :=
    (((hs₇.trans hs₆).trans hs₅).trans hs₄).trans hmoment₃
  have hsusp₇ : s₇.vars.cylpaSNsSuspended = true :=
    congrArg (fun m : Moment => m.account.suspended) hmoment₇
  refine (cylpaResumeNs_completes hb hsusp₇).bind _ fun _ s₈ hs₈ => ?_
  refine Completes.plain nofun rfl fun _ s₉ hs₉ => .ret ?_
  have hmoment₉ : s₉.moment =
      ⟨s.now, s.seen, false, s.account.total + lpTime, s.changes ++ [(s.now, false)]⟩ := by
    rw [hs₉, hs₈]
    simp only [CallWorld.moment, CallWorld.account, Moment.mk.injEq, Account.mk.injEq] at hmoment₇
    obtain ⟨hnow, hseen, -, htotal, hchanges⟩ := hmoment₇
    simp [CallWorld.account, hnow, hseen, htotal, hchanges]
  exact ⟨congrArg Moment.now hmoment₉, congrArg Moment.account hmoment₉, rfl⟩

end WakeUp

/-! ### The whole call -/

/-- Where the clock does not wrap, the difference of two readings is the time between them. -/
theorem suspendDuration_of_lt {startTick : UInt32} {T d : ℕ}
    (h : startTick.toNat + T + d < 2 ^ 32) :
    suspendDuration (startTick + UInt32.ofNat T) (startTick + UInt32.ofNat (T + d)) =
      UInt32.ofNat d := by
  have hT : (startTick + UInt32.ofNat T).toNat = startTick.toNat + T := by
    rw [toNat_add_ofNat _ (by omega), Nat.mod_eq_of_lt (by omega)]
  have hstop : startTick + UInt32.ofNat (T + d) = startTick + UInt32.ofNat T + UInt32.ofNat d := by
    rw [UInt32.ofNat_add, UInt32.add_assoc]
  rw [hstop]
  exact (suspendDuration_eq_iff (by omega)).mpr (.inl (by omega))

section Outcome

variable {t : Timeline} {host : CallHost} {b : NaBuild} {interval window waitMs : ℕ}
  {total : UInt32} {s s' : CallWorld}

/-- A search that is up to date at the end of a quiet window has seen the activity before it last,
and that window is the first quiet one. -/
theorem firstQuiet_of_upToDate {s : QuietWorld} {k : ℕ} (hpos : 0 < window)
    (hk : t.Quiet interval window k)
    (hnow : (s.now : ℕ∞) = t.time k + window)
    (hbusy : ∀ j < s.seen, t.time (j + 1) < t.time j + window)
    (hnext : (s.now : ℕ∞) ≤ t.time (s.seen + 1)) :
    k = s.seen ∧ t.FirstQuiet interval window k := by
  have hle : ¬ k < s.seen := fun h => not_quiet_of_busy hbusy h hk
  have hge : ¬ s.seen < k := by
    intro hlt
    have hle : t.time (s.seen + 1) ≤ t.time k := t.mono hlt
    have htop : t.time k ≠ ⊤ := by
      intro htop
      rw [htop] at hnow
      exact absurd hnow (by simp)
    obtain ⟨n, hn⟩ := ENat.ne_top_iff_exists.mp htop
    rw [← hn] at hle hnow
    have hsum : s.now = n + window := by exact_mod_cast hnow
    have hn' : s.now ≤ n := by exact_mod_cast hnext.trans hle
    omega
  obtain rfl : k = s.seen := by omega
  exact ⟨rfl, hk, fun i hi => not_quiet_of_busy hbusy hi⟩

/-- The wait for the wake-up takes no longer than it may. -/
theorem WakeEnds.le {T m now : ℕ} {state : NetworkStackState}
    (hwake : WakeEnds t T m waitMs state now) : T ≤ now ∧ now ≤ T + waitMs := by
  cases hwake with
  | @woken j _ hj hmax hd hfirst =>
      rcases le_total (T : ℕ∞) (t.time j) with hle | hle
      · rw [max_eq_right hle] at hmax
        rw [← hmax] at hle hd
        exact ⟨by exact_mod_cast hle, by exact_mod_cast hd.le⟩
      · rw [max_eq_left hle] at hmax
        have hnow : now = T := by exact_mod_cast hmax
        omega
  | timedOut => omega

/-- **A wake-up after a quiet window** is the outcome it should be. -/
theorem outcome_of_wakeEnds {state : NetworkStackState} (hready : host.Ready b)
    (hpos : 0 < window) {account : Account} (hwait : WaitEnds t interval window account .success s)
    (hwake : WakeEnds t s.now s.seen waitMs state s'.now)
    (haccount : s'.account =
      ⟨false, total + UInt32.ofNat (s'.now - s.now), [(s.now, true), (s'.now, false)]⟩) :
    SuspendOutcome t host b interval window waitMs total state s' := by
  obtain ⟨hfound, hup, -⟩ := hwait
  obtain ⟨hbusy, hnext⟩ := hup rfl
  cases hfound with
  | @quiet k _ hk hnow =>
      obtain ⟨rfl, hk⟩ := firstQuiet_of_upToDate hpos hk hnow hbusy hnext
      generalize hnow' : s'.now = n at hwake haccount
      cases hwake with
      | @woken j _ hj hmax hd hfirst =>
          have hle : (s.now : ℕ∞) ≤ t.time j := hnext.trans (t.mono hj)
          rw [max_eq_right hle] at hmax
          have hlt : n < s.now + waitMs := by
            rw [← hmax] at hd
            exact_mod_cast hd
          have hge : s.now ≤ n := by
            rw [← hmax] at hle
            exact_mod_cast hle
          have hsum : n = s.now + (n - s.now) := by omega
          refine .woken (d := n - s.now) hready hk hnow hj (hnow'.trans hsum) (hnow' ▸ hmax)
            (by omega) (fun i hi => ?_) (hsum ▸ haccount)
          rcases Nat.lt_or_ge i j with hij | hij
          · exact .inl (hfirst i hi hij)
          · exact .inr (t.mono hij)
      | @timedOut j hj hd hfirst =>
          rw [Nat.add_sub_cancel_left] at haccount
          refine .timedOut hready hk hnow hnow' (fun i hi => ?_) haccount
          rcases Nat.lt_or_ge i j with hij | hij
          · exact .inl (hfirst i hi hij)
          · exact .inr (hd.trans (t.mono hij))

end Outcome

section Whole

variable {t : Timeline} {host : CallHost} {b : NaBuild} {s : CallWorld}

/-- The interface to suspend is there exactly if there is one and it is connected. -/
theorem connectedInterface_completes (hb : b.stack = .lwip) :
    Completes t host (fun wifi s' => s'.moment = s.moment ∧
        (wifi = none ↔ host.wifi = none ∨ host.connected s.now = 0))
      (connectedInterface b) s := by
  refine Completes.call fun r s₁ hs₁ => ?_
  obtain ⟨rfl, rfl⟩ := hs₁
  cases hwifi : host.wifi with
  | none => exact .ret ⟨rfl, by simp⟩
  | some wifi =>
      refine Completes.call fun r s₂ hs₂ => ?_
      obtain ⟨rfl, rfl⟩ := hs₂
      rw [hb]
      dsimp only
      split
      · rename_i hconnected
        exact .ret ⟨rfl, by simp [hconnected]⟩
      · rename_i hconnected
        exact .ret ⟨rfl, by simpa using hconnected⟩

theorem suspendUntilActivity_completes (hb : b.stack = .lwip) (hready : host.Ready b)
    (wifi : Handle) {interval window : ℕ} {waitMs : UInt32} {total : UInt32} (hpos : 0 < window)
    (hwrap : host.startTick.toNat + interval + window + waitMs.toNat < 2 ^ 32)
    (hs : WaitEnds t interval window ⟨false, total, []⟩ .success s) :
    Completes t host (SuspendOutcome t host b interval window waitMs.toNat total)
      (suspendUntilActivity b wifi waitMs) s := by
  have hsusp : s.vars.cylpaSNsSuspended = false := congrArg Account.suspended hs.account
  have htotal : s.account.total = total := congrArg Account.total hs.account
  have hchanges : s.changes = [] := congrArg Account.changes hs.account
  have hnow : s.now ≤ interval + window := (Found.law hs.found).onTime
  refine (cylpaSuspendNs_completes hb hsusp).bind _ fun state s₁ ⟨hstate, hs₁⟩ => ?_
  subst hstate
  refine Completes.timeless_bind queueRxPackets_timeless fun _ s₂ hs₂ => ?_
  rw [if_pos rfl]
  have hmoment₂ : s₂.moment = ⟨s.now, s.seen, true, total, [(s.now, true)]⟩ := by
    rw [hs₂, hs₁, htotal, hchanges]
    rfl
  have hnow₂ : s₂.now = s.now := congrArg Moment.now hmoment₂
  have hseen₂ : s₂.seen = s.seen := congrArg Moment.seen hmoment₂
  have hacc₂ : s₂.account = ⟨true, total, [(s.now, true)]⟩ := congrArg Moment.account hmoment₂
  refine (waitNetActivity_completes waitMs).bind _ fun r s₃ ⟨hacc₃, hwake, hdur⟩ => ?_
  rw [hnow₂, hseen₂] at hwake
  rw [hacc₂] at hacc₃
  obtain ⟨hge, hle⟩ := hwake.le
  have hdur' : r.2 = UInt32.ofNat (s₃.now - s.now) := by
    rw [hdur, hnow₂, show s₃.now = s.now + (s₃.now - s.now) by omega,
      suspendDuration_of_lt (by omega)]
    congr 1
    omega
  have hlt : s₃.now - s.now < 2 ^ 32 := by omega
  have hshort : ¬ r.2 > waitMs := by
    rw [hdur', gt_iff_lt, UInt32.lt_iff_toNat_lt, UInt32.toNat_ofNat_of_lt' hlt]
    omega
  refine (resumeSection_completes hb wifi waitMs r.1 r.2 (congrArg Account.suspended hacc₃)).mono
    fun state s₄ ⟨hnow₄, hacc₄, hst⟩ => ?_
  rw [if_neg hshort] at hst
  subst hst
  refine outcome_of_wakeEnds hready hpos hs (hnow₄ ▸ hwake) ?_
  have hchanges₃ : s₃.changes = [(s.now, true)] := congrArg Account.changes hacc₃
  rw [hacc₄, hacc₃, hchanges₃, hdur', hnow₄]
  rfl

/-- **A call on the timeline.**  In the lwIP build, with the stack not suspended, the clock not
wrapping meanwhile and finitely many activities at any one instant, a call with
`0 < window < interval` returns, whatever is in the queue: it finds no interface that is ready, or
gives up as no window is quiet, or suspends the stack at the end of the first quiet window and
resumes it at the first activity after that, if there is one before the time is up, and else when it
is; and it adds to the total what has gone by in between. -/
theorem waitNetSuspend_outcome (b : NaBuild) (hb : b.stack = .lwip) (t : Timeline)
    (hfin : ∀ n : ℕ, {j | t.time j = n}.Finite) (host : CallHost) (v : NaVars)
    (rxPktQ : List CylpaRxQueue) (waitMs interval window : UInt32)
    (hv : v.cylpaSNsSuspended = false) (hpos : 0 < window) (hlt : window < interval)
    (hwrap : host.startTick.toNat + interval.toNat + window.toNat + waitMs.toNat < 2 ^ 32) :
    Total (callSem t host)
      (SuspendOutcome t host b interval.toNat window.toNat waitMs.toNat v.cyDsleepNwSuspendTime)
      (waitNetSuspend b waitMs interval window) ⟨⟨v, 0, 0⟩, rxPktQ, []⟩ := by
  have hpos' : 0 < window.toNat := UInt32.lt_iff_toNat_lt.mp hpos
  obtain ⟨n, hn⟩ := t.exists_late hfin interval.toNat
  refine (connectedInterface_completes hb).bind _ fun wifi s₁ ⟨hs₁, hwifi⟩ => ?_
  have hmoment₁ : s₁.moment = ⟨0, 0, false, v.cyDsleepNwSuspendTime, []⟩ := by
    rw [hs₁, ← hv]
    rfl
  cases wifi with
  | none =>
      refine .ret (.notReady (fun hready => ?_) (congrArg Moment.now hmoment₁)
        (congrArg Moment.account hmoment₁))
      rcases hwifi.mp rfl with h | h
      · exact absurd hready.1 (by rw [h]; exact Bool.false_ne_true)
      · exact hready.2.1 h
  | some wifi =>
      obtain ⟨hsome, hconnected⟩ := not_or.mp (mt hwifi.mpr (Option.some_ne_none wifi))
      refine Completes.timeless_bind initHandlerOnce_timeless fun _ s₂ hs₂ => ?_
      refine Completes.timeless_bind initRxPktQueueOnce_timeless fun _ s₃ hs₃ => ?_
      refine Completes.plain nofun rfl fun _ s₄ hs₄ => ?_
      have hmoment : s₄.moment = ⟨0, 0, false, v.cyDsleepNwSuspendTime, []⟩ :=
        ((hs₄.trans hs₃).trans hs₂).trans hmoment₁
      have haccount : s₄.account = ⟨false, v.cyDsleepNwSuspendTime, []⟩ :=
        congrArg Moment.account hmoment
      refine Total.bind (SuspendOutcome t host b interval.toNat window.toNat waitMs.toNat
        v.cyDsleepNwSuspendTime) ?_ fun state s₆ hs₆ => ?_
      · by_cases hwhd : b.ulp.isSome → host.whd.isSome
        · have hready : host.Ready b := ⟨Option.isSome_iff_ne_none.mpr hsome, hconnected, hwhd⟩
          refine (cylpaWaitNetInactivity_completes b hwhd hpos' hlt (by omega)
            (fun _ => seen_le_of_late hn) (congrArg Moment.now hmoment)
            (congrArg Moment.seen hmoment)).bind _ fun state s₅ hs₅ => ?_
          rw [haccount] at hs₅
          by_cases hstate : state = .success
          · subst hstate
            rw [if_pos rfl]
            exact suspendUntilActivity_completes hb hready wifi hpos' (by omega) hs₅
          · rw [if_neg hstate]
            obtain ⟨hfound, -, hacc⟩ := hs₅
            refine .ret ?_
            cases hfound with
            | quiet => exact absurd rfl hstate
            | busy hk hnow => exact .busy hready hk hnow hacc
        · obtain ⟨hulp, hnone⟩ := Classical.not_imp.mp hwhd
          refine (cylpaWaitNetInactivity_noWhd b hulp (Option.not_isSome_iff_eq_none.mp hnone)
            interval window).bind _ fun state s₅ ⟨hstate, hs₅⟩ => ?_
          subst hstate
          have hmoment₅ := hs₅.trans hmoment
          exact .ret (.notReady (fun hready => hwhd hready.2.2) (congrArg Moment.now hmoment₅)
            (congrArg Moment.account hmoment₅))
      · -- deep sleep is unlocked
        exact Completes.idle rfl fun _ => .ret hs₆

end Whole

/-- A burst of activity: the stack is suspended 10 ms after it, and resumed at the next activity. -/
theorem waitNetSuspend_outcome_burst :
    Total (callSem .burst ⟨0xffff0000, some 1, some 1, fun _ => 1⟩)
      (fun state s => state = .netActivity ∧ s.now = 500 ∧
        s.account = ⟨false, 478, [(22, true), (500, false)]⟩)
      (waitNetSuspend ⟨.lwip, some ⟨1, 10⟩⟩ 1000 20 10) ⟨⟨.boot, 0, 0⟩, [⟨1, 7⟩], []⟩ := by
  refine (waitNetSuspend_outcome ⟨.lwip, some ⟨1, 10⟩⟩ rfl .burst Timeline.burst_finite
    ⟨0xffff0000, some 1, some 1, fun _ => 1⟩ .boot [⟨1, 7⟩] 1000 20 10 rfl (by decide) (by decide)
    (by decide)).mono fun state s h => ?_
  cases h with
  | notReady hready => exact absurd ⟨rfl, by decide, fun _ => rfl⟩ hready
  | busy _ hk => exact absurd (Timeline.burst_quiet_iff.mpr rfl) (hk 2)
  | @woken _ k j d T _ hk hT hj hnow hwake hd _ haccount =>
      obtain rfl := Timeline.burst_quiet_iff.mp hk.1
      have hT : T = 22 := Nat.cast_inj.mp hT
      subst hT
      match j with
      | 3 =>
          have hnow' : s.now = 500 := Nat.cast_inj.mp hwake
          obtain rfl : d = 478 := by omega
          exact ⟨rfl, hnow', haccount⟩
      | j + 4 => exact absurd hwake (ENat.natCast_ne_top _)
  | @timedOut _ k T _ hk hT _ hnone _ =>
      obtain rfl := Timeline.burst_quiet_iff.mp hk.1
      have hT : T = 22 := Nat.cast_inj.mp hT
      subst hT
      rcases hnone 3 (by decide) with h | h
      · exact absurd (Nat.cast_le.mp h) (by decide)
      · exact absurd (Nat.cast_le.mp h) (by decide)

end Lpa.NetActivity
