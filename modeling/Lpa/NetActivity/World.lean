import Lpa.NetActivity.Handler
import Lpa.Support.Interference

/-!
# Network activity — the world of the lwIP build

What the calls of the lwIP build do: the event, the queue of packets, the callback registered for
packets, and what has become of every packet handed to LPA.  Calls not listed answer anything and
change nothing here.

The WHD thread is the environment: a packet may arrive between any two steps.  An arrival sets the
event (`cylpa_on_emac_activity`) and, if LPA's callback is registered, hands the packet to it
(`cylpa_rx_activity`); otherwise the packet goes straight to the stack and LPA never sees it.
-/

namespace Lpa.NetActivity

/-- The file's variables and what its calls act on.  `rxQueueCb` says whether `cylpa_rx_activity`
is registered; `handed`, `accepted` and `released` are the packets it was given, those the stack
has taken and those released, each known by its buffer. -/
structure NetWorld where
  vars : NaVars
  cyLpWaitNetEvent : UInt32
  rxQueueCb : Bool
  rxPktQ : List CylpaRxQueue
  handed : List Handle
  accepted : List Handle
  released : List Handle
deriving DecidableEq

/-- The world before anything has run. -/
def NetWorld.boot : NetWorld := ⟨.boot, 0, false, [], [], [], []⟩

/-- **What a call does.**  The queue is first in, first out, and its own calls do not fail. -/
def netSem : (o : NaOp) → NetWorld → NaRes o → NetWorld → Prop
  | .load, s, r, s' => r = s.vars ∧ s' = s
  | .store f, s, _, s' => s' = { s with vars := f s.vars }
  | .cyRtosInitEvent, s, (r : CyRslt), s' =>
      s' = if r = .success then { s with cyLpWaitNetEvent := 0 } else s
  | .cyRtosClearbitsEvent bits, s, (r : CyRslt), s' =>
      s' = if r = .success then { s with cyLpWaitNetEvent := s.cyLpWaitNetEvent &&& ~~~bits }
        else s
  | .cyRtosWaitbitsEvent _ flags _, s, (r : CyRslt), s' =>
      -- the flags waited for are cleared; only a timeout comes without one of them
      (r = .success → s.cyLpWaitNetEvent &&& flags ≠ 0) ∧
        s' = if r = .success then { s with cyLpWaitNetEvent := s.cyLpWaitNetEvent &&& ~~~flags }
          else s
  | .cyNetworkRegisterRxQueueCb cb, s, _, s' => s' = { s with rxQueueCb := cb }
  | .cyRtosQueueInit _, s, (r : CyRslt), s' => r = .success ∧ s' = { s with rxPktQ := [] }
  | .cyRtosQueueCount, s, (r : ℕ), s' => r = s.rxPktQ.length ∧ s' = s
  | .cyRtosQueueGet, s, (r : Option CylpaRxQueue), s' =>
      r = s.rxPktQ.head? ∧ s' = { s with rxPktQ := s.rxPktQ.tail }
  | .netifInput item, s, (r : ℤ), s' =>
      s' = if r = errOk then { s with accepted := s.accepted ++ [item.buf] } else s
  | .cyBufferRelease buf, s, _, s' => s' = { s with released := s.released ++ [buf] }
  | _, s, _, s' => s' = s

/-- `cylpa_on_emac_activity`. -/
def cylpaOnEmacActivity (isTxActivity : Bool) (s : NetWorld) : NetWorld :=
  if s.vars.cyLpWaitNetEventValid then
    { s with cyLpWaitNetEvent := s.cyLpWaitNetEvent |||
      (if isTxActivity then cyLpaTxEventFlag else cyLpaRxEventFlag) }
  else s

/-- `cylpa_rx_activity`. -/
def cylpaRxActivity (item : CylpaRxQueue) (s : NetWorld) : NetWorld :=
  let s := { s with handed := s.handed ++ [item.buf] }
  if s.rxPktQ.length < rxPktQLength then { s with rxPktQ := s.rxPktQ ++ [item] }
  else { s with released := s.released ++ [item.buf] }

/-- **A packet arrives**, as one step of the WHD thread. -/
def arrive (item : CylpaRxQueue) (s : NetWorld) : NetWorld :=
  let s := cylpaOnEmacActivity false s
  if s.rxQueueCb then cylpaRxActivity item s else s

@[simp] theorem cylpaOnEmacActivity_vars (tx : Bool) (s : NetWorld) :
    (cylpaOnEmacActivity tx s).vars = s.vars := by
  unfold cylpaOnEmacActivity
  split <;> rfl

@[simp] theorem cylpaOnEmacActivity_rxQueueCb (tx : Bool) (s : NetWorld) :
    (cylpaOnEmacActivity tx s).rxQueueCb = s.rxQueueCb := by
  unfold cylpaOnEmacActivity
  split <;> rfl

@[simp] theorem cylpaOnEmacActivity_rxPktQ (tx : Bool) (s : NetWorld) :
    (cylpaOnEmacActivity tx s).rxPktQ = s.rxPktQ := by
  unfold cylpaOnEmacActivity
  split <;> rfl

@[simp] theorem cylpaRxActivity_vars (item : CylpaRxQueue) (s : NetWorld) :
    (cylpaRxActivity item s).vars = s.vars := by
  unfold cylpaRxActivity
  dsimp only
  split <;> rfl

@[simp] theorem cylpaRxActivity_rxQueueCb (item : CylpaRxQueue) (s : NetWorld) :
    (cylpaRxActivity item s).rxQueueCb = s.rxQueueCb := by
  unfold cylpaRxActivity
  dsimp only
  split <;> rfl

@[simp] theorem cylpaRxActivity_cyLpWaitNetEvent (item : CylpaRxQueue) (s : NetWorld) :
    (cylpaRxActivity item s).cyLpWaitNetEvent = s.cyLpWaitNetEvent := by
  unfold cylpaRxActivity
  dsimp only
  split <;> rfl

@[simp] theorem arrive_vars (item : CylpaRxQueue) (s : NetWorld) :
    (arrive item s).vars = s.vars := by
  unfold arrive
  dsimp only
  split <;> simp

@[simp] theorem arrive_rxQueueCb (item : CylpaRxQueue) (s : NetWorld) :
    (arrive item s).rxQueueCb = s.rxQueueCb := by
  unfold arrive
  dsimp only
  split <;> simp

/-- An arrival sets the event whether the packet is handed over or not. -/
theorem arrive_cyLpWaitNetEvent (item : CylpaRxQueue) (s : NetWorld) :
    (arrive item s).cyLpWaitNetEvent = (cylpaOnEmacActivity false s).cyLpWaitNetEvent := by
  unfold arrive
  dsimp only
  split <;> simp

/-- Where the callback is not registered, an arrival sets the event at most. -/
theorem arrive_of_no_cb {item : CylpaRxQueue} {s : NetWorld} (h : s.rxQueueCb = false) :
    arrive item s = cylpaOnEmacActivity false s := by
  simp [arrive, h]

/-- Where it is registered, the packet is handed to it. -/
theorem arrive_of_cb {item : CylpaRxQueue} {s : NetWorld} (h : s.rxQueueCb = true) :
    arrive item s = cylpaRxActivity item (cylpaOnEmacActivity false s) := by
  simp [arrive, h]

/-- The steps of the environment. -/
def arrival (item : CylpaRxQueue) (s s' : NetWorld) : Prop := s' = arrive item s

/-- What the calls have been, how they were answered, and which packets came in between. -/
abbrev NetHist := List (Prog.Label NaOp NaRes CylpaRxQueue)

/-! ### Plain calls -/

/-- Whether a call has to do with packets or with suspending the stack. -/
abbrev isPacketOp : NaOp → Bool
  | .store _ => true
  | .cyNetworkRegisterRxQueueCb _ => true
  | .cyRtosQueueInit _ => true
  | .cyRtosQueueGet => true
  | .netifInput _ => true
  | .cyBufferRelease _ => true
  | .unlockTcpipCore => true
  | _ => false

/-- The other calls change the event at most. -/
theorem netSem_of_not_packetOp {o : NaOp} (ho : isPacketOp o = false) {s s' : NetWorld}
    {r : NaRes o} (hs : netSem o s r s') : ∃ e, s' = { s with cyLpWaitNetEvent := e } := by
  have ite_event : ∀ {c : Prop} [Decidable c] (e : UInt32),
      ∃ e', (if c then { s with cyLpWaitNetEvent := e } else s) =
        { s with cyLpWaitNetEvent := e' } := fun {c} _ e => by
    by_cases hc : c
    · exact ⟨e, if_pos hc⟩
    · exact ⟨s.cyLpWaitNetEvent, if_neg hc⟩
  cases o with
  | store f => cases ho
  | cyNetworkRegisterRxQueueCb cb => cases ho
  | cyRtosQueueInit n => cases ho
  | cyRtosQueueGet => cases ho
  | netifInput item => cases ho
  | cyBufferRelease buf => cases ho
  | unlockTcpipCore => cases ho
  | load => exact ⟨_, hs.2⟩
  | cyRtosQueueCount => exact ⟨_, hs.2⟩
  | cyRtosInitEvent => exact hs ▸ ite_event _
  | cyRtosClearbitsEvent bits => exact hs ▸ ite_event _
  | cyRtosWaitbitsEvent wait flags timeout => exact hs.2 ▸ ite_event _
  | _ => exact ⟨_, hs⟩

/-- Whether this is the wait for the network to wake up. -/
abbrev isWakeWait : NaOp → Bool
  | .cyRtosWaitbitsEvent .wakeUp _ _ => true
  | _ => false

/-- The variables that say how far LPA is set up, and whether the stack is suspended. -/
structure NetVars where
  queueCreated : Bool
  suspended : Bool
  eventValid : Bool
  handlerSetUp : Bool

abbrev netVars (v : NaVars) : NetVars :=
  ⟨v.isRxPktQueueCreated, v.cylpaSNsSuspended, v.cyLpWaitNetEventValid,
    v.emacActivityCallbackRegistered⟩

/-- **A plain call**: none that touches packets or these variables, and not the wait for the
wake-up. -/
inductive Plain : NaOp → Prop where
  | call {o : NaOp} (ho : isPacketOp o = false) (hw : isWakeWait o = false) : Plain o
  | store {f : NaVars → NaVars} (hf : ∀ v, netVars (f v) = netVars v) : Plain (.store f)

theorem Plain.not_wakeWait {o : NaOp} (ho : Plain o) : isWakeWait o = false := by
  cases ho with
  | call _ hw => exact hw
  | store => rfl

theorem connectedInterface_plain (b : NaBuild) : (connectedInterface b).Calls Plain := by
  cases h : b.stack <;> simp [connectedInterface, Option.forall, h, Plain.call]

theorem configUlpOnce_plain (ulp : UlpConfig) (ifp : Handle) (w : UInt32) :
    (configUlpOnce ulp ifp w).Calls Plain := by
  simp [configUlpOnce, Plain.call, Plain.store, netVars]

theorem monitorInactivity_plain {cfg : Na Unit} (hcfg : cfg.Calls Plain) (i w : UInt32) :
    (monitorInactivity cfg i w).Calls Plain := by
  have hround : ∀ t, (inactivityRound cfg t i w).Calls Plain := fun t =>
    hcfg.bind fun _ => by simp [Plain.call]
  unfold monitorInactivity
  simp [Plain.call, hround]

theorem cylpaWaitNetInactivity_plain (b : NaBuild) (i w : UInt32) :
    (cylpaWaitNetInactivity b i w).Calls Plain := by
  unfold cylpaWaitNetInactivity
  cases b.ulp with
  | none => exact monitorInactivity_plain (Prog.calls_ret ()) i w
  | some ulp =>
      refine ⟨.call rfl rfl, fun ifp => ?_⟩
      cases ifp with
      | none => trivial
      | some ifp => exact monitorInactivity_plain (configUlpOnce_plain ulp ifp w) i w

theorem printBusStats_plain (b : NaBuild) (wifi : Handle) :
    (printBusStats b wifi).Calls Plain := by
  cases h : b.stack <;>
    simp [printBusStats, cylpaPrintWhdBusStats, interfaceIsUp, h, Option.forall, Plain.call]

theorem notifyApplication_plain (t : CylpaNotifyEventType) :
    (notifyApplication t).Calls Plain := by
  refine ⟨.call rfl rfl, fun v => ?_⟩
  cases h : v.suspendNotifyCb <;> simp [h, Plain.call]

/-! ### Executing -/

/-- The usual answers, with what the calls do. -/
def netUsual : (o : NaOp) → NetHist → NetWorld → NaRes o × NetWorld
  | .load, _, s => (s.vars, s)
  | .store f, _, s => ((), { s with vars := f s.vars })
  | .cyRtosInitEvent, _, s => (.success, { s with cyLpWaitNetEvent := 0 })
  | .cyRtosClearbitsEvent bits, _, s =>
      (.success, { s with cyLpWaitNetEvent := s.cyLpWaitNetEvent &&& ~~~bits })
  | .cyNetworkRegisterRxQueueCb cb, _, s => ((), { s with rxQueueCb := cb })
  | .cyRtosQueueInit _, _, s => (.success, { s with rxPktQ := [] })
  | .cyRtosQueueCount, _, s => (s.rxPktQ.length, s)
  | .cyRtosQueueGet, _, s => (s.rxPktQ.head?, { s with rxPktQ := s.rxPktQ.tail })
  | .netifInput item, _, s => (errOk, { s with accepted := s.accepted ++ [item.buf] })
  | .cyBufferRelease buf, _, s => ((), { s with released := s.released ++ [buf] })
  | o, _, s => (o.usual, s)

theorem netUsual_answers (o : NaOp) (h : NetHist) (s : NetWorld) :
    netSem o s (netUsual o h s).1 (netUsual o h s).2 := by
  cases o <;> first | rfl | exact ⟨rfl, rfl⟩ | exact ⟨by simp [netUsual, NaOp.usual], rfl⟩

end Lpa.NetActivity
