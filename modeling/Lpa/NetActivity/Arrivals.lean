import Lpa.NetActivity.World

/-!
# Network activity — packets that arrive before the wait

With lwIP `wait_net_suspend` registers its callback for packets, tells the application, clears the
event, and only then waits on the event.  A packet that arrives after the callback is registered
and before the event is cleared is queued, and its flag lost.

* `wakeWait_rxFlag_iff`: when the wait starts with a packet in the queue, the flag is set exactly
  if no packet was queued before the event was cleared, or another has arrived since.
* `waitNetSuspend_sound`: a call leaves the queue and the event as the next one needs them.

`WakePhase` reads the history; `Stage.At` says what the queue, the callback and the event are at
each of its phases.
-/

namespace Lpa.NetActivity.Arrivals

open Prog (Label Safe Reach Stable)

/-- What the history says: the callback of this call is not registered yet (another may be); it
is, and the event is still to be cleared; the event has been cleared.  `queued` and `stranded` say
whether a packet is queued by then, and `arrived` whether one has come since. -/
inductive WakePhase where
  | before (cb queued : Bool)
  | window (queued : Bool)
  | armed (stranded arrived : Bool)
deriving DecidableEq

def WakePhase.next : WakePhase → Label NaOp NaRes CylpaRxQueue → WakePhase
  | .before cb queued, .env _ => .before cb (queued || cb)
  | .before _ queued, .call (.cyNetworkRegisterRxQueueCb true) _ => .window queued
  | .window _, .env _ => .window true
  | .window queued, .call (.cyRtosClearbitsEvent _) _ => .armed queued false
  | .armed stranded _, .env _ => .armed stranded true
  | p, _ => p

/-- The phase after a history that started in `s₀`. -/
def wakePhase (s₀ : NetWorld) (h : NetHist) : WakePhase :=
  h.foldl WakePhase.next (.before s₀.rxQueueCb (decide (s₀.rxPktQ ≠ [])))

/-- **No packet is stranded**: none was queued when the event was cleared, or another has arrived
since. -/
def WakePhase.Covered : WakePhase → Prop
  | .armed stranded arrived => stranded = true → arrived = true
  | _ => True

instance (p : WakePhase) : Decidable p.Covered := by
  cases p <;> unfold WakePhase.Covered <;> infer_instance

@[simp] theorem wakePhase_append (s₀ : NetWorld) (h : NetHist)
    (l : Label NaOp NaRes CylpaRxQueue) : wakePhase s₀ (h ++ [l]) = (wakePhase s₀ h).next l := by
  simp [wakePhase]

/-- The RTOS calls succeed; a wait may time out. -/
def rtosSucceeds : (o : NaOp) → NaRes o → Prop
  | .cyRtosInitEvent, (r : CyRslt) => r = .success
  | .cyRtosInitMutex, (r : CyRslt) => r = .success
  | .cyRtosQueueInit _, (r : CyRslt) => r = .success
  | .cyRtosClearbitsEvent _, (r : CyRslt) => r = .success
  | .cyRtosWaitbitsEvent _ _ _, (r : CyRslt) => r = .success ∨ r = .rtosTimeout
  | .cyRtosGetMutex _, (r : CyRslt) => r = .success
  | .cyRtosSetMutex, (r : CyRslt) => r = .success
  | _, _ => True

/-- What the calls do, if the RTOS calls succeed. -/
def rtosSem (o : NaOp) (s : NetWorld) (r : NaRes o) (s' : NetWorld) : Prop :=
  netSem o s r s' ∧ rtosSucceeds o r

/-- The RX flag of the event is set. -/
def RxFlag (s : NetWorld) : Prop := s.cyLpWaitNetEvent &&& cyLpaRxEventFlag ≠ 0

/-- **A state between calls**: packets are queued only once the queue is there, and the event is
there once the handler is set up. -/
structure Sound (s : NetWorld) : Prop where
  queue : s.vars.isRxPktQueueCreated = false → s.rxQueueCb = false ∧ s.rxPktQ = []
  event : s.vars.emacActivityCallbackRegistered = true → s.vars.cyLpWaitNetEventValid = true

theorem sound_boot : Sound .boot := ⟨fun _ => ⟨rfl, rfl⟩, by decide⟩

theorem Sound.of_eq {s s' : NetWorld} (h : Sound s) (hv : netVars s'.vars = netVars s.vars)
    (hcb : s'.rxQueueCb = s.rxQueueCb) (hq : s'.rxPktQ = s.rxPktQ) : Sound s' := by
  have hcreated := congrArg NetVars.queueCreated hv
  have hvalid := congrArg NetVars.eventValid hv
  have hsetUp := congrArg NetVars.handlerSetUp hv
  dsimp only at hcreated hvalid hsetUp
  refine ⟨fun hc => ?_, fun hs => ?_⟩
  · rw [hcb, hq]
    exact h.queue (hcreated ▸ hc)
  · rw [hvalid]
    exact h.event (hsetUp ▸ hs)

/-! ### Arrivals -/

/-- What a phase says of the queue, the callback and the event. -/
def WakePhase.Describes : WakePhase → NetWorld → Prop
  | .before cb queued, s => s.rxQueueCb = cb ∧ (s.rxPktQ ≠ [] ↔ queued = true)
  | .window queued, s => s.rxQueueCb = true ∧ s.vars.cyLpWaitNetEventValid = true ∧
      (s.rxPktQ ≠ [] ↔ queued = true)
  | .armed stranded arrived, s => s.rxQueueCb = true ∧ s.vars.cyLpWaitNetEventValid = true ∧
      (s.rxPktQ ≠ [] ↔ stranded = true ∨ arrived = true) ∧ (RxFlag s ↔ arrived = true)

/-- A packet handed to the callback is queued, or the queue is full: either way it is not empty. -/
theorem arrive_rxPktQ_ne_nil {item : CylpaRxQueue} {s : NetWorld} (hcb : s.rxQueueCb = true) :
    (arrive item s).rxPktQ ≠ [] := by
  rw [arrive_of_cb hcb]
  unfold cylpaRxActivity
  dsimp only
  split
  · simp
  · -- a full queue is not an empty one
    rename_i hfull
    intro h
    simp only at h
    rw [h] at hfull
    exact hfull (by decide)

theorem rxFlag_onEmacActivity {s : NetWorld} (hv : s.vars.cyLpWaitNetEventValid = true) :
    RxFlag (cylpaOnEmacActivity false s) := by
  unfold RxFlag cylpaOnEmacActivity
  rw [if_pos hv]
  intro h
  have hbit := congrArg (·.toNat.testBit 0) h
  simp [cyLpaRxEventFlag] at hbit

theorem rxFlag_arrive {item : CylpaRxQueue} {s : NetWorld}
    (hv : s.vars.cyLpWaitNetEventValid = true) : RxFlag (arrive item s) := by
  unfold RxFlag
  rw [arrive_cyLpWaitNetEvent]
  exact rxFlag_onEmacActivity hv

theorem Sound.arrive {item : CylpaRxQueue} {s : NetWorld} (h : Sound s) :
    Sound (arrive item s) := by
  refine ⟨fun hq => ?_, fun he => ?_⟩
  · rw [arrive_vars] at hq
    obtain ⟨hcb, hnil⟩ := h.queue hq
    rw [arrive_of_no_cb hcb]
    simp [hcb, hnil]
  · rw [arrive_vars] at he ⊢
    exact h.event he

/-- **An arrival** takes each phase to the one that says what it has done. -/
theorem WakePhase.Describes.arrive {p : WakePhase} {item : CylpaRxQueue} {s : NetWorld}
    (h : p.Describes s) : (p.next (.env item)).Describes (arrive item s) := by
  cases p with
  | before cb queued =>
      obtain ⟨rfl, hq⟩ := h
      refine ⟨by simp, ?_⟩
      cases hcb : s.rxQueueCb with
      | false => simpa [arrive_of_no_cb hcb] using hq
      | true => simpa using arrive_rxPktQ_ne_nil hcb
  | window queued =>
      obtain ⟨hcb, hv, -⟩ := h
      exact ⟨by simpa using hcb, by simpa using hv, by simpa using arrive_rxPktQ_ne_nil hcb⟩
  | armed stranded arrived =>
      obtain ⟨hcb, hv, -, -⟩ := h
      exact ⟨by simpa using hcb, by simpa using hv, by simpa using arrive_rxPktQ_ne_nil hcb,
        by simpa using rxFlag_arrive hv⟩

/-! ### Calls that leave a state sound -/

/-- A call other than the wait that leaves a sound state sound. -/
def Tame (o : NaOp) : Prop :=
  isWakeWait o = false ∧ ∀ s r s', netSem o s r s' → Sound s → Sound s'

theorem tame_plain {o : NaOp} (ho : Plain o) : Tame o := by
  refine ⟨ho.not_wakeWait, fun s r s' hs h => ?_⟩
  cases ho with
  | call ho _ =>
      obtain ⟨e, rfl⟩ := netSem_of_not_packetOp ho hs
      exact h.of_eq rfl rfl rfl
  | store hf =>
      obtain rfl := hs
      exact h.of_eq (hf _) rfl rfl

/-- Whether the stack is suspended does not matter. -/
theorem tame_store_suspended (f : Bool) :
    Tame (.store fun v => { v with cylpaSNsSuspended := f }) :=
  ⟨rfl, fun _ _ _ hs h => hs ▸ ⟨h.queue, h.event⟩⟩

theorem tame_unlockTcpipCore : Tame .unlockTcpipCore := ⟨rfl, fun _ _ _ hs h => hs ▸ h⟩

/-- No more packets are queued. -/
theorem tame_registerRxQueueCb_false : Tame (.cyNetworkRegisterRxQueueCb false) :=
  ⟨rfl, fun _ _ _ hs h => hs ▸ ⟨fun hc => ⟨rfl, (h.queue hc).2⟩, h.event⟩⟩

theorem tame_queueGet : Tame .cyRtosQueueGet := by
  refine ⟨rfl, fun s _ _ hs h => hs.2 ▸ ⟨fun hc => ⟨(h.queue hc).1, ?_⟩, h.event⟩⟩
  simp [(h.queue hc).2]

theorem tame_netifInput (item : CylpaRxQueue) : Tame (.netifInput item) := by
  refine ⟨rfl, fun s r s' hs h => ?_⟩
  obtain rfl := hs
  split
  · exact ⟨h.queue, h.event⟩
  · exact h

theorem tame_bufferRelease (buf : Handle) : Tame (.cyBufferRelease buf) :=
  ⟨rfl, fun _ _ _ hs h => hs ▸ ⟨h.queue, h.event⟩⟩

/-- **The resume section** leaves a sound state sound. -/
theorem resumeSection_tame {b : NaBuild} (hb : b.stack = .lwip) (wifi : Handle)
    (waitMs : UInt32) (state : NetworkStackState) (lpTime : UInt32) :
    (resumeSection b wifi waitMs state lpTime).Calls Tame := by
  have plain : ∀ {α : Type} {p : Na α}, p.Calls Plain → p.Calls Tame :=
    fun hp => hp.mono fun _ => tame_plain
  have call : ∀ {o}, isPacketOp o = false → isWakeWait o = false → Tame o :=
    fun ho hw => tame_plain (.call ho hw)
  have htake : (takeRxPackets b).Calls Tame := by
    simp [takeRxPackets, cylpaRxQueuePktInput, rxQueueRound, rxQueuePkt, Option.forall, call,
      tame_registerRxQueueCb_false, tame_queueGet, tame_netifInput, tame_bufferRelease]
  have hresume : (cylpaResumeNs b).Calls Tame := by
    simp [cylpaResumeNs, resumeStack, hb, call, tame_unlockTcpipCore, tame_store_suspended]
  refine ⟨call rfl rfl, fun _ => ⟨call rfl rfl, fun _ => ⟨tame_plain (.store fun _ => rfl), ?_⟩⟩⟩
  refine fun _ => (plain (printBusStats_plain b wifi)).bind fun _ => ?_
  refine (plain (notifyApplication_plain _)).bind fun _ => ⟨call rfl rfl, fun _ => ?_⟩
  exact htake.bind fun _ => hresume.bind fun _ => ⟨call rfl rfl, fun _ => trivial⟩

/-! ### Programs -/

section Wake

variable (s₀ : NetWorld)

/-- Where `wait_net_suspend` stands: before it registers its callback, between that and clearing
the event, or after. -/
inductive WakeStage where
  | before
  | window
  | armed

def WakePhase.stage : WakePhase → WakeStage
  | .before _ _ => .before
  | .window _ => .window
  | .armed _ _ => .armed

/-- What holds in a stage; `R` is what is known of the variables. -/
structure At (st : WakeStage) (R : NetVars → Prop) (h : NetHist) (s : NetWorld) : Prop where
  stage : (wakePhase s₀ h).stage = st
  phase : (wakePhase s₀ h).Describes s
  sound : Sound s
  known : R (netVars s.vars)

variable {s₀}

theorem stable_at (st : WakeStage) (R : NetVars → Prop) : Stable arrival (At s₀ st R) := by
  rintro item h s _ hat rfl
  refine ⟨?_, ?_, hat.sound.arrive, by simpa using hat.known⟩
  · rw [wakePhase_append, ← hat.stage]
    cases wakePhase s₀ h <;> rfl
  · rw [wakePhase_append]
    exact hat.phase.arrive

/-- **At the wait for the wake-up** a packet in the queue has its flag set exactly if none is
stranded. -/
def WakeCovered (s₀ : NetWorld) (o : NaOp) (h : NetHist) (s : NetWorld) : Prop :=
  isWakeWait o = true → ((s.rxPktQ ≠ [] → RxFlag s) ↔ (wakePhase s₀ h).Covered)

/-- The program meets that at each wait, and `Q` at its end. -/
def Meets {α : Type} (s₀ : NetWorld) (Q : α → NetHist → NetWorld → Prop) (p : Na α)
    (h : NetHist) (s : NetWorld) : Prop :=
  Safe rtosSem arrival (WakeCovered s₀) Q p h s

section Rules

variable {α β : Type} {st : WakeStage} {R : NetVars → Prop} {h : NetHist} {s : NetWorld}

theorem Meets.ret {Q : α → Prop} {x : α} (hx : Q x) (hat : At s₀ st R h s) :
    Meets s₀ (fun x h s => Q x ∧ At s₀ st R h s) (.ret x) h s :=
  Safe.ret (fun e h s s' hat hs => ⟨hx, stable_at st R e h s s' hat.2 hs⟩) ⟨hx, hat⟩

theorem Meets.ret_at {x : α} (hat : At s₀ st R h s) : Meets s₀ (fun _ => At s₀ st R) (.ret x) h s :=
  Safe.ret (stable_at st R) hat

theorem Meets.bind {Q : β → NetHist → NetWorld → Prop} {p : Na α} {g : α → Na β}
    (P : α → NetHist → NetWorld → Prop) (hp : Meets s₀ P p h s)
    (hg : ∀ x h s, P x h s → Meets s₀ Q (g x) h s) : Meets s₀ Q (p.bind g) h s :=
  Safe.bind P hp hg

/-- A program that does not wait for the wake-up and leaves sound states sound. -/
theorem Meets.tame {p : Na α} (hp : p.Calls Tame) (hs : Sound s) :
    Meets s₀ (fun _ _ => Sound) p h s :=
  Safe.frame hp (fun _ _ _ _ hs he => he ▸ hs.arrive)
    (fun _ _ _ ho _ hw => absurd hw (by simp [ho.1])) (fun _ _ _ _ _ ho hs h => ho.2 _ _ _ h.1 hs)
    hs

/-- A call other than the wait. -/
theorem Meets.call {Q : α → NetHist → NetWorld → Prop} {o : NaOp} {g : NaRes o → Na α}
    (ho : isWakeWait o = false) (hat : At s₀ st R h s)
    (hg : ∀ h s r s', At s₀ st R h s → netSem o s r s' → rtosSucceeds o r →
      Meets s₀ Q (g r) (h ++ [.call o r]) s') : Meets s₀ Q ((op o).bind g) h s :=
  Safe.call (At s₀ st R) (stable_at st R) hat (fun _ _ _ hw => absurd hw (by simp [ho]))
    fun h s r s' hat hs => hg h s r s' hat hs.1 hs.2

end Rules

/-! ### Before the callback is registered -/

theorem next_before {cb queued : Bool} {o : NaOp} (ho : o ≠ .cyNetworkRegisterRxQueueCb true)
    (r : NaRes o) : (WakePhase.before cb queued).next (.call o r) = .before cb queued := by
  cases o with
  | cyNetworkRegisterRxQueueCb b =>
      cases b with
      | false => rfl
      | true => exact absurd rfl ho
  | _ => rfl

section Before

variable {α β : Type} {R K : NetVars → Prop} {h : NetHist} {s s' : NetWorld}

/-- Before the callback is registered only it, the queue and the variables matter. -/
theorem At.before {o : NaOp} {r : NaRes o} (hat : At s₀ .before R h s)
    (ho : o ≠ .cyNetworkRegisterRxQueueCb true) (hcb : s'.rxQueueCb = s.rxQueueCb)
    (hq : s'.rxPktQ = s.rxPktQ) (hs : Sound s') (hk : K (netVars s'.vars)) :
    At s₀ .before K (h ++ [.call o r]) s' := by
  obtain ⟨hst, hph, -, -⟩ := hat
  cases hp : wakePhase s₀ h with
  | before cb queued =>
      have hnext : wakePhase s₀ (h ++ [.call o r]) = .before cb queued := by
        rw [wakePhase_append, hp, next_before ho]
      rw [hp] at hph
      exact ⟨by rw [hnext]; rfl, by rw [hnext]; simpa [WakePhase.Describes, hcb, hq] using hph,
        hs, hk⟩
  | window queued => rw [hp] at hst; cases hst
  | armed stranded arrived => rw [hp] at hst; cases hst

theorem At.plain {o : NaOp} {r : NaRes o} (hat : At s₀ .before R h s) (ho : Plain o)
    (hs : netSem o s r s') : At s₀ .before R (h ++ [.call o r]) s' := by
  cases ho with
  | call ho _ =>
      obtain ⟨e, rfl⟩ := netSem_of_not_packetOp ho hs
      exact hat.before (by rintro rfl; cases ho) rfl rfl (hat.sound.of_eq rfl rfl rfl) hat.known
  | @store f hf =>
      obtain rfl := hs
      exact hat.before (by simp) rfl rfl (hat.sound.of_eq (hf _) rfl rfl)
        (by simpa [hf] using hat.known)

theorem Meets.plain {p : Na α} (hp : p.Calls Plain) (hat : At s₀ .before R h s) :
    Meets s₀ (fun _ => At s₀ .before R) p h s :=
  Safe.frame hp (stable_at _ R) (fun _ _ _ ho _ hw => absurd hw (by simp [ho.not_wakeWait]))
    (fun _ _ _ _ _ ho hat hs => hat.plain ho hs.1) hat

theorem Meets.plain_bind {Q : β → NetHist → NetWorld → Prop} {p : Na α} {g : α → Na β}
    (hp : p.Calls Plain) (hat : At s₀ .before R h s)
    (hg : ∀ x h s, At s₀ .before R h s → Meets s₀ Q (g x) h s) : Meets s₀ Q (p.bind g) h s :=
  (Meets.plain hp hat).bind _ hg

theorem Meets.store {Q : α → NetHist → NetWorld → Prop} {u : NaVars → NaVars} {g : Unit → Na α}
    (hat : At s₀ .before R h s)
    (hu : ∀ s, Sound s → R (netVars s.vars) → Sound { s with vars := u s.vars } ∧
      K (netVars (u s.vars)))
    (hg : ∀ h s, At s₀ .before K h s → Meets s₀ Q (g ()) h s) :
    Meets s₀ Q ((op (.store u)).bind g) h s := by
  refine Meets.call rfl hat fun h s r s' hat hs _ => hg _ _ ?_
  obtain rfl := hs
  obtain ⟨hsound, hknown⟩ := hu s hat.sound hat.known
  exact hat.before (by simp) rfl rfl hsound hknown

theorem Meets.store_at {u : NaVars → NaVars} (hat : At s₀ .before R h s)
    (hu : ∀ s, Sound s → R (netVars s.vars) → Sound { s with vars := u s.vars } ∧
      K (netVars (u s.vars))) :
    Meets s₀ (fun _ => At s₀ .before K) (op (.store u)) h s :=
  Meets.store (g := .ret) hat hu fun _ _ hat => Meets.ret_at hat

/-- **The first call sets the event up**; a later one finds it set up. -/
theorem initHandlerOnce_meets (hat : At s₀ .before R h s) :
    Meets s₀ (fun _ => At s₀ .before (·.eventValid = true)) initHandlerOnce h s := by
  refine Meets.call rfl hat fun h s v s' hat hs _ => ?_
  have hat' := hat.plain (.call rfl rfl) hs
  obtain ⟨rfl, rfl⟩ := hs
  unfold Prog.when
  split
  · refine Meets.bind (fun _ => At s₀ .before (·.eventValid = true)) ?_ fun _ h s hat => ?_
    · refine Meets.bind (fun _ => At s₀ .before (·.eventValid = true)) ?_ fun _ h s hat =>
        Meets.ret_at hat
      refine Meets.call rfl hat' fun h s (r : CyRslt) s' hat hs (hr : r = .success) => ?_
      have hat := hat.plain (.call rfl rfl) hs
      rw [if_neg (not_not.mpr hr)]
      -- the event is marked valid before the mutex and the callback, so it is in any case
      refine Meets.store (K := (·.eventValid = true)) hat ?_ fun h s hat => ?_
      · exact fun s hs _ => ⟨⟨hs.queue, fun _ => rfl⟩, rfl⟩
      refine Meets.call rfl hat fun h s (r : CyRslt) s' hat hs (hr : r = .success) => ?_
      have hat := hat.plain (.call rfl rfl) hs
      rw [if_neg (not_not.mpr hr)]
      exact Meets.plain_bind ((Prog.calls_op _).mpr (.call rfl rfl)) hat fun _ h s hat =>
        Meets.ret_at hat
    · exact Meets.store_at hat fun s hs hv => ⟨⟨hs.queue, fun _ => hv⟩, hv⟩
  · rename_i hset
    have hvalid := hat'.sound.event (by simpa using hset)
    exact Meets.ret_at ⟨hat'.stage, hat'.phase, hat'.sound, hvalid⟩

/-- The queue is created empty, before any packet can be queued. -/
theorem initRxPktQueueOnce_meets {b : NaBuild} (hb : b.stack = .lwip)
    (hat : At s₀ .before (·.eventValid = true) h s) :
    Meets s₀ (fun _ => At s₀ .before fun v => v.eventValid = true ∧ v.queueCreated = true)
      (initRxPktQueueOnce b) h s := by
  unfold initRxPktQueueOnce Prog.when
  rw [if_pos hb]
  refine Meets.call rfl hat fun h s v s' hat hs _ => ?_
  have hat' := hat.plain (.call rfl rfl) hs
  obtain ⟨rfl, rfl⟩ := hs
  split
  · rename_i hnot
    have hnot' : At s₀ .before (fun v => v.eventValid = true ∧ v.queueCreated = false) _ s' :=
      ⟨hat'.stage, hat'.phase, hat'.sound, hat'.known, by simpa using hnot⟩
    -- without a queue no packet can have been queued, so creating it drops none
    refine Meets.call rfl hnot' fun h s r s' hat hs _ => ?_
    obtain ⟨hvalid, hcreated⟩ := hat.known
    have hempty := hat.sound.queue hcreated
    obtain ⟨-, rfl⟩ := hs
    have hsound : Sound { s with rxPktQ := [] } := ⟨fun _ => ⟨hempty.1, rfl⟩, hat.sound.event⟩
    have hat : At s₀ .before (·.eventValid = true) (h ++ [.call (.cyRtosQueueInit _) r])
        { s with rxPktQ := [] } := hat.before (by simp) rfl hempty.2.symm hsound hvalid
    exact Meets.store_at hat fun s hs hv => ⟨⟨by simp, hs.event⟩, hv, rfl⟩
  · rename_i hset
    refine Meets.ret_at ⟨hat'.stage, hat'.phase, hat'.sound, hat'.known, ?_⟩
    simpa using hset

/-- What is known once LPA is set up. -/
def Ready (v : NetVars) : Prop := v.eventValid = true ∧ v.queueCreated = true

/-- Suspending, whether it succeeds or not, leaves the set-up alone. -/
theorem cylpaSuspendNs_meets {b : NaBuild} (hb : b.stack = .lwip) (hat : At s₀ .before Ready h s) :
    Meets s₀ (fun _ => At s₀ .before Ready) (cylpaSuspendNs b) h s := by
  have hplain : (suspendStack .lwip).Calls Plain := ⟨.call rfl rfl, fun _ => trivial⟩
  refine Meets.plain_bind ((Prog.calls_op _).mpr (.call rfl rfl)) hat fun v h s hat => ?_
  split
  · exact Meets.ret_at hat
  · rw [hb]
    refine Meets.plain_bind hplain hat fun state h s hat => ?_
    split
    · refine Meets.bind (fun _ => At s₀ .before Ready) ?_ fun _ h s hat => Meets.ret_at hat
      exact Meets.store_at hat fun s hs hv => ⟨⟨hs.queue, hs.event⟩, hv⟩
    · exact Meets.ret_at hat

/-- **Registering the callback** opens the window. -/
theorem queueRxPackets_meets {b : NaBuild} (hb : b.stack = .lwip) (hat : At s₀ .before Ready h s) :
    Meets s₀ (fun _ => At s₀ .window Ready) (queueRxPackets b) h s := by
  unfold queueRxPackets Prog.when
  rw [if_pos hb]
  refine Meets.call (o := .cyNetworkRegisterRxQueueCb true) (g := .ret) rfl hat
    fun h s r s' hat hs _ => Meets.ret_at ?_
  obtain rfl := hs
  obtain ⟨hst, hph, hsound, hvalid, hcreated⟩ := hat
  have hsound' : Sound { s with rxQueueCb := true } :=
    ⟨fun hc => absurd (hcreated.symm.trans hc) (by simp), hsound.event⟩
  cases hp : wakePhase s₀ h with
  | before cb queued =>
      rw [hp] at hph
      exact ⟨by rw [wakePhase_append, hp]; rfl, by
        rw [wakePhase_append, hp]; exact ⟨rfl, hvalid, hph.2⟩, hsound', hvalid, hcreated⟩
  | window queued => rw [hp] at hst; cases hst
  | armed stranded arrived => rw [hp] at hst; cases hst

end Before

/-! ### From the callback to the wait -/

/-- A call that changes nothing, nor the phase. -/
def Still (o : NaOp) : Prop :=
  isWakeWait o = false ∧ (∀ p r, WakePhase.next p (.call o r) = p) ∧
    ∀ s r s', netSem o s r s' → s' = s

section Window

variable {α β : Type} {st : WakeStage} {R : NetVars → Prop} {h : NetHist} {s : NetWorld}

theorem Meets.still {p : Na α} (hp : p.Calls Still) (hat : At s₀ st R h s) :
    Meets s₀ (fun _ => At s₀ st R) p h s := by
  refine Safe.frame hp (stable_at _ R) (fun _ _ _ ho _ hw => absurd hw (by simp [ho.1])) ?_ hat
  rintro o h s r s' ⟨-, hnext, hsem⟩ ⟨hst, hph, hs, hk⟩ ⟨hs', -⟩
  obtain rfl := hsem s r s' hs'
  have hphase : wakePhase s₀ (h ++ [.call o r]) = wakePhase s₀ h :=
    (wakePhase_append _ _ _).trans (hnext _ _)
  exact ⟨hphase ▸ hst, hphase ▸ hph, hs, hk⟩

theorem Meets.still_op {Q : α → NetHist → NetWorld → Prop} {o : NaOp} {g : NaRes o → Na α}
    (ho : Still o) (hat : At s₀ st R h s)
    (hg : ∀ r h s, At s₀ st R h s → Meets s₀ Q (g r) h s) : Meets s₀ Q ((op o).bind g) h s :=
  (Meets.still ((Prog.calls_op o).mpr ho) hat).bind _ hg

theorem still_load : Still .load := ⟨rfl, fun p _ => by cases p <;> rfl, fun _ _ _ hs => hs.2⟩

theorem notifyApplication_still (t : CylpaNotifyEventType) :
    (notifyApplication t).Calls Still := by
  refine ⟨still_load, fun v => ?_⟩
  cases h : v.suspendNotifyCb with
  | none => simp [h]
  | some cb =>
      simp only [Prog.ret_bind, h, Prog.calls_op]
      exact ⟨rfl, fun p _ => by cases p <;> rfl, fun _ _ _ hs => hs⟩

/-- **Clearing the event** closes the window, with no flag set. -/
theorem clearbits_meets {Q : α → NetHist → NetWorld → Prop} {g : CyRslt → Na α}
    (hat : At s₀ .window R h s)
    (hg : ∀ r h s, At s₀ .armed R h s → Meets s₀ Q (g r) h s) :
    Meets s₀ Q ((op (.cyRtosClearbitsEvent cyLpaEventFlags)).bind g) h s := by
  refine Meets.call rfl hat fun h s (r : CyRslt) s' hat hs (hr : r = .success) => hg _ _ _ ?_
  obtain ⟨hst, hph, hsound, hk⟩ := hat
  subst hr
  obtain rfl : s' = { s with cyLpWaitNetEvent := s.cyLpWaitNetEvent &&& ~~~cyLpaEventFlags } := hs
  have hflag : ¬ RxFlag { s with
      cyLpWaitNetEvent := s.cyLpWaitNetEvent &&& ~~~cyLpaEventFlags } := by
    have hmask : ~~~cyLpaEventFlags &&& cyLpaRxEventFlag = 0 := by decide
    simp [RxFlag, UInt32.and_assoc, hmask]
  cases hp : wakePhase s₀ h with
  | before cb queued => rw [hp] at hst; cases hst
  | armed stranded arrived => rw [hp] at hst; cases hst
  | window queued =>
      rw [hp] at hph
      obtain ⟨hcb, hv, hq⟩ := hph
      refine ⟨by rw [wakePhase_append, hp]; rfl, ?_, ⟨hsound.queue, hsound.event⟩, hk⟩
      rw [wakePhase_append, hp]
      exact ⟨hcb, hv, by simpa [WakePhase.next] using hq, by simpa [WakePhase.next] using hflag⟩

/-- **At the wait** the flag is what the phase says. -/
theorem At.wakeCovered (hat : At s₀ .armed R h s) (o : NaOp) : WakeCovered s₀ o h s := by
  intro _
  obtain ⟨hst, hph, -, -⟩ := hat
  cases hp : wakePhase s₀ h with
  | before cb queued => rw [hp] at hst; cases hst
  | window queued => rw [hp] at hst; cases hst
  | armed stranded arrived =>
      rw [hp] at hph
      obtain ⟨-, -, hq, hflag⟩ := hph
      -- a packet is queued if stranded or arrived, the flag set if arrived
      rw [hq, hflag]
      cases stranded <;> cases arrived <;> simp [WakePhase.Covered]

theorem waitNetActivity_meets (waitMs : UInt32) (hat : At s₀ .window R h s) :
    Meets s₀ (fun _ _ => Sound) (waitNetActivity waitMs) h s := by
  refine (Meets.still (notifyApplication_still _) hat).bind _ fun _ h s hat => ?_
  refine clearbits_meets hat fun _ h s hat => ?_
  -- the offloads, deep sleep and the clock
  refine Meets.still_op ⟨rfl, fun p _ => by cases p <;> rfl, fun _ _ _ hs => hs⟩ hat
    fun _ h s hat => ?_
  refine Meets.still_op ⟨rfl, fun p _ => by cases p <;> rfl, fun _ _ _ hs => hs⟩ hat
    fun _ h s hat => ?_
  refine Meets.still_op ⟨rfl, fun p _ => by cases p <;> rfl, fun _ _ _ hs => hs⟩ hat
    fun _ h s hat => ?_
  -- the wait itself
  refine Safe.call (At s₀ .armed R) (stable_at _ R) hat (fun h s hat => hat.wakeCovered _)
    fun h s r s' hat hs => ?_
  obtain ⟨e, rfl⟩ := netSem_of_not_packetOp rfl hs.1
  exact Meets.tame ⟨tame_plain (.call rfl rfl), fun _ => trivial⟩ (hat.sound.of_eq rfl rfl rfl)

end Window

/-! ### Whole runs -/

section Run

variable {h : NetHist} {s : NetWorld}

theorem suspendUntilActivity_meets {b : NaBuild} (hb : b.stack = .lwip) (wifi : Handle)
    (waitMs : UInt32) (hat : At s₀ .before Ready h s) :
    Meets s₀ (fun _ _ => Sound) (suspendUntilActivity b wifi waitMs) h s := by
  refine (cylpaSuspendNs_meets hb hat).bind _ fun state h s hat => ?_
  refine (queueRxPackets_meets hb hat).bind _ fun _ h s hat => ?_
  split
  · refine (waitNetActivity_meets waitMs hat).bind _ fun r h s hs => ?_
    exact Meets.tame (resumeSection_tame hb wifi waitMs r.1 r.2) hs
  · exact Meets.tame (Prog.calls_ret _) hat.sound

theorem waitNetSuspend_meets {b : NaBuild} (hb : b.stack = .lwip)
    (waitMs interval window : UInt32) (hs₀ : Sound s₀) :
    Meets s₀ (fun _ _ => Sound) (waitNetSuspend b waitMs interval window) [] s₀ := by
  have hat : At s₀ .before (fun _ => True) [] s₀ := ⟨rfl, ⟨rfl, by simp⟩, hs₀, trivial⟩
  refine Meets.plain_bind (connectedInterface_plain b) hat fun wifi h s hat => ?_
  cases wifi with
  | none => exact Meets.tame (Prog.calls_ret _) hat.sound
  | some wifi =>
      refine (initHandlerOnce_meets hat).bind _ fun _ h s hat => ?_
      refine (initRxPktQueueOnce_meets hb hat).bind _ fun _ h s hat => ?_
      refine Meets.plain_bind ((Prog.calls_op _).mpr (.call rfl rfl)) hat fun _ h s hat => ?_
      refine Meets.bind (fun _ _ => Sound) ?_ fun state h s hs => ?_
      · refine Meets.plain_bind (cylpaWaitNetInactivity_plain b interval window) hat
          fun state h s hat => ?_
        split
        · exact suspendUntilActivity_meets hb wifi waitMs hat
        · exact Meets.tame (Prog.calls_ret _) hat.sound
      · exact Meets.tame ⟨tame_plain (.call rfl rfl), fun _ => trivial⟩ hs

end Run

end Wake

/-- **A call leaves the world sound**, so the next one starts as this one did. -/
theorem waitNetSuspend_sound {b : NaBuild} (hb : b.stack = .lwip)
    {waitMs interval window : UInt32} {s₀ : NetWorld} (hs₀ : Sound s₀)
    {c : Prog.Config NaOp NaRes CylpaRxQueue NetWorld NetworkStackState}
    (hrun : Reach rtosSem arrival ⟨waitNetSuspend b waitMs interval window, [], s₀⟩ c)
    {state : NetworkStackState} (hret : c.prog = .ret state) : Sound c.st :=
  (waitNetSuspend_meets hb waitMs interval window hs₀ c hrun).2 state hret

/-- **No lost wake-up, exactly when no packet is stranded.**  Whenever `wait_net_suspend` starts
to wait for the network to wake up, a packet in the queue has its flag set exactly if no packet
had been queued when the event was cleared, or another has arrived since. -/
theorem wakeWait_rxFlag_iff (b : NaBuild) (hb : b.stack = .lwip)
    (waitMs interval window : UInt32) (s₀ : NetWorld) (hs₀ : Sound s₀)
    (c : Prog.Config NaOp NaRes CylpaRxQueue NetWorld NetworkStackState)
    (hrun : Reach rtosSem arrival ⟨waitNetSuspend b waitMs interval window, [], s₀⟩ c)
    (flags timeout : UInt32) (k : CyRslt → Na NetworkStackState)
    (hwait : c.prog = .call (.cyRtosWaitbitsEvent .wakeUp flags timeout) k) :
    (c.st.rxPktQ ≠ [] → RxFlag c.st) ↔ (wakePhase s₀ c.hist).Covered := by
  obtain ⟨hcall, -⟩ := waitNetSuspend_meets hb waitMs interval window hs₀ c hrun
  exact hcall (.cyRtosWaitbitsEvent .wakeUp flags timeout) k hwait rfl

theorem rtosUsual_answers (o : NaOp) (h : NetHist) (s : NetWorld) :
    rtosSem o s (netUsual o h s).1 (netUsual o h s).2 := by
  refine ⟨netUsual_answers o h s, ?_⟩
  cases o <;> first | trivial | rfl | exact .inr rfl

/-- A packet that arrives once the event is cleared. -/
theorem wakeWait_rxFlag_iff_armed : ∃ c : Prog.Config NaOp NaRes CylpaRxQueue NetWorld _,
    Reach rtosSem arrival ⟨waitNetSuspend ⟨.lwip, none⟩ 1000 20 10, [], .boot⟩ c ∧
      c.st.rxPktQ ≠ [] ∧ (c.st.rxPktQ ≠ [] → RxFlag c.st) := by
  have hrun : Reach rtosSem arrival ⟨waitNetSuspend ⟨.lwip, none⟩ 1000 20 10, [], .boot⟩
      (((Prog.Config.exec netUsual 22 _).disturb arrive ⟨1, 7⟩).exec netUsual 3) :=
    ((Prog.reach_exec rtosUsual_answers 22 _).trans (Prog.reach_disturb rfl)).trans
      (Prog.reach_exec rtosUsual_answers 3 _)
  exact ⟨_, hrun, by decide, (wakeWait_rxFlag_iff _ rfl _ _ _ _ sound_boot _ hrun _ _ _ rfl).mpr
    (by decide)⟩

/-- **A lost wake-up**: the packet arrives after the callback is registered and before the event
is cleared; at the wait it is in the queue, and its flag is gone. -/
theorem wakeWait_not_rxFlag : ¬ ∀ (b : NaBuild) (waitMs interval window : UInt32) (s₀ : NetWorld)
    (c : Prog.Config NaOp NaRes CylpaRxQueue NetWorld NetworkStackState) (flags timeout : UInt32)
    (k : CyRslt → Na NetworkStackState), b.stack = .lwip → Sound s₀ →
      Reach rtosSem arrival ⟨waitNetSuspend b waitMs interval window, [], s₀⟩ c →
      c.prog = .call (.cyRtosWaitbitsEvent .wakeUp flags timeout) k →
      c.st.rxPktQ ≠ [] → RxFlag c.st := by
  intro hall
  have hrun : Reach rtosSem arrival ⟨waitNetSuspend ⟨.lwip, none⟩ 1000 20 10, [], .boot⟩
      (((Prog.Config.exec netUsual 20 _).disturb arrive ⟨1, 7⟩).exec netUsual 5) :=
    ((Prog.reach_exec rtosUsual_answers 20 _).trans (Prog.reach_disturb rfl)).trans
      (Prog.reach_exec rtosUsual_answers 5 _)
  exact hall _ _ _ _ _ _ _ _ _ rfl sound_boot hrun rfl (by decide) (by decide)

end Lpa.NetActivity.Arrivals
