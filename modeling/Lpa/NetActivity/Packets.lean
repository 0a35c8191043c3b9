import Lpa.NetActivity.World
import Mathlib.Data.List.Perm.Basic

/-!
# Network activity — no packet lost, none twice

With lwIP, the packets that arrive while the stack is suspended are queued, and handed to the
stack before it is resumed.  The callback is taken away before the queue is emptied, so it stays
empty once it is; and whoever takes a packet out of LPA's hands is the only one to.

* `waitNetSuspends_packets`: in any number of calls of `wait_net_suspend`, and whatever arrives when
  and is answered, the queue is empty when the stack is resumed, and after each call every packet
  handed to LPA was either taken by the stack or released, once.

`Stage` says how far a call of `wait_net_suspend` has got; `Stage.At` is what holds there, and no
arrival breaks it (`stable_at`).
-/

namespace Lpa.NetActivity

open Prog (Label Safe Reach Stable)

/-- How far a call of `wait_net_suspend` has got, as far as packets go: the stack is not
suspended; packets may be queued; the queue is being emptied, some packets in hand; it is empty. -/
inductive Stage where
  | idle
  | queueing
  | draining (hand : List Handle)
  | drained

/-- The packets taken from the queue and not disposed of. -/
def Stage.hand : Stage → List Handle
  | .draining hand => hand
  | _ => []

/-- What a stage says of the stack, the callback and the queue. -/
def Stage.Holds : Stage → NetWorld → Prop
  | .idle, s => s.vars.cylpaSNsSuspended = false ∧ s.rxQueueCb = false ∧ s.rxPktQ = []
  | .queueing, s => s.vars.cylpaSNsSuspended = true
  | .draining _, s => s.vars.cylpaSNsSuspended = true ∧ s.rxQueueCb = false
  | .drained, s => s.vars.cylpaSNsSuspended = true ∧ s.rxQueueCb = false ∧ s.rxPktQ = []

/-- **Every packet handed over** was taken by the stack or released, or is in hand or queued. -/
def Accounted (hand : List Handle) (s : NetWorld) : Prop :=
  s.handed.Perm (s.accepted ++ s.released ++ (hand ++ s.rxPktQ.map (·.buf)))

/-- What holds in a stage. -/
def Stage.At (st : Stage) (_ : NetHist) (s : NetWorld) : Prop :=
  st.Holds s ∧ Accounted st.hand s

/-! ### Arrivals -/

/-- Setting the event touches no packet. -/
theorem Stage.At.onEmacActivity {st : Stage} {h h' : NetHist} {s : NetWorld} (hs : st.At h s) :
    st.At h' (cylpaOnEmacActivity false s) := by
  unfold cylpaOnEmacActivity
  split
  · cases st <;> exact hs
  · exact hs

/-- `cylpa_rx_activity` queues the packet or releases it. -/
theorem Accounted.rxActivity {item : CylpaRxQueue} {s : NetWorld} (h : Accounted [] s) :
    Accounted [] (cylpaRxActivity item s) := by
  unfold cylpaRxActivity Accounted at *
  dsimp only
  split
  · have := h.append_right [item.buf]
    simpa using this
  · -- the queue is full, so the packet is released
    refine (h.append_right [item.buf]).trans ?_
    simp only [List.append_assoc, List.nil_append]
    refine List.Perm.append_left _ (List.Perm.append_left _ List.perm_append_comm)

theorem stable_at (st : Stage) : Stable arrival st.At := by
  rintro item h s _ hs rfl
  have noCb : s.rxQueueCb = false → st.At (h ++ [.env item]) (arrive item s) := fun hcb =>
    arrive_of_no_cb hcb ▸ hs.onEmacActivity
  -- only while packets are queued is the callback there
  cases st with
  | idle => exact noCb hs.1.2.1
  | draining hand => exact noCb hs.1.2
  | drained => exact noCb hs.1.2.1
  | queueing =>
      have hs' : Stage.queueing.At h (cylpaOnEmacActivity false s) := hs.onEmacActivity
      by_cases hcb : s.rxQueueCb = true
      · rw [arrive_of_cb hcb]
        exact ⟨by simpa [Stage.Holds] using hs'.1, hs'.2.rxActivity⟩
      · rw [arrive_of_no_cb (Bool.eq_false_iff.mpr hcb)]
        exact hs'

/-! ### Programs -/

/-- The queue is empty whenever the TCP/IP core is about to be unlocked, and `Q` holds at the
end. -/
def Keeps {α : Type} (Q : α → NetHist → NetWorld → Prop) (p : Na α) (h : NetHist)
    (s : NetWorld) : Prop :=
  Safe netSem arrival (fun o _ s => o = .unlockTcpipCore → s.rxPktQ = []) Q p h s

/-- A call that touches no packet, nor whether the stack is suspended or packets are queued. -/
def Bystander (o : NaOp) : Prop :=
  o ≠ .unlockTcpipCore ∧ ∀ (st : Stage) (h h' : NetHist) s r s', netSem o s r s' → st.At h s →
    st.At h' s'

section Rules

variable {α β : Type} {st : Stage} {h : NetHist} {s : NetWorld}

theorem Keeps.ret {R : α → Prop} {x : α} (hx : R x) (hat : st.At h s) :
    Keeps (fun x h s => R x ∧ st.At h s) (.ret x) h s :=
  Safe.ret (fun e h s s' hat hs => ⟨hx, stable_at st e h s s' hat.2 hs⟩) ⟨hx, hat⟩

theorem Keeps.ret_at {x : α} (hat : st.At h s) : Keeps (fun _ => st.At) (.ret x) h s :=
  Safe.ret (stable_at st) hat

theorem Keeps.bind {Q : β → NetHist → NetWorld → Prop} {p : Na α} {g : α → Na β}
    (R : α → NetHist → NetWorld → Prop) (hp : Keeps R p h s)
    (hg : ∀ x h s, R x h s → Keeps Q (g x) h s) : Keeps Q (p.bind g) h s :=
  Safe.bind R hp hg

theorem Keeps.bystander {p : Na α} (hp : p.Calls Bystander) (hat : st.At h s) :
    Keeps (fun _ => st.At) p h s :=
  Safe.frame hp (stable_at st) (fun _ _ _ ho _ h => absurd h ho.1)
    (fun _ _ _ _ _ ho hat hs => ho.2 _ _ _ _ _ _ hs hat) hat

/-- A program that touches no packet, and what follows it. -/
theorem Keeps.bystander_bind {Q : β → NetHist → NetWorld → Prop} {p : Na α} {g : α → Na β}
    (hp : p.Calls Bystander) (hat : st.At h s)
    (hg : ∀ x h s, st.At h s → Keeps Q (g x) h s) : Keeps Q (p.bind g) h s :=
  (Keeps.bystander hp hat).bind _ hg

/-- A call that touches no packet. -/
theorem Keeps.op {Q : α → NetHist → NetWorld → Prop} {o : NaOp} {g : NaRes o → Na α}
    (ho : Bystander o) (hat : st.At h s)
    (hg : ∀ r h s, st.At h s → Keeps Q (g r) h s) : Keeps Q ((op o).bind g) h s :=
  Keeps.bystander_bind ((Prog.calls_op o).mpr ho) hat hg

/-- A call after which another stage has been reached, or more is known. -/
theorem Keeps.advance {Q : α → NetHist → NetWorld → Prop} {o : NaOp} {g : NaRes o → Na α}
    (R : NaRes o → Prop) (st' : NaRes o → Stage) (hat : st.At h s)
    (ho : o ≠ .unlockTcpipCore)
    (hnext : ∀ h h' s r s', st.At h s → netSem o s r s' → R r ∧ (st' r).At h' s')
    (hg : ∀ r h s, R r → (st' r).At h s → Keeps Q (g r) h s) :
    Keeps Q ((NetActivity.op o).bind g) h s := by
  refine Safe.call st.At (stable_at st) hat (fun _ _ _ e => absurd e ho) fun h s r s' hat hs => ?_
  obtain ⟨hr, hat'⟩ := hnext h _ s r s' hat hs
  exact hg r _ _ hr hat'

end Rules

/-! ### Bystanders -/

/-- A call that keeps what the stages look at. -/
theorem Bystander.of_eq {o : NaOp} (ho : o ≠ .unlockTcpipCore)
    (h : ∀ s r s', netSem o s r s' → s'.vars.cylpaSNsSuspended = s.vars.cylpaSNsSuspended ∧
      s'.rxQueueCb = s.rxQueueCb ∧ s'.rxPktQ = s.rxPktQ ∧ s'.handed = s.handed ∧
      s'.accepted = s.accepted ∧ s'.released = s.released) : Bystander o := by
  refine ⟨ho, fun st _ _ s r s' hs hat => ?_⟩
  obtain ⟨hf, hcb, hq, hh, ha, hr⟩ := h s r s' hs
  obtain ⟨hholds, hacc⟩ := hat
  refine ⟨?_, ?_⟩
  · cases st <;> simpa only [Stage.Holds, hf, hcb, hq] using hholds
  · simpa only [Accounted, hq, hh, ha, hr] using hacc

theorem bystander {o : NaOp} (ho : isPacketOp o = false) : Bystander o := by
  refine .of_eq (by rintro rfl; cases ho) fun s r s' hs => ?_
  obtain ⟨e, rfl⟩ := netSem_of_not_packetOp ho hs
  exact ⟨rfl, rfl, rfl, rfl, rfl, rfl⟩

theorem bystander_store {f : NaVars → NaVars}
    (hf : ∀ v, (f v).cylpaSNsSuspended = v.cylpaSNsSuspended) : Bystander (.store f) :=
  .of_eq (by simp) fun s _ _ hs => hs ▸ ⟨hf s.vars, rfl, rfl, rfl, rfl, rfl⟩

theorem Plain.bystander {o : NaOp} (ho : Plain o) : Bystander o := by
  cases ho with
  | call ho _ => exact NetActivity.bystander ho
  | store hf => exact bystander_store fun v => congrArg NetVars.suspended (hf v)

theorem initHandlerOnce_bystander : initHandlerOnce.Calls Bystander := by
  simp [initHandlerOnce, cylpaNetworkActHandlerInit, cylpaRegisterNetworkActivityCallback,
    bystander, bystander_store]

theorem waitNetActivity_bystander (waitMs : UInt32) :
    (waitNetActivity waitMs).Calls Bystander :=
  ((notifyApplication_plain _).mono fun _ => Plain.bystander).bind fun _ => by simp [bystander]

theorem Keeps.plain_bind {α β : Type} {st : Stage} {h : NetHist} {s : NetWorld}
    {Q : β → NetHist → NetWorld → Prop} {p : Na α} {g : α → Na β} (hp : p.Calls Plain)
    (hat : st.At h s) (hg : ∀ x h s, st.At h s → Keeps Q (g x) h s) : Keeps Q (p.bind g) h s :=
  Keeps.bystander_bind (hp.mono fun _ => Plain.bystander) hat hg

/-! ### The parts of a run -/

section Parts

variable {h : NetHist} {s : NetWorld}

/-- The first call creates the queue, empty as it is. -/
theorem initRxPktQueueOnce_keeps (b : NaBuild) (hat : Stage.idle.At h s) :
    Keeps (fun _ => Stage.idle.At) (initRxPktQueueOnce b) h s := by
  unfold initRxPktQueueOnce Prog.when
  split
  · refine Keeps.op (bystander rfl) hat fun v h s hat => ?_
    split
    · refine Keeps.advance (fun _ => True) (fun _ => .idle) hat (by simp) ?_ fun _ h s _ hat => ?_
      · rintro h h' s r _ ⟨⟨hf, hcb, hq⟩, hacc⟩ ⟨-, rfl⟩
        refine ⟨trivial, ⟨hf, hcb, rfl⟩, ?_⟩
        unfold Accounted at hacc ⊢
        rwa [hq] at hacc
      · exact Keeps.bystander ((Prog.calls_op _).mpr (bystander_store fun _ => rfl)) hat
    · exact Keeps.ret_at hat
  · exact Keeps.ret_at hat

/-- With lwIP **suspending** a stack that is not suspended succeeds. -/
theorem cylpaSuspendNs_keeps {b : NaBuild} (hb : b.stack = .lwip) (hat : Stage.idle.At h s) :
    Keeps (fun state h s => state = .success ∧ Stage.queueing.At h s) (cylpaSuspendNs b) h s := by
  refine Keeps.advance (fun v => v.cylpaSNsSuspended = false) (fun _ => .idle) hat (by simp) ?_
    fun v h s hv hat => ?_
  · rintro h h' s v _ hat ⟨rfl, rfl⟩
    exact ⟨hat.1.1, hat⟩
  · rw [if_neg (by simp [hv]), hb]
    refine Keeps.bind (fun state h s => state = .success ∧ Stage.idle.At h s)
      (Keeps.op (bystander rfl) hat fun _ h s hat => Keeps.ret rfl hat) ?_
    rintro _ h s ⟨rfl, hat⟩
    refine Keeps.advance (fun _ => True) (fun _ => .queueing) hat (by simp) ?_ fun _ h s _ hat =>
      Keeps.ret rfl hat
    rintro h h' s _ _ hat rfl
    exact ⟨trivial, rfl, hat.2⟩

theorem queueRxPackets_keeps (b : NaBuild) (hat : Stage.queueing.At h s) :
    Keeps (fun _ => Stage.queueing.At) (queueRxPackets b) h s := by
  unfold queueRxPackets Prog.when
  split
  · refine Keeps.advance (o := .cyNetworkRegisterRxQueueCb true) (g := .ret) (fun _ => True)
      (fun _ => .queueing) hat (by simp) ?_ fun _ h s _ hat => Keeps.ret_at hat
    rintro h h' s _ _ hat rfl
    exact ⟨trivial, hat⟩
  · exact Keeps.ret_at hat

/-- **A packet from the queue** is taken by the stack or released. -/
theorem rxQueuePkt_keeps (item : CylpaRxQueue) (hat : (Stage.draining [item.buf]).At h s) :
    Keeps (fun _ => (Stage.draining []).At) (rxQueuePkt (some item)) h s := by
  have release : ∀ {h s}, (Stage.draining [item.buf]).At h s →
      Keeps (fun _ => (Stage.draining []).At) (op (.cyBufferRelease item.buf)) h s := by
    intro h s hat
    refine Keeps.advance (g := .ret) (fun _ => True) (fun _ => .draining []) hat (by simp) ?_
      fun _ h s _ hat => Keeps.ret_at hat
    rintro h h' s _ _ ⟨hst, hacc⟩ rfl
    refine ⟨trivial, hst, hacc.trans ?_⟩
    simp [Stage.hand]
  refine Keeps.op (bystander rfl) hat fun isNull h s hat => ?_
  split
  · exact release hat
  · refine Keeps.advance (fun _ => True)
      (fun err : ℤ => if err = errOk then .draining [] else .draining [item.buf]) hat (by simp) ?_
      fun err h s _ hat => ?_
    · rintro h h' s err _ ⟨hst, hacc⟩ rfl
      split
      · refine ⟨trivial, hst, hacc.trans ?_⟩
        simp only [Stage.hand, List.append_assoc, List.nil_append, List.singleton_append]
        exact .append_left _ List.perm_middle
      · exact ⟨trivial, hst, hacc⟩
    · unfold Prog.when
      by_cases herr : err = errOk
      · rw [if_neg (not_not.mpr herr)]
        rw [if_pos herr] at hat
        exact Keeps.ret_at hat
      · rw [if_pos herr]
        rw [if_neg herr] at hat
        exact release hat

/-- **A round of emptying the queue** disposes of one packet, or finds the queue empty. -/
theorem rxQueueRound_keeps (hat : (Stage.draining []).At h s) :
    Keeps (Prog.passPost (Stage.draining []).At fun _ => Stage.drained.At) rxQueueRound h s := by
  refine Keeps.advance (fun _ => True) (fun n : ℕ => if n = 0 then .drained else .draining []) hat
    (by simp) ?_ fun n h s _ hat => ?_
  · rintro h h' s n _ ⟨⟨hf, hcb⟩, hacc⟩ ⟨rfl, rfl⟩
    refine ⟨trivial, ?_⟩
    split
    · rename_i hlen
      exact ⟨⟨hf, hcb, List.length_eq_zero_iff.mp hlen⟩, hacc⟩
    · exact ⟨⟨hf, hcb⟩, hacc⟩
  by_cases hn : n = 0
  · rw [if_pos hn] at hat ⊢
    exact Safe.ret (stable_at _) hat
  rw [if_neg hn] at hat ⊢
  refine Keeps.advance (fun _ => True) (fun item : Option CylpaRxQueue =>
    .draining (item.map (·.buf)).toList) hat (by simp) ?_ fun item h s _ hat => ?_
  · rintro h h' s item _ ⟨hst, hacc⟩ ⟨rfl, rfl⟩
    refine ⟨trivial, hst, ?_⟩
    unfold Accounted at hacc ⊢
    dsimp only [Stage.hand] at hacc ⊢
    cases hq : s.rxPktQ with
    | nil => simpa [hq] using hacc
    | cons item q => simpa [hq] using hacc
  · refine Keeps.bind (fun _ => (Stage.draining []).At) ?_ fun _ h s hat =>
      Safe.ret (stable_at _) hat
    cases item with
    | none => exact Keeps.ret_at hat
    | some item => exact rxQueuePkt_keeps item hat

theorem takeRxPackets_keeps {b : NaBuild} (hb : b.stack = .lwip) (hat : Stage.queueing.At h s) :
    Keeps (fun _ => Stage.drained.At) (takeRxPackets b) h s := by
  unfold takeRxPackets Prog.when
  rw [if_pos hb]
  refine Keeps.advance (fun _ => True) (fun _ => .draining []) hat (by simp) ?_
    fun _ h s _ hat => ?_
  · rintro h h' s _ _ ⟨hst, hacc⟩ rfl
    exact ⟨trivial, ⟨hst, rfl⟩, hacc⟩
  · exact Safe.iter (Stage.draining []).At (fun _ => Stage.drained.At) (stable_at _) hat
      (fun h s hat => rxQueueRound_keeps hat) fun _ h s hat => Keeps.ret_at hat

/-- With lwIP **resuming** succeeds, with the queue empty. -/
theorem cylpaResumeNs_keeps {b : NaBuild} (hb : b.stack = .lwip) (hat : Stage.drained.At h s) :
    Keeps (fun _ => Stage.idle.At) (cylpaResumeNs b) h s := by
  refine Keeps.advance (fun v => v.cylpaSNsSuspended = true) (fun _ => .drained) hat (by simp) ?_
    fun v h s hv hat => ?_
  · rintro h h' s v _ hat ⟨rfl, rfl⟩
    exact ⟨hat.1.1, hat⟩
  · rw [if_neg (by simp [hv]), hb]
    refine Keeps.bind (fun state h s => state = .success ∧ Stage.drained.At h s) ?_ ?_
    · -- the core is unlocked here: the one call that needs the queue empty
      refine Safe.call Stage.drained.At (stable_at _) hat (fun h s hat _ => hat.1.2.2) ?_
      rintro h s _ _ hat rfl
      exact Keeps.ret rfl hat
    · rintro _ h s ⟨rfl, hat⟩
      refine Keeps.advance (fun _ => True) (fun _ => .idle) hat (by simp) ?_ fun _ h s _ hat =>
        Keeps.ret_at hat
      rintro h h' s _ _ ⟨⟨_, hcb, hq⟩, hacc⟩ rfl
      exact ⟨trivial, ⟨rfl, hcb, hq⟩, hacc⟩

theorem resumeSection_keeps {b : NaBuild} (hb : b.stack = .lwip) (wifi : Handle)
    (waitMs : UInt32) (state : NetworkStackState) (lpTime : UInt32)
    (hat : Stage.queueing.At h s) :
    Keeps (fun _ => Stage.idle.At) (resumeSection b wifi waitMs state lpTime) h s := by
  -- the mutex and the deep-sleep lock
  refine Keeps.op (bystander rfl) hat fun _ h s hat => ?_
  refine Keeps.op (bystander rfl) hat fun _ h s hat => ?_
  refine Keeps.op (bystander_store fun _ => rfl) hat fun _ h s hat => ?_
  refine Keeps.plain_bind (printBusStats_plain b wifi) hat fun _ h s hat => ?_
  refine Keeps.plain_bind (notifyApplication_plain _) hat fun _ h s hat => ?_
  refine Keeps.op (bystander rfl) hat fun _ h s hat => ?_
  refine (takeRxPackets_keeps hb hat).bind _ fun _ h s hat => ?_
  refine (cylpaResumeNs_keeps hb hat).bind _ fun _ h s hat => ?_
  exact Keeps.op (bystander rfl) hat fun _ h s hat => Keeps.ret_at hat

theorem suspendUntilActivity_keeps {b : NaBuild} (hb : b.stack = .lwip) (wifi : Handle)
    (waitMs : UInt32) (hat : Stage.idle.At h s) :
    Keeps (fun _ => Stage.idle.At) (suspendUntilActivity b wifi waitMs) h s := by
  refine (cylpaSuspendNs_keeps hb hat).bind _ fun state h s ⟨hstate, hat⟩ => ?_
  refine (queueRxPackets_keeps b hat).bind _ fun _ h s hat => ?_
  rw [if_pos hstate]
  refine Keeps.bystander_bind (waitNetActivity_bystander waitMs) hat fun r h s hat => ?_
  exact resumeSection_keeps hb wifi waitMs r.1 r.2 hat

theorem suspendIfInactive_keeps {b : NaBuild} (hb : b.stack = .lwip) (wifi : Handle)
    (waitMs interval window : UInt32) (hat : Stage.idle.At h s) :
    Keeps (fun _ => Stage.idle.At) (suspendIfInactive b wifi waitMs interval window) h s := by
  refine Keeps.plain_bind (cylpaWaitNetInactivity_plain b interval window) hat
    fun state h s hat => ?_
  split
  · exact suspendUntilActivity_keeps hb wifi waitMs hat
  · exact Keeps.ret_at hat

/-- **A call of `wait_net_suspend`** starts and ends idle. -/
theorem waitNetSuspend_keeps {b : NaBuild} (hb : b.stack = .lwip)
    (waitMs interval window : UInt32) (hat : Stage.idle.At h s) :
    Keeps (fun _ => Stage.idle.At) (waitNetSuspend b waitMs interval window) h s := by
  refine Keeps.plain_bind (connectedInterface_plain b) hat fun wifi h s hat => ?_
  cases wifi with
  | none => exact Keeps.ret_at hat
  | some wifi =>
      refine Keeps.bystander_bind initHandlerOnce_bystander hat fun _ h s hat => ?_
      refine (initRxPktQueueOnce_keeps b hat).bind _ fun _ h s hat => ?_
      refine Keeps.op (bystander rfl) hat fun _ h s hat => ?_
      refine (suspendIfInactive_keeps hb wifi waitMs interval window hat).bind _
        fun _ h s hat => ?_
      exact Keeps.op (bystander rfl) hat fun _ h s hat => Keeps.ret_at hat

end Parts

/-! ### Successive calls -/

/-- The arguments of a call of `wait_net_suspend`. -/
structure WaitArgs where
  waitMs : UInt32
  networkInactiveIntervalMs : UInt32
  networkInactiveWindowMs : UInt32

/-- `wait_net_suspend`, again and again. -/
def waitNetSuspends (b : NaBuild) : List WaitArgs → Na (List NetworkStackState)
  | [] => return []
  | a :: as => do
      let state ← waitNetSuspend b a.waitMs a.networkInactiveIntervalMs a.networkInactiveWindowMs
      let states ← waitNetSuspends b as
      return state :: states

theorem waitNetSuspends_keeps {b : NaBuild} (hb : b.stack = .lwip) (calls : List WaitArgs)
    {h : NetHist} {s : NetWorld} (hat : Stage.idle.At h s) :
    Keeps (fun _ => Stage.idle.At) (waitNetSuspends b calls) h s := by
  induction calls generalizing h s with
  | nil => exact Keeps.ret_at hat
  | cons a as ih =>
      refine (waitNetSuspend_keeps hb _ _ _ hat).bind _ fun _ h s hat => ?_
      exact (ih hat).bind _ fun _ h s hat => Keeps.ret_at hat

/-- **No packet is lost, none goes twice.**  In any number of calls of `wait_net_suspend`, from an
idle world and with packets arriving at any time: the queue is empty whenever the stack is about
to be resumed; and after the last call it is empty and the packets handed to LPA are, one by one,
those the stack has taken and those released, so that a packet handed over once has been taken or
released once. -/
theorem waitNetSuspends_packets (b : NaBuild) (hb : b.stack = .lwip) (calls : List WaitArgs)
    (s₀ : NetWorld) (hs₀ : Stage.idle.At [] s₀)
    (c : Prog.Config NaOp NaRes CylpaRxQueue NetWorld (List NetworkStackState))
    (hrun : Reach netSem arrival ⟨waitNetSuspends b calls, [], s₀⟩ c) :
    (∀ k, c.prog = .call .unlockTcpipCore k → c.st.rxPktQ = []) ∧
      ∀ states, c.prog = .ret states → c.st.rxPktQ = [] ∧
        c.st.handed.Perm (c.st.accepted ++ c.st.released) ∧
          ∀ buf, c.st.handed.count buf = 1 → (c.st.accepted ++ c.st.released).count buf = 1 := by
  obtain ⟨hcall, hret⟩ := waitNetSuspends_keeps hb calls hs₀ c hrun
  refine ⟨fun k hk => hcall _ k hk rfl, fun states hstates => ?_⟩
  obtain ⟨⟨-, -, hq⟩, hacc⟩ := hret states hstates
  have hperm : c.st.handed.Perm (c.st.accepted ++ c.st.released) := by
    simpa [Accounted, Stage.hand, hq] using hacc
  exact ⟨hq, hperm, fun buf hbuf => (hperm.count_eq buf).symm.trans hbuf⟩

/-- One packet arrives while the stack is suspended, and is taken by it. -/
theorem waitNetSuspends_packets_one : ∃ c : Prog.Config NaOp NaRes CylpaRxQueue NetWorld _,
    Reach netSem arrival ⟨waitNetSuspends ⟨.lwip, none⟩ [⟨1000, 20, 10⟩], [], .boot⟩ c ∧
      c.st.accepted = [7] ∧ c.st.handed.Perm (c.st.accepted ++ c.st.released) := by
  have hrun : Reach netSem arrival ⟨waitNetSuspends ⟨.lwip, none⟩ [⟨1000, 20, 10⟩], [], .boot⟩
      (((Prog.Config.exec netUsual 23 _).disturb arrive ⟨1, 7⟩).exec netUsual 40) :=
    ((Prog.reach_exec netUsual_answers 23 _).trans (Prog.reach_disturb rfl)).trans
      (Prog.reach_exec netUsual_answers 40 _)
  have hidle : Stage.idle.At [] .boot := ⟨⟨rfl, rfl, rfl⟩, .refl _⟩
  exact ⟨_, hrun, by decide, ((waitNetSuspends_packets _ rfl _ _ hidle _ hrun).2 _ rfl).2.1⟩

end Lpa.NetActivity
