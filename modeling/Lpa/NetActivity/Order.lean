import Lpa.NetActivity.Packets

/-!
# Network activity — the order of packets

With lwIP a packet goes to the stack either straight away or, while `cylpa_rx_activity` is
registered, through the queue.  Before the stack is resumed the callback is taken away first and the
queue emptied afterwards, so a packet that arrives in between goes past those in the queue.

* `waitNetSuspends_inOrder`: the packets that reach the stack do so in the order they arrived, as
  long as none goes straight there while another is queued or just taken from the queue.

`Order` reads the history; `Order.Sound` is what every call and arrival keeps.
-/

namespace Lpa.NetActivity

open Prog (Label Safe Reach Stable)

/-- What the history says of the packets: whether they are queued, those in the queue, the one
taken from it and not yet given to the stack, those that have reached the stack's input, all that
have arrived, and whether one has overtaken another. -/
structure Order where
  rxQueueCb : Bool
  queue : List CylpaRxQueue
  hand : List CylpaRxQueue
  reached : List CylpaRxQueue
  arrived : List CylpaRxQueue
  overtaken : Bool
deriving DecidableEq

/-- A packet arrives. -/
def Order.arrive (o : Order) (item : CylpaRxQueue) : Order :=
  if o.rxQueueCb then
    { o with arrived := o.arrived ++ [item],
             queue := if o.queue.length < rxPktQLength then o.queue ++ [item] else o.queue }
  else
    { o with arrived := o.arrived ++ [item], reached := o.reached ++ [item],
             overtaken := o.overtaken || decide (o.hand ++ o.queue ≠ []) }

@[simp] theorem Order.arrive_rxQueueCb (o : Order) (item : CylpaRxQueue) :
    (o.arrive item).rxQueueCb = o.rxQueueCb := by
  unfold Order.arrive
  split <;> rfl

@[simp] theorem Order.arrive_hand (o : Order) (item : CylpaRxQueue) :
    (o.arrive item).hand = o.hand := by
  unfold Order.arrive
  split <;> rfl

theorem Order.arrive_queue (o : Order) (item : CylpaRxQueue) : (o.arrive item).queue =
    if o.rxQueueCb ∧ o.queue.length < rxPktQLength then o.queue ++ [item] else o.queue := by
  unfold Order.arrive
  cases o.rxQueueCb <;> simp

@[simp] def Order.next (o : Order) : Label NaOp NaRes CylpaRxQueue → Order
  | .env item => o.arrive item
  | .call (.cyNetworkRegisterRxQueueCb cb) _ => { o with rxQueueCb := cb }
  | .call (.cyRtosQueueInit _) _ => { o with queue := [] }
  | .call .cyRtosQueueGet (r : Option CylpaRxQueue) =>
      { o with hand := r.toList, queue := o.queue.tail }
  | .call (.netifInput item) _ => { o with reached := o.reached ++ [item], hand := [] }
  | .call (.cyBufferRelease _) _ => { o with hand := [] }
  | _ => o

/-- The order after a history that started in `s₀`; the packets queued by then have arrived. -/
def order (s₀ : NetWorld) (h : NetHist) : Order :=
  h.foldl Order.next ⟨s₀.rxQueueCb, s₀.rxPktQ, [], [], s₀.rxPktQ, false⟩

@[simp] theorem order_append (s₀ : NetWorld) (h : NetHist) (l : Label NaOp NaRes CylpaRxQueue) :
    order s₀ (h ++ [l]) = (order s₀ h).next l := by
  simp [order]

/-- **In order**: unless one has been overtaken, the packets that have reached the stack, followed
by those on their way, are as they arrived. -/
def Order.InOrder (o : Order) : Prop :=
  o.overtaken = false → (o.reached ++ (o.hand ++ o.queue)).Sublist o.arrived

/-- What holds with the packets `hand` taken from the queue. -/
structure Order.Sound (s₀ : NetWorld) (hand : List CylpaRxQueue) (h : NetHist) (s : NetWorld) :
    Prop where
  rxQueueCb : (order s₀ h).rxQueueCb = s.rxQueueCb
  queue : (order s₀ h).queue = s.rxPktQ
  hand : (order s₀ h).hand = hand
  inOrder : (order s₀ h).InOrder

/-! ### Arrivals -/

/-- **An arrival** keeps the order: queued, the packet comes last; going straight to the stack, it
overtakes those on their way. -/
theorem Order.InOrder.arrive {o : Order} (h : o.InOrder) (item : CylpaRxQueue) :
    (o.arrive item).InOrder := by
  unfold Order.arrive
  split
  · intro hno
    have hsub := h hno
    dsimp only
    split
    · simpa using hsub.append (List.Sublist.refl [item])
    · exact hsub.trans (List.sublist_append_left _ _)
  · intro hno
    obtain ⟨hno, hempty⟩ := Bool.or_eq_false_iff.mp hno
    have hnil : o.hand ++ o.queue = [] := by simpa using hempty
    have hsub := h hno
    dsimp only
    rw [hnil, List.append_nil] at hsub ⊢
    exact hsub.append (List.Sublist.refl [item])

theorem arrive_rxPktQ (item : CylpaRxQueue) (s : NetWorld) : (arrive item s).rxPktQ =
    if s.rxQueueCb ∧ s.rxPktQ.length < rxPktQLength then s.rxPktQ ++ [item] else s.rxPktQ := by
  cases hcb : s.rxQueueCb with
  | false => simp [arrive_of_no_cb hcb]
  | true =>
      rw [arrive_of_cb hcb]
      unfold cylpaRxActivity
      by_cases hlen : s.rxPktQ.length < rxPktQLength <;> simp [hlen]

theorem stable_sound (s₀ : NetWorld) (hand : List CylpaRxQueue) :
    Stable arrival (Order.Sound s₀ hand) := by
  rintro item h s _ ⟨hcb, hq, hh, hin⟩ rfl
  refine ⟨?_, ?_, ?_, ?_⟩ <;> rw [order_append, Order.next]
  · simpa using hcb
  · rw [Order.arrive_queue, arrive_rxPktQ, hcb, hq]
  · simpa using hh
  · exact hin.arrive item

/-! ### Programs -/

/-- Whether a call takes a packet from the queue or disposes of one. -/
abbrev takesPacket : NaOp → Bool
  | .cyRtosQueueGet => true
  | .netifInput _ => true
  | .cyBufferRelease _ => true
  | _ => false

/-- The program keeps the order at its calls, and ends in `Q`. -/
def Orders {α : Type} (s₀ : NetWorld) (Q : α → NetHist → NetWorld → Prop) (p : Na α) (h : NetHist)
    (s : NetWorld) : Prop :=
  Safe netSem arrival (fun _ h _ => (order s₀ h).InOrder) Q p h s

section Rules

variable {α β : Type} {s₀ : NetWorld} {hand : List CylpaRxQueue} {h : NetHist} {s : NetWorld}

theorem Orders.ret {x : α} (hs : Order.Sound s₀ hand h s) :
    Orders s₀ (fun _ => Order.Sound s₀ hand) (.ret x) h s :=
  Safe.ret (stable_sound s₀ hand) hs

theorem Orders.bind {Q : β → NetHist → NetWorld → Prop} {p : Na α} {g : α → Na β}
    (R : α → NetHist → NetWorld → Prop) (hp : Orders s₀ R p h s)
    (hg : ∀ x h s, R x h s → Orders s₀ Q (g x) h s) : Orders s₀ Q (p.bind g) h s :=
  Safe.bind R hp hg

/-- A call that the history does not show, and that changes neither the callback nor the queue. -/
theorem Order.Sound.unseen {o : NaOp} {r : NaRes o} {s' : NetWorld}
    (hs : Order.Sound s₀ hand h s) (hnext : ∀ k : Order, k.next (.call o r) = k)
    (hcb : s'.rxQueueCb = s.rxQueueCb) (hq : s'.rxPktQ = s.rxPktQ) :
    Order.Sound s₀ hand (h ++ [.call o r]) s' := by
  obtain ⟨hcb', hq', hh, hin⟩ := hs
  constructor <;> rw [order_append, hnext]
  · rw [hcb', hcb]
  · rw [hq', hq]
  · exact hh
  · exact hin

theorem order_next_of_not_packetOp {o : NaOp} (ho : isPacketOp o = false) (r : NaRes o)
    (k : Order) : k.next (.call o r) = k := by
  cases o <;> first | rfl | cases ho

theorem Order.Sound.plain {o : NaOp} {r : NaRes o} {s' : NetWorld} (ho : isPacketOp o = false)
    (hs : Order.Sound s₀ hand h s) (hsem : netSem o s r s') :
    Order.Sound s₀ hand (h ++ [.call o r]) s' := by
  obtain ⟨e, rfl⟩ := netSem_of_not_packetOp ho hsem
  exact hs.unseen (order_next_of_not_packetOp ho r) rfl rfl

/-- A call that takes no packet keeps the order. -/
theorem Order.Sound.call {o : NaOp} {r : NaRes o} {s' : NetWorld} (ho : takesPacket o = false)
    (hs : Order.Sound s₀ [] h s) (hsem : netSem o s r s') :
    Order.Sound s₀ [] (h ++ [.call o r]) s' := by
  cases hp : isPacketOp o with
  | false => exact hs.plain hp hsem
  | true =>
      cases o with
      | store f =>
          obtain rfl := hsem
          exact hs.unseen (fun _ => rfl) rfl rfl
      | unlockTcpipCore =>
          obtain rfl := hsem
          exact hs.unseen (fun _ => rfl) rfl rfl
      | cyNetworkRegisterRxQueueCb cb =>
          obtain rfl := hsem
          obtain ⟨-, hq, hh, hin⟩ := hs
          constructor <;> rw [order_append, Order.next]
          exacts [hq, hh, hin]
      | cyRtosQueueInit n =>
          obtain ⟨-, rfl⟩ := hsem
          obtain ⟨hcb, hq, hh, hin⟩ := hs
          constructor <;> rw [order_append, Order.next]
          · exact hcb
          · exact hh
          · -- the packets that were queued never reach the stack
            intro hno
            refine List.Sublist.trans ?_ (hin hno)
            simp
      | cyRtosQueueGet => cases ho
      | netifInput item => cases ho
      | cyBufferRelease buf => cases ho
      | _ => cases hp

theorem Orders.others {p : Na α} (hp : p.Calls (takesPacket · = false))
    (hs : Order.Sound s₀ [] h s) : Orders s₀ (fun _ => Order.Sound s₀ []) p h s :=
  Safe.frame hp (stable_sound s₀ []) (fun _ _ _ _ hs => hs.inOrder)
    (fun _ _ _ _ _ ho hs hsem => hs.call ho hsem) hs

/-- A call after which a packet has been taken from the queue or disposed of. -/
theorem Orders.advance {Q : α → NetHist → NetWorld → Prop} {o : NaOp} {g : NaRes o → Na α}
    (hand' : NaRes o → List CylpaRxQueue) (hs : Order.Sound s₀ hand h s)
    (hnext : ∀ h s r s', Order.Sound s₀ hand h s → netSem o s r s' →
      Order.Sound s₀ (hand' r) (h ++ [.call o r]) s')
    (hg : ∀ r h s, Order.Sound s₀ (hand' r) h s → Orders s₀ Q (g r) h s) :
    Orders s₀ Q ((op o).bind g) h s := by
  refine Safe.call (Order.Sound s₀ hand) (stable_sound s₀ hand) hs (fun _ _ hs => hs.inOrder) ?_
  intro h s r s' hs hsem
  exact hg r _ _ (hnext h s r s' hs hsem)

end Rules

/-! ### The parts of a run -/

section Parts

variable {s₀ : NetWorld} {h : NetHist} {s : NetWorld}

/-- **A packet from the queue** reaches the stack before those behind it, or is released. -/
theorem rxQueuePkt_orders (item : CylpaRxQueue) (hs : Order.Sound s₀ [item] h s) :
    Orders s₀ (fun _ => Order.Sound s₀ []) (rxQueuePkt (some item)) h s := by
  have release : ∀ {hand h s}, Order.Sound s₀ hand h s →
      Orders s₀ (fun _ => Order.Sound s₀ []) (op (.cyBufferRelease item.buf)) h s := by
    intro hand h s hs
    refine Orders.advance (g := .ret) (fun _ => []) hs ?_ fun _ h s hs => Orders.ret hs
    rintro h s _ _ ⟨hcb, hq, hh, hin⟩ rfl
    constructor <;> rw [order_append, Order.next]
    · exact hcb
    · exact hq
    · intro hno
      refine List.Sublist.trans ?_ (hin hno)
      simp
  refine Orders.advance (fun _ => [item]) hs (fun h s r s' hs hsem => hs.plain rfl hsem)
    fun isNull h s hs => ?_
  split
  · exact release hs
  · refine Orders.advance (fun _ => []) hs ?_ fun (err : ℤ) h s hs => ?_
    · rintro h s err _ ⟨hcb, hq, hh, hin⟩ rfl
      constructor <;> rw [order_append, Order.next]
      · rw [hcb]
        split <;> rfl
      · rw [hq]
        split <;> rfl
      · intro hno
        have hsub := hin hno
        rw [hh] at hsub
        simpa using hsub
    · unfold Prog.when
      split
      · exact release hs
      · exact Orders.ret hs

/-- A round of emptying the queue. -/
theorem rxQueueRound_orders (hs : Order.Sound s₀ [] h s) :
    Orders s₀ (fun _ => Order.Sound s₀ []) rxQueueRound h s := by
  refine Orders.advance (fun _ => []) hs (fun h s r s' hs hsem => hs.plain rfl hsem)
    fun (n : ℕ) h s hs => ?_
  split
  · exact Orders.ret hs
  · refine Orders.advance (fun item : Option CylpaRxQueue => item.toList) hs ?_
      fun item h s hs => ?_
    · rintro h s item _ ⟨hcb, hq, hh, hin⟩ ⟨rfl, rfl⟩
      constructor <;> rw [order_append, Order.next]
      · exact hcb
      · rw [hq]
      · -- what is taken is the first of the queue
        intro hno
        have hsub := hin hno
        rw [hh, hq] at hsub
        dsimp only
        rw [hq]
        cases hqs : s.rxPktQ with
        | nil => simpa [hqs] using hsub
        | cons item q => simpa [hqs] using hsub
    · refine Orders.bind (fun _ => Order.Sound s₀ []) ?_ fun _ h s hs => Orders.ret hs
      cases item with
      | none => exact Orders.ret hs
      | some item => exact rxQueuePkt_orders item hs

theorem takeRxPackets_orders (b : NaBuild) (hs : Order.Sound s₀ [] h s) :
    Orders s₀ (fun _ => Order.Sound s₀ []) (takeRxPackets b) h s := by
  unfold takeRxPackets Prog.when
  split
  · refine (Orders.others ((Prog.calls_op _).mpr rfl) hs).bind _ fun _ h s hs => ?_
    refine Safe.iter (Order.Sound s₀ []) (fun _ => Order.Sound s₀ []) (stable_sound s₀ []) hs
      (fun h s hs => ?_) fun _ h s hs => Orders.ret hs
    refine (rxQueueRound_orders hs).mono (fun _ _ _ hj => hj) fun x h s hs => ?_
    cases x <;> exact hs
  · exact Orders.ret hs

theorem Plain.takesNoPacket {o : NaOp} (ho : Plain o) : takesPacket o = false := by
  cases ho with
  | call ho _ => cases o <;> first | rfl | cases ho
  | store => rfl

theorem plain_takesNoPacket {α : Type} {p : Na α} (hp : p.Calls Plain) :
    p.Calls (takesPacket · = false) :=
  hp.mono fun _ => Plain.takesNoPacket

theorem resumeSection_orders (b : NaBuild) (wifi : Handle) (waitMs : UInt32)
    (state : NetworkStackState) (lpTime : UInt32) (hs : Order.Sound s₀ [] h s) :
    Orders s₀ (fun _ => Order.Sound s₀ []) (resumeSection b wifi waitMs state lpTime) h s := by
  -- up to the queue
  refine (Orders.others ((Prog.calls_op _).mpr rfl) hs).bind _ fun _ h s hs => ?_
  refine (Orders.others ((Prog.calls_op _).mpr rfl) hs).bind _ fun _ h s hs => ?_
  refine (Orders.others ((Prog.calls_op _).mpr rfl) hs).bind _ fun _ h s hs => ?_
  refine (Orders.others (plain_takesNoPacket (printBusStats_plain b wifi)) hs).bind _
    fun _ h s hs => ?_
  refine (Orders.others (plain_takesNoPacket (notifyApplication_plain _)) hs).bind _
    fun _ h s hs => ?_
  refine (Orders.others ((Prog.calls_op _).mpr rfl) hs).bind _ fun _ h s hs => ?_
  refine (takeRxPackets_orders b hs).bind _ fun _ h s hs => ?_
  -- the stack is resumed
  refine Orders.others (Prog.Calls.bind ?_ fun _ => by simp) hs
  cases hb : b.stack <;>
    simp [cylpaResumeNs, resumeStack, resumeDhcp, resumeIp, retakeDhcp, activateIfInactive,
      Option.forall, hb]

theorem suspendUntilActivity_orders (b : NaBuild) (wifi : Handle) (waitMs : UInt32)
    (hs : Order.Sound s₀ [] h s) :
    Orders s₀ (fun _ => Order.Sound s₀ []) (suspendUntilActivity b wifi waitMs) h s := by
  have hsuspend : (cylpaSuspendNs b).Calls (takesPacket · = false) := by
    cases hb : b.stack <;>
      simp [cylpaSuspendNs, suspendStack, suspendDhcp, deactivateIfActive, Option.forall, hb]
  have hwait : (waitNetActivity waitMs).Calls (takesPacket · = false) :=
    (plain_takesNoPacket (notifyApplication_plain _)).bind fun _ => by simp
  refine (Orders.others hsuspend hs).bind _ fun state h s hs => ?_
  refine (Orders.others (by simp [queueRxPackets]) hs).bind _ fun _ h s hs => ?_
  split
  · refine (Orders.others hwait hs).bind _ fun r h s hs => ?_
    exact resumeSection_orders b wifi waitMs r.1 r.2 hs
  · exact Orders.ret hs

theorem waitNetSuspend_orders (b : NaBuild) (waitMs interval window : UInt32)
    (hs : Order.Sound s₀ [] h s) :
    Orders s₀ (fun _ => Order.Sound s₀ []) (waitNetSuspend b waitMs interval window) h s := by
  refine (Orders.others (plain_takesNoPacket (connectedInterface_plain b)) hs).bind _
    fun wifi h s hs => ?_
  cases wifi with
  | none => exact Orders.ret hs
  | some wifi =>
      have hinit : initHandlerOnce.Calls (takesPacket · = false) := by
        simp [initHandlerOnce, cylpaNetworkActHandlerInit, cylpaRegisterNetworkActivityCallback]
      refine (Orders.others hinit hs).bind _ fun _ h s hs => ?_
      refine (Orders.others (by simp [initRxPktQueueOnce]) hs).bind _ fun _ h s hs => ?_
      refine (Orders.others ((Prog.calls_op _).mpr rfl) hs).bind _ fun _ h s hs => ?_
      refine Orders.bind (fun _ => Order.Sound s₀ []) ?_ fun _ h s hs =>
        Orders.others (by simp) hs
      refine (Orders.others (plain_takesNoPacket (cylpaWaitNetInactivity_plain ..)) hs).bind _
        fun state h s hs => ?_
      split
      · exact suspendUntilActivity_orders b wifi waitMs hs
      · exact Orders.ret hs

theorem waitNetSuspends_orders (b : NaBuild) (calls : List WaitArgs)
    (hs : Order.Sound s₀ [] h s) :
    Orders s₀ (fun _ => Order.Sound s₀ []) (waitNetSuspends b calls) h s := by
  induction calls generalizing h s with
  | nil => exact Orders.ret hs
  | cons a as ih =>
      refine (waitNetSuspend_orders b _ _ _ hs).bind _ fun _ h s hs => ?_
      exact (ih hs).bind _ fun _ h s hs => Orders.ret hs

end Parts

/-! ### Runs -/

/-- **Packet order survives suspend and resume** in every run of `wait_net_suspend` in which no
packet goes straight to the stack while another is in the queue or just taken from it: at any call
and at the end, the packets that have reached the stack's input have done so in the order they
arrived. -/
theorem waitNetSuspends_inOrder (b : NaBuild) (calls : List WaitArgs) (s₀ : NetWorld)
    (c : Prog.Config NaOp NaRes CylpaRxQueue NetWorld (List NetworkStackState))
    (hrun : Reach netSem arrival ⟨waitNetSuspends b calls, [], s₀⟩ c) (hpaused : c.Paused)
    (hno : (order s₀ c.hist).overtaken = false) :
    (order s₀ c.hist).reached.Sublist (order s₀ c.hist).arrived := by
  have hs : Order.Sound s₀ [] [] s₀ := ⟨rfl, rfl, rfl, fun _ => List.Sublist.refl _⟩
  have hin := Safe.paused ((waitNetSuspends_orders b calls hs).mono (fun _ _ _ hj => hj)
    fun _ _ _ hs => hs.inOrder) hrun hpaused
  exact (List.sublist_append_left _ _).trans (hin hno)

/-- Two packets arrive while the stack is suspended, and reach it one after the other when it is
resumed; a third comes after that. -/
theorem waitNetSuspends_inOrder_queued :
    ∃ c : Prog.Config NaOp NaRes CylpaRxQueue NetWorld (List NetworkStackState),
      Reach netSem arrival ⟨waitNetSuspends ⟨.lwip, none⟩ [⟨1000, 20, 10⟩], [], .boot⟩ c ∧
        (order .boot c.hist).reached = [⟨1, 7⟩, ⟨1, 8⟩, ⟨1, 9⟩] ∧
        (order .boot c.hist).reached.Sublist (order .boot c.hist).arrived := by
  have hrun : Reach netSem arrival ⟨waitNetSuspends ⟨.lwip, none⟩ [⟨1000, 20, 10⟩], [], .boot⟩
      (((((Prog.Config.exec netUsual 23 _).disturb arrive ⟨1, 7⟩).disturb arrive ⟨1, 8⟩).exec
        netUsual 40).disturb arrive ⟨1, 9⟩) :=
    ((((Prog.reach_exec netUsual_answers 23 _).trans (Prog.reach_disturb rfl)).trans
      (Prog.reach_disturb rfl)).trans (Prog.reach_exec netUsual_answers 40 _)).trans
      (Prog.reach_disturb rfl)
  exact ⟨_, hrun, by decide,
    waitNetSuspends_inOrder _ _ _ _ hrun (.inr ⟨_, rfl⟩) (by decide)⟩

/-- A packet that arrives between the callback taken away and the queue emptied goes past one that
was queued. -/
theorem waitNetSuspends_not_inOrder :
    ¬ ∀ (b : NaBuild) (calls : List WaitArgs) (s₀ : NetWorld)
      (c : Prog.Config NaOp NaRes CylpaRxQueue NetWorld (List NetworkStackState)),
      b.stack = .lwip → Stage.idle.At [] s₀ →
      Reach netSem arrival ⟨waitNetSuspends b calls, [], s₀⟩ c → c.Paused →
      (order s₀ c.hist).reached.Sublist (order s₀ c.hist).arrived := by
  intro hall
  have hrun : Reach netSem arrival ⟨waitNetSuspends ⟨.lwip, none⟩ [⟨1000, 20, 10⟩], [], .boot⟩
      (((((Prog.Config.exec netUsual 23 _).disturb arrive ⟨1, 7⟩).exec netUsual 13).disturb arrive
        ⟨1, 8⟩).exec netUsual 30) :=
    ((((Prog.reach_exec netUsual_answers 23 _).trans (Prog.reach_disturb rfl)).trans
      (Prog.reach_exec netUsual_answers 13 _)).trans (Prog.reach_disturb rfl)).trans
      (Prog.reach_exec netUsual_answers 30 _)
  have hidle : Stage.idle.At [] .boot := ⟨⟨rfl, rfl, rfl⟩, .refl _⟩
  exact absurd (hall _ _ _ _ rfl hidle hrun (.inr ⟨_, rfl⟩)) (by decide)

end Lpa.NetActivity
