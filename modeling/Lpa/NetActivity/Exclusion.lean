import Lpa.NetActivity.Packets
import Lpa.Support.Mutex

/-!
# Network activity — the mutex of the resume section

`wait_net_suspend` resumes the stack under `cy_lp_mutex`, and the event handlers of TCP keepalive
and of TLS offload run under it.  A handler wakes `wait_net_suspend` up while it holds the mutex.
The handlers wait for the mutex for ever; `wait_net_suspend` waits for `wait_ms` and goes on
whatever the answer is.

* `waitNetSuspends_exclusive`: as long as no `cy_rtos_get_mutex` has timed out, no handler holds the
  mutex in the resume section, and no thread gives back a mutex it does not hold.

Here the environment is the two handlers, each called again and again, and the packets.  The mutex
is taken to exist; whether it does is the matter of `SetUp.lean`.
-/

namespace Lpa.NetActivity

open Prog (Label Safe Reach Stable)

/-! ### The handlers -/

/-- The handlers that run under `cy_lp_mutex`. -/
inductive LpHandler where
  | tko
  | tlsoe
deriving DecidableEq

/-- The threads that take `cy_lp_mutex`. -/
inductive LpThread where
  | waitNetSuspend
  | handler (f : LpHandler)
deriving DecidableEq

/-- The types of events that the handlers tell apart. -/
inductive WlcEvent where
  | wlcETko
  | wlcEWakeEvent
  | other
deriving DecidableEq

/-- The event a handler is called for: the header's type, if there is a header, and whether there
is data. -/
structure LpEventData where
  eventHeader : Option WlcEvent
  eventData : Bool
deriving DecidableEq

/-- The statements of the handlers. -/
inductive HandlerOp where
  | cyRtosGetMutex
  | tkoStateEnabled (on : Bool)
  | tcpReset (on : Bool)
  | cylpaOnEmacActivity (isTxActivity : Bool)
  | cyRtosSetMutex
deriving DecidableEq

/-- What `whd_callback_handler` does under the mutex. -/
def tkoEvent (e : LpEventData) : List HandlerOp :=
  match e.eventHeader with
  | some .wlcETko =>
      if e.eventData then [.tkoStateEnabled false, .cylpaOnEmacActivity false] else []
  | _ => []

/-- What `tlsoe_callback_handler` does under the mutex. -/
def tlsoeEvent (e : LpEventData) : List HandlerOp :=
  match e.eventHeader with
  | some .wlcEWakeEvent =>
      if e.eventData then [.cylpaOnEmacActivity false, .tcpReset true] else []
  | _ => []

def LpHandler.event : LpHandler → LpEventData → List HandlerOp
  | .tko => tkoEvent
  | .tlsoe => tlsoeEvent

/-- `whd_callback_handler` and `tlsoe_callback_handler`. -/
def LpHandler.body (f : LpHandler) (e : LpEventData) : List HandlerOp :=
  .cyRtosGetMutex :: (f.event e ++ [.cyRtosSetMutex])

/-! ### The world -/

/-- The mutex, and what is left to do of each handler's call. -/
structure LpWorld where
  net : NetWorld
  cyLpMutex : Mutex LpThread
  todo : LpHandler → List HandlerOp
  tkoStateEnabled : Bool
  tcpReset : Bool

/-- The world before anything has run. -/
def LpWorld.boot : LpWorld := ⟨.boot, none, fun _ => [], false, false⟩

/-- `CY_RTOS_NEVER_TIMEOUT`. -/
def cyRtosNeverTimeout : UInt32 := 0xffffffff

/-- **What a call does.**  Unless it is to wait for ever, taking the mutex may time out when a
handler holds it. -/
def lpSem : (o : NaOp) → LpWorld → NaRes o → LpWorld → Prop
  | .cyRtosGetMutex timeout, s, (r : CyRslt), s' =>
      (r = .success ∧
        ∃ m, s.cyLpMutex.take .waitNetSuspend = some m ∧ s' = { s with cyLpMutex := m }) ∨
      (r = .rtosTimeout ∧ timeout ≠ cyRtosNeverTimeout ∧
        s.cyLpMutex.take .waitNetSuspend = none ∧ s' = s)
  | .cyRtosSetMutex, s, _, s' =>
      s' = { s with cyLpMutex := s.cyLpMutex.give .waitNetSuspend }
  | o, s, r, s' => ∃ n, netSem o s.net r n ∧ s' = { s with net := n }

/-- A handler's statement; none where it has to wait for the mutex. -/
def LpWorld.perform (f : LpHandler) (s : LpWorld) : HandlerOp → Option LpWorld
  | .cyRtosGetMutex => (s.cyLpMutex.take (.handler f)).map fun m => { s with cyLpMutex := m }
  | .tkoStateEnabled on => some { s with tkoStateEnabled := on }
  | .tcpReset on => some { s with tcpReset := on }
  | .cylpaOnEmacActivity tx => some { s with net := cylpaOnEmacActivity tx s.net }
  | .cyRtosSetMutex => some { s with cyLpMutex := s.cyLpMutex.give (.handler f) }

/-- What is left to do of `f`'s call becomes `ops`. -/
def LpWorld.setTodo (f : LpHandler) (ops : List HandlerOp) (s : LpWorld) : LpWorld :=
  { s with todo := Function.update s.todo f ops }

/-- The steps of the environment: a packet arrives, a handler is called, a handler goes on. -/
inductive LpStep where
  | packet (item : CylpaRxQueue)
  | event (f : LpHandler) (e : LpEventData)
  | run (f : LpHandler)

/-- The environment's step, if it can be taken. -/
def lpStep : LpStep → LpWorld → Option LpWorld
  | .packet item, s => some { s with net := arrive item s.net }
  | .event f e, s => if s.todo f = [] then some (s.setTodo f (f.body e)) else none
  | .run f, s =>
      match s.todo f with
      | [] => none
      | o :: ops => (s.perform f o).map (LpWorld.setTodo f ops)

def lpEnv (e : LpStep) (s s' : LpWorld) : Prop := lpStep e s = some s'

/-- What the calls have been, how they were answered, and what the handlers did in between. -/
abbrev LpHist := List (Label NaOp NaRes LpStep)

/-! ### Handlers and the mutex -/

/-- Whether a statement of a handler leaves the mutex alone. -/
abbrev HandlerOp.isBody : HandlerOp → Bool
  | .cyRtosGetMutex => false
  | .cyRtosSetMutex => false
  | _ => true

/-- **Where a call of `f` is**: there is none, it waits for the mutex, or it holds it. -/
inductive Handling (m : Mutex LpThread) (f : LpHandler) : List HandlerOp → Prop where
  | idle (hm : m.owner ≠ some (.handler f)) : Handling m f []
  | waiting {ops : List HandlerOp} (hops : ∀ o ∈ ops, o.isBody)
      (hm : m.owner ≠ some (.handler f)) :
      Handling m f (.cyRtosGetMutex :: (ops ++ [.cyRtosSetMutex]))
  | holding {ops : List HandlerOp} (hops : ∀ o ∈ ops, o.isBody)
      (hm : m = some (.handler f, 0)) : Handling m f (ops ++ [.cyRtosSetMutex])

/-- Every handler holds the mutex from its first statement to its last. -/
def Handlers (s : LpWorld) : Prop := ∀ f, Handling s.cyLpMutex f (s.todo f)

theorem LpHandler.event_isBody (f : LpHandler) (e : LpEventData) :
    ∀ o ∈ f.event e, o.isBody := by
  obtain ⟨header, data⟩ := e
  cases f <;> rcases header with - | (_ | _ | _) <;> cases data <;>
    simp [LpHandler.event, tkoEvent, tlsoeEvent]

/-- What other threads do with the mutex is no matter of a handler's. -/
theorem Handling.apart {m m' : Mutex LpThread} {f : LpHandler} {ops : List HandlerOp}
    (h : Handling m f ops) (hm : Mutex.Apart (.handler f) m m') : Handling m' f ops := by
  cases h with
  | idle hf => exact .idle (hm.owner_iff.not.mpr hf)
  | waiting hops hf => exact .waiting hops (hm.owner_iff.not.mpr hf)
  | holding hops hf =>
      rcases hm with rfl | ⟨hne, -⟩
      · exact .holding hops hf
      · exact absurd (hf ▸ rfl) hne

theorem Handlers.apart {s s' : LpWorld} (hs : Handlers s) (htodo : s'.todo = s.todo)
    (hm : ∀ f, Mutex.Apart (.handler f) s.cyLpMutex s'.cyLpMutex) : Handlers s' :=
  fun f => htodo ▸ (hs f).apart (hm f)

/-- `f` has gone on, and the others have not. -/
theorem Handlers.setTodo {s s' : LpWorld} {f : LpHandler} {ops : List HandlerOp}
    (hs : Handlers s) (htodo : s'.todo = s.todo) (hf : Handling s'.cyLpMutex f ops)
    (hm : ∀ g, g ≠ f → Mutex.Apart (.handler g) s.cyLpMutex s'.cyLpMutex) :
    Handlers (s'.setTodo f ops) := by
  intro g
  unfold LpWorld.setTodo
  dsimp only
  by_cases hg : g = f
  · subst hg
    rwa [Function.update_self]
  · rw [Function.update_of_ne hg, htodo]
    exact (hs g).apart (hm g hg)

/-- A statement of a handler is no matter of another thread's. -/
theorem perform_apart {f : LpHandler} {s s' : LpWorld} {o : HandlerOp} {t : LpThread}
    (ht : t ≠ .handler f) (hp : s.perform f o = some s') :
    s'.todo = s.todo ∧ Mutex.Apart t s.cyLpMutex s'.cyLpMutex := by
  cases o with
  | cyRtosGetMutex =>
      obtain ⟨m, hm, rfl⟩ := Option.map_eq_some_iff.mp hp
      exact ⟨rfl, Mutex.take_apart ht hm⟩
  | cyRtosSetMutex =>
      obtain rfl := Option.some.inj hp
      exact ⟨rfl, Mutex.give_apart ht⟩
  | _ =>
      obtain rfl := Option.some.inj hp
      exact ⟨rfl, .refl _ _⟩

/-- A statement under the mutex leaves it alone. -/
theorem perform_body {f : LpHandler} {s s' : LpWorld} {o : HandlerOp} (ho : o.isBody)
    (hp : s.perform f o = some s') : s'.cyLpMutex = s.cyLpMutex := by
  cases o with
  | cyRtosGetMutex => cases ho
  | cyRtosSetMutex => cases ho
  | _ => exact Option.some.inj hp ▸ rfl

/-- A statement of `f`'s call: `f` takes the mutex with the first one, holds it up to the last one,
and gives it back with that. -/
theorem Handling.perform {f : LpHandler} {s s' : LpWorld} {o : HandlerOp} {ops : List HandlerOp}
    (hf : Handling s.cyLpMutex f (o :: ops)) (hp : s.perform f o = some s') :
    Handling s'.cyLpMutex f ops := by
  generalize hl : o :: ops = l at hf
  cases hf with
  | idle => cases hl
  | waiting hops hm =>
      obtain ⟨rfl, rfl⟩ := List.cons.inj hl
      obtain ⟨m, ht, rfl⟩ := Option.map_eq_some_iff.mp hp
      exact .holding hops (Mutex.take_of_not_owner hm ht).2
  | @holding body hops hm =>
      cases body with
      | nil =>
          obtain ⟨rfl, rfl⟩ := List.cons.inj hl
          obtain rfl := Option.some.inj hp
          exact .idle (by simp [hm])
      | cons b body =>
          obtain ⟨rfl, rfl⟩ := List.cons.inj hl
          obtain ⟨hb, hops⟩ := List.forall_mem_cons.mp hops
          exact .holding hops ((perform_body hb hp).trans hm)

/-- **A step of the environment** keeps the handlers under the mutex, and is no matter of
`wait_net_suspend`'s. -/
theorem lpStep_handlers {e : LpStep} {s s' : LpWorld} (hs : Handlers s)
    (hstep : lpStep e s = some s') :
    Handlers s' ∧ Mutex.Apart .waitNetSuspend s.cyLpMutex s'.cyLpMutex := by
  cases e with
  | packet item =>
      obtain rfl := Option.some.inj hstep
      exact ⟨hs, .refl _ _⟩
  | event f e =>
      have hf := hs f
      by_cases hidle : s.todo f = []
      · obtain rfl : s.setTodo f (f.body e) = s' := by simpa [lpStep, hidle] using hstep
        rw [hidle] at hf
        generalize hl : ([] : List HandlerOp) = l at hf
        refine ⟨hs.setTodo rfl ?_ fun g _ => .refl _ _, .refl _ _⟩
        cases hf with
        | idle hm => exact .waiting (f.event_isBody e) hm
        | waiting => cases hl
        | holding => simp at hl
      · simp [lpStep, hidle] at hstep
  | run f =>
      have hf := hs f
      cases htodo : s.todo f with
      | nil => simp [lpStep, htodo] at hstep
      | cons o ops =>
          rw [htodo] at hf
          obtain ⟨s₁, hp, rfl⟩ : ∃ s₁, s.perform f o = some s₁ ∧ s₁.setTodo f ops = s' := by
            simpa [lpStep, htodo] using hstep
          have hwait := perform_apart (t := .waitNetSuspend) (by simp) hp
          refine ⟨hs.setTodo hwait.1 (hf.perform hp) fun g hg => ?_, hwait.2⟩
          exact (perform_apart (by simpa using hg) hp).2

/-! ### The resume section -/

/-- What the history says of `wait_net_suspend` and the mutex: whether it is past taking it and
has not given it back, and whether taking it has ever timed out. -/
structure LpSection where
  inside : Bool
  timedOut : Bool
deriving DecidableEq

@[simp] def LpSection.next (k : LpSection) : Label NaOp NaRes LpStep → LpSection
  | .call (.cyRtosGetMutex _) (r : CyRslt) =>
      { inside := true, timedOut := k.timedOut || decide (r = .rtosTimeout) }
  | .call .cyRtosSetMutex _ => { k with inside := false }
  | _ => k

def lpSection (h : LpHist) : LpSection := h.foldl LpSection.next ⟨false, false⟩

@[simp] theorem lpSection_append (h : LpHist) (l : Label NaOp NaRes LpStep) :
    lpSection (h ++ [l]) = (lpSection h).next l := by
  simp [lpSection]

/-- **Exclusion**: no handler holds the mutex in the resume section, and a handler about to give
the mutex back holds it. -/
structure Exclusive (h : LpHist) (s : LpWorld) : Prop where
  resume : (lpSection h).inside = true → ∀ f, s.cyLpMutex.owner ≠ some (.handler f)
  handlers : ∀ f, (s.todo f).head? = some .cyRtosSetMutex →
    s.cyLpMutex.owner = some (.handler f)

/-- The mutex is `wait_net_suspend`'s in the resume section, and is not outside it. -/
def WaitHolds (inside : Bool) (m : Mutex LpThread) : Prop :=
  if inside then m = some (.waitNetSuspend, 0) else m.owner ≠ some .waitNetSuspend

theorem WaitHolds.apart {inside : Bool} {m m' : Mutex LpThread} (h : WaitHolds inside m)
    (hm : Mutex.Apart .waitNetSuspend m m') : WaitHolds inside m' := by
  cases inside with
  | false => exact hm.owner_iff.not.mpr h
  | true =>
      rcases hm with rfl | ⟨hne, -⟩
      · exact h
      · obtain rfl : m = some (.waitNetSuspend, 0) := h
        exact absurd rfl hne

/-- What holds inside the resume section, and outside it. -/
structure LpAt (inside : Bool) (h : LpHist) (s : LpWorld) : Prop where
  handlers : Handlers s
  held : (lpSection h).timedOut = false →
    (lpSection h).inside = inside ∧ WaitHolds inside s.cyLpMutex

theorem Handling.head {m : Mutex LpThread} {f : LpHandler} {ops : List HandlerOp}
    (h : Handling m f ops) (hset : ops.head? = some .cyRtosSetMutex) :
    m.owner = some (.handler f) := by
  cases h with
  | idle => cases hset
  | waiting => cases hset
  | holding _ hm => exact hm ▸ rfl

theorem LpAt.exclusive {inside : Bool} {h : LpHist} {s : LpWorld} (hat : LpAt inside h s)
    (hno : (lpSection h).timedOut = false) : Exclusive h s := by
  obtain ⟨hin, hheld⟩ := hat.held hno
  refine ⟨fun hi f => ?_, fun f hset => (hat.handlers f).head hset⟩
  obtain rfl := hin.symm.trans hi
  have e : s.cyLpMutex = some (.waitNetSuspend, 0) := hheld
  simp [e]

theorem stable_lpAt (inside : Bool) : Stable lpEnv (LpAt inside) := by
  rintro e h s s' ⟨hhandlers, hheld⟩ hstep
  obtain ⟨hhandlers', hapart⟩ := lpStep_handlers hhandlers hstep
  have hnext : lpSection (h ++ [.env e]) = lpSection h := by simp
  refine ⟨hhandlers', fun hno => ?_⟩
  rw [hnext] at hno ⊢
  exact ⟨(hheld hno).1, (hheld hno).2.apart hapart⟩

/-! ### Programs -/

/-- Whether a call has to do with the mutex. -/
abbrev isMutexOp : NaOp → Bool
  | .cyRtosGetMutex _ => true
  | .cyRtosSetMutex => true
  | _ => false

/-- Every run of the program keeps the exclusion as long as taking the mutex does not time out,
gives the mutex back only when it is `wait_net_suspend`'s, and ends in `Q`. -/
def Excludes {α : Type} (Q : α → LpHist → LpWorld → Prop) (p : Na α) (h : LpHist) (s : LpWorld) :
    Prop :=
  Safe lpSem lpEnv (fun o h s => (lpSection h).timedOut = false → Exclusive h s ∧
    (o = .cyRtosSetMutex → s.cyLpMutex.owner = some .waitNetSuspend)) Q p h s

section Rules

variable {α β : Type} {inside : Bool} {h : LpHist} {s : LpWorld}

theorem Excludes.ret {x : α} (hat : LpAt inside h s) :
    Excludes (fun _ => LpAt inside) (.ret x) h s :=
  Safe.ret (stable_lpAt inside) hat

theorem Excludes.bind {Q : β → LpHist → LpWorld → Prop} {p : Na α} {g : α → Na β}
    (R : α → LpHist → LpWorld → Prop) (hp : Excludes R p h s)
    (hg : ∀ x h s, R x h s → Excludes Q (g x) h s) : Excludes Q (p.bind g) h s :=
  Safe.bind R hp hg

/-- The other calls leave the mutex alone. -/
theorem LpAt.call {o : NaOp} {r : NaRes o} {s' : LpWorld} (ho : isMutexOp o = false)
    (hat : LpAt inside h s) (hs : lpSem o s r s') : LpAt inside (h ++ [.call o r]) s' := by
  have hnext : lpSection (h ++ [.call o r]) = lpSection h := by
    rw [lpSection_append]
    cases o <;> first | rfl | cases ho
  obtain ⟨n, rfl⟩ : ∃ n, s' = { s with net := n } := by
    cases o with
    | cyRtosGetMutex timeout => cases ho
    | cyRtosSetMutex => cases ho
    | _ => exact ⟨_, hs.choose_spec.2⟩
  exact ⟨hat.handlers, hnext ▸ hat.held⟩

theorem Excludes.others {p : Na α} (hp : p.Calls (isMutexOp · = false)) (hat : LpAt inside h s) :
    Excludes (fun _ => LpAt inside) p h s := by
  refine Safe.frame hp (stable_lpAt inside) (fun o h s ho hat hno => ?_)
    (fun _ _ _ _ _ ho hat hs => hat.call ho hs) hat
  exact ⟨hat.exclusive hno, fun e => by subst e; cases ho⟩

/-- **The mutex is taken**, or taking it has timed out. -/
theorem Excludes.take {Q : α → LpHist → LpWorld → Prop} {timeout : UInt32} {g : CyRslt → Na α}
    (hat : LpAt false h s) (hg : ∀ r h s, LpAt true h s → Excludes Q (g r) h s) :
    Excludes Q ((op (.cyRtosGetMutex timeout)).bind g) h s := by
  refine Safe.call (LpAt false) (stable_lpAt false) hat
    (fun h s hat hno => ⟨hat.exclusive hno, fun e => by cases e⟩) ?_
  rintro h s r s' ⟨hhandlers, hheld⟩ hs
  refine hg r _ _ ?_
  rcases hs with ⟨rfl, m, hm, rfl⟩ | ⟨rfl, -, -, rfl⟩
  · refine ⟨hhandlers.apart rfl fun f => Mutex.take_apart (by simp) hm, fun hno => ?_⟩
    rw [lpSection_append, LpSection.next] at hno ⊢
    obtain ⟨-, hout⟩ := hheld (by simpa using hno)
    exact ⟨rfl, (Mutex.take_of_not_owner hout hm).2⟩
  · refine ⟨hhandlers, fun hno => ?_⟩
    rw [lpSection_append, LpSection.next] at hno
    simp at hno

/-- **The mutex is given back**, by `wait_net_suspend` if it holds it. -/
theorem Excludes.give {Q : α → LpHist → LpWorld → Prop} {g : CyRslt → Na α}
    (hat : LpAt true h s) (hg : ∀ r h s, LpAt false h s → Excludes Q (g r) h s) :
    Excludes Q ((op .cyRtosSetMutex).bind g) h s := by
  refine Safe.call (LpAt true) (stable_lpAt true) hat (fun h s hat hno => ?_) ?_
  · refine ⟨hat.exclusive hno, fun _ => ?_⟩
    have e : s.cyLpMutex = some (.waitNetSuspend, 0) := (hat.held hno).2
    exact e ▸ rfl
  · rintro h s r _ ⟨hhandlers, hheld⟩ rfl
    refine hg r _ _ ⟨hhandlers.apart rfl fun f => Mutex.give_apart (by simp), fun hno => ?_⟩
    rw [lpSection_append, LpSection.next] at hno ⊢
    have e : s.cyLpMutex = some (.waitNetSuspend, 0) := (hheld hno).2
    exact ⟨rfl, by simp [WaitHolds, e]⟩

end Rules

/-- Where taking the mutex times out, the exclusion is gone at once. -/
theorem not_exclusive_of_timeout {timeout : UInt32} {h : LpHist} {s s' : LpWorld}
    (hs : lpSem (.cyRtosGetMutex timeout) s .rtosTimeout s') :
    ¬ Exclusive (h ++ [.call (.cyRtosGetMutex timeout) .rtosTimeout]) s' := by
  intro hexcl
  rcases hs with ⟨hr, -⟩ | ⟨-, -, htake, rfl⟩
  · cases hr
  · obtain ⟨t, hne, ho⟩ := Mutex.take_eq_none htake
    cases t with
    | waitNetSuspend => exact hne rfl
    | handler f => exact hexcl.resume (by simp) f ho

/-! ### The parts of a run -/

theorem notifyApplication_noMutex (t : CylpaNotifyEventType) :
    (notifyApplication t).Calls (isMutexOp · = false) := by
  refine ⟨rfl, fun v => ?_⟩
  cases h : v.suspendNotifyCb <;> simp [h]

theorem cylpaWaitNetInactivity_noMutex (b : NaBuild) (interval window : UInt32) :
    (cylpaWaitNetInactivity b interval window).Calls (isMutexOp · = false) := by
  have hmonitor : ∀ {cfg : Na Unit}, cfg.Calls (isMutexOp · = false) →
      (monitorInactivity cfg interval window).Calls (isMutexOp · = false) := by
    intro cfg hcfg
    have hround : ∀ t, (inactivityRound cfg t interval window).Calls (isMutexOp · = false) :=
      fun t => hcfg.bind fun _ => by simp
    simp [monitorInactivity, hround]
  unfold cylpaWaitNetInactivity
  cases b.ulp with
  | none => exact hmonitor (Prog.calls_ret ())
  | some ulp =>
      refine ⟨rfl, fun ifp => ?_⟩
      cases ifp with
      | none => trivial
      | some ifp => exact hmonitor (by simp [configUlpOnce])

/-- What `wait_net_suspend` does before it waits for the network to fall quiet. -/
theorem setUp_noMutex (b : NaBuild) : (connectedInterface b).Calls (isMutexOp · = false) ∧
    initHandlerOnce.Calls (isMutexOp · = false) ∧
      (initRxPktQueueOnce b).Calls (isMutexOp · = false) := by
  refine ⟨?_, ?_, ?_⟩
  · cases h : b.stack <;> simp [connectedInterface, Option.forall, h]
  · simp [initHandlerOnce, cylpaNetworkActHandlerInit, cylpaRegisterNetworkActivityCallback]
  · simp [initRxPktQueueOnce]

theorem cylpaSuspendNs_noMutex (b : NaBuild) :
    (cylpaSuspendNs b).Calls (isMutexOp · = false) := by
  cases h : b.stack <;>
    simp [cylpaSuspendNs, suspendStack, suspendDhcp, deactivateIfActive, Option.forall, h]

theorem waitNetActivity_noMutex (waitMs : UInt32) :
    (waitNetActivity waitMs).Calls (isMutexOp · = false) :=
  (notifyApplication_noMutex _).bind fun _ => by simp

/-- What is done under the mutex. -/
theorem resume_noMutex (b : NaBuild) (wifi : Handle) :
    (printBusStats b wifi).Calls (isMutexOp · = false) ∧
      (takeRxPackets b).Calls (isMutexOp · = false) ∧
        (cylpaResumeNs b).Calls (isMutexOp · = false) := by
  refine ⟨?_, ?_, ?_⟩
  · cases h : b.stack <;>
      simp [printBusStats, cylpaPrintWhdBusStats, interfaceIsUp, h, Option.forall]
  · simp [takeRxPackets, cylpaRxQueuePktInput, rxQueueRound, rxQueuePkt, Option.forall]
  · cases h : b.stack <;>
      simp [cylpaResumeNs, resumeStack, resumeDhcp, resumeIp, retakeDhcp, activateIfInactive,
        Option.forall, h]

section Parts

variable {h : LpHist} {s : LpWorld}

/-- **The resume section** takes the mutex and gives it back. -/
theorem resumeSection_excludes (b : NaBuild) (wifi : Handle) (waitMs : UInt32)
    (state : NetworkStackState) (lpTime : UInt32) (hat : LpAt false h s) :
    Excludes (fun _ => LpAt false) (resumeSection b wifi waitMs state lpTime) h s := by
  obtain ⟨hprint, htake, hresume⟩ := resume_noMutex b wifi
  refine Excludes.take hat fun _ h s hat => ?_
  refine (Excludes.others ((Prog.calls_op _).mpr rfl) hat).bind _ fun _ h s hat => ?_
  refine (Excludes.others ((Prog.calls_op _).mpr rfl) hat).bind _ fun _ h s hat => ?_
  refine (Excludes.others hprint hat).bind _ fun _ h s hat => ?_
  refine (Excludes.others (notifyApplication_noMutex _) hat).bind _ fun _ h s hat => ?_
  refine (Excludes.others ((Prog.calls_op _).mpr rfl) hat).bind _ fun _ h s hat => ?_
  refine (Excludes.others htake hat).bind _ fun _ h s hat => ?_
  refine (Excludes.others hresume hat).bind _ fun _ h s hat => ?_
  exact Excludes.give hat fun _ h s hat => Excludes.ret hat

theorem suspendUntilActivity_excludes (b : NaBuild) (wifi : Handle) (waitMs : UInt32)
    (hat : LpAt false h s) :
    Excludes (fun _ => LpAt false) (suspendUntilActivity b wifi waitMs) h s := by
  refine (Excludes.others (cylpaSuspendNs_noMutex b) hat).bind _ fun state h s hat => ?_
  refine (Excludes.others (by simp [queueRxPackets]) hat).bind _ fun _ h s hat => ?_
  split
  · refine (Excludes.others (waitNetActivity_noMutex waitMs) hat).bind _ fun r h s hat => ?_
    exact resumeSection_excludes b wifi waitMs r.1 r.2 hat
  · exact Excludes.ret hat

/-- **A call of `wait_net_suspend`.** -/
theorem waitNetSuspend_excludes (b : NaBuild) (waitMs interval window : UInt32)
    (hat : LpAt false h s) :
    Excludes (fun _ => LpAt false) (waitNetSuspend b waitMs interval window) h s := by
  obtain ⟨hconnected, hhandler, hqueue⟩ := setUp_noMutex b
  refine (Excludes.others hconnected hat).bind _ fun wifi h s hat => ?_
  cases wifi with
  | none => exact Excludes.ret hat
  | some wifi =>
      refine (Excludes.others hhandler hat).bind _ fun _ h s hat => ?_
      refine (Excludes.others hqueue hat).bind _ fun _ h s hat => ?_
      refine (Excludes.others ((Prog.calls_op _).mpr rfl) hat).bind _ fun _ h s hat => ?_
      refine Excludes.bind (fun _ => LpAt false) ?_ fun _ h s hat =>
        Excludes.others (by simp) hat
      refine (Excludes.others (cylpaWaitNetInactivity_noMutex ..) hat).bind _
        fun state h s hat => ?_
      split
      · exact suspendUntilActivity_excludes b wifi waitMs hat
      · exact Excludes.ret hat

theorem waitNetSuspends_excludes (b : NaBuild) (calls : List WaitArgs) (hat : LpAt false h s) :
    Excludes (fun _ => LpAt false) (waitNetSuspends b calls) h s := by
  induction calls generalizing h s with
  | nil => exact Excludes.ret hat
  | cons a as ih =>
      refine (waitNetSuspend_excludes b _ _ _ hat).bind _ fun _ h s hat => ?_
      exact (ih hat).bind _ fun _ h s hat => Excludes.ret hat

end Parts

/-! ### Executing -/

/-- The usual answers, with what the calls do; the mutex is waited for in vain if another thread
holds it. -/
def lpUsual : (o : NaOp) → LpHist → LpWorld → NaRes o × LpWorld
  | .cyRtosGetMutex _, _, s =>
      match s.cyLpMutex.take .waitNetSuspend with
      | some m => (.success, { s with cyLpMutex := m })
      | none => (.rtosTimeout, s)
  | .cyRtosSetMutex, _, s => (.success, { s with cyLpMutex := s.cyLpMutex.give .waitNetSuspend })
  | .cyRtosWaitbitsEvent _ flags _, _, s =>
      if s.net.cyLpWaitNetEvent &&& flags ≠ 0 then
        (.success, { s with net := { s.net with
          cyLpWaitNetEvent := s.net.cyLpWaitNetEvent &&& ~~~flags } })
      else (.rtosTimeout, s)
  | o, _, s => ((netUsual o [] s.net).1, { s with net := (netUsual o [] s.net).2 })

/-- The mutex is not waited for for ever. -/
def lpLegal : NaOp → LpWorld → Bool
  | .cyRtosGetMutex timeout, _ => timeout ≠ cyRtosNeverTimeout
  | _, _ => true

theorem lpUsual_answers (o : NaOp) (h : LpHist) (s : LpWorld) (ho : lpLegal o s) :
    lpSem o s (lpUsual o h s).1 (lpUsual o h s).2 := by
  cases o with
  | cyRtosGetMutex timeout =>
      have hfinite : timeout ≠ cyRtosNeverTimeout := by simpa [lpLegal] using ho
      unfold lpUsual
      dsimp only
      cases hm : s.cyLpMutex.take .waitNetSuspend with
      | some m => exact .inl ⟨rfl, m, hm, rfl⟩
      | none => exact .inr ⟨rfl, hfinite, hm, rfl⟩
  | cyRtosSetMutex => rfl
  | cyRtosWaitbitsEvent wait flags timeout =>
      unfold lpUsual
      dsimp only
      split
      · rename_i hset
        exact ⟨_, ⟨fun _ => hset, rfl⟩, rfl⟩
      · exact ⟨s.net, ⟨by simp, rfl⟩, rfl⟩
  | _ => exact ⟨_, netUsual_answers _ [] s.net, rfl⟩

/-- What a step of the environment makes of the world. -/
def lpReact (e : LpStep) (s : LpWorld) : LpWorld := (lpStep e s).getD s

/-! ### Runs -/

/-- A run of some calls of `wait_net_suspend` among the handlers, so far. -/
abbrev LpRun := Prog.Config NaOp NaRes LpStep LpWorld (List NetworkStackState)

/-- **The mutex protects the resume section** in every run of `wait_net_suspend` among the event
handlers in which taking the mutex has not timed out: at any call and at the end, no handler holds
the mutex in the resume section, and whoever is about to give the mutex back holds it. -/
theorem waitNetSuspends_exclusive (b : NaBuild) (calls : List WaitArgs) (s₀ : LpWorld)
    (hfree : s₀.cyLpMutex = none) (hidle : ∀ f, s₀.todo f = []) (c : LpRun)
    (hrun : Reach lpSem lpEnv ⟨waitNetSuspends b calls, [], s₀⟩ c) (hpaused : c.Paused)
    (hno : (lpSection c.hist).timedOut = false) :
    Exclusive c.hist c.st ∧
      ∀ k, c.prog = .call .cyRtosSetMutex k → c.st.cyLpMutex.owner = some .waitNetSuspend := by
  have hat : LpAt false [] s₀ := by
    refine ⟨fun f => ?_, fun _ => ⟨rfl, by simp [WaitHolds, hfree]⟩⟩
    rw [hidle f]
    exact .idle (by simp [hfree])
  obtain ⟨hcall, hret⟩ := waitNetSuspends_excludes b calls hat c hrun
  rcases hpaused with ⟨o, k, e⟩ | ⟨states, e⟩
  · obtain ⟨hexcl, hset⟩ := hcall o k e hno
    refine ⟨hexcl, fun k' e' => hset ?_⟩
    rw [e] at e'
    cases e'
    rfl
  · exact ⟨(hret states e).exclusive hno, fun k e' => by rw [e] at e'; cases e'⟩

theorem reach_lpReact {c : LpRun} {e : LpStep} (he : (lpStep e c.st).isSome = true) :
    Reach lpSem lpEnv c (c.disturb lpReact e) := by
  obtain ⟨s, hs⟩ := Option.isSome_iff_exists.mp he
  refine Prog.reach_disturb (show lpStep e c.st = some (lpReact e c.st) from ?_)
  rw [lpReact, hs, Option.getD_some]

/-- `wait_net_suspend` waiting for the network to wake up. -/
def waiting : LpRun :=
  Prog.Config.exec lpUsual 24
    ⟨waitNetSuspends ⟨.lwip, none⟩ [⟨1000, 20, 10⟩], [], .boot⟩

/-- Then `whd_callback_handler` is called for an event with data; it holds the mutex, and has set
the event that is waited for. -/
def woken : LpRun :=
  (((waiting.disturb lpReact (.event .tko ⟨some .wlcETko, true⟩)).disturb lpReact
    (.run .tko)).disturb lpReact (.run .tko)).disturb lpReact (.run .tko)

theorem reach_woken : Reach lpSem lpEnv
    ⟨waitNetSuspends ⟨.lwip, none⟩ [⟨1000, 20, 10⟩], [], .boot⟩ woken := by
  have hrun : Reach lpSem lpEnv _ waiting :=
    Prog.reach_exec_of_legal lpUsual_answers 24 _ (by decide)
  exact (((hrun.trans (reach_lpReact rfl)).trans (reach_lpReact rfl)).trans
    (reach_lpReact rfl)).trans (reach_lpReact rfl)

/-- The handler is done before `wait_net_suspend` takes the mutex. -/
theorem waitNetSuspends_exclusive_tko : ∃ c : LpRun,
    Reach lpSem lpEnv ⟨waitNetSuspends ⟨.lwip, none⟩ [⟨1000, 20, 10⟩], [], .boot⟩ c ∧
      (lpSection c.hist).inside = true ∧ Exclusive c.hist c.st ∧
        c.st.cyLpMutex.owner = some .waitNetSuspend := by
  have hrun := (reach_woken.trans (reach_lpReact (e := .run .tko) rfl)).trans
    (Prog.reach_exec_of_legal lpUsual_answers 17 _ (by decide))
  obtain ⟨hexcl, hset⟩ := waitNetSuspends_exclusive _ _ _ rfl (fun _ => rfl) _ hrun
    (.inl ⟨_, _, rfl⟩) (by decide)
  exact ⟨_, hrun, by decide, hexcl, hset _ rfl⟩

/-- The handler holds the mutex for longer than `wait_ms`: the stack is resumed meanwhile, and the
mutex given back by a thread that does not hold it. -/
theorem waitNetSuspends_not_exclusive :
    ¬ ∀ (b : NaBuild) (calls : List WaitArgs) (s₀ : LpWorld) (c : LpRun),
      s₀.cyLpMutex = none → (∀ f, s₀.todo f = []) →
      Reach lpSem lpEnv ⟨waitNetSuspends b calls, [], s₀⟩ c → c.Paused →
      Exclusive c.hist c.st ∧
        ∀ k, c.prog = .call .cyRtosSetMutex k → c.st.cyLpMutex.owner = some .waitNetSuspend := by
  intro hall
  have hrun := reach_woken.trans (Prog.reach_exec_of_legal lpUsual_answers 17 _ (by decide))
  obtain ⟨-, hset⟩ := hall _ _ _ _ rfl (fun _ => rfl) hrun (.inl ⟨_, _, rfl⟩)
  exact absurd (hset _ rfl) (by decide)

end Lpa.NetActivity
