import Lpa.Tlsoe.HandOver
import Lpa.Tlsoe.TearDown

/-!
# TLS offload — taking connections back

Waking up, a connection's turn asks the firmware for its session and hands it back to the TLS
session and the socket.

* `tls_handOver`: in every run, the firmware is given what is due at one of the notifications that
  the host goes to sleep, and nothing else.
* `tls_handBack`: after a wake-up, the connections taken back go on where the firmware has left
  them, half closed exactly if it has woken the host since the last activation, and every other
  socket is found as it was.
-/

namespace Lpa.Tlsoe

open NetActivity (LpEventData)

variable {Keys : Type}

/-! ### Waking up -/

/-- The result of `whd_tlsoe_del_wowl_pattern`. -/
def TlsReplies.delPattern (ans : TlsReplies Keys) (port : CyTlsoeOlConnect) : UInt32 :=
  if port.pattLen > 0 then ans.res (.whdSetWowlPattern false port.pattern) else whdResultSuccess

/-- The firmware tells what has become of the connection. -/
def TlsReplies.Tells (ans : TlsReplies Keys) (port : CyTlsoeOlConnect) : Prop :=
  ans.delPattern port = whdResultSuccess ∧
    ans.res .whdWowlGetSecureSessionStatus = whdResultSuccess

/-- The TLS session has been brought up to date with it. -/
def TlsReplies.Updates (ans : TlsReplies Keys) (port : CyTlsoeOlConnect) : Prop :=
  ans.res (.cySocketUpdateTlsSequence port.tlsSocket) = whdResultSuccess

instance (ans : TlsReplies Keys) (port : CyTlsoeOlConnect) : Decidable (ans.Tells port) :=
  inferInstanceAs (Decidable (_ ∧ _))

instance (ans : TlsReplies Keys) (port : CyTlsoeOlConnect) : Decidable (ans.Updates port) :=
  inferInstanceAs (Decidable (_ = _))

section Wake

variable {b : TlsLwipBuild} {ans : TlsReplies Keys} {port : CyTlsoeOlConnect} {s : TlsHost Keys}
  {st : OlPmSt}

/-- The TLS session is handed back. -/
def TlsHost.handBack (ans : TlsReplies Keys) (port : CyTlsoeOlConnect) (s : TlsHost Keys) :
    TlsHost Keys :=
  { s with sess := some ans.sess, log := s.log ++ [.handedBack port.tlsSocket ans.sess] }

/-- After `whd_tlsoe_disable`. -/
def TlsHost.disabled (b : TlsLwipBuild) (ans : TlsReplies Keys) (port : CyTlsoeOlConnect)
    (s : TlsHost Keys) : TlsHost Keys :=
  if ans.res .whdWowlGetSecureSessionStatus = whdResultSuccess then
    if ans.Updates port then (s.handBack ans port).resync b (key port) else s.handBack ans port
  else { s with sess := some ans.sess }

theorem tlsAnswer_quiet (b : TlsLwipBuild) (ans : TlsReplies Keys) :
    tlsAnswer b ans.quiet = tlsCall b ans := by
  funext o s
  cases o <;> rfl

theorem whdTlsoeDelWowlPattern_eval : (whdTlsoeDelWowlPattern port).eval (tlsCall b ans) s =
    some (ans.delPattern port, s) := by
  unfold whdTlsoeDelWowlPattern TlsReplies.delPattern
  split <;> rfl

theorem restoreSocket_eval : (restoreSocket port).eval (tlsCall b ans) s =
    some ((), s.disabled b ans port) := by
  unfold TlsHost.disabled TlsReplies.Updates
  by_cases hstatus : ans.res .whdWowlGetSecureSessionStatus = whdResultSuccess
  · by_cases hupdate : ans.res (.cySocketUpdateTlsSequence port.tlsSocket) = whdResultSuccess
    · simp [restoreSocket, Prog.when, tlsCall, hstatus, hupdate]
      rfl
    · simp [restoreSocket, Prog.when, tlsCall, hstatus, hupdate]
      rfl
  · simp [restoreSocket, Prog.when, tlsCall, hstatus]

theorem whdTlsoeDisable_eval : (whdTlsoeDisable b.toTlsBuild port).eval (tlsCall b ans) s =
    some (ans.res .whdWowlClear, s.disabled b ans port) := by
  unfold whdTlsoeDisable
  rw [Prog.bind_eq, Prog.eval_bind, restoreSocket_eval]
  rfl

theorem turn_wake (hst : st ≠ .goingToSleep) : turn b st ans port s =
    if ans.delPattern port = whdResultSuccess then s.disabled b ans port else s := by
  unfold turn wakeConnection
  rw [if_neg hst, tlsAnswer_quiet, Prog.bind_eq, Prog.eval_bind, whdTlsoeDelWowlPattern_eval,
    Option.bind_some]
  by_cases hdel : ans.delPattern port = whdResultSuccess
  · simp only [Prog.when, hdel, if_true, Prog.bind_eq, Prog.eval_bind, whdTlsoeDisable_eval]
    rfl
  · simp only [Prog.when, hdel, if_false]
    rfl

/-- **A connection, waking up.** -/
structure Wakes (b : TlsLwipBuild) (ans : TlsReplies Keys) (port : CyTlsoeOlConnect)
    (s s' : TlsHost Keys) : Prop where
  pcbs : s'.pcbs = if ans.Tells port ∧ ans.Updates port then
    Lwip.whdTlsoeUpdateSockSeq b.ip4addrAton (key port) ans.sess.tcpSeq ans.sess.tcpAck s.tcpReset
      s.pcbs else s.pcbs
  tcpReset : s'.tcpReset = s.tcpReset
  log : s'.log = s.log ++
    if ans.Tells port then [.handedBack port.tlsSocket ans.sess] else []

theorem turn_wakes (hst : st ≠ .goingToSleep) : Wakes b ans port s (turn b st ans port s) := by
  rw [turn_wake hst]
  by_cases htells : ans.Tells port
  · rw [if_pos htells.1, TlsHost.disabled, if_pos htells.2]
    by_cases hupdates : ans.Updates port
    · rw [if_pos hupdates]
      refine ⟨?_, rfl, ?_⟩
      · rw [if_pos ⟨htells, hupdates⟩]
        rfl
      · rw [if_pos htells]
        rfl
    · rw [if_neg hupdates]
      refine ⟨?_, rfl, ?_⟩
      · rw [if_neg fun h => hupdates h.2]
        rfl
      · rw [if_pos htells]
        rfl
  · have hsame : ∀ s' : TlsHost Keys, s'.pcbs = s.pcbs → s'.tcpReset = s.tcpReset →
        s'.log = s.log → Wakes b ans port s s' := by
      intro s' hpcbs hreset hlog
      refine ⟨?_, hreset, ?_⟩
      · rw [hpcbs, if_neg fun h => htells h.1]
      · rw [hlog, if_neg htells, List.append_nil]
    split
    · rename_i hdel
      rw [TlsHost.disabled, if_neg fun hstatus => htells ⟨hdel, hstatus⟩]
      exact hsame _ rfl rfl rfl
    · exact hsame _ rfl rfl rfl

/-- The socket of `k` is the connection's, which is taken back. -/
def TakesBack (b : TlsLwipBuild) (ans : TlsReplies Keys) (port : CyTlsoeOlConnect) (k : SockKey) :
    Prop :=
  (ans.Tells port ∧ ans.Updates port) ∧ Lwip.SameSocket b.ip4addrAton (key port) k

instance (b : TlsLwipBuild) (ans : TlsReplies Keys) (port : CyTlsoeOlConnect) (k : SockKey) :
    Decidable (TakesBack b ans port k) :=
  inferInstanceAs (Decidable (_ ∧ _))

theorem Wakes.findPcb {s' : TlsHost Keys} (h : Wakes b ans port s s') (k : SockKey) :
    Lwip.findPcb b.ip4addrAton k s'.pcbs = if TakesBack b ans port k then
      (Lwip.findPcb b.ip4addrAton k s.pcbs).map
        (Lwip.resync ans.sess.tcpSeq ans.sess.tcpAck s.tcpReset)
      else Lwip.findPcb b.ip4addrAton k s.pcbs := by
  rw [h.pcbs]
  by_cases htaken : ans.Tells port ∧ ans.Updates port
  · rw [if_pos htaken]
    by_cases hsame : Lwip.SameSocket b.ip4addrAton (key port) k
    · rw [if_pos ⟨htaken, hsame⟩, ← hsame.findPcb_eq, ← hsame.findPcb_eq, Lwip.findPcb_update]
    · rw [if_neg fun hk => hsame hk.2, Lwip.findPcb_update_of_ne hsame]
  · rw [if_neg htaken, if_neg fun hk => htaken hk.1]

/-- What has been told of the socket of `k`: the last connection's that is taken back counts. -/
def takenBack (b : TlsLwipBuild) (ans : ℕ → TlsReplies Keys) (k : SockKey)
    (its : List (CyTlsoeOlConnect × ℕ)) : Option SecureSessInfo :=
  ((its.filter fun it => TakesBack b (ans it.2) it.1 k).getLast?).map fun it => (ans it.2).sess

/-- What becomes of a socket. -/
def restored (reset : UInt8) : Option SecureSessInfo → TcpPcb → TcpPcb
  | some sess => Lwip.resync sess.tcpSeq sess.tcpAck reset
  | none => id

theorem resync_restored (seqNum ackNum : UInt32) (reset : UInt8) (sess : Option SecureSessInfo) :
    Lwip.resync seqNum ackNum reset ∘ restored reset sess = Lwip.resync seqNum ackNum reset := by
  cases sess with
  | none => rfl
  | some sess => exact funext Lwip.resync_resync

/-- **The notification**: every socket is as its connection's last session says, if it is taken
back. -/
theorem turns_wakes (hst : st ≠ .goingToSleep) (b : TlsLwipBuild) (ans : ℕ → TlsReplies Keys)
    (its : List (CyTlsoeOlConnect × ℕ)) (s : TlsHost Keys) :
    (∀ k, Lwip.findPcb b.ip4addrAton k (turns b st ans its s).pcbs =
      (Lwip.findPcb b.ip4addrAton k s.pcbs).map
        (restored s.tcpReset (takenBack b ans k its))) ∧
    (turns b st ans its s).tcpReset = s.tcpReset ∧
    (turns b st ans its s).log = s.log ++ ((its.filter fun it => (ans it.2).Tells it.1).map
      fun it => .handedBack it.1.tlsSocket (ans it.2).sess) := by
  induction its using List.reverseRecOn with
  | nil => exact ⟨fun k => Option.map_id'.symm, rfl, (List.append_nil _).symm⟩
  | append_singleton its it ih =>
      obtain ⟨hfind, hreset, hlog⟩ := ih
      have hturns : turns b st ans (its ++ [it]) s =
          turn b st (ans it.2) it.1 (turns b st ans its s) := List.foldl_append
      have h : Wakes b (ans it.2) it.1 (turns b st ans its s)
          (turn b st (ans it.2) it.1 (turns b st ans its s)) := turn_wakes hst
      rw [hturns]
      refine ⟨fun k => ?_, h.tcpReset.trans hreset, ?_⟩
      · rw [h.findPcb, hfind, hreset]
        by_cases htakes : TakesBack b (ans it.2) it.1 k
        · have htaken : takenBack b ans k (its ++ [it]) = some (ans it.2).sess := by
            simp [takenBack, htakes]
          rw [if_pos htakes, Option.map_map, resync_restored, htaken]
          rfl
        · have htaken : takenBack b ans k (its ++ [it]) = takenBack b ans k its := by
            simp [takenBack, htakes]
          rw [if_neg htakes, htaken]
      · rw [h.log, hlog, List.append_assoc, List.filter_append, List.map_append]
        congr 2
        by_cases htells : (ans it.2).Tells it.1 <;> simp [htells]

end Wake

/-! ### Whole runs -/

section Run

variable {b : TlsLwipBuild} {ports : List CyTlsoeOlConnect} {s : TlsHost Keys}

theorem run_concat (i : TlsInput Keys) (is : List (TlsInput Keys)) :
    s.run b ports (is ++ [i]) = (s.run b ports is).step b ports i :=
  List.foldl_append

/-- `p` is due at the input `i`. -/
def DueAt (b : TlsLwipBuild) (ports : List CyTlsoeOlConnect) (s : TlsHost Keys)
    (p : TlsParamInfo Keys) (i : TlsInput Keys) : Prop :=
  ∃ ans, i = .notify .goingToSleep ans ∧ ∃ it ∈ ports.zipIdx, p.Due b (ans it.2) it.1 s.pcbs

/-- **A step** gives the firmware what is due. -/
theorem given_step (p : TlsParamInfo Keys) (i : TlsInput Keys) :
    .given p ∈ (s.step b ports i).log ↔ .given p ∈ s.log ∨ DueAt b ports s p i := by
  rw [← mem_given, ← mem_given]
  cases i with
  | notify st ans =>
      by_cases hst : st = .goingToSleep
      · subst hst
        obtain ⟨ps, h, hps⟩ := turns_sleeps b ans ports.zipIdx s
        change p ∈ given (turns b .goingToSleep ans ports.zipIdx s).log ↔ _
        rw [h.given, List.mem_append, hps]
        refine or_congr_right ⟨fun hp => ⟨ans, rfl, hp⟩, ?_⟩
        rintro ⟨ans', h, hp⟩
        cases h
        exact hp
      · obtain ⟨-, -, hlog⟩ := turns_wakes hst b ans ports.zipIdx s
        have hnot : ¬ DueAt b ports s p (.notify st ans) := by
          rintro ⟨ans', h, -⟩
          cases h
          exact hst rfl
        rw [or_iff_left hnot, mem_given, mem_given]
        change .given p ∈ (turns b st ans ports.zipIdx s).log ↔ _
        rw [hlog, List.mem_append]
        exact or_iff_left fun hp => by simp at hp
  | event e =>
      obtain ⟨-, hgiven⟩ := (Sleeps.refl s).event e
      have hnot : ¬ DueAt b ports s p (.event e) := fun ⟨_, h, _⟩ => by cases h
      change p ∈ given (s.event e).log ↔ _
      rw [or_iff_left hnot, hgiven, List.append_nil]
  | network pcbs =>
      have hnot : ¬ DueAt b ports s p (.network pcbs) := fun ⟨_, h, _⟩ => by cases h
      exact (or_iff_left hnot).symm

/-- **Handing over**: the firmware is given what is due at one of the notifications that the host
goes to sleep, and nothing else.  For each connection whose calls succeed this describes it as it
was then: its keys, its addresses, and the numbers of its socket. -/
theorem tls_handOver (b : TlsLwipBuild) (ports : List CyTlsoeOlConnect) (pcbs : TcpPcbLists)
    (is : List (TlsInput Keys)) (p : TlsParamInfo Keys) :
    .given p ∈ ((TlsHost.boot pcbs).run b ports is).log ↔
      ∃ before ans after, is = before ++ .notify .goingToSleep ans :: after ∧
        ∃ it ∈ ports.zipIdx,
          p.Due b (ans it.2) it.1 ((TlsHost.boot pcbs).run b ports before).pcbs := by
  induction is using List.reverseRecOn with
  | nil =>
      refine iff_of_false List.not_mem_nil ?_
      rintro ⟨before, ans, after, h, -⟩
      exact List.append_ne_nil_of_right_ne_nil before (List.cons_ne_nil _ _) h.symm
  | append_singleton is i ih =>
      rw [run_concat, given_step, ih]
      constructor
      · rintro (⟨before, ans, after, rfl, hdue⟩ | ⟨ans, rfl, hdue⟩)
        · exact ⟨before, ans, after ++ [i], by simp, hdue⟩
        · exact ⟨is, ans, [], rfl, hdue⟩
      · rintro ⟨before, ans, after, h, hdue⟩
        rcases List.eq_nil_or_concat after with rfl | ⟨after', i', rfl⟩
        · obtain ⟨hbefore, hi⟩ := List.append_inj' h rfl
          subst hbefore
          exact .inr ⟨ans, (List.cons.inj hi).1, hdue⟩
        · rw [List.concat_eq_append, ← List.cons_append, ← List.append_assoc] at h
          exact .inl ⟨before, ans, after', (List.append_inj' h rfl).1, hdue⟩

/-- **Taking back**: after a wake-up the socket that each key finds is as before, or, if it is of
a connection that is taken back, goes on from the numbers of the firmware; then it is half closed
exactly if the firmware has woken the host since the last activation.  The TLS session of each
connection whose state the firmware tells is handed back, in the order of the configuration. -/
theorem tls_handBack (b : TlsLwipBuild) (ports : List CyTlsoeOlConnect) (pcbs : TcpPcbLists)
    (is : List (TlsInput Keys)) {st : OlPmSt} (hst : st ≠ .goingToSleep)
    (ans : ℕ → TlsReplies Keys) :
    let s := (TlsHost.boot pcbs).run b ports is
    let s' := s.step b ports (.notify st ans)
    (∀ k, Lwip.findPcb b.ip4addrAton k s'.pcbs = (Lwip.findPcb b.ip4addrAton k s.pcbs).map
      (restored s.tcpReset (takenBack b ans k ports.zipIdx))) ∧
    (s.tcpReset ≠ 0 ↔ WokenSince s.log) ∧ s'.tcpReset = s.tcpReset ∧
    s'.log = s.log ++ ((ports.zipIdx.filter fun it => (ans it.2).Tells it.1).map
      fun it => .handedBack it.1.tlsSocket (ans it.2).sess) := by
  intro s s'
  obtain ⟨hfind, hreset, hlog⟩ := turns_wakes hst b ans ports.zipIdx s
  have hboot : (TlsHost.boot pcbs : TlsHost Keys).ResetTells :=
    iff_of_false (fun h => h rfl) not_wokenSince_nil
  exact ⟨hfind, hboot.run is, hreset, hlog⟩

end Run

/-- Every call succeeds; the firmware has got to the numbers 1100 and 2200. -/
def usualReplies : TlsReplies Unit where
  res o := (tlsUsual .awake o [] .boot).1
  macAddress := ⟨.replicate 6 1⟩
  ethRet := ⟨.replicate 6 2⟩
  gatewayMac := ⟨.replicate 6 3⟩
  keys := ()
  rand := 7
  sess := ⟨[], [], 1100, 2200⟩
  events := fun _ => []

def lwipBuild : TlsLwipBuild := ⟨1026, by decide, ⟨1, 2⟩, fun _ => 0x0201a8c0, 64⟩

def brokerPort : CyTlsoeOlConnect := ⟨20, 49152, 8883, "192.168.1.2", 1, 2, [0x30, 0x31]⟩

/-- The socket of a connection to the broker. -/
def brokerPcb (localPort : UInt16) : TcpPcb :=
  ⟨0x0101a8c0, 0x0201a8c0, localPort, 8883, .established, 2000, 5840, 1000, 1000, 1000, 1000⟩

/-- The firmware wakes the host up: the connection's socket goes on from its numbers, half closed,
and that of another connection is as it was. -/
theorem tls_handBack_woken :
    let is : List (TlsInput Unit) :=
      [.notify .goingToSleep fun _ => usualReplies, .event ⟨some .wlcEWakeEvent, true⟩]
    let s := (TlsHost.boot ⟨[], [brokerPcb 49153, brokerPcb 49152], []⟩).run lwipBuild
      [brokerPort] is
    let s' := s.step lwipBuild [brokerPort] (.notify .awake fun _ => usualReplies)
    Lwip.findPcb lwipBuild.ip4addrAton (key brokerPort) s'.pcbs = some { brokerPcb 49152 with
      state := .finWait2, rcvNxt := 2200, lastack := 1100, sndNxt := 1100, sndWl2 := 1100,
      sndLbb := 1100 } ∧
    Lwip.findPcb lwipBuild.ip4addrAton ⟨49153, 8883, "192.168.1.2"⟩ s'.pcbs =
      some (brokerPcb 49153) := by
  intro is s s'
  have hst : OlPmSt.awake ≠ .goingToSleep := by decide
  obtain ⟨hfind, -⟩ := tls_handBack lwipBuild [brokerPort]
    ⟨[], [brokerPcb 49153, brokerPcb 49152], []⟩ is hst fun _ => usualReplies
  exact ⟨(hfind (key brokerPort)).trans (by rfl), (hfind _).trans (by rfl)⟩

end Lpa.Tlsoe
