import Lpa.Tlsoe.Host

/-!
# TLS offload — handing connections over

Going to sleep, a connection's turn looks its socket up, gets its addresses and keys together, and
gives the firmware what it is to go on from.

* `turn_sleeps`: what is given is what is due (`TlsParamInfo.Due`): nothing, unless the socket is
  found and the calls before have succeeded, and then a description of the connection.
* `turns_sleeps`: the same of a notification.
-/

namespace Lpa.Tlsoe

open NetActivity (LpEventData)
open Prog (Ends)

variable {Keys : Type}

/-! ### What is due -/

/-- **What is given to the firmware** describes the connection: its keys, its own ports and
addresses, the numbers of its socket, and the ping request to be sent. -/
structure TlsParamInfo.Describes (b : TlsLwipBuild) (ans : TlsReplies Keys)
    (port : CyTlsoeOlConnect) (pcb : TcpPcb) (p : TlsParamInfo Keys) : Prop where
  keys : p.keys = ans.keys
  localPort : p.localPort = hton16 port.localPort
  localIp : p.localIp = pcb.localIp
  localMacAddr : p.localMacAddr = ans.macAddress
  remotePort : p.remotePort = hton16 port.remotePort
  remoteIp : p.remoteIp = b.ip4addrAton port.remoteIp
  remoteMacAddr : p.remoteMacAddr =
    if ans.res .findMacAddr = true then ans.ethRet else ans.gatewayMac
  tcpAckNum : p.tcpAckNum = hton32 pcb.rcvNxt
  tcpSeqNum : p.tcpSeqNum = hton32 pcb.sndNxt
  appSyncid : p.appSyncid = ans.rand
  keepaliveInterval : p.keepaliveInterval = port.interval.toUInt32
  payload : p.payload = pingreq.take b.tlsMaxPayloadLen

/-- The result of `setMissingCap`. -/
def TlsReplies.missingCap (ans : TlsReplies Keys) (bits wowl : UInt32) : UInt32 :=
  if wowl &&& bits ≠ bits then ans.res (.whdSetWowlCap (wowl &&& bits ||| bits))
  else whdResultSuccess

/-- The result of `whd_tlsoe_set_wowl_pattern`. -/
def TlsReplies.setPattern (b : TlsLwipBuild) (ans : TlsReplies Keys) (port : CyTlsoeOlConnect) :
    UInt32 :=
  if port.pattLen > 0 then
    ans.missingCap (b.bits.secure ||| b.bits.net) (ans.res .whdGetWowlCap).2 |||
      ans.res (.whdSetWowlPattern true port.pattern)
  else ans.missingCap b.bits.secure (ans.res .whdGetWowlCap).2

/-- The calls that get together what is given to the firmware succeed. -/
structure TlsReplies.Gets (b : TlsLwipBuild) (ans : TlsReplies Keys) (port : CyTlsoeOlConnect) :
    Prop where
  pattern : ans.setPattern b port = whdResultSuccess
  srcMac : ans.res .whdWifiGetMacAddress = whdResultSuccess
  dstMac : ans.res .findMacAddr = true ∨ ans.res .cyWcmGetGatewayMacAddress = whdResultSuccess
  keys : ans.res (.cySocketGetTlsInfo port.tlsSocket) = whdResultSuccess

/-- `p` is what is to be given to the firmware, the sockets being `pcbs`. -/
def TlsParamInfo.Due (b : TlsLwipBuild) (ans : TlsReplies Keys) (port : CyTlsoeOlConnect)
    (pcbs : TcpPcbLists) (p : TlsParamInfo Keys) : Prop :=
  ans.Gets b port ∧
    ∃ pcb, Lwip.findPcb b.ip4addrAton (key port) pcbs = some pcb ∧ p.Describes b ans port pcb

/-- What the firmware has been given. -/
def given (log : List (Handover Keys)) : List (TlsParamInfo Keys) :=
  log.filterMap fun
    | .given p => some p
    | _ => none

theorem mem_given {log : List (Handover Keys)} {p : TlsParamInfo Keys} :
    p ∈ given log ↔ .given p ∈ log := by
  refine List.mem_filterMap.trans ⟨?_, fun h => ⟨_, h, rfl⟩⟩
  rintro ⟨e, he, hp⟩
  cases e with
  | given q =>
      cases hp
      exact he
  | activated => cases hp
  | woken => cases hp
  | handedBack socket sess => cases hp

theorem given_append (log log' : List (Handover Keys)) :
    given (log ++ log') = given log ++ given log' :=
  List.filterMap_append

/-- From `s` on, `ps` has been given, and the sockets have been left alone. -/
structure Sleeps (s : TlsHost Keys) (ps : List (TlsParamInfo Keys)) (t : TlsHost Keys) : Prop where
  pcbs : t.pcbs = s.pcbs
  given : given t.log = given s.log ++ ps

/-- From `s` on, what is due for the connection has been given, and the sockets have been left
alone. -/
def GivesDue (b : TlsLwipBuild) (ans : TlsReplies Keys) (port : CyTlsoeOlConnect)
    (s t : TlsHost Keys) : Prop :=
  ∃ ps, Sleeps s ps t ∧ ∀ p, p ∈ ps ↔ p.Due b ans port s.pcbs

section Sleep

variable {b : TlsLwipBuild} {ans : TlsReplies Keys} {port : CyTlsoeOlConnect}
  {s t : TlsHost Keys} {ps : List (TlsParamInfo Keys)}

theorem TlsParamInfo.Describes.eq {pcb : TcpPcb} {p q : TlsParamInfo Keys}
    (hp : p.Describes b ans port pcb) (hq : q.Describes b ans port pcb) : p = q := by
  obtain ⟨_, _, _, _, _, _, _, _, _, _, _, _⟩ := p
  obtain ⟨_, _, _, _, _, _, _, _, _, _, _, _⟩ := q
  obtain ⟨rfl, rfl, rfl, rfl, rfl, rfl, rfl, rfl, rfl, rfl, rfl, rfl⟩ := hp
  obtain ⟨rfl, rfl, rfl, rfl, rfl, rfl, rfl, rfl, rfl, rfl, rfl, rfl⟩ := hq
  rfl

theorem Sleeps.refl (s : TlsHost Keys) : Sleeps s [] s := ⟨rfl, (List.append_nil _).symm⟩

/-- Something is done about the connection. -/
theorem Sleeps.logs (h : Sleeps s ps t) (es : List (Handover Keys)) {t' : TlsHost Keys}
    {ps' : List (TlsParamInfo Keys)} (hes : ps ++ Tlsoe.given es = ps')
    (hlog : t'.log = t.log ++ es) (hpcbs : t'.pcbs = t.pcbs) : Sleeps s ps' t' := by
  refine ⟨hpcbs.trans h.pcbs, ?_⟩
  rw [hlog, given_append, h.given, List.append_assoc, hes]

theorem Sleeps.event (h : Sleeps s ps t) (e : LpEventData) : Sleeps s ps (t.event e) := by
  unfold TlsHost.event
  split
  · exact h.logs [.woken] (List.append_nil ps) rfl rfl
  · exact h

theorem event_seq (e : LpEventData) : (t.event e).seq = t.seq := by
  unfold TlsHost.event
  split <;> rfl

theorem event_keys (e : LpEventData) : (t.event e).keys = t.keys := by
  unfold TlsHost.event
  split <;> rfl

/-- Events touch neither the sockets nor what has been read so far. -/
theorem Sleeps.events (h : Sleeps s ps t) (es : List LpEventData) :
    Sleeps s ps (t.events es) ∧ (t.events es).seq = t.seq ∧ (t.events es).keys = t.keys := by
  refine List.foldlRecOn (motive := fun t' => Sleeps s ps t' ∧ t'.seq = t.seq ∧
    t'.keys = t.keys) es TlsHost.event ⟨h, rfl, rfl⟩ fun t' ht' e _ => ?_
  exact ⟨ht'.1.event e, (event_seq e).trans ht'.2.1, (event_keys e).trans ht'.2.2⟩

/-- A call whose answer only is looked at. -/
theorem Sleeps.plain (h : Sleeps s ps t) {o : TlsOp}
    (ho : ∀ t : TlsHost Keys, (tlsCall b ans o t).2 = t) : Sleeps s ps (tlsAnswer b ans o t).2 :=
  (ho _).symm ▸ (h.events _).1

theorem setMissingCap_sleeps (h : Sleeps s ps t) (bits wowl : UInt32) :
    Ends (tlsAnswer b ans) (fun r t => r = ans.missingCap bits wowl ∧ Sleeps s ps t)
      (setMissingCap bits wowl) t := by
  unfold setMissingCap TlsReplies.missingCap
  split
  · exact .call (.ret ⟨rfl, h.plain fun _ => rfl⟩)
  · exact .ret ⟨rfl, h⟩

theorem whdTlsoeSetWowlPattern_sleeps (port : CyTlsoeOlConnect) (h : Sleeps s ps t) :
    Ends (tlsAnswer b ans) (fun r t => r = ans.setPattern b port ∧ Sleeps s ps t)
      (whdTlsoeSetWowlPattern b.bits port) t := by
  have hcap : Sleeps s ps (tlsAnswer b ans .whdGetWowlCap t).2 := h.plain fun _ => rfl
  unfold whdTlsoeSetWowlPattern TlsReplies.setPattern
  simp only [Prog.bind_eq, Prog.op_bind]
  refine .call ?_
  split
  · refine .bind (setMissingCap_sleeps hcap _ _) ?_
    rintro result t ⟨rfl, ht⟩
    exact .call (.ret ⟨rfl, ht.plain fun _ => rfl⟩)
  · exact setMissingCap_sleeps hcap _ _

theorem whdTlsoeDelWowlPattern_sleeps (h : Sleeps s ps t) :
    Ends (tlsAnswer b ans) (fun _ => Sleeps s ps) (whdTlsoeDelWowlPattern port) t := by
  unfold whdTlsoeDelWowlPattern
  split
  · exact .call (.ret (h.plain fun _ => rfl))
  · exact .ret h

/-- What has been read of the socket `pcb`. -/
structure Read (pcb : TcpPcb) (seq : SockSeq) : Prop where
  srcip : seq.srcip = pcb.localIp
  dstip : seq.dstip = pcb.remoteIp
  srcport : seq.srcport = pcb.localPort
  dstport : seq.dstport = pcb.remotePort
  seqnum : seq.seqnum = pcb.sndNxt
  acknum : seq.acknum = pcb.rcvNxt

/-- The socket is looked up. -/
theorem lookUp_sleeps (b : TlsLwipBuild) (port : CyTlsoeOlConnect) (h : Sleeps s ps t) :
    Sleeps s ps (t.lookUp b (key port)).2 ∧
      ((t.lookUp b (key port)).1 = whdResultSuccess →
        ∃ pcb, Lwip.findPcb b.ip4addrAton (key port) s.pcbs = some pcb ∧
          Read pcb (t.lookUp b (key port)).2.seq) ∧
      ((t.lookUp b (key port)).1 ≠ whdResultSuccess →
        Lwip.findPcb b.ip4addrAton (key port) s.pcbs = none) := by
  unfold TlsHost.lookUp Lwip.whdTlsoeGetSockStats
  cases hfound : Lwip.findPcb b.ip4addrAton (key port) t.pcbs with
  | none =>
      refine ⟨h, fun hr => ?_, fun _ => h.pcbs ▸ hfound⟩
      exact absurd (show (1 : UInt32) = whdResultSuccess from hr) (by decide)
  | some pcb =>
      refine ⟨⟨h.pcbs, h.given⟩, fun _ => ?_, fun hne => (hne rfl).elim⟩
      exact ⟨pcb, h.pcbs ▸ hfound, rfl, rfl, rfl, rfl, rfl, rfl⟩

/-- What has been read of the socket `pcb`, and the host's own address. -/
structure Sourced (ans : TlsReplies Keys) (pcb : TcpPcb) (seq : SockSeq) : Prop where
  read : Read pcb seq
  srcMac : seq.srcMac = ans.macAddress

theorem getMacAddress_sleeps (b : TlsLwipBuild) (ans : TlsReplies Keys) (h : Sleeps s ps t)
    {pcb : TcpPcb} (hread : Read pcb t.seq) :
    Sleeps s ps (tlsAnswer b ans .whdWifiGetMacAddress t).2 ∧
      Sourced ans pcb (tlsAnswer b ans .whdWifiGetMacAddress t).2.seq := by
  obtain ⟨h', hseq, -⟩ := h.events (ans.events .whdWifiGetMacAddress)
  obtain ⟨hsrcip, hdstip, hsrcport, hdstport, hseqnum, hacknum⟩ := hseq.symm ▸ hread
  exact ⟨⟨h'.pcbs, h'.given⟩, ⟨hsrcip, hdstip, hsrcport, hdstport, hseqnum, hacknum⟩, rfl⟩

/-- The addresses of both ends are there. -/
structure Addressed (ans : TlsReplies Keys) (pcb : TcpPcb) (seq : SockSeq) : Prop where
  sourced : Sourced ans pcb seq
  dstMac : seq.dstMac = if ans.res .findMacAddr = true then ans.ethRet else ans.gatewayMac

/-- The address of the peer, or of the gateway, is found. -/
theorem destinationMac_sleeps (h : Sleeps s ps t) {pcb : TcpPcb} (hsrc : Sourced ans pcb t.seq) :
    Ends (tlsAnswer b ans) (fun r t' => Sleeps s ps t' ∧ Addressed ans pcb t'.seq ∧
        (r = whdResultSuccess ↔
          ans.res .findMacAddr = true ∨ ans.res .cyWcmGetGatewayMacAddress = whdResultSuccess))
      destinationMac t := by
  have hdst : ∀ seq, Sourced ans pcb seq → ∀ dstMac,
      Sourced ans pcb { seq with dstMac := dstMac } := by
    rintro seq ⟨⟨hsrcip, hdstip, hsrcport, hdstport, hseqnum, hacknum⟩, hsrc⟩ dstMac
    exact ⟨⟨hsrcip, hdstip, hsrcport, hdstport, hseqnum, hacknum⟩, hsrc⟩
  obtain ⟨h', hseq, -⟩ := h.events (ans.events .findMacAddr)
  unfold destinationMac
  simp only [Prog.bind_eq, Prog.op_bind]
  refine .call ?_
  by_cases hfound : ans.res .findMacAddr = true
  · simp only [tlsAnswer, tlsCall, hfound, if_true]
    refine .ret ⟨⟨h'.pcbs, h'.given⟩, ⟨hdst _ (hseq.symm ▸ hsrc) _, ?_⟩, by simp⟩
    rw [if_pos hfound]
  · simp only [tlsAnswer, tlsCall, hfound, Bool.false_eq_true, if_false]
    obtain ⟨h'', hseq', -⟩ := h'.events (ans.events .cyWcmGetGatewayMacAddress)
    refine .call (.ret ⟨⟨h''.pcbs, h''.given⟩, ⟨hdst _ ?_ _, ?_⟩, by simp [tlsAnswer, tlsCall]⟩)
    · rw [hseq', hseq]
      exact hsrc
    · rw [if_neg hfound]
      rfl

/-- Everything has been read: what is given to the firmware describes the connection. -/
theorem tlsInfo_describes {pcb : TcpPcb} {seq : SockSeq}
    (hfound : Lwip.findPcb b.ip4addrAton (key port) s.pcbs = some pcb)
    (hseq : Addressed ans pcb seq) :
    (tlsInfo b seq ans.keys ans.rand port.interval).Describes b ans port pcb := by
  obtain ⟨hlocal, hremote, hip⟩ := Lwip.hasKey_of_findPcb hfound
  obtain ⟨⟨hread, hsrc⟩, hdst⟩ := hseq
  refine ⟨rfl, ?_, hread.srcip, hsrc, ?_, ?_, hdst, ?_, ?_, rfl, rfl, ?_⟩
  · exact congrArg hton16 (hread.srcport.trans hlocal)
  · exact congrArg hton16 (hread.dstport.trans hremote)
  · exact hread.dstip.trans hip
  · exact congrArg hton32 hread.acknum
  · exact congrArg hton32 hread.seqnum
  · change pingreq.take (min pingreq.length b.tlsMaxPayloadLen) = _
    rw [min_comm]
    exact List.take_eq_take_min.symm

/-- Nothing has been given, and nothing is due. -/
theorem Sleeps.givesDue_nil (h : Sleeps s [] t)
    (hnot : ∀ p, ¬ TlsParamInfo.Due b ans port s.pcbs p) : GivesDue b ans port s t :=
  ⟨[], h, fun p => iff_of_false List.not_mem_nil (hnot p)⟩

theorem mem_singleton_due {pcb : TcpPcb} {pcbs : TcpPcbLists} {q : TlsParamInfo Keys}
    (hgets : ans.Gets b port) (hfound : Lwip.findPcb b.ip4addrAton (key port) pcbs = some pcb)
    (hq : q.Describes b ans port pcb) (p : TlsParamInfo Keys) :
    p ∈ [q] ↔ p.Due b ans port pcbs := by
  refine List.mem_singleton.trans ⟨?_, ?_⟩
  · rintro rfl
    exact ⟨hgets, pcb, hfound, hq⟩
  · rintro ⟨-, pcb', hfound', hp⟩
    cases hfound.symm.trans hfound'
    exact hp.eq hq

/-- The last part of `whd_tlsoe_activate`. -/
theorem activateSecure_sleeps (b : TlsLwipBuild) (port : CyTlsoeOlConnect) (h : Sleeps s [] t)
    (hkeys : t.keys = some ans.keys) :
    Sleeps s [tlsInfo b t.seq ans.keys ans.rand port.interval]
      (tlsAnswer b ans (.whdWowlActivateSecure port.interval) t).2 := by
  obtain ⟨h', hseq', hkeys'⟩ := h.events (ans.events (.whdWowlActivateSecure port.interval))
  refine h'.logs [.given (tlsInfo b t.seq ans.keys ans.rand port.interval)] rfl ?_ rfl
  unfold tlsAnswer tlsCall
  dsimp only
  rw [hkeys', hkeys, hseq']
  rfl

/-- **`whd_tlsoe_activate`**, after the pattern has been set. -/
theorem whdTlsoeActivate_sleeps (h : Sleeps s [] t)
    (hpattern : ans.setPattern b port = whdResultSuccess) :
    Ends (tlsAnswer b ans) (fun _ => GivesDue b ans port s) (whdTlsoeActivate b.toTlsBuild port)
      t := by
  unfold whdTlsoeActivate
  simp only [Prog.bind_eq, Prog.op_bind]
  refine .call ?_
  obtain ⟨h, hfound, hnot⟩ := lookUp_sleeps b port
    (h.events (ans.events (.whdTlsoeGetSockStats port.localPort port.remotePort port.remoteIp))).1
  split
  · rename_i hstats
    refine .ret (h.givesDue_nil fun p hp => ?_)
    obtain ⟨-, pcb, hpcb, -⟩ := hp
    cases hpcb.symm.trans (hnot hstats)
  rename_i hstats
  obtain ⟨pcb, hfound, hread⟩ := hfound (not_not.mp hstats)
  refine .call ?_
  obtain ⟨h, hsrc⟩ := getMacAddress_sleeps b ans h hread
  split
  · rename_i hmac
    exact .ret (h.givesDue_nil fun p hp => hmac hp.1.srcMac)
  rename_i hmac
  refine .bind (destinationMac_sleeps h hsrc) ?_
  rintro result t ⟨h, hseq, hresult⟩
  split
  · rename_i hne
    exact .ret (h.givesDue_nil fun p hp => hne (hresult.mpr hp.1.dstMac))
  rename_i hdst
  refine .call ?_
  obtain ⟨h, hseq', -⟩ := h.events (ans.events (.cySocketGetTlsInfo port.tlsSocket))
  split
  · rename_i hkeys
    exact .ret (Sleeps.givesDue_nil ⟨h.pcbs, h.given⟩ fun p hp => hkeys hp.1.keys)
  rename_i hkeys
  refine .call ?_
  have hgets : ans.Gets b port :=
    ⟨hpattern, not_not.mp hmac, hresult.mp (not_not.mp hdst), not_not.mp hkeys⟩
  have hdescribes := tlsInfo_describes hfound (hseq'.symm ▸ hseq)
  have h := activateSecure_sleeps b port
    (t := (tlsAnswer b ans (.cySocketGetTlsInfo port.tlsSocket) t).2) ⟨h.pcbs, h.given⟩ rfl
  have hdue := mem_singleton_due hgets hfound hdescribes
  split
  · exact .ret ⟨_, h, hdue⟩
  · refine .call (.ret ⟨_, ?_, hdue⟩)
    exact (h.events (ans.events .whdManagementSetEventHandler)).1.logs [.activated]
      (List.append_nil _) rfl rfl

/-- **A connection, going to sleep.** -/
theorem turn_sleeps (b : TlsLwipBuild) (ans : TlsReplies Keys) (port : CyTlsoeOlConnect)
    (s : TlsHost Keys) : GivesDue b ans port s (turn b .goingToSleep ans port s) := by
  have h : Ends (tlsAnswer b ans) (fun _ => GivesDue b ans port s)
      (sleepConnection b.toTlsBuild port) s := by
    refine .bind (whdTlsoeSetWowlPattern_sleeps port (.refl s)) ?_
    rintro result t ⟨rfl, h⟩
    unfold Prog.when
    split
    · rename_i hpattern
      refine .bind (whdTlsoeActivate_sleeps h hpattern) ?_
      rintro result t ⟨ps, h, hps⟩
      split
      · exact .bind (whdTlsoeDelWowlPattern_sleeps h) fun _ _ h => .ret ⟨ps, h, hps⟩
      · exact .ret ⟨ps, h, hps⟩
    · rename_i hpattern
      exact .ret (h.givesDue_nil fun p hp => hpattern hp.1.pattern)
  obtain ⟨u, t, heval, ht⟩ := h
  rw [turn, if_pos rfl, heval]
  exact ht

/-- **The notification**: what is due for one of the connections is given. -/
theorem turns_sleeps (b : TlsLwipBuild) (ans : ℕ → TlsReplies Keys)
    (its : List (CyTlsoeOlConnect × ℕ)) (s : TlsHost Keys) :
    ∃ ps, Sleeps s ps (turns b .goingToSleep ans its s) ∧
      ∀ p, p ∈ ps ↔ ∃ it ∈ its, p.Due b (ans it.2) it.1 s.pcbs := by
  induction its generalizing s with
  | nil => exact ⟨[], .refl s, fun p => by simp⟩
  | cons it its ih =>
      obtain ⟨ps, h, hps⟩ := turn_sleeps b (ans it.2) it.1 s
      obtain ⟨ps', h', hps'⟩ := ih (turn b .goingToSleep (ans it.2) it.1 s)
      refine ⟨ps ++ ps', ⟨h'.pcbs.trans h.pcbs, ?_⟩, fun p => ?_⟩
      · rw [← List.append_assoc, ← h.given]
        exact h'.given
      · rw [List.mem_append, hps, hps', h.pcbs, List.exists_mem_cons_iff]

end Sleep

end Lpa.Tlsoe
