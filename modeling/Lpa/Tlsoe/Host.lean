import Lpa.Keepalive.TkoSleep
import Lpa.NetActivity.Exclusion
import Lpa.Tlsoe.Model

/-!
# TLS offload — the data passed on

The programs of `cylpa_tlsoe_ol_pm` (`Model.lean`) over the sockets of LWIP, with the data that
their calls pass on.  Going to sleep, the numbers of a connection's socket and its keys go to the
firmware; waking up, the numbers the firmware has got to go back into the TLS session and the
socket.  A wake event of the firmware sets `tcp_reset`, for which a socket that is taken back is
half closed; only the next activation clears it (`TlsHost.ResetTells.run`).

A run is made of notifications, events of the firmware, and whatever LWIP makes of its sockets in
between; the offload has been initialised.  While the host goes to sleep the events may come before
any call; it wakes up under `cy_lp_mutex`, which the event handler waits for.
-/

namespace Lpa.Tlsoe

open NetActivity (LpEventData tlsoeEvent)

variable {Keys : Type}

/-! ### What is passed on -/

/-- `MQTT_PINGREQ_DATA`. -/
def mqttPingreqData : UInt16 := 0xc000

/-- The data of a connection, as `cylpa_tlsoe_ol_pm` sets it. -/
def pingreq : Bytes := [(mqttPingreqData >>> 8).toUInt8, mqttPingreqData.toUInt8]

/-- `tls_param_info_t`; the keys, algorithms and record numbers are those of the TLS session. -/
structure TlsParamInfo (Keys : Type) where
  keys : Keys
  localPort : UInt16
  localIp : UInt32
  localMacAddr : WhdMac
  remotePort : UInt16
  remoteIp : UInt32
  remoteMacAddr : WhdMac
  tcpAckNum : UInt32
  tcpSeqNum : UInt32
  appSyncid : UInt32
  keepaliveInterval : UInt32
  payload : Bytes

/-- `secure_sess_info_t`. -/
structure SecureSessInfo where
  readSeq : Bytes
  writeSeq : Bytes
  tcpSeq : UInt32
  tcpAck : UInt32
deriving DecidableEq

/-- What has been done about the connections. -/
inductive Handover (Keys : Type) where
  | given (params : TlsParamInfo Keys)
  | activated
  | woken
  | handedBack (socket : Handle) (sess : SecureSessInfo)

/-- How the offload is compiled over LWIP, and what it takes from other headers. -/
structure TlsLwipBuild where
  whdBadarg : UInt32
  whdBadarg_ne : whdBadarg ≠ whdResultSuccess
  bits : WowlBits
  ip4addrAton : String → UInt32
  tlsMaxPayloadLen : ℕ

def TlsLwipBuild.toTlsBuild (b : TlsLwipBuild) : TlsBuild :=
  ⟨.lwip, b.bits, b.whdBadarg, b.whdBadarg_ne⟩

/-- The sockets of LWIP, `tcp_reset`, the local variables `seq`, `cy_tls_offload_info` and
`tls_sess`, and what has been done. -/
structure TlsHost (Keys : Type) where
  pcbs : TcpPcbLists
  tcpReset : UInt8
  seq : SockSeq
  keys : Option Keys
  sess : Option SecureSessInfo
  log : List (Handover Keys)

/-- The host before anything has run. -/
def TlsHost.boot (pcbs : TcpPcbLists) : TlsHost Keys := ⟨pcbs, 0, .cleared, none, none, []⟩

/-- The answers to the calls for a connection, what they write, and the events for which the
handler runs just before a call. -/
structure TlsReplies (Keys : Type) where
  res : (o : TlsOp) → TlsRes o
  macAddress : WhdMac
  ethRet : WhdMac
  gatewayMac : WhdMac
  keys : Keys
  rand : UInt32
  sess : SecureSessInfo
  events : TlsOp → List LpEventData

/-- No events come. -/
def TlsReplies.quiet (ans : TlsReplies Keys) : TlsReplies Keys := { ans with events := fun _ => [] }

/-- What `whd_tlsoe_activate` fills in. -/
def tlsInfo (b : TlsLwipBuild) (seq : SockSeq) (keys : Keys) (rand : UInt32) (interval : UInt16) :
    TlsParamInfo Keys where
  keys := keys
  localPort := hton16 seq.srcport
  localIp := seq.srcip
  localMacAddr := seq.srcMac
  remotePort := hton16 seq.dstport
  remoteIp := seq.dstip
  remoteMacAddr := seq.dstMac
  tcpAckNum := hton32 seq.acknum
  tcpSeqNum := hton32 seq.seqnum
  appSyncid := rand
  keepaliveInterval := interval.toUInt32
  payload := pingreq.take (min pingreq.length b.tlsMaxPayloadLen)

/-- `tlsoe_callback_handler`. -/
def TlsHost.event (s : TlsHost Keys) (e : LpEventData) : TlsHost Keys :=
  if .tcpReset true ∈ tlsoeEvent e then { s with tcpReset := 1, log := s.log ++ [.woken] } else s

def TlsHost.events (s : TlsHost Keys) (es : List LpEventData) : TlsHost Keys :=
  es.foldl TlsHost.event s

/-- `whd_tlsoe_get_sock_stats`, into `seq`. -/
def TlsHost.lookUp (b : TlsLwipBuild) (key : SockKey) (s : TlsHost Keys) :
    UInt32 × TlsHost Keys :=
  match Lwip.whdTlsoeGetSockStats b.ip4addrAton key s.pcbs .cleared with
  | some seq => (whdResultSuccess, { s with seq := seq })
  | none => (1, s)

/-- `whd_tlsoe_update_sock_seq`, with the numbers of `tls_sess`. -/
def TlsHost.resync (b : TlsLwipBuild) (key : SockKey) (s : TlsHost Keys) : TlsHost Keys :=
  match s.sess with
  | some sess =>
    { s with
      pcbs := Lwip.whdTlsoeUpdateSockSeq b.ip4addrAton key sess.tcpSeq sess.tcpAck s.tcpReset
        s.pcbs }
  | none => s

/-- What a call does, and how it is answered. -/
def tlsCall (b : TlsLwipBuild) (ans : TlsReplies Keys) :
    (o : TlsOp) → TlsHost Keys → TlsRes o × TlsHost Keys
  | .whdTlsoeGetSockStats localPort remotePort remoteIp, s =>
      s.lookUp b ⟨localPort, remotePort, remoteIp⟩
  | .whdWifiGetMacAddress, s =>
      (ans.res .whdWifiGetMacAddress, { s with seq := { s.seq with srcMac := ans.macAddress } })
  | .findMacAddr, s =>
      (ans.res .findMacAddr,
        if ans.res .findMacAddr = true then { s with seq := { s.seq with dstMac := ans.ethRet } }
        else s)
  | .cyWcmGetGatewayMacAddress, s =>
      (ans.res .cyWcmGetGatewayMacAddress,
        { s with seq := { s.seq with dstMac := ans.gatewayMac } })
  | .cySocketGetTlsInfo socket, s =>
      (ans.res (.cySocketGetTlsInfo socket), { s with keys := some ans.keys })
  | .whdWowlActivateSecure interval, s =>
      (ans.res (.whdWowlActivateSecure interval),
        { s with log := s.log ++
          (s.keys.map fun keys => .given (tlsInfo b s.seq keys ans.rand interval)).toList })
  | .whdManagementSetEventHandler, s =>
      -- `tcp_reset` is cleared just before
      (ans.res .whdManagementSetEventHandler,
        { s with tcpReset := 0, log := s.log ++ [.activated] })
  | .whdWowlGetSecureSessionStatus, s =>
      (ans.res .whdWowlGetSecureSessionStatus, { s with sess := some ans.sess })
  | .cySocketUpdateTlsSequence socket, s =>
      (ans.res (.cySocketUpdateTlsSequence socket),
        { s with log := s.log ++ (s.sess.map (.handedBack socket)).toList })
  | .whdTlsoeUpdateSockSeq localPort remotePort remoteIp, s =>
      (whdResultSuccess, s.resync b ⟨localPort, remotePort, remoteIp⟩)
  | o, s => (ans.res o, s)

def tlsAnswer (b : TlsLwipBuild) (ans : TlsReplies Keys) (o : TlsOp) (s : TlsHost Keys) :
    TlsRes o × TlsHost Keys :=
  tlsCall b ans o (s.events (ans.events o))

/-! ### Runs -/

/-- What a connection is looked up by. -/
def key (port : CyTlsoeOlConnect) : SockKey := ⟨port.localPort, port.remotePort, port.remoteIp⟩

/-- A connection's turn in the loops of `cylpa_tlsoe_ol_pm`. -/
def turn (b : TlsLwipBuild) (st : OlPmSt) (ans : TlsReplies Keys) (port : CyTlsoeOlConnect)
    (s : TlsHost Keys) : TlsHost Keys :=
  if st = .goingToSleep then
    (((sleepConnection b.toTlsBuild port).eval (tlsAnswer b ans) s).map Prod.snd).getD s
  else (((wakeConnection b.toTlsBuild port).eval (tlsAnswer b ans.quiet) s).map Prod.snd).getD s

/-- The turns of some connections. -/
def turns (b : TlsLwipBuild) (st : OlPmSt) (ans : ℕ → TlsReplies Keys)
    (ports : List (CyTlsoeOlConnect × ℕ)) (s : TlsHost Keys) : TlsHost Keys :=
  ports.foldl (fun s port => turn b st (ans port.2) port.1 s) s

/-- What happens to the host. -/
inductive TlsInput (Keys : Type) where
  | notify (st : OlPmSt) (ans : ℕ → TlsReplies Keys)
  | event (e : LpEventData)
  | network (pcbs : TcpPcbLists)

variable (b : TlsLwipBuild) (ports : List CyTlsoeOlConnect)

def TlsHost.step (s : TlsHost Keys) : TlsInput Keys → TlsHost Keys
  | .notify st ans => turns b st ans ports.zipIdx s
  | .event e => s.event e
  | .network pcbs => { s with pcbs := pcbs }

def TlsHost.run (s : TlsHost Keys) (is : List (TlsInput Keys)) : TlsHost Keys :=
  is.foldl (TlsHost.step b ports) s

/-! ### `tcp_reset` -/

/-- The firmware has woken the host since the last activation. -/
def WokenSince (log : List (Handover Keys)) : Prop :=
  ∃ before after, log = before ++ .woken :: after ∧ .activated ∉ after

section Woken

variable {log : List (Handover Keys)}

theorem not_wokenSince_nil : ¬ WokenSince ([] : List (Handover Keys)) := by
  rintro ⟨before, after, h, -⟩
  exact List.append_ne_nil_of_right_ne_nil before (List.cons_ne_nil _ _) h.symm

theorem wokenSince_append_woken : WokenSince (log ++ [.woken]) := ⟨log, [], rfl, List.not_mem_nil⟩

theorem not_wokenSince_append_activated : ¬ WokenSince (log ++ [.activated]) := by
  rintro ⟨before, after, h, hnot⟩
  rcases List.eq_nil_or_concat after with rfl | ⟨after', e, rfl⟩
  · cases (List.append_inj' h rfl).2
  · rw [List.concat_eq_append, ← List.cons_append, ← List.append_assoc] at h
    cases (List.append_inj' h rfl).2
    exact hnot (by simp)

/-- What is neither leaves it as it was. -/
theorem wokenSince_append_iff {es : List (Handover Keys)} (hwoken : .woken ∉ es)
    (hactivated : .activated ∉ es) : WokenSince (log ++ es) ↔ WokenSince log := by
  constructor
  · rintro ⟨before, after, h, hnot⟩
    rcases List.append_eq_append_iff.mp h with ⟨es₁, rfl, hes⟩ | ⟨es₁, rfl, hes⟩
    · exact absurd (hes ▸ by simp) hwoken
    · cases es₁ with
      | nil =>
          have hes : .woken :: after = es := hes
          exact absurd (hes ▸ List.mem_cons_self) hwoken
      | cons e es₁ =>
          obtain ⟨rfl, rfl⟩ := List.cons.inj hes
          exact ⟨before, es₁, rfl, fun h => hnot (List.mem_append_left _ h)⟩
  · rintro ⟨before, after, rfl, hnot⟩
    refine ⟨before, after ++ es, by simp, fun h => ?_⟩
    exact (List.mem_append.mp h).elim hnot hactivated

end Woken

/-- `tcp_reset` tells whether the firmware has woken the host since the last activation. -/
def TlsHost.ResetTells (s : TlsHost Keys) : Prop := s.tcpReset ≠ 0 ↔ WokenSince s.log

section Reset

variable {b : TlsLwipBuild} {ports : List CyTlsoeOlConnect} {ans : TlsReplies Keys}
  {s : TlsHost Keys}

theorem TlsHost.ResetTells.event (hs : s.ResetTells) (e : LpEventData) :
    (s.event e).ResetTells := by
  unfold TlsHost.event
  split
  · exact iff_of_true (fun h => by cases h) wokenSince_append_woken
  · exact hs

theorem TlsHost.ResetTells.events (hs : s.ResetTells) (es : List LpEventData) :
    (s.events es).ResetTells :=
  List.foldlRecOn es TlsHost.event hs fun _ hs e _ => hs.event e

/-- What is done about a connection leaves it alone, unless it is an activation. -/
theorem TlsHost.ResetTells.append (hs : s.ResetTells) {es : List (Handover Keys)}
    (hwoken : .woken ∉ es) (hactivated : .activated ∉ es) :
    TlsHost.ResetTells { s with log := s.log ++ es } :=
  hs.trans (wokenSince_append_iff hwoken hactivated).symm

theorem TlsHost.ResetTells.call (hs : s.ResetTells) (o : TlsOp) :
    (tlsCall b ans o s).2.ResetTells := by
  cases o with
  | whdTlsoeGetSockStats localPort remotePort remoteIp =>
      unfold tlsCall TlsHost.lookUp
      dsimp only
      split
      · exact hs
      · exact hs
  | findMacAddr =>
      unfold tlsCall
      dsimp only
      split
      · exact hs
      · exact hs
  | whdWowlActivateSecure interval => exact hs.append (by simp) (by simp)
  | whdManagementSetEventHandler =>
      exact iff_of_false (fun h => h rfl) not_wokenSince_append_activated
  | cySocketUpdateTlsSequence socket => exact hs.append (by simp) (by simp)
  | whdTlsoeUpdateSockSeq localPort remotePort remoteIp =>
      unfold tlsCall TlsHost.resync
      dsimp only
      split
      · exact hs
      · exact hs
  | _ => exact hs

/-- A turn keeps what its calls keep. -/
theorem turn_invariant {I : TlsHost Keys → Prop} {st : OlPmSt} {port : CyTlsoeOlConnect}
    (hcall : ∀ ans o s, I s → I (tlsAnswer b ans o s).2) (hs : I s) : I (turn b st ans port s) := by
  have heval : ∀ (ans : TlsReplies Keys) (p : Tls Unit),
      I (((p.eval (tlsAnswer b ans) s).map Prod.snd).getD s) := by
    intro ans p
    cases h : p.eval (tlsAnswer b ans) s with
    | none => exact hs
    | some r => exact Prog.eval_invariant (hcall ans) h hs
  unfold turn
  split
  · exact heval ans _
  · exact heval ans.quiet _

theorem TlsHost.ResetTells.run (hs : s.ResetTells) (is : List (TlsInput Keys)) :
    (s.run b ports is).ResetTells := by
  refine List.foldlRecOn is (TlsHost.step b ports) hs fun s hs i _ => ?_
  cases i with
  | notify st ans =>
      refine List.foldlRecOn ports.zipIdx _ hs fun s hs port _ => turn_invariant ?_ hs
      exact fun ans o s hs => (hs.events _).call o
  | event e => exact hs.event e
  | network pcbs => exact hs

end Reset

end Lpa.Tlsoe
