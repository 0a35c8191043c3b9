import Lpa.Offload.IpClients
import Lpa.Olm.Builtin

/-!
# Keepalive — NAT keepalive over runs

`cy_lpa_wifi_nko_ol.c` with its statics: the configuration `cy_nko_ol_cfg`, the context `nko_ctx`
and the callback it hands to `cy_nw_lpa_helper.c`.  Initialisation, a new configuration and a new
IP address all end in `cylpa_configure_nat_keepalive`, each with a context and a configuration
found in another place; the callback record is shared with the other offloads.

* `nko_keepalives`: whatever the steps, a keepalive handed to the driver is the one that disables,
  or what a receiver reads as the configuration that last passed its check.
* `nko_staysOff`: once de-initialised the offload hands over nothing but what disables, and
  refuses configurations, until it is initialised or another client registers the callback.
-/

namespace Lpa

/-- `CYLPA_NAT_KEEPALIVE_MAX_PAYLOAD` bytes and the terminating zero are the field's. -/
def NkoOlCfg.Fits (cfg : NkoOlCfg) : Prop := cfg.payload.length ≤ cylpaNatKeepaliveMaxPayload

/-- `whd_wifi_keepalive_config` with `WHD_KEEPALIVE_NAT`, and what it returned. -/
structure NatKeepaliveCall where
  whd : Option Handle
  keepAlive : WhdKeepAlive
  answer : ℤ
deriving DecidableEq

/-- What a call of `cylpa_configure_nat_keepalive` finds: the answers, and its locals `pkt` and
`pkt_buf` before they are written. -/
structure NkoLocals where
  ans : NkoAnswers
  pkt : NatKeepalive
  pktBuf : Bytes

/-- The contexts, the statics of the file and of the IP-change callback, `*ol_info_ptr`, and the
calls made. -/
structure NkoState where
  olInfo : OlInfo
  contexts : Handle → OlCtxt NkoOlCfg
  cyNkoOlCfg : NkoOlCfg
  nkoCtx : Option Handle
  ip : NwIpWorld
  calls : List NatKeepaliveCall

/-- Before anything has run. -/
def NkoState.boot (olInfo : OlInfo) : NkoState where
  olInfo := olInfo
  contexts _ := .cleared
  cyNkoOlCfg := ⟨0, [], 0, 0, []⟩
  nkoCtx := none
  ip := .boot
  calls := []

/-- A client of the IP-change callback that is not this offload. -/
abbrev OtherIpClient := { cb : IpCallback // cb.cbFunc ≠ .nkoOlIpChange }

/-- The packet that `cylpa_nko_ol_disable_nat_keep_alive` passes to the driver. -/
def disablingKeepAlive : WhdKeepAlive :=
  { periodMsec := 0, lenBytes := 1, data := List.replicate 10 0 }

namespace NkoState

def setContext (s : NkoState) (ol : Handle) (ctxt : OlCtxt NkoOlCfg) : NkoState :=
  { s with contexts := Function.update s.contexts ol ctxt }

/-- A call of a client to the IP-change helper. -/
def ipClient (s : NkoState) (c : IpClientCall IpCallback) : NkoState :=
  { s with ip := s.ip.next id c }

/-- The offload's own callback. -/
def nkoClient (ol : Handle) : IpCallback := ⟨.nkoOlIpChange, some ol⟩

/-- `cylpa_configure_nat_keepalive` with `cy_nko_ol_cfg`. -/
def configure (s : NkoState) (ol : Handle) (l : NkoLocals) : ℤ × NkoState :=
  let r := configureNatKeepalive l.ans s.cyNkoOlCfg l.pkt l.pktBuf
  let call := r.2.map fun keepAlive =>
    ⟨(s.contexts ol).whd, keepAlive, l.ans.whdWifiKeepaliveConfig⟩
  (r.1, { s with calls := s.calls ++ call.toList })

/-- `cylpa_nko_ol_init`, with the statics it sets. -/
def init (s : NkoState) (ol : Handle) (cfg : Option NkoOlCfg) : ℤ × NkoState :=
  match cfg with
  | none => (resultOk, s.setContext ol .cleared)
  | some cfg =>
    let ctxt : OlCtxt NkoOlCfg := ⟨some cfg, s.olInfo.whd, true⟩
    let s := s.setContext ol ctxt
    if cyNkoSupported s.olInfo ctxt = false then (resultOk, s)
    else
      let res := cylpaNkoIsValidConfig ctxt.cfg
      if res ≠ resultOk then (res, s)
      else
        let s := { s with cyNkoOlCfg := cfg }
        let s := s.ipClient (.init (nkoClient ol))
        let s := s.ipClient (.register (nkoClient ol))
        (resultOk, { s with nkoCtx := some ol })

/-- `cylpa_nko_ol_disable_nat_keep_alive`; `answer` is the driver's. -/
def disable (s : NkoState) (ol : Handle) (answer : ℤ) : ℤ × NkoState :=
  (if answer ≠ whdSuccess then resultError else resultOk,
    { s with calls := s.calls ++ [⟨(s.contexts ol).whd, disablingKeepAlive, answer⟩] })

/-- `cylpa_nko_ol_deinit`. -/
def deinit (s : NkoState) (ol : Option Handle) (answer : ℤ) : NkoState :=
  match ol with
  | none => s
  | some ol =>
    if (s.contexts ol).whd = none then s
    else if cyNkoSupported s.olInfo (s.contexts ol) = false then s
    else
      let s := s.ipClient (.unregister (nkoClient ol))
      let s := (s.disable ol answer).2
      { s with nkoCtx := none }

/-- `cylpa_nko_ol_update_config`. -/
def updateConfig (s : NkoState) (cfg : Option NkoOlCfg) (l : NkoLocals) : ℤ × NkoState :=
  match s.nkoCtx, cfg with
  | some ol, some cfg =>
    if (s.contexts ol).whd = none then (resultError, s)
    else if cyNkoSupported s.olInfo (s.contexts ol) = false then (resultNotImplemented, s)
    else
      let res := cylpaNkoIsValidConfig (some cfg)
      if res ≠ resultOk then (res, s)
      else
        let s := { s with cyNkoOlCfg := cfg }
        s.configure ol l
  | _, _ => (resultError, s)

/-- `cylpa_nko_ol_nw_ip_change_callback`. -/
def nwIpChangeCallback (s : NkoState) (arg : Option Handle) (l : NkoLocals) : NkoState :=
  match arg with
  | some ol => (s.configure ol l).2
  | none => s

/-- The connection manager's event; what another client's function does is not this offload's. -/
def wcmEvent (s : NkoState) (event : CyWcmEvent) (eventData : Option CyWcmIpVersion)
    (l : NkoLocals) : NkoState :=
  (s.ip.delivered event eventData).foldl (fun s cb =>
    if cb.cbFunc = .nkoOlIpChange then s.nwIpChangeCallback cb.arg l else s) s

end NkoState

/-- A step of a run; `pm` does nothing. -/
inductive NkoEvent where
  /-- The offload manager writes its `ol_info`. -/
  | olInfo (info : OlInfo)
  | init (ol : Handle) (cfg : Option NkoOlCfg)
  | deinit (ol : Option Handle) (answer : ℤ)
  | pm (ol : Option Handle) (st : OlPmSt)
  | updateConfig (cfg : Option NkoOlCfg) (l : NkoLocals)
  | wcmEvent (event : CyWcmEvent) (eventData : Option CyWcmIpVersion) (l : NkoLocals)
  /-- Another client calls the IP-change helper. -/
  | otherClient (c : IpClientCall OtherIpClient)

/-- The call as one of any client. -/
def IpClientCall.val : IpClientCall OtherIpClient → IpClientCall IpCallback
  | .init k => .init k.1
  | .register k => .register k.1
  | .unregister k => .unregister k.1

def NkoState.step (s : NkoState) : NkoEvent → NkoState
  | .olInfo info => { s with olInfo := info }
  | .init ol cfg => (s.init ol cfg).2
  | .deinit ol answer => s.deinit ol answer
  | .pm _ _ => s
  | .updateConfig cfg l => (s.updateConfig cfg l).2
  | .wcmEvent event eventData l => s.wcmEvent event eventData l
  | .otherClient c => s.ipClient c.val

/-! ### What a receiver reads -/

/-- The keepalive a configuration asks for, as a receiver reads it; its addresses are those the
network stack and the driver gave. -/
structure ReadsAs (ans : NkoAnswers) (cfg : NkoOlCfg) (k : WhdKeepAlive) (p : Wire.Ipv4)
    (u : Wire.Udp) : Prop where
  period : k.periodMsec = cfg.interval
  ether : ∃ srcMac dstMac, ans.whdWifiGetMacAddress = some srcMac ∧
    ans.wcmGetGatewayMacAddress = some dstMac ∧
    Wire.ether (k.data.take k.lenBytes.toNat) = some
      { dst := dstMac.octet.toList, src := srcMac.octet.toList, etherType := 0x0800,
        payload := p.header ++ p.payload }
  ipv4 : Wire.ipv4 (p.header ++ p.payload) = some p
  protocol : p.protocol = 17
  src : ans.wcmGetIpAddr.map le32 = some p.src
  dst : ((ans.socketGethostbyname cfg.server).or ans.wcmGetGatewayIpAddress).map le32 = some p.dst
  udp : Wire.udp p.payload = some u
  srcPort : u.srcPort = cfg.sPort.toNat
  dstPort : u.dstPort = cfg.dPort.toNat
  payload : u.payload = cfg.payload
  header : onesSum p.header = 0xffff
  segment : onesSum (p.pseudoHeader ++ p.payload) = 0xffff

/-- What `cylpa_nko_get_details` has found out when it returns `RESULT_OK`. -/
structure Details (ans : NkoAnswers) (cfg : NkoOlCfg) (pkt : NatKeepalive) : Prop where
  srcip : ans.wcmGetIpAddr = some pkt.srcip
  dstip : (ans.socketGethostbyname cfg.server).or ans.wcmGetGatewayIpAddress = some pkt.dstip
  srcMac : ans.whdWifiGetMacAddress = some pkt.srcMac
  dstMac : ans.wcmGetGatewayMacAddress = some pkt.dstMac
  srcport : pkt.srcport = cfg.sPort
  dstport : pkt.dstport = cfg.dPort
  payloadLen : pkt.payloadLen.toNat = cfg.payload.length
  data : pkt.data = cfg.payload

section Reads

variable {ans : NkoAnswers} {cfg : NkoOlCfg} (hfits : cfg.Fits)

/-- Bytes copied to the front of an array are found there. -/
theorem take_bytesAt_memcpy {n : ℕ} (bs src : Bytes) (h : src.length ≤ n) :
    (bytesAt n (memcpy bs 0 src) 0).toList.take src.length = src := by
  rw [memcpy, List.take_zero, List.nil_append]
  refine List.ext_getElem (by simpa using h) fun i h₁ h₂ => ?_
  simp [bytesAt, List.getD_eq_getElem?_getD, List.getElem?_append_left h₂,
    List.getElem?_eq_getElem h₂]

include hfits in
/-- **The details** are the configuration's and the answers', whatever the locals held. -/
theorem details_of_nkoGetDetails (hbadarg : ans.whdBadarg ≠ resultOk) {pkt₀ pkt : NatKeepalive}
    (h : nkoGetDetails ans cfg pkt₀ = (resultOk, pkt)) : Details ans cfg pkt := by
  have hfits' : cfg.payload.length ≤ 127 := hfits
  have hmax : UInt16.ofNat cylpaNatKeepaliveMaxPayload = 127 := by decide
  have hlen : (UInt16.ofNat cfg.payload.length).toNat = cfg.payload.length :=
    UInt16.toNat_ofNat_of_lt (lt_of_le_of_lt hfits' (by decide))
  have hle : ¬ UInt16.ofNat cfg.payload.length > 127 := by
    rw [gt_iff_lt, UInt16.lt_iff_toNat_lt, hlen]
    exact not_lt.mpr hfits'
  have herr : resultError ≠ resultOk := by decide
  unfold nkoGetDetails at h
  rw [hmax] at h
  cases hsrc : ans.wcmGetIpAddr with
  | none => exact absurd (congrArg Prod.fst (hsrc ▸ h)) (by simpa using herr)
  | some srcip =>
  cases hdst : (ans.socketGethostbyname cfg.server).or ans.wcmGetGatewayIpAddress with
  | none => simp [hsrc, hdst, herr] at h
  | some dstip =>
  cases hmac : ans.whdWifiGetMacAddress with
  | none => simp [hsrc, hdst, hmac, herr] at h
  | some srcMac =>
  cases hgw : ans.wcmGetGatewayMacAddress with
  | none => simp [hsrc, hdst, hmac, hgw, hbadarg] at h
  | some dstMac =>
  simp only [hsrc, hdst, hmac, hgw, if_neg hle] at h
  by_cases hpos : UInt16.ofNat cfg.payload.length > 0
  · simp only [if_pos hpos, Prod.mk.injEq, true_and] at h
    subst h
    refine ⟨hsrc, hdst, hmac, hgw, rfl, rfl, hlen, ?_⟩
    simp only [NatKeepalive.data, hlen, List.take_length]
    exact take_bytesAt_memcpy _ _ hfits'
  · simp only [if_neg hpos, Prod.mk.injEq, true_and] at h
    subst h
    have hnil : cfg.payload = [] := by
      rw [gt_iff_lt, UInt16.lt_iff_toNat_lt, hlen] at hpos
      exact List.eq_nil_of_length_eq_zero (Nat.eq_zero_of_not_pos hpos)
    refine ⟨hsrc, hdst, hmac, hgw, rfl, rfl, hlen, ?_⟩
    simp [NatKeepalive.data, hnil]

include hfits in
/-- **A keepalive for the driver** reads as the configuration. -/
theorem configureNatKeepalive_reads (hbadarg : ans.whdBadarg ≠ resultOk) {pkt₀ : NatKeepalive}
    {pktBuf : Bytes} {k : WhdKeepAlive}
    (h : (configureNatKeepalive ans cfg pkt₀ pktBuf).2 = some k) :
    ∃ p u, ReadsAs ans cfg k p u := by
  have h42 : UInt16.ofNat natKeepaliveFixedLen = 42 := by decide
  cases hget : nkoGetDetails ans cfg pkt₀ with
  | mk result pkt =>
  by_cases hok : result = resultOk
  · subst hok
    have hd := details_of_nkoGetDetails hfits hbadarg hget
    have hlen : pkt.payloadLen.toNat ≤ cylpaNatKeepaliveMaxPayload := by
      rw [hd.payloadLen]
      exact hfits
    have hframe : (natFrame pkt).length = (42 + pkt.payloadLen).toNat := by
      rw [toNat_add_payloadLen hlen (by decide)]
      simp only [natFrame, List.length_append, WhdEtherHeader.length_toBytes,
        Ipv4Hdr.length_toBytes, UdpHdr.length_toBytes, length_data hlen]
      rfl
    simp only [configureNatKeepalive, hget, ne_eq, not_true_eq_false, if_false,
      nkoPrepPacket_eq hlen, h42, Option.some.injEq] at h
    subst h
    refine ⟨natIpv4 pkt, _, rfl, ⟨pkt.srcMac, pkt.dstMac, hd.srcMac, hd.dstMac, ?_⟩,
      wire_natIp hlen, rfl, by rw [hd.srcip]; rfl, by rw [hd.dstip]; rfl, wire_natUdp hlen, ?_, ?_,
      hd.data, (natIpWith pkt 0).verifies, natUdp_verifies hlen⟩
    · rw [← hframe, List.take_left]
      exact wire_natFrame pkt
    · rw [hd.srcport]
    · rw [hd.dstport]
  · simp [configureNatKeepalive, hget, hok] at h

end Reads

/-! ### The last configuration -/

/-- The offload is initialised, on a context it runs on. -/
def NkoState.running (s : NkoState) : Bool :=
  s.nkoCtx.any fun ol => (s.contexts ol).whd.isSome && cyNkoSupported s.olInfo (s.contexts ol)

/-- The configuration a step takes over. -/
def NkoState.takes (s : NkoState) : NkoEvent → Option NkoOlCfg
  | .init _ cfg =>
      if s.olInfo.fwNewInfra ≠ 0 then cfg.filter fun c => cylpaNkoIsValidConfig (some c) = resultOk
      else none
  | .updateConfig cfg _ =>
      if s.running then cfg.filter fun c => cylpaNkoIsValidConfig (some c) = resultOk else none
  | _ => none

/-- The state after some steps, and the last configuration taken over. -/
def nkoRun (s₀ : NkoState) (run : List NkoEvent) : NkoState × Option NkoOlCfg :=
  run.foldl (fun r e => (r.1.step e, (r.1.takes e).or r.2)) (s₀, none)

/-- What is promised of a step: its configuration fits, and `WHD_BADARG` is an error. -/
def NkoEvent.Sound : NkoEvent → Prop
  | .init _ cfg => ∀ c ∈ cfg, c.Fits
  | .updateConfig cfg l => (∀ c ∈ cfg, c.Fits) ∧ l.ans.whdBadarg ≠ resultOk
  | .wcmEvent _ _ l => l.ans.whdBadarg ≠ resultOk
  | _ => True

/-- What the answers of a step are, if it reads any. -/
def NkoEvent.answers : NkoEvent → Option NkoAnswers
  | .updateConfig _ l => some l.ans
  | .wcmEvent _ _ l => some l.ans
  | _ => none

theorem nkoRun_concat (s₀ : NkoState) (xs : List NkoEvent) (e : NkoEvent) :
    nkoRun s₀ (xs ++ [e]) = ((nkoRun s₀ xs).1.step e,
      ((nkoRun s₀ xs).1.takes e).or (nkoRun s₀ xs).2) := by
  simp [nkoRun]

/-- What a step takes over has passed the check. -/
theorem takes_spec {s : NkoState} {e : NkoEvent} {c : NkoOlCfg} (h : s.takes e = some c)
    (he : e.Sound) : c.Fits ∧ cylpaNkoIsValidConfig (some c) = resultOk := by
  have hfilter : ∀ cfg : Option NkoOlCfg,
      (cfg.filter fun c => cylpaNkoIsValidConfig (some c) = resultOk) = some c →
        cfg = some c ∧ cylpaNkoIsValidConfig (some c) = resultOk := by
    intro cfg hcfg
    simpa [Option.filter_eq_some_iff] using hcfg
  cases e with
  | init ol cfg =>
      simp only [NkoState.takes] at h
      split at h
      · exact ⟨he c (hfilter cfg h).1, (hfilter cfg h).2⟩
      · cases h
  | updateConfig cfg l =>
      simp only [NkoState.takes] at h
      split at h
      · exact ⟨he.1 c (hfilter cfg h).1, (hfilter cfg h).2⟩
      · cases h
  | _ => cases h

/-- The statics agree with what has been taken over: before anything is, the offload is reached
neither by an update nor by an event. -/
structure NkoInv (r : NkoState × Option NkoOlCfg) : Prop where
  cfg : ∀ c, r.2 = some c → r.1.cyNkoOlCfg = c ∧ c.Fits ∧
    cylpaNkoIsValidConfig (some c) = resultOk
  untouched : r.2 = none → r.1.nkoCtx = none ∧ r.1.ip.nw.cbFunc ≠ some .nkoOlIpChange
  registered : r.1.ip.wcmCallback = r.1.ip.nw.isWcmCallbackRegistered

/-! ### What the functions do -/

section Helper

variable {w : NwIpWorld} (h : w.wcmCallback = w.nw.isWcmCallbackRegistered)

include h in
theorem next_register (k : IpCallback) :
    w.next id (.register k) = ⟨{ w.nw with isWcmCallbackRegistered := true }, true⟩ := by
  obtain ⟨⟨f, arg, registered⟩, wcm⟩ := w
  cases h
  cases wcm <;> rfl

include h in
/-- Unregistering cuts everyone off. -/
theorem next_unregister (k : IpCallback) :
    w.next id (.unregister k) = ⟨{ w.nw with isWcmCallbackRegistered := false }, false⟩ := by
  obtain ⟨⟨f, arg, registered⟩, wcm⟩ := w
  cases h
  cases wcm <;> rfl

include h in
/-- The helper's flag is right about the connection manager, whoever calls it. -/
theorem registered_next (c : IpClientCall IpCallback) :
    (w.next id c).wcmCallback = (w.next id c).nw.isWcmCallbackRegistered := by
  cases c with
  | init k => exact h
  | register k => rw [next_register h]
  | unregister k => rw [next_unregister h]

/-- An event calls the function of the record, or nothing. -/
theorem delivered_cases (w : NwIpWorld) (event : CyWcmEvent) (eventData : Option CyWcmIpVersion) :
    w.delivered event eventData = [] ∨ w.wcmCallback = true ∧ ∃ f, w.nw.cbFunc = some f ∧
      w.delivered event eventData = [⟨f, w.nw.arg⟩] := by
  unfold NwIpWorld.delivered cyWcmEventCallbackFunc
  cases hw : w.wcmCallback with
  | false => exact .inl rfl
  | true =>
  split
  · split
    · split
      · unfold cylpaNwIpStatusChangeHandler
        cases hf : w.nw.cbFunc with
        | none => exact .inl rfl
        | some f => exact .inr ⟨rfl, f, rfl, rfl⟩
      · exact .inl rfl
    · exact .inl rfl
  · exact .inl rfl

end Helper

section Steps

variable (s : NkoState)

/-- **Configuring** hands over at most one keepalive, that of `cy_nko_ol_cfg`. -/
theorem configure_spec (ol : Handle) (l : NkoLocals) (hfits : s.cyNkoOlCfg.Fits)
    (hbadarg : l.ans.whdBadarg ≠ resultOk) :
    ∃ cs, (s.configure ol l).2 = { s with calls := s.calls ++ cs } ∧
      ∀ c ∈ cs, ∃ p u, ReadsAs l.ans s.cyNkoOlCfg c.keepAlive p u := by
  refine ⟨_, rfl, fun c hc => ?_⟩
  rw [Option.mem_toList, Option.map_eq_some_iff] at hc
  obtain ⟨k, hk, rfl⟩ := hc
  exact configureNatKeepalive_reads hfits hbadarg hk

/-- What an initialisation that takes a configuration over leaves, and what another one does. -/
theorem init_spec (h : s.ip.wcmCallback = s.ip.nw.isWcmCallbackRegistered) (ol : Handle)
    (cfg : Option NkoOlCfg) :
    (∃ c ctxt, s.takes (.init ol cfg) = some c ∧ (s.init ol cfg).2 =
      { s.setContext ol ctxt with
        cyNkoOlCfg := c
        nkoCtx := some ol
        ip := ⟨⟨some .nkoOlIpChange, some ol, true⟩, true⟩ }) ∨
    (∃ ctxt, s.takes (.init ol cfg) = none ∧ (s.init ol cfg).2 = s.setContext ol ctxt) := by
  cases cfg with
  | none => exact .inr ⟨.cleared, by simp [NkoState.takes], rfl⟩
  | some c =>
  have hsup : cyNkoSupported s.olInfo ⟨some c, s.olInfo.whd, true⟩ =
      decide (s.olInfo.fwNewInfra ≠ 0) := Bool.true_and _
  by_cases hinfra : s.olInfo.fwNewInfra = 0
  · refine .inr ⟨⟨some c, s.olInfo.whd, true⟩, by simp [NkoState.takes, hinfra], ?_⟩
    simp [NkoState.init, NkoState.setContext, hsup, hinfra]
  · by_cases hvalid : cylpaNkoIsValidConfig (some c) = resultOk
    · refine .inl ⟨c, ⟨some c, s.olInfo.whd, true⟩, ?_, ?_⟩
      · simp [NkoState.takes, hinfra, hvalid]
      · have hreg := next_register (w := s.ip.next id (.init (NkoState.nkoClient ol))) h
        simp only [NkoState.init, NkoState.setContext, hsup, ne_eq, hinfra, hvalid,
          NkoState.ipClient, hreg]
        rfl
    · refine .inr ⟨⟨some c, s.olInfo.whd, true⟩, ?_, ?_⟩
      · simp [NkoState.takes, hinfra, hvalid]
      · simp [NkoState.init, NkoState.setContext, hsup, hinfra, hvalid]

/-- **An update** takes its configuration over and configures with it, or is refused. -/
theorem updateConfig_spec (cfg : Option NkoOlCfg) (l : NkoLocals) :
    (∃ c ol, s.takes (.updateConfig cfg l) = some c ∧ cfg = some c ∧ s.nkoCtx = some ol ∧
      s.updateConfig cfg l = ({ s with cyNkoOlCfg := c } : NkoState).configure ol l) ∨
    (s.takes (.updateConfig cfg l) = none ∧ ∃ res, res ≠ resultOk ∧
      s.updateConfig cfg l = (res, s)) := by
  have herr : resultError ≠ resultOk := by decide
  have hnot : resultNotImplemented ≠ resultOk := by decide
  cases hctx : s.nkoCtx with
  | none => exact .inr ⟨by simp [NkoState.takes, NkoState.running, hctx], _, herr,
      by simp [NkoState.updateConfig, hctx]⟩
  | some ol =>
  cases cfg with
  | none => exact .inr ⟨by simp [NkoState.takes], _, herr, by simp [NkoState.updateConfig, hctx]⟩
  | some c =>
  by_cases hwhd : (s.contexts ol).whd = none
  · exact .inr ⟨by simp [NkoState.takes, NkoState.running, hctx, hwhd], _, herr,
      by simp [NkoState.updateConfig, hctx, hwhd]⟩
  have hsome : (s.contexts ol).whd.isSome := Option.isSome_iff_ne_none.mpr hwhd
  cases hsup : cyNkoSupported s.olInfo (s.contexts ol) with
  | false => exact .inr ⟨by simp [NkoState.takes, NkoState.running, hctx, hsup], _, hnot,
      by simp [NkoState.updateConfig, hctx, hwhd, hsup]⟩
  | true =>
  by_cases hvalid : cylpaNkoIsValidConfig (some c) = resultOk
  · refine .inl ⟨c, ol, ?_, rfl, rfl, ?_⟩
    · simp [NkoState.takes, NkoState.running, hctx, hsome, hsup, hvalid]
    · simp [NkoState.updateConfig, hctx, hwhd, hsup, hvalid]
  · exact .inr ⟨by simp [NkoState.takes, NkoState.running, hctx, hsome, hsup, hvalid], _, hvalid,
      by simp [NkoState.updateConfig, hctx, hwhd, hsup, hvalid]⟩

/-- **De-initialising** a context it runs on disables the keepalive and cuts the offload off; on
another it does nothing. -/
theorem deinit_spec (h : s.ip.wcmCallback = s.ip.nw.isWcmCallbackRegistered) (ol : Handle)
    (answer : ℤ) :
    s.deinit (some ol) answer =
      if (s.contexts ol).whd ≠ none ∧ cyNkoSupported s.olInfo (s.contexts ol) = true then
        { s with
          nkoCtx := none
          ip := ⟨{ s.ip.nw with isWcmCallbackRegistered := false }, false⟩
          calls := s.calls ++ [⟨(s.contexts ol).whd, disablingKeepAlive, answer⟩] }
      else s := by
  unfold NkoState.deinit
  by_cases hwhd : (s.contexts ol).whd = none
  · simp [hwhd]
  · cases hsup : cyNkoSupported s.olInfo (s.contexts ol) with
    | false => simp [hwhd, hsup]
    | true => simp [hwhd, hsup, NkoState.ipClient, NkoState.disable, next_unregister h]

/-- **An event** that reaches the offload configures with `cy_nko_ol_cfg`; another does nothing. -/
theorem wcmEvent_spec (event : CyWcmEvent) (eventData : Option CyWcmIpVersion) (l : NkoLocals) :
    s.wcmEvent event eventData l = s ∨
    (s.ip.wcmCallback = true ∧ s.ip.nw.cbFunc = some .nkoOlIpChange ∧
      ∃ ol, s.wcmEvent event eventData l = (s.configure ol l).2) := by
  unfold NkoState.wcmEvent
  rcases delivered_cases s.ip event eventData with hd | ⟨hwcm, f, hf, hd⟩
  · exact .inl (by rw [hd]; rfl)
  · rw [hd, List.foldl_cons, List.foldl_nil]
    by_cases hnko : f = .nkoOlIpChange
    · subst hnko
      simp only [if_true, NkoState.nwIpChangeCallback]
      cases harg : s.ip.nw.arg with
      | none => exact .inl rfl
      | some ol => exact .inr ⟨hwcm, hf, ol, rfl⟩
    · exact .inl (if_neg hnko)

/-! ### The offload of the list -/

/-- **As one of the list**, initialisation has the same result, context and callback. -/
theorem init_eq_cylpaNkoOlInit (ol : Handle) (cfg : Option NkoOlCfg) {w : ArpWorld}
    (hw : w.nw = s.ip.nw) :
    let r := cylpaNkoOlInit ol s.olInfo cfg w
    (s.init ol cfg).1 = r.1 ∧ (s.init ol cfg).2.contexts ol = r.2.1 ∧
      (s.init ol cfg).2.ip.nw = r.2.2.nw := by
  cases cfg with
  | none => exact ⟨rfl, Function.update_self .., hw.symm⟩
  | some c =>
  have hself := Function.update_self ol (⟨some c, s.olInfo.whd, true⟩ : OlCtxt NkoOlCfg) s.contexts
  cases hsup : cyNkoSupported s.olInfo ⟨some c, s.olInfo.whd, true⟩ with
  | false =>
      simp only [NkoState.init, cylpaNkoOlInit, NkoState.setContext, hsup, if_true]
      exact ⟨trivial, hself, hw.symm⟩
  | true =>
      by_cases hvalid : cylpaNkoIsValidConfig (some c) = resultOk
      · simp only [NkoState.init, cylpaNkoOlInit, NkoState.setContext, hsup, hvalid, ne_eq,
          not_true_eq_false, if_false, Bool.true_eq_false, ArpWorld.register, hw]
        exact ⟨trivial, hself, rfl⟩
      · simp only [NkoState.init, cylpaNkoOlInit, NkoState.setContext, hsup, hvalid, ne_eq,
          not_false_eq_true, if_true, if_false, Bool.true_eq_false]
        exact ⟨trivial, hself, hw.symm⟩

theorem deinit_eq_cylpaNkoOlDeinit (ol : Handle) (answer : ℤ) {w : ArpWorld}
    (hw : w.nw = s.ip.nw) :
    (cylpaNkoOlDeinit s.olInfo (s.contexts ol) w).map ArpWorld.nw =
      some (s.deinit (some ol) answer).ip.nw := by
  simp only [NkoState.deinit, cylpaNkoOlDeinit]
  split
  · rw [Option.map_some, hw]
  · split
    · rw [Option.map_some, hw]
    · rename_i hsup
      have hinfo : ¬ (s.contexts ol).olInfoPtr = false := fun h =>
        hsup (by simp [cyNkoSupported, h])
      rw [if_neg hinfo, Option.map_some, ArpWorld.unregister, hw]
      rfl

end Steps

/-! ### Runs -/

/-- A keepalive the step may hand over, `last` being the configuration last taken over. -/
inductive Allowed (e : NkoEvent) (last : Option NkoOlCfg) (k : WhdKeepAlive) : Prop where
  | disables (ol : Option Handle) (answer : ℤ) (he : e = .deinit ol answer)
      (hk : k = disablingKeepAlive)
  | configures (ans : NkoAnswers) (cfg : NkoOlCfg) (p : Wire.Ipv4) (u : Wire.Udp)
      (he : e.answers = some ans) (hlast : last = some cfg)
      (hvalid : cylpaNkoIsValidConfig (some cfg) = resultOk) (hk : ReadsAs ans cfg k p u)

section Runs

variable {r : NkoState × Option NkoOlCfg} {e : NkoEvent}

/-- The helper's flag is right throughout. -/
theorem registered_step {s : NkoState} (h : s.ip.wcmCallback = s.ip.nw.isWcmCallbackRegistered)
    (e : NkoEvent) : (s.step e).ip.wcmCallback = (s.step e).ip.nw.isWcmCallbackRegistered := by
  cases e with
  | olInfo info => exact h
  | pm ol st => exact h
  | otherClient c => exact registered_next h c.val
  | init ol cfg =>
      rcases init_spec s h ol cfg with ⟨c, ctxt, -, hs⟩ | ⟨ctxt, -, hs⟩
      · simp only [NkoState.step, hs]
      · simp only [NkoState.step, hs]
        exact h
  | deinit ol answer =>
      cases ol with
      | none => exact h
      | some ol =>
          simp only [NkoState.step, deinit_spec s h]
          split
          · rfl
          · exact h
  | updateConfig cfg l =>
      rcases updateConfig_spec s cfg l with ⟨c, ol, -, -, -, hs⟩ | ⟨-, res, -, hs⟩
      · rw [NkoState.step, hs]
        exact h
      · rw [NkoState.step, hs]
        exact h
  | wcmEvent event eventData l =>
      rcases wcmEvent_spec s event eventData l with hs | ⟨-, -, ol, hs⟩
      · rw [NkoState.step, hs]
        exact h
      · rw [NkoState.step, hs]
        exact h

/-- **A step** keeps the invariant. -/
theorem NkoInv.step (hinv : NkoInv r) (he : e.Sound) :
    NkoInv (r.1.step e, (r.1.takes e).or r.2) := by
  obtain ⟨s, last⟩ := r
  have hreg : s.ip.wcmCallback = s.ip.nw.isWcmCallbackRegistered := hinv.registered
  have hreg' := registered_step hreg e
  -- where nothing is taken over, and the statics stay
  have hsame : s.takes e = none → (s.step e).cyNkoOlCfg = s.cyNkoOlCfg →
      (last = none → (s.step e).nkoCtx = none ∧
        (s.step e).ip.nw.cbFunc ≠ some .nkoOlIpChange) →
      NkoInv (s.step e, (s.takes e).or last) := by
    intro htakes hcfg huntouched
    rw [htakes, Option.none_or]
    exact ⟨fun c hc => by rw [hcfg]; exact hinv.cfg c hc, huntouched, hreg'⟩
  -- where a configuration is
  have htaken : ∀ c, s.takes e = some c → (s.step e).cyNkoOlCfg = c →
      NkoInv (s.step e, (s.takes e).or last) := by
    intro c htakes hcfg
    rw [htakes, Option.some_or]
    refine ⟨fun c' hc' => ?_, nofun, hreg'⟩
    cases hc'
    exact ⟨hcfg, takes_spec htakes he⟩
  cases e with
  | olInfo info => exact hsame rfl rfl hinv.untouched
  | pm ol st => exact hsame rfl rfl hinv.untouched
  | init ol cfg =>
      rcases init_spec s hreg ol cfg with ⟨c, ctxt, htakes, hs⟩ | ⟨ctxt, htakes, hs⟩
      · exact htaken c htakes (by rw [NkoState.step, hs])
      · refine hsame htakes (by rw [NkoState.step, hs]; rfl) ?_
        rw [NkoState.step, hs]
        exact hinv.untouched
  | deinit ol answer =>
      cases ol with
      | none => exact hsame rfl rfl hinv.untouched
      | some ol =>
          rw [NkoState.step, deinit_spec s hreg] at hsame
          rw [NkoState.step, deinit_spec s hreg]
          split at hsame
          · rename_i hon
            rw [if_pos hon]
            exact hsame rfl rfl fun hl => ⟨rfl, (hinv.untouched hl).2⟩
          · rename_i hon
            rw [if_neg hon]
            exact hsame rfl rfl hinv.untouched
  | updateConfig cfg l =>
      rcases updateConfig_spec s cfg l with ⟨c, ol, htakes, -, -, hs⟩ | ⟨htakes, res, -, hs⟩
      · exact htaken c htakes (by rw [NkoState.step, hs]; rfl)
      · refine hsame htakes (by rw [NkoState.step, hs]) ?_
        rw [NkoState.step, hs]
        exact hinv.untouched
  | wcmEvent event eventData l =>
      rcases wcmEvent_spec s event eventData l with hs | ⟨-, -, ol, hs⟩
      · refine hsame rfl (by rw [NkoState.step, hs]) ?_
        rw [NkoState.step, hs]
        exact hinv.untouched
      · refine hsame rfl (by rw [NkoState.step, hs]; rfl) ?_
        rw [NkoState.step, hs]
        exact hinv.untouched
  | otherClient c =>
      refine hsame rfl rfl fun hl => ⟨(hinv.untouched hl).1, ?_⟩
      cases c with
      | init k => exact fun h => k.2 (Option.some.inj h)
      | register k =>
          simp only [NkoState.step, IpClientCall.val, NkoState.ipClient, next_register hreg]
          exact (hinv.untouched hl).2
      | unregister k =>
          simp only [NkoState.step, IpClientCall.val, NkoState.ipClient, next_unregister hreg]
          exact (hinv.untouched hl).2

theorem NkoInv.taken (hinv : NkoInv r) (h : r.1.ip.nw.cbFunc = some .nkoOlIpChange) :
    ∃ c, r.2 = some c := by
  refine Option.ne_none_iff_exists'.mp fun hnone => ?_
  exact (hinv.untouched hnone).2 h

/-- **A step** hands over what it may. -/
theorem NkoInv.handed (hinv : NkoInv r) (he : e.Sound) :
    ∃ cs, (r.1.step e).calls = r.1.calls ++ cs ∧
      ∀ c ∈ cs, Allowed e ((r.1.takes e).or r.2) c.keepAlive := by
  obtain ⟨s, last⟩ := r
  have hnothing : ∀ s' : NkoState, s'.calls = s.calls → ∃ cs, s'.calls = s.calls ++ cs ∧
      ∀ c ∈ cs, Allowed e ((s.takes e).or last) c.keepAlive :=
    fun s' h => ⟨[], by rw [h, List.append_nil], nofun⟩
  cases e with
  | olInfo info => exact hnothing _ rfl
  | pm ol st => exact hnothing _ rfl
  | otherClient c => exact hnothing _ rfl
  | init ol cfg =>
      rcases init_spec s hinv.registered ol cfg with ⟨c, ctxt, -, hs⟩ | ⟨ctxt, -, hs⟩
      · exact hnothing _ (by rw [NkoState.step, hs]; rfl)
      · exact hnothing _ (by rw [NkoState.step, hs]; rfl)
  | deinit ol answer =>
      cases ol with
      | none => exact hnothing _ rfl
      | some ol =>
          rw [NkoState.step, deinit_spec s hinv.registered]
          split
          · refine ⟨_, rfl, fun c hc => ?_⟩
            rw [List.mem_singleton] at hc
            exact .disables _ _ rfl (by rw [hc])
          · exact hnothing _ rfl
  | updateConfig cfg l =>
      rcases updateConfig_spec s cfg l with ⟨c, ol, htakes, -, -, hs⟩ | ⟨-, res, -, hs⟩
      · obtain ⟨hfits, hvalid⟩ := takes_spec htakes he
        obtain ⟨cs, hcs, hreads⟩ :=
          configure_spec { s with cyNkoOlCfg := c } ol l hfits he.2
        refine ⟨cs, by rw [NkoState.step, hs, hcs], fun k hk => ?_⟩
        obtain ⟨p, u, hk⟩ := hreads k hk
        exact .configures l.ans c p u rfl (by rw [htakes, Option.some_or]) hvalid hk
      · exact hnothing _ (by rw [NkoState.step, hs])
  | wcmEvent event eventData l =>
      rcases wcmEvent_spec s event eventData l with hs | ⟨-, hf, ol, hs⟩
      · exact hnothing _ (by rw [NkoState.step, hs])
      · obtain ⟨c, hlast⟩ := hinv.taken hf
        obtain ⟨hcfg, hfits, hvalid⟩ := hinv.cfg c hlast
        change s.cyNkoOlCfg = c at hcfg
        obtain ⟨cs, hcs, hreads⟩ := configure_spec s ol l (by rw [hcfg]; exact hfits) he
        rw [hcfg] at hreads
        refine ⟨cs, by rw [NkoState.step, hs, hcs], fun k hk => ?_⟩
        obtain ⟨p, u, hk⟩ := hreads k hk
        exact .configures l.ans c p u rfl hlast hvalid hk

end Runs

theorem nkoInv_run (olInfo : OlInfo) {run : List NkoEvent} (hrun : ∀ e ∈ run, e.Sound) :
    NkoInv (nkoRun (.boot olInfo) run) := by
  induction run using List.reverseRecOn with
  | nil => exact ⟨nofun, fun _ => ⟨rfl, nofun⟩, rfl⟩
  | append_singleton run e ih =>
      rw [nkoRun_concat]
      exact (ih fun e he => hrun e (List.mem_append_left _ he)).step (hrun e (by simp))

/-- **Every NAT keepalive is the configuration last taken over.**  Whatever the offload, the other
clients of the IP-change callback, the network stack and the driver have done, what a step hands
to the driver is the keepalive that disables, at a de-initialisation; or the step has answers of
the network stack, and a receiver reads the addresses they gave and the interval, ports and
payload of the configuration that last passed its check, in a frame both of whose checksums
verify. -/
theorem nko_keepalives (olInfo : OlInfo) (xs : List NkoEvent) (e : NkoEvent)
    (hrun : ∀ x ∈ xs ++ [e], x.Sound) :
    ∃ cs, (nkoRun (.boot olInfo) (xs ++ [e])).1.calls =
        (nkoRun (.boot olInfo) xs).1.calls ++ cs ∧
      ∀ c ∈ cs, Allowed e (nkoRun (.boot olInfo) (xs ++ [e])).2 c.keepAlive := by
  have hinv := nkoInv_run olInfo fun x hx => hrun x (List.mem_append_left _ hx)
  rw [nkoRun_concat]
  exact hinv.handed (hrun e (by simp))

/-- A server that cannot be looked up, so that the gateway is the destination. -/
def natLocals : NkoLocals where
  ans :=
    { wcmGetIpAddr := some 0x0a00000a, socketGethostbyname := fun _ => none,
      wcmGetGatewayIpAddress := some 0x0100000a,
      whdWifiGetMacAddress := some ⟨.replicate 6 2⟩,
      wcmGetGatewayMacAddress := some ⟨.replicate 6 4⟩, whdWifiKeepaliveConfig := 0,
      whdBadarg := 5 }
  pkt := oddKeepalive
  pktBuf := List.replicate 169 0xcc

/-- A keepalive of three bytes every twenty seconds. -/
def natConfig : NkoOlCfg := ⟨20000, [0x73], 4500, 4500, [1, 2, 3]⟩

/-- A new IP address after the initialisation. -/
theorem nko_keepalives_ipChanged :
    let run : List NkoEvent :=
      [.init 0 (some natConfig), .wcmEvent .ipChanged (some .v4) natLocals]
    (nkoRun (.boot ⟨some 1, some 2, none, 1⟩) run).1.calls.length = 1 ∧
      ∀ c ∈ (nkoRun (.boot ⟨some 1, some 2, none, 1⟩) run).1.calls,
        Allowed (.wcmEvent .ipChanged (some .v4) natLocals) (some natConfig) c.keepAlive := by
  obtain ⟨cs, hcs, hall⟩ := nko_keepalives ⟨some 1, some 2, none, 1⟩ [.init 0 (some natConfig)]
    (.wcmEvent .ipChanged (some .v4) natLocals) (by
      intro x hx
      rcases List.mem_pair.mp hx with rfl | rfl
      · intro c hc
        cases hc
        exact (by decide : natConfig.payload.length ≤ cylpaNatKeepaliveMaxPayload)
      · exact (by decide : natLocals.ans.whdBadarg ≠ resultOk))
  refine ⟨rfl, fun c hc => hall c ?_⟩
  exact (List.nil_append cs ▸ hcs ▸ hc)

/-! ### After de-initialisation -/

/-- The offload is reached neither by an update nor by an event. -/
structure NkoState.Off (s : NkoState) : Prop where
  nkoCtx : s.nkoCtx = none
  wcmCallback : s.ip.wcmCallback = false
  flag : s.ip.nw.isWcmCallbackRegistered = false

/-- A step that may bring the offload back: an initialisation that takes its configuration over,
or another client's registration, which is everyone's. -/
def NkoState.Restarts (s : NkoState) : NkoEvent → Prop
  | .init ol cfg => s.takes (.init ol cfg) ≠ none
  | .otherClient (.register _) => True
  | _ => False

/-- None of the steps brings the offload back. -/
def NkoState.Unrestarted : NkoState → List NkoEvent → Prop
  | _, [] => True
  | s, e :: es => ¬ s.Restarts e ∧ (s.step e).Unrestarted es

/-- The keepalive the firmware of an interface has: the last one the driver accepted. -/
def firmwareKeepalive (whd : Option Handle) (calls : List NatKeepaliveCall) :
    Option WhdKeepAlive :=
  (calls.filter fun c => c.whd = whd ∧ c.answer = whdSuccess).getLast?.map (·.keepAlive)

namespace NkoState.Off

variable {s : NkoState} (hoff : s.Off)
include hoff

/-- An update is refused. -/
theorem updateConfig (cfg : Option NkoOlCfg) (l : NkoLocals) :
    s.updateConfig cfg l = (resultError, s) := by
  simp [NkoState.updateConfig, hoff.nkoCtx]

/-- An event does not reach the offload. -/
theorem wcmEvent (event : CyWcmEvent) (eventData : Option CyWcmIpVersion) (l : NkoLocals) :
    s.wcmEvent event eventData l = s := by
  rcases wcmEvent_spec s event eventData l with hs | ⟨hon, -⟩
  · exact hs
  · rw [hoff.wcmCallback] at hon
    cases hon

/-- **A step** leaves the offload off, and hands over nothing but what disables. -/
theorem step {e : NkoEvent} (he : ¬ s.Restarts e) :
    (s.step e).Off ∧ ∃ cs, (s.step e).calls = s.calls ++ cs ∧
      ∀ c ∈ cs, c.keepAlive = disablingKeepAlive := by
  have hreg : s.ip.wcmCallback = s.ip.nw.isWcmCallbackRegistered :=
    hoff.wcmCallback.trans hoff.flag.symm
  have hsame : ∀ s' : NkoState, s'.nkoCtx = s.nkoCtx → s'.ip = s.ip → s'.calls = s.calls →
      s'.Off ∧ ∃ cs, s'.calls = s.calls ++ cs ∧ ∀ c ∈ cs, c.keepAlive = disablingKeepAlive := by
    intro s' hctx hip hcalls
    refine ⟨⟨hctx.trans hoff.nkoCtx, by rw [hip]; exact hoff.wcmCallback, ?_⟩, [], ?_, nofun⟩
    · rw [hip]
      exact hoff.flag
    · rw [hcalls, List.append_nil]
  cases e with
  | olInfo info => exact hsame _ rfl rfl rfl
  | pm ol st => exact hsame _ rfl rfl rfl
  | init ol cfg =>
      rcases init_spec s hreg ol cfg with ⟨c, ctxt, htakes, -⟩ | ⟨ctxt, -, hs⟩
      · exact absurd (by rw [Restarts, htakes]; nofun) he
      · rw [NkoState.step, hs]
        exact hsame _ rfl rfl rfl
  | deinit ol answer =>
      cases ol with
      | none => exact hsame _ rfl rfl rfl
      | some ol =>
          rw [NkoState.step, deinit_spec s hreg]
          split
          · refine ⟨⟨rfl, rfl, rfl⟩, _, rfl, fun c hc => ?_⟩
            rw [List.mem_singleton.mp hc]
          · exact hsame _ rfl rfl rfl
  | updateConfig cfg l =>
      rw [NkoState.step, hoff.updateConfig]
      exact hsame _ rfl rfl rfl
  | wcmEvent event eventData l =>
      rw [NkoState.step, hoff.wcmEvent]
      exact hsame _ rfl rfl rfl
  | otherClient c =>
      refine ⟨?_, [], by rw [List.append_nil]; rfl, nofun⟩
      cases c with
      | init k => exact ⟨hoff.nkoCtx, hoff.wcmCallback, hoff.flag⟩
      | register k => exact absurd trivial he
      | unregister k =>
          refine ⟨hoff.nkoCtx, ?_, ?_⟩
          · simp only [NkoState.step, IpClientCall.val, NkoState.ipClient, next_unregister hreg]
          · simp only [NkoState.step, IpClientCall.val, NkoState.ipClient, next_unregister hreg]

/-- **Steps** leave the offload off, and hand over nothing but what disables. -/
theorem steps {es : List NkoEvent} (hes : s.Unrestarted es) :
    (es.foldl NkoState.step s).Off ∧ ∃ cs, (es.foldl NkoState.step s).calls = s.calls ++ cs ∧
      ∀ c ∈ cs, c.keepAlive = disablingKeepAlive := by
  induction es generalizing s with
  | nil => exact ⟨hoff, [], by rw [List.append_nil]; rfl, nofun⟩
  | cons e es ih =>
      obtain ⟨hoff₁, cs, hcs, hall⟩ := hoff.step hes.1
      obtain ⟨hoff₂, ds, hds, hall'⟩ := ih hoff₁ hes.2
      refine ⟨hoff₂, cs ++ ds, ?_, fun c hc => ?_⟩
      · rw [List.foldl_cons, hds, hcs, List.append_assoc]
      · rcases List.mem_append.mp hc with hc | hc
        · exact hall c hc
        · exact hall' c hc

end NkoState.Off

theorem firmwareKeepalive_append {whd : Option Handle} (calls : List NatKeepaliveCall)
    {cs : List NatKeepaliveCall} {k : WhdKeepAlive} (hall : ∀ c ∈ cs, c.keepAlive = k)
    (hex : ∃ c ∈ cs, c.whd = whd ∧ c.answer = whdSuccess) :
    firmwareKeepalive whd (calls ++ cs) = some k := by
  obtain ⟨c, hc, haccepted⟩ := hex
  have hne : (cs.filter fun c => c.whd = whd ∧ c.answer = whdSuccess) ≠ [] :=
    List.ne_nil_of_mem (List.mem_filter.mpr ⟨hc, by simpa using haccepted⟩)
  have hlast := hall _ (List.mem_of_mem_filter (List.getLast_mem hne))
  rw [firmwareKeepalive, List.filter_append, List.getLast?_append,
    List.getLast?_eq_some_getLast hne, Option.some_or, Option.map_some, hlast]

theorem registered_run (olInfo : OlInfo) (run : List NkoEvent) :
    (nkoRun (.boot olInfo) run).1.ip.wcmCallback =
      (nkoRun (.boot olInfo) run).1.ip.nw.isWcmCallbackRegistered := by
  induction run using List.reverseRecOn with
  | nil => rfl
  | append_singleton run e ih =>
      rw [nkoRun_concat]
      exact registered_step ih e

/-- **De-initialised, the offload stays off.**  From the de-initialisation of a context that runs,
in whatever run, until an initialisation takes a configuration over or another client registers
the callback: the driver is handed the disabling keepalive, and nothing later that does not
disable; if it accepted that one the firmware's keepalive stays disabled; updates are refused, and
events do not reach the offload. -/
theorem nko_staysOff (olInfo : OlInfo) (xs : List NkoEvent) (ol : Handle) (answer : ℤ)
    (ys : List NkoEvent) {s s' : NkoState} (hs : s = (nkoRun (.boot olInfo) xs).1)
    (hwhd : (s.contexts ol).whd ≠ none)
    (hsup : cyNkoSupported s.olInfo (s.contexts ol) = true)
    (hys : (s.step (.deinit (some ol) answer)).Unrestarted ys)
    (hs' : s' = ys.foldl NkoState.step (s.step (.deinit (some ol) answer))) :
    (∃ cs, s'.calls = s.calls ++ ⟨(s.contexts ol).whd, disablingKeepAlive, answer⟩ :: cs ∧
      ∀ c ∈ cs, c.keepAlive = disablingKeepAlive) ∧
    (answer = whdSuccess →
      firmwareKeepalive (s.contexts ol).whd s'.calls = some disablingKeepAlive) ∧
    (∀ cfg l, s'.updateConfig cfg l = (resultError, s')) ∧
    ∀ event eventData l, s'.wcmEvent event eventData l = s' := by
  have hreg : s.ip.wcmCallback = s.ip.nw.isWcmCallbackRegistered := hs ▸ registered_run olInfo xs
  have hdeinit := deinit_spec s hreg ol answer
  rw [if_pos ⟨hwhd, hsup⟩] at hdeinit
  rw [NkoState.step, hdeinit] at hys hs'
  obtain ⟨hoff, cs, hcs, hall⟩ := NkoState.Off.steps ⟨rfl, rfl, rfl⟩ hys
  rw [← hs'] at hoff hcs
  refine ⟨⟨cs, by rw [hcs, List.append_assoc, List.singleton_append], hall⟩, fun hok => ?_,
    hoff.updateConfig, hoff.wcmEvent⟩
  rw [hcs, List.append_assoc, List.singleton_append]
  refine firmwareKeepalive_append _ (fun c hc => ?_) ⟨_, List.mem_cons_self, rfl, hok⟩
  rcases List.mem_cons.mp hc with rfl | hc
  · rfl
  · exact hall c hc

/-- An update and a new IP address after the de-initialisation. -/
theorem nko_staysOff_disconnected :
    let s := (nkoRun (.boot ⟨some 1, some 2, none, 1⟩) [.init 0 (some natConfig),
      .wcmEvent .ipChanged (some .v4) natLocals]).1
    let s' := [NkoEvent.updateConfig (some natConfig) natLocals, .wcmEvent .ipChanged (some .v4)
      natLocals].foldl NkoState.step (s.step (.deinit (some 0) whdSuccess))
    firmwareKeepalive (some 1) s'.calls = some disablingKeepAlive :=
  (nko_staysOff ⟨some 1, some 2, none, 1⟩ [.init 0 (some natConfig), .wcmEvent .ipChanged
    (some .v4) natLocals] 0 whdSuccess [.updateConfig (some natConfig) natLocals, .wcmEvent
    .ipChanged (some .v4) natLocals] rfl nofun rfl ⟨id, id, trivial⟩ rfl).2.1 rfl

end Lpa
