import Lpa.Keepalive.TkoActivate
import Lpa.Keepalive.TkoSessions
import Lpa.Tlsoe.Sockets

/-!
# Keepalive — going to sleep with connections to keep alive

`cylpa_tko_ol_pm` over the table of connections and the network stack: each slot of the table is
looked up among the sockets (`sock_stats`), and what is found goes to the firmware as a connect
request (`whd_tko_activate`).

* `sockStats_spec`: what is found, in either network stack, is a socket of the slot's ports and
  address.
* `tkoPm_sent`: one request is sent for each slot whose socket and addresses are found, unless the
  probe has the bad sum.
* `tkoPm_on`: TKO is on in the firmware afterwards if it was before, or if the firmware takes one
  of the requests and lets itself be turned on.
* `tko_sleep_keepsAlive`: so, whatever the calls that have filled the table, the connections
  updated last are kept alive, each by two frames that read as its own.
-/

namespace Lpa

/-! ### The sockets of the network stack -/

/-- The sockets there are: in the build without TCP keepalive none is looked up. -/
inductive StackSockets where
  | lwip (pcbs : TcpPcbLists)
  | netxduo (ip : NxIp)
  | noKeepalive

/-- A `sock_seq_t` cleared with `memset`. -/
def SockSeq.cleared : SockSeq :=
  ⟨⟨.replicate 6 0⟩, ⟨.replicate 6 0⟩, 0, 0, 0, 0, 0, 0, 0⟩

/-- `sock_stats`; `stoip4` gives an address in network order. -/
def sockStats (stoip4 : String → UInt32) (key : SockKey) : StackSockets → Option SockSeq
  | .lwip pcbs => (Lwip.findPcb stoip4 key pcbs).map (Lwip.stats .cleared)
  | .netxduo ip =>
      (Netxduo.getLoop stoip4 key ip.createdSocketsCount.toNat ip.createdSockets).map
        (Netxduo.stats ip .cleared)
  | .noKeepalive => none

/-- The socket of a key. -/
structure SockSeq.HasKey (stoip4 : String → UInt32) (key : SockKey) (seq : SockSeq) : Prop where
  srcport : seq.srcport = key.localPort
  dstport : seq.dstport = key.remotePort
  dstip : seq.dstip = stoip4 key.remoteIp

section Stats

variable {stoip4 : String → UInt32} {key : SockKey}

theorem Lwip.hasKey_of_findInList {list : TcpPcb} {lists : List TcpPcb}
    (h : findInList stoip4 key lists = some list) : HasKey stoip4 key list := by
  induction lists with
  | nil => cases h
  | cons list' next ih =>
      rw [findInList] at h
      split at h
      · rename_i hkey
        cases h
        exact hkey
      · exact ih h

theorem Lwip.hasKey_of_findPcb {list : TcpPcb} {pcbs : TcpPcbLists}
    (h : findPcb stoip4 key pcbs = some list) : HasKey stoip4 key list := by
  unfold findPcb at h
  rcases (Option.orElse_eq_some _ _ _).mp h with h | ⟨-, h⟩
  · exact hasKey_of_findInList h
  · rcases (Option.orElse_eq_some _ _ _).mp h with h | ⟨-, h⟩
    · exact hasKey_of_findInList h
    · exact hasKey_of_findInList h

/-- **What is found** has the ports and the address asked for. -/
theorem sockStats_spec {sockets : StackSockets} {seq : SockSeq}
    (h : sockStats stoip4 key sockets = some seq) : seq.HasKey stoip4 key := by
  cases sockets with
  | lwip pcbs =>
      obtain ⟨list, hlist, rfl⟩ := Option.map_eq_some_iff.mp h
      obtain ⟨hlocal, hremote, hip⟩ := Lwip.hasKey_of_findPcb hlist
      exact ⟨hlocal, hremote, hip⟩
  | netxduo ip =>
      obtain ⟨socket, hsocket, rfl⟩ := Option.map_eq_some_iff.mp h
      rw [Netxduo.getLoop_eq ip.count_eq.ge] at hsocket
      obtain ⟨-, -, hlocal, hremote, hip⟩ : Netxduo.Offloaded stoip4 key socket := by
        simpa using List.find?_some hsocket
      exact ⟨hlocal, hremote, by rw [Netxduo.stats, hip, hton32_hton32]⟩
  | noKeepalive => cases h

end Stats

/-! ### Going to sleep -/

/-- What the offload is built with: the layout of the request, `WHD_BADARG` and `stoip4`. -/
structure TkoBuild where
  layout : TkoLayout
  whdBadarg : ℤ
  badarg_ne : whdBadarg ≠ whdSuccess
  stoip4 : String → UInt32

/-- The answers to a notification, slot by slot; `unterminated` is what `sock_stats` finds where
it reads on past the end of a slot's address, and `registered` tells whether the driver registers
the handler for events. -/
structure TkoSleepAnswers where
  unterminated : ℕ → Option SockSeq
  search : UInt32 → ℤ × WhdMac
  macAddress : ℕ → Option WhdMac
  gateway : ℕ → Option WhdMac
  buffer : ℕ → WlTkoConnect
  setIovar : ℕ → ℤ
  toggle : ℤ
  entry : UInt16
  registered : Bool

/-- The characters of an address. -/
def asciiString (s : Bytes) : String := String.ofList (s.map fun c => Char.ofNat c.toNat)

/-- What a connection is looked up by. -/
def TkoConnection.key (c : TkoConnection) : SockKey :=
  ⟨c.localPort, c.remotePort, asciiString c.remoteIp.chars⟩

section Sleep

variable (b : TkoBuild) {max : MaxTko} (t : TkoTable max) (sockets : StackSockets)
variable (ans : TkoSleepAnswers)

/-- A slot of the table. -/
def TkoTable.port (i : Fin max.val) : CyTkoOlConnect := t.cfg.ports.get i

/-- `sock_stats` for a slot. -/
def slotStats (i : Fin max.val) : Option SockSeq :=
  match cString (t.port i).remoteIp with
  | some remoteIp =>
    sockStats b.stoip4 ⟨(t.port i).localPort, (t.port i).remotePort, asciiString remoteIp⟩ sockets
  | none => ans.unterminated i

/-- The numbers and addresses `whd_tko_activate` is answered for a slot. -/
def slotAnswers (i : Fin max.val) : AddressAnswers where
  sockStats := slotStats b t sockets ans i
  macAddress := ans.macAddress i
  gateway := ans.gateway i

/-- `whd_tko_activate` for a slot. -/
def activateSlot (i : Fin max.val) : ℤ × Option WlTko :=
  whdTkoActivate b.layout b.whdBadarg ans.search (UInt8.ofNat i)
    { slotAnswers b t sockets ans i with
      buffer := ans.buffer i
      setIovar := ans.setIovar i }

/-- `whd_tko_activate` for each slot, as `cylpa_tko_ol_pm` is answered. -/
def TkoSleepAnswers.toAnswers : TkoAnswers where
  activate i := if h : i < max.val then (activateSlot b t sockets ans ⟨i, h⟩).1 else whdSuccess
  toggle := ans.toggle
  entry := ans.entry

/-- `cylpa_tko_ol_pm` over the offload's state, with the connect requests it sends. -/
def tkoPm (st : OlPmSt) (s : TkoHost) : TkoHost × List WlTko :=
  (s.pm max.val st (ans.toAnswers b t sockets) ans.registered,
    if s.ctxt.whd.isSome ∧ st = .goingToSleep ∧ s.olInfo.fwNewInfra = 0 then
      (List.finRange max.val).filterMap fun i => (activateSlot b t sockets ans i).2
    else [])

variable {b t sockets ans} {i : Fin max.val} {seq : SockSeq}

/-- The length of a response, or the error taken for one. -/
def SockSeq.responseLen (seq : SockSeq) : UInt16 := if seq.BadSum then 0xfffe else 54

theorem activateSlot_of_none (h : tkoAddresses ans.search (slotAnswers b t sockets ans i) = none) :
    activateSlot b t sockets ans i = (b.whdBadarg, none) := by
  simp only [activateSlot, whdTkoActivate, h]

theorem activateSlot_of_badSum
    (h : tkoAddresses ans.search (slotAnswers b t sockets ans i) = some seq)
    (hprobe : seq.probe.BadSum) : activateSlot b t sockets ans i = (tkoError, none) := by
  have hinit := tkoConnectInit_of_badSum b.layout.offsetofConnectData (ans.buffer i)
    (UInt8.ofNat i) hprobe
  simp only [activateSlot, whdTkoActivate, h, hinit, if_true]

/-- **A slot whose socket and addresses are found** is sent as a request. -/
theorem activateSlot_eq (h : tkoAddresses ans.search (slotAnswers b t sockets ans i) = some seq)
    (hprobe : ¬ seq.probe.BadSum) :
    ∃ len, activateSlot b t sockets ans i = (ans.setIovar i, some
      ⟨b.layout.wlTkoSubcmdConnect, len,
        tkoRequest (ans.buffer i) seq (UInt8.ofNat i) seq.responseLen⟩) := by
  have hinit := tkoConnectInit_eq b.layout.offsetofConnectData (ans.buffer i) (UInt8.ofNat i) seq
    hprobe (show seq.responseLen = if seq.BadSum then 0xfffe else 54 from rfl)
  have hne : ((b.layout.offsetofConnectData + 8 + 54 + seq.responseLen.toNat : ℕ) : ℤ) ≠
      tkoError := by
    have hlt := b.layout.connectData_lt
    have herror : tkoError = 65534 := rfl
    unfold SockSeq.responseLen
    split
    · have hlen : (0xfffe : UInt16).toNat = 65534 := rfl
      omega
    · have hlen : (54 : UInt16).toNat = 54 := rfl
      omega
  simp only [activateSlot, whdTkoActivate, h, hinit, if_neg hne]
  exact ⟨_, rfl⟩

/-- **Activation succeeds** exactly where a request is sent and the firmware takes it. -/
theorem activateSlot_success : (activateSlot b t sockets ans i).1 = whdSuccess ↔
    (activateSlot b t sockets ans i).2.isSome ∧ ans.setIovar i = whdSuccess := by
  cases h : tkoAddresses ans.search (slotAnswers b t sockets ans i) with
  | none =>
      rw [activateSlot_of_none h]
      exact iff_of_false b.badarg_ne (by simp)
  | some seq =>
      by_cases hprobe : seq.probe.BadSum
      · rw [activateSlot_of_badSum h hprobe]
        exact iff_of_false (by decide) (by simp)
      · obtain ⟨len, heq⟩ := activateSlot_eq h hprobe
        rw [heq]
        simp

end Sleep

/-! ### What is sent -/

/-- A frame that reads as a keepalive of a socket, from the host's address to the peer's. -/
structure TkoFrameReads (frame : Bytes) (seq : SockSeq) : Prop where
  ether : ∃ p : Wire.Ipv4, Wire.ether frame = some
      { dst := seq.dstMac.octet.toList, src := seq.srcMac.octet.toList, etherType := 0x0800,
        payload := p.header ++ p.payload } ∧
    Wire.ipv4 (p.header ++ p.payload) = some p ∧ p.protocol = 6 ∧
    p.src = le32 seq.srcip ∧ p.dst = le32 seq.dstip ∧
    Wire.tcp p.payload = some
      { srcPort := seq.srcport.toNat, dstPort := seq.dstport.toNat, seqNum := seq.seqnum.toNat,
        ackNum := seq.acknum.toNat, dataOffset := 5, flags := 0x010,
        window := seq.rxWindow.toNat, urgentPointer := 0, payload := [] } ∧
    onesSum p.header = 0xffff ∧ onesSum (p.pseudoHeader ++ p.payload) = 0xffff

theorem tkoFrame_reads (seq : SockSeq) : TkoFrameReads (tkoFrame seq) seq :=
  ⟨tkoIpv4 seq, wire_tkoFrame seq, wire_tkoIp seq, rfl, rfl, rfl, wire_tkoTcp seq,
    (tkoIpZero seq).verifies, BcmtcpHdr.verifies (tkoIp seq) (tkoTcpZero seq)⟩

/-- **The request keeps a socket alive** from a slot: the firmware is told its numbers, the probe
with the number before the next one, and the answer to give. -/
structure WlTko.KeepsAlive (tko : WlTko) (index : UInt8) (seq : SockSeq) : Prop where
  index : tko.connect.index = index
  localPort : tko.connect.localPort = seq.srcport
  remotePort : tko.connect.remotePort = seq.dstport
  localSeq : tko.connect.localSeq = seq.seqnum
  remoteSeq : tko.connect.remoteSeq = seq.acknum
  requestLen : tko.connect.requestLen = 54
  responseLen : tko.connect.responseLen = if seq.BadSum then 0xfffe else 54
  frames : ∃ request response rest, tko.connect.data =
      le32 seq.srcip ++ le32 seq.dstip ++ request ++ response ++ rest ∧
    request.length = 54 ∧ response.length = 54 ∧
    TkoFrameReads request { seq with seqnum := seq.seqnum - 1 } ∧ TkoFrameReads response seq

theorem tkoRequest_keepsAlive (connect : WlTkoConnect) (seq : SockSeq) (index : UInt8)
    (subcmd len : UInt16) :
    WlTko.KeepsAlive ⟨subcmd, len, tkoRequest connect seq index seq.responseLen⟩ index seq :=
  ⟨rfl, rfl, rfl, rfl, rfl, rfl, rfl, _, _, _, rfl, length_tkoFrame _, length_tkoFrame _,
    tkoFrame_reads _, tkoFrame_reads _⟩

/-! ### A notification -/

section Notification

variable {b : TkoBuild} {max : MaxTko} {t : TkoTable max} {sockets : StackSockets}
variable {ans : TkoSleepAnswers} {s : TkoHost}
variable (hinfra : s.olInfo.fwNewInfra = 0) {whd : Handle} (hwhd : s.ctxt.whd = some whd)

include hinfra hwhd in
/-- **One request** is sent for each slot that is found, in the order of the table, and no
other. -/
theorem tkoPm_sent :
    (tkoPm b t sockets ans .goingToSleep s).2 =
      (List.finRange max.val).filterMap fun i => (activateSlot b t sockets ans i).2 :=
  if_pos ⟨hwhd ▸ rfl, rfl, hinfra⟩

/-- What is sent for a slot keeps its socket alive. -/
theorem activateSlot_keepsAlive {i : Fin max.val} {tko : WlTko}
    (h : (activateSlot b t sockets ans i).2 = some tko) :
    ∃ seq, tkoAddresses ans.search (slotAnswers b t sockets ans i) = some seq ∧
      ¬ seq.probe.BadSum ∧ tko.KeepsAlive (UInt8.ofNat i) seq := by
  cases haddrs : tkoAddresses ans.search (slotAnswers b t sockets ans i) with
  | none =>
      rw [activateSlot_of_none haddrs] at h
      cases h
  | some seq =>
      by_cases hprobe : seq.probe.BadSum
      · rw [activateSlot_of_badSum haddrs hprobe] at h
        cases h
      · obtain ⟨len, heq⟩ := activateSlot_eq haddrs hprobe
        rw [heq] at h
        cases h
        exact ⟨seq, rfl, hprobe, tkoRequest_keepsAlive _ _ _ _ _⟩

/-- No two requests are for one slot. -/
theorem nodup_sent : (((List.finRange max.val).filterMap fun i =>
    (activateSlot b t sockets ans i).2).map fun tko => tko.connect.index).Nodup := by
  rw [List.Nodup, List.pairwise_map, List.pairwise_filterMap]
  refine (List.nodup_finRange max.val).imp ?_
  intro i j hij tko htko tko' htko' heq
  obtain ⟨seq, -, -, hkeeps⟩ := activateSlot_keepsAlive htko
  obtain ⟨seq', -, -, hkeeps'⟩ := activateSlot_keepsAlive htko'
  refine hij (Fin.ext ?_)
  have hindex : UInt8.ofNat i.val = UInt8.ofNat j.val :=
    hkeeps.index.symm.trans (heq.trans hkeeps'.index)
  rw [← UInt8.toNat_inj, UInt8.toNat_ofNat_of_lt' (i.isLt.trans max.lt),
    UInt8.toNat_ofNat_of_lt' (j.isLt.trans max.lt)] at hindex
  exact hindex

include hinfra in
/-- **Something is found to enable** exactly if the firmware takes a request. -/
theorem tkoFound_iff : tkoFound max.val s.olInfo (ans.toAnswers b t sockets) ≠ 0 ↔
    ∃ i, (activateSlot b t sockets ans i).2.isSome ∧ ans.setIovar i = whdSuccess := by
  rw [tkoFound, if_pos hinfra, ← Nat.pos_iff_ne_zero, List.length_pos_iff_exists_mem]
  simp only [List.mem_filter, decide_eq_true_iff]
  constructor
  · rintro ⟨i, hi, hsuccess⟩
    have hlt : i < max.val := List.mem_range.mp hi
    refine ⟨⟨i, hlt⟩, activateSlot_success.mp ?_⟩
    simpa [TkoSleepAnswers.toAnswers, hlt] using hsuccess
  · rintro ⟨i, hi⟩
    refine ⟨i.val, List.mem_range.mpr i.isLt, ?_⟩
    simpa [TkoSleepAnswers.toAnswers] using activateSlot_success.mpr hi

include hwhd in
/-- The offload turns TKO on where something is found to enable. -/
theorem tkoPm_host : (tkoPm b t sockets ans .goingToSleep s).1 =
    if tkoFound max.val s.olInfo (ans.toAnswers b t sockets) = 0 then s
    else s.enable (ans.toAnswers b t sockets) ans.registered := by
  have hne : s.ctxt.whd ≠ none := hwhd ▸ Option.some_ne_none whd
  exact (if_neg hne).trans (if_pos rfl)

include hinfra hwhd in
/-- **TKO is on in the firmware** if it was before, or if the firmware takes a request and lets
itself be turned on. -/
theorem tkoPm_on : (tkoPm b t sockets ans .goingToSleep s).1.on = true ↔ s.on = true ∨
    (∃ i, (activateSlot b t sockets ans i).2.isSome ∧ ans.setIovar i = whdSuccess) ∧
      ans.toggle = whdSuccess := by
  rw [tkoPm_host hwhd, ← tkoFound_iff hinfra]
  split
  · rename_i hzero
    exact (or_iff_left fun h => h.1 hzero).symm
  · rename_i hfound
    rw [and_iff_right hfound, TkoHost.enable, Bool.or_eq_true, decide_eq_true_iff]
    rfl

include hinfra hwhd in
/-- **The offload takes TKO to be on** if it did before, or if the firmware takes a request,
whether or not the firmware then lets itself be turned on. -/
theorem tkoPm_enabled :
    (tkoPm b t sockets ans .goingToSleep s).1.world.tkoStateEnabled = true ↔
      s.world.tkoStateEnabled = true ∨
      ∃ i, (activateSlot b t sockets ans i).2.isSome ∧ ans.setIovar i = whdSuccess := by
  rw [tkoPm_host hwhd, ← tkoFound_iff hinfra]
  split
  · rename_i hzero
    exact (or_iff_left fun h => h hzero).symm
  · rename_i hfound
    refine iff_of_true ?_ (.inr hfound)
    unfold TkoHost.enable
    dsimp only
    split <;> rfl

/-- The socket a slot is answered has the slot's ports and address. -/
theorem hasKey_of_slot {i : Fin max.val} {remoteIp : Bytes} {seq : SockSeq}
    (hip : cString (t.port i).remoteIp = some remoteIp)
    (h : tkoAddresses ans.search (slotAnswers b t sockets ans i) = some seq) :
    seq.HasKey b.stoip4 ⟨(t.port i).localPort, (t.port i).remotePort, asciiString remoteIp⟩ := by
  obtain ⟨found, srcMac, dstMac, hfound, -, rfl⟩ := tkoAddresses_eq h
  have hstats : slotStats b t sockets ans i = some found := hfound
  rw [slotStats, hip] at hstats
  obtain ⟨hsrc, hdst, hip⟩ := sockStats_spec hstats
  exact ⟨hsrc, hdst, hip⟩

end Notification

/-- **The connections updated last are kept alive.**  Whatever calls have filled the table,
whatever the sockets of the network stack, and whatever the offload has done before, going to sleep
sends a request for each connection of the table whose socket and hardware addresses are found,
unless the sum of its probe is taken for an error: a request with the socket's own numbers, for the
connection's slot, and no two for one slot.  Every request sent is for the socket of its slot's
ports and address.  TKO is on in the firmware afterwards if it was before, or if the firmware takes
one of the requests and lets itself be turned on; the offload takes it to be on even where the
firmware has refused that. -/
theorem tko_sleep_keepsAlive (b : TkoBuild) {max : MaxTko} (calls : List (TkoCall max))
    {t : TkoTable max} (ht : calls.foldlM TkoCall.step (.boot max) = some t)
    (sockets : StackSockets) (ans : TkoSleepAnswers) {s : TkoHost}
    (hinfra : s.olInfo.fwNewInfra = 0) {whd : Handle} (hwhd : s.ctxt.whd = some whd)
    {r : TkoHost × List WlTko} (hr : r = tkoPm b t sockets ans .goingToSleep s) :
    (∃ slot : Fin (min max.val (TkoCall.history calls).recent.length) → Fin max.val,
      Function.Injective slot ∧ ∀ j, ∃ c, (TkoCall.history calls).recent[j.val]? = some c ∧
        ∀ seq, tkoAddresses ans.search ⟨sockStats b.stoip4 c.key sockets,
            ans.macAddress (slot j), ans.gateway (slot j)⟩ = some seq → ¬ seq.probe.BadSum →
          seq.HasKey b.stoip4 c.key ∧ ∃ tko ∈ r.2, tko.KeepsAlive (UInt8.ofNat (slot j)) seq) ∧
    (r.2.map fun tko => tko.connect.index).Nodup ∧
    (∀ tko ∈ r.2, ∃ (i : Fin max.val) (seq : SockSeq), tko.KeepsAlive (UInt8.ofNat i) seq ∧
      ∀ remoteIp, cString (t.port i).remoteIp = some remoteIp →
        seq.HasKey b.stoip4 ⟨(t.port i).localPort, (t.port i).remotePort,
          asciiString remoteIp⟩) ∧
    (r.1.on = true ↔ s.on = true ∨ (∃ i : Fin max.val,
      (activateSlot b t sockets ans i).2.isSome ∧ ans.setIovar i = whdSuccess) ∧
        ans.toggle = whdSuccess) ∧
    (r.1.world.tkoStateEnabled = true ↔ s.world.tkoStateEnabled = true ∨ ∃ i : Fin max.val,
      (activateSlot b t sockets ans i).2.isSome ∧ ans.setIovar i = whdSuccess) := by
  obtain ⟨t', ht', hinv⟩ := tkoTableInv_run tkoTableInv_boot calls
  obtain rfl : t = t' := Option.some.inj (ht.symm.trans ht')
  obtain ⟨slot, hinj, hslot⟩ := hinv.recent.connections
  have hsent : (tkoPm b t sockets ans .goingToSleep s).2 = _ := tkoPm_sent hinfra hwhd
  rw [← hr] at hsent
  refine ⟨⟨slot, hinj, fun j => ?_⟩, ?_, fun tko htko => ?_, ?_, ?_⟩
  · obtain ⟨c, hc, (hstores : (t.port (slot j)).Stores c)⟩ := hslot j
    refine ⟨c, hc, fun seq hseq hprobe => ?_⟩
    have hkey : slotAnswers b t sockets ans (slot j) = ⟨sockStats b.stoip4 c.key sockets,
        ans.macAddress (slot j), ans.gateway (slot j)⟩ := by
      simp only [slotAnswers, slotStats, hstores.remoteIp, hstores.localPort, hstores.remotePort,
        TkoConnection.key]
    rw [← hkey] at hseq
    obtain ⟨len, heq⟩ := activateSlot_eq hseq hprobe
    have hmem := List.mem_filterMap (f := fun i => (activateSlot b t sockets ans i).2).mpr
      ⟨slot j, List.mem_finRange _, congrArg Prod.snd heq⟩
    rw [← hsent] at hmem
    refine ⟨?_, _, hmem, tkoRequest_keepsAlive _ _ _ _ _⟩
    have h := hasKey_of_slot hstores.remoteIp hseq
    rwa [hstores.localPort, hstores.remotePort] at h
  · rw [hsent]
    exact nodup_sent
  · rw [hsent] at htko
    obtain ⟨i, -, hi⟩ := List.mem_filterMap.mp htko
    obtain ⟨seq, haddrs, -, hkeeps⟩ := activateSlot_keepsAlive hi
    exact ⟨i, seq, hkeeps, fun remoteIp hip => hasKey_of_slot hip haddrs⟩
  · rw [hr]
    exact tkoPm_on hinfra hwhd
  · rw [hr]
    exact tkoPm_enabled hinfra hwhd

/-- The broker at 192.168.1.1. -/
def broker : TkoConnection :=
  ⟨⟨[0x31, 0x39, 0x32, 0x2e, 0x31, 0x36, 0x38, 0x2e, 0x31, 0x2e, 0x31], by decide, by decide⟩,
    1883, 50000⟩

/-- Its socket. -/
def brokerPcb : TcpPcb where
  localIp := 0x0a01a8c0
  remoteIp := 0x0101a8c0
  localPort := 50000
  remotePort := 1883
  state := .established
  rcvNxt := 2000
  rcvWnd := 5840
  lastack := 1000
  sndNxt := 1000
  sndWl2 := 1000
  sndLbb := 1000

/-- The numbers of that socket, and its hardware addresses. -/
def brokerSeq : SockSeq :=
  ⟨⟨.replicate 6 2⟩, ⟨.replicate 6 4⟩, 0x0a01a8c0, 0x0101a8c0, 50000, 1883, 1000, 2000, 5840⟩

/-- One connection, known to the stack as an active socket. -/
theorem tko_sleep_keepsAlive_broker :
    let b : TkoBuild := ⟨⟨18, 4, 1, by decide⟩, 2, by decide,
      fun s => if s = "192.168.1.1" then 0x0101a8c0 else 0⟩
    let max : MaxTko := ⟨4, by decide, by decide⟩
    let calls : List (TkoCall max) := [.updateConfig (some broker.remoteIp) broker.remotePort
      broker.localPort (some (TkoTable.boot max).cfg)]
    let ans : TkoSleepAnswers := ⟨fun _ => none, fun _ => (0, ⟨.replicate 6 4⟩),
      fun _ => some ⟨.replicate 6 2⟩, fun _ => none, fun _ => ⟨0, 0, 0, 0, 0, 0, 0, 0, []⟩,
      fun _ => 0, 0, 1, true⟩
    let s : TkoHost := { TkoHost.boot ⟨some 0, none, none, 0⟩ with ctxt := ⟨some 0⟩ }
    ∃ t, calls.foldlM TkoCall.step (.boot max) = some t ∧
      (∃ i : Fin max.val, ∃ tko ∈ (tkoPm b t (.lwip ⟨[], [brokerPcb], []⟩) ans .goingToSleep s).2,
        tko.KeepsAlive (UInt8.ofNat i) brokerSeq) ∧
      (tkoPm b t (.lwip ⟨[], [brokerPcb], []⟩) ans .goingToSleep s).1.on = true := by
  intro b max calls ans s
  obtain ⟨t, ht, -⟩ := tkoTableInv_run tkoTableInv_boot calls
  obtain ⟨⟨slot, -, hslot⟩, -, -, hon, -⟩ := @tko_sleep_keepsAlive b max calls t ht
    (.lwip ⟨[], [brokerPcb], []⟩) ans s rfl 0 rfl _ rfl
  obtain ⟨c, hc, hkeeps⟩ := hslot ⟨0, by decide⟩
  obtain rfl : broker = c := Option.some.inj hc
  have hfound : sockStats b.stoip4 broker.key (.lwip ⟨[], [brokerPcb], []⟩) = some
      { brokerSeq with srcMac := ⟨.replicate 6 0⟩, dstMac := ⟨.replicate 6 0⟩ } := by decide
  obtain ⟨-, tko, htko, hk⟩ := hkeeps brokerSeq (by rw [hfound]; rfl) (by decide)
  refine ⟨t, ht, ⟨_, tko, htko, hk⟩, hon.mpr (.inr ⟨?_, rfl⟩)⟩
  have hsent := htko
  rw [tkoPm_sent (s := s) rfl rfl] at hsent
  obtain ⟨i, -, hi⟩ := List.mem_filterMap.mp hsent
  exact ⟨i, Option.isSome_iff_exists.mpr ⟨tko, hi⟩, rfl⟩

end Lpa
