import Lpa.Common.Checksum
import Lpa.Common.Wire
import Lpa.Offload.Info

/-!
# Keepalive — the NAT keepalive packet

`cy_lpa_wifi_nko_ol.c` sends a UDP datagram at intervals so that a NAT keeps its mapping.
`nkoGetDetails` collects addresses and payload, `nkoPrepPacket` writes the packet and
`configureNatKeepalive` passes it on.

The UDP checksum is summed with its own field zero, over the addresses as they lie in
`nat_keepalive_t`; the IP total length is written after it and before the IP checksum.  The
headers are `natEther`, `natIp` and `natUdp` of the packet's details alone (`nkoPrepPacket_eq`);
a receiver reads the details back and both checksums verify (`nkoPrepPacket_wellFormed`).
-/

namespace Lpa

/-- `NKO_ERROR`. -/
def nkoError : ℤ := 0xffee

/-- `CYLPA_NAT_KEEPALIVE_MAX_PAYLOAD`. -/
def cylpaNatKeepaliveMaxPayload : ℕ := 127

/-- `NAT_KEEPALIVE_FIXED_LEN`. -/
def natKeepaliveFixedLen : ℕ := sizeofWhdEtherHeader + sizeofIpv4Hdr + sizeofUdpHdr

/-- `nat_keepalive_t`. -/
structure NatKeepalive where
  srcMac : WhdMac
  dstMac : WhdMac
  srcip : UInt32
  dstip : UInt32
  srcport : UInt16
  dstport : UInt16
  payload : Vector UInt8 127
  payloadLen : UInt16
deriving DecidableEq, Repr

/-- The memory from `&pkt->srcip` on, as far as the two addresses go. -/
def NatKeepalive.addrs (pkt : NatKeepalive) : Bytes := le32 pkt.srcip ++ le32 pkt.dstip

/-- `cylpa_nko_prep_packet`: the return value and the buffer afterwards. -/
def nkoPrepPacket (pkt : NatKeepalive) (buf : Option Bytes) : ℤ × Option Bytes :=
  match buf with
  | none => (nkoError, none)
  | some buf =>
    let eth := WhdEtherHeader.ofBytes buf
    let eth := { eth with etherDhost := pkt.dstMac.octet }
    let eth := { eth with etherShost := pkt.srcMac.octet }
    let eth := { eth with etherType := hton16 etherTypeIp }
    let ip := Ipv4Hdr.ofBytes (buf.drop sizeofWhdEtherHeader)
    let ip := { ip with dstIp := mem32 pkt.dstip }
    let ip := { ip with srcIp := mem32 pkt.srcip }
    let ip := { ip with versionIhl := cylpaIpVer4 <<< cylpaIpv4VerShift |||
                          UInt8.ofNat (cylpaIpv4MinHeaderLen / 4) }
    let ip := { ip with tos := 0, id := hton16 1, frag := 0, ttl := 225, prot := cylpaIpProtoUdp }
    let udp := UdpHdr.ofBytes (buf.drop (sizeofWhdEtherHeader + sizeofIpv4Hdr))
    let udp := { udp with srcPort := hton16 pkt.srcport, dstPort := hton16 pkt.dstport }
    let udp := { udp with chksum := 0, len := hton16 (cylpaUdpHlen + pkt.payloadLen) }
    let tail := buf.drop natKeepaliveFixedLen
    let tail := if pkt.payloadLen ≠ 0 then
        memcpy tail 0 (pkt.payload.toList.take pkt.payloadLen.toNat)
      else tail
    let udp := { udp with chksum := hton16 (cylpaUdpCksum (cylpaUdpHlen + pkt.payloadLen)
                            pkt.addrs (udp.toBytes ++ tail)) }
    let ip := { ip with totLen :=
                          hton16 (UInt16.ofNat sizeofIpv4Hdr + cylpaUdpHlen + pkt.payloadLen) }
    let ip := { ip with hdrChksum :=
                          cylpaIpv4HdrCksum (some ip.toBytes) (cylpaIpv4Hlen ip.toBytes) }
    (resultOk, some (eth.toBytes ++ ip.toBytes ++ udp.toBytes ++ tail))

/-- `cy_lpa_nko_ol_cfg_t`; `server` and `payload` are the bytes before the terminating zero. -/
structure NkoOlCfg where
  interval : UInt32
  server : Bytes
  dPort : UInt16
  sPort : UInt16
  payload : Bytes
deriving DecidableEq, Repr

/-- What the network stack and the driver answer, `none` for a failure. -/
structure NkoAnswers where
  wcmGetIpAddr : Option UInt32
  socketGethostbyname : Bytes → Option UInt32
  wcmGetGatewayIpAddress : Option UInt32
  whdWifiGetMacAddress : Option WhdMac
  wcmGetGatewayMacAddress : Option WhdMac
  whdWifiKeepaliveConfig : ℤ
  whdBadarg : ℤ

/-- `cylpa_nko_get_details`: the return value and `*pkt` afterwards. -/
def nkoGetDetails (ans : NkoAnswers) (cfg : NkoOlCfg) (pkt : NatKeepalive) : ℤ × NatKeepalive :=
  match ans.wcmGetIpAddr with
  | none => (resultError, pkt)
  | some srcip =>
    let pkt := { pkt with srcip := srcip }
    match (ans.socketGethostbyname cfg.server).or ans.wcmGetGatewayIpAddress with
    | none => (resultError, pkt)
    | some dstip =>
      let pkt := { pkt with dstip := dstip }
      match ans.whdWifiGetMacAddress with
      | none => (resultError, pkt)
      | some srcMac =>
        let pkt := { pkt with srcMac := srcMac }
        match ans.wcmGetGatewayMacAddress with
        | none => (ans.whdBadarg, pkt)
        | some dstMac =>
          let pkt := { pkt with dstMac := dstMac, srcport := cfg.sPort, dstport := cfg.dPort }
          let pkt := { pkt with payloadLen := UInt16.ofNat cfg.payload.length }
          if pkt.payloadLen > 0 then
            let pkt := if pkt.payloadLen > UInt16.ofNat cylpaNatKeepaliveMaxPayload then
                { pkt with payloadLen := UInt16.ofNat cylpaNatKeepaliveMaxPayload }
              else pkt
            let src := cfg.payload.take pkt.payloadLen.toNat
            (resultOk, { pkt with payload := bytesAt 127 (memcpy pkt.payload.toList 0 src) 0 })
          else (resultOk, pkt)

/-- `whd_keep_alive_t`. -/
structure WhdKeepAlive where
  periodMsec : UInt32
  lenBytes : UInt16
  data : Bytes
deriving DecidableEq, Repr

/-- `cylpa_configure_nat_keepalive`: the return value and what it passes to
`whd_wifi_keepalive_config`, if it gets there. -/
def configureNatKeepalive (ans : NkoAnswers) (cfg : NkoOlCfg) (pkt : NatKeepalive)
    (pktBuf : Bytes) : ℤ × Option WhdKeepAlive :=
  let (result, pkt) := nkoGetDetails ans cfg pkt
  if result ≠ resultOk then (result, none)
  else
    match nkoPrepPacket pkt (some pktBuf) with
    | (result, some pktBuf) =>
      if result ≠ resultOk then (result, none)
      else
        let keepAlive : WhdKeepAlive :=
          { periodMsec := cfg.interval, data := pktBuf,
            lenBytes := UInt16.ofNat natKeepaliveFixedLen + pkt.payloadLen }
        (if ans.whdWifiKeepaliveConfig ≠ 0 then ans.whdWifiKeepaliveConfig else resultOk,
          some keepAlive)
    | (result, none) => (result, none)

/-! ### The headers it writes -/

/-- The payload of a NAT keepalive. -/
def NatKeepalive.data (pkt : NatKeepalive) : Bytes :=
  pkt.payload.toList.take pkt.payloadLen.toNat

/-- The Ethernet header of a NAT keepalive. -/
def natEther (pkt : NatKeepalive) : WhdEtherHeader :=
  { etherDhost := pkt.dstMac.octet, etherShost := pkt.srcMac.octet,
    etherType := hton16 etherTypeIp }

/-- The IP header of a NAT keepalive, with `c` in its checksum field. -/
def natIpWith (pkt : NatKeepalive) (c : UInt16) : Ipv4Hdr :=
  { versionIhl := 0x45, tos := 0, totLen := hton16 (28 + pkt.payloadLen), id := hton16 1,
    frag := 0, ttl := 225, prot := cylpaIpProtoUdp, hdrChksum := c, srcIp := mem32 pkt.srcip,
    dstIp := mem32 pkt.dstip }

def natIp (pkt : NatKeepalive) : Ipv4Hdr :=
  natIpWith pkt (cylpaIpv4HdrCksum (some (natIpWith pkt 0).toBytes) 20)

/-- The UDP header of a NAT keepalive, its checksum still zero. -/
def natUdpZero (pkt : NatKeepalive) : UdpHdr :=
  { srcPort := hton16 pkt.srcport, dstPort := hton16 pkt.dstport,
    len := hton16 (8 + pkt.payloadLen), chksum := 0 }

def natUdp (pkt : NatKeepalive) : UdpHdr :=
  { natUdpZero pkt with
    chksum := hton16 (cylpaUdpCksum (8 + pkt.payloadLen) pkt.addrs
      ((natUdpZero pkt).toBytes ++ pkt.data)) }

/-- The bytes of a NAT keepalive. -/
def natFrame (pkt : NatKeepalive) : Bytes :=
  (natEther pkt).toBytes ++ (natIp pkt).toBytes ++ (natUdp pkt).toBytes ++ pkt.data

/-- The IPv4 packet of a NAT keepalive. -/
def natIpv4 (pkt : NatKeepalive) : Wire.Ipv4 :=
  { version := 4, ihl := 5, totalLength := 28 + pkt.payloadLen.toNat, timeToLive := 225,
    protocol := 17, src := le32 pkt.srcip, dst := le32 pkt.dstip, header := (natIp pkt).toBytes,
    payload := (natUdp pkt).toBytes ++ pkt.data }

theorem wire_natFrame (pkt : NatKeepalive) :
    Wire.ether (natFrame pkt) = some
      { dst := pkt.dstMac.octet.toList, src := pkt.srcMac.octet.toList, etherType := 0x0800,
        payload := (natIpv4 pkt).header ++ (natIpv4 pkt).payload } := by
  rw [natFrame, List.append_assoc, List.append_assoc, WhdEtherHeader.wire, natEther,
    hton16_hton16]
  rfl

section Frame

variable {pkt : NatKeepalive} (hlen : pkt.payloadLen.toNat ≤ cylpaNatKeepaliveMaxPayload)
include hlen

theorem length_data : pkt.data.length = pkt.payloadLen.toNat := by
  rw [NatKeepalive.data, List.length_take_of_le]
  rw [Vector.length_toList]
  exact hlen

theorem toNat_add_payloadLen {n : UInt16} (hn : n.toNat ≤ 42) :
    (n + pkt.payloadLen).toNat = n.toNat + pkt.payloadLen.toNat := by
  have hlen' : pkt.payloadLen.toNat ≤ 127 := hlen
  rw [UInt16.toNat_add]
  omega

/-- **What `cylpa_nko_prep_packet` writes** depends on the details alone; the rest of the buffer
stays. -/
theorem nkoPrepPacket_eq (buf : Bytes) :
    nkoPrepPacket pkt (some buf) =
      (resultOk, some (natFrame pkt ++ buf.drop (42 + pkt.payloadLen.toNat))) := by
  have hver : cylpaIpVer4 <<< cylpaIpv4VerShift ||| UInt8.ofNat (cylpaIpv4MinHeaderLen / 4) =
      0x45 := by decide
  have hfix : natKeepaliveFixedLen = 42 := by decide
  have htot : UInt16.ofNat sizeofIpv4Hdr + 8 = 28 := by decide
  have hudp : cylpaUdpHlen = 8 := rfl
  have htail : (if pkt.payloadLen ≠ 0 then memcpy (buf.drop 42) 0 pkt.data else buf.drop 42) =
      pkt.data ++ buf.drop (42 + pkt.payloadLen.toNat) := by
    split
    · rw [memcpy, List.take_zero, List.nil_append, Nat.zero_add, length_data hlen, List.drop_drop]
    · rename_i h
      rw [not_not] at h
      simp [NatKeepalive.data, h]
  have hlen8 : (8 + pkt.payloadLen).toNat = ((natUdpZero pkt).toBytes ++ pkt.data).length := by
    rw [toNat_add_payloadLen hlen (by decide), List.length_append, UdpHdr.length_toBytes,
      length_data hlen]
    rfl
  -- the checksum is given the rest of the buffer too, but does not read it
  have hck := cylpaUdpCksum_append pkt.addrs (buf.drop (42 + pkt.payloadLen.toNat)) hlen8.le
  have hhl := fun c => cylpaIpv4Hlen_toBytes (h := natIpWith pkt c) rfl
  have hip := fun c => cylpaIpv4HdrCksum_hdrChksum (natIpWith pkt 0) c
  simp only [NatKeepalive.data] at htail hck
  simp only [natIpWith, natUdpZero] at hhl hip hck
  simp only [nkoPrepPacket, hver, hfix, htot, hudp, htail]
  simp only [hhl, hip, ← List.append_assoc, hck]
  rfl

/-! ### What the peer receives -/

theorem wire_natIp :
    Wire.ipv4 ((natIpv4 pkt).header ++ (natIpv4 pkt).payload) = some (natIpv4 pkt) := by
  have hbody : ((natUdp pkt).toBytes ++ pkt.data).length = 8 + pkt.payloadLen.toNat := by
    rw [List.length_append, UdpHdr.length_toBytes, length_data hlen]
    rfl
  have htot : (hton16 (natIp pkt).totLen).toNat =
      20 + ((natUdp pkt).toBytes ++ pkt.data).length := by
    rw [natIp, natIpWith, hton16_hton16, toNat_add_payloadLen hlen (by decide), hbody]
    exact Nat.add_assoc 20 8 _
  have h := Ipv4Hdr.wire (natIp pkt) _ rfl htot
  rw [hbody, ← Nat.add_assoc] at h
  exact h

theorem wire_natUdp :
    Wire.udp (natIpv4 pkt).payload = some
      { srcPort := pkt.srcport.toNat, dstPort := pkt.dstport.toNat,
        length := 8 + pkt.payloadLen.toNat, checksum := (hton16 (natUdp pkt).chksum).toNat,
        payload := pkt.data } := by
  have hl : (hton16 (natUdp pkt).len).toNat = 8 + pkt.data.length := by
    rw [natUdp, natUdpZero, hton16_hton16, toNat_add_payloadLen hlen (by decide),
      length_data hlen]
    rfl
  have h := UdpHdr.wire (natUdp pkt) pkt.data hl
  rw [length_data hlen] at h
  rw [natIpv4, h, natUdp, natUdpZero]
  simp only [hton16_hton16]

theorem natUdp_verifies :
    onesSum ((natIpv4 pkt).pseudoHeader ++ (natIpv4 pkt).payload) = 0xffff := by
  have hl : UInt16.ofNat (natIpv4 pkt).payload.length = 8 + pkt.payloadLen := by
    rw [← UInt16.toNat_inj, toNat_add_payloadLen hlen (by decide), natIpv4, List.length_append,
      UdpHdr.length_toBytes, length_data hlen]
    exact UInt16.toNat_ofNat_of_lt (lt_of_le_of_lt (Nat.add_le_add_left hlen _) (by decide))
  have h := UdpHdr.verifies (natUdpZero pkt) pkt.addrs pkt.data (8 + pkt.payloadLen) rfl
    (by rw [toNat_add_payloadLen hlen (by decide), length_data hlen]; rfl) rfl
  rw [Wire.Ipv4.pseudoHeader, hl]
  exact h

/-- **Every NAT keepalive is well formed and carries its inputs.**  Whatever the buffer held, the
bytes written are one frame that depends on the details alone, as long as its own headers and
the length passed on say; it reads back as the details' addresses, ports and payload, and
verifies under both checksums, of which the UDP one is never the 'no checksum' zero. -/
theorem nkoPrepPacket_wellFormed :
    ∃ (frame : Bytes) (p : Wire.Ipv4) (u : Wire.Udp),
      (∀ buf, nkoPrepPacket pkt (some buf) = (resultOk, some (frame ++ buf.drop frame.length))) ∧
      frame.length = 42 + pkt.payloadLen.toNat ∧ frame.length = 14 + p.totalLength ∧
      (∀ ans cfg pkt₀ buf, nkoGetDetails ans cfg pkt₀ = (resultOk, pkt) →
        (configureNatKeepalive ans cfg pkt₀ buf).2.map (·.lenBytes.toNat) =
          some frame.length) ∧
      Wire.ether frame = some
        { dst := pkt.dstMac.octet.toList, src := pkt.srcMac.octet.toList, etherType := 0x0800,
          payload := p.header ++ p.payload } ∧
      Wire.ipv4 (p.header ++ p.payload) = some p ∧
      p.version = 4 ∧ p.ihl = 5 ∧ p.protocol = 17 ∧ p.totalLength = 28 + pkt.payloadLen.toNat ∧
      p.src = le32 pkt.srcip ∧ p.dst = le32 pkt.dstip ∧
      Wire.udp p.payload = some u ∧
      u.srcPort = pkt.srcport.toNat ∧ u.dstPort = pkt.dstport.toNat ∧
      u.length = 8 + pkt.payloadLen.toNat ∧ p.payload.length = u.length ∧
      u.payload = pkt.payload.toList.take pkt.payloadLen.toNat ∧
      onesSum p.header = 0xffff ∧ u.checksum ≠ 0 ∧
      onesSum (p.pseudoHeader ++ p.payload) = 0xffff := by
  have hframe : (natFrame pkt).length = 42 + pkt.payloadLen.toNat := by
    simp only [natFrame, List.length_append, WhdEtherHeader.length_toBytes,
      Ipv4Hdr.length_toBytes, UdpHdr.length_toBytes, length_data hlen]
    rfl
  refine ⟨natFrame pkt, natIpv4 pkt, _, fun buf => ?_, hframe, ?_, ?_, wire_natFrame pkt,
    wire_natIp hlen, rfl, rfl, rfl, rfl, rfl, rfl, wire_natUdp hlen, rfl, rfl, rfl, ?_, rfl,
    (natIpWith pkt 0).verifies, ?_, natUdp_verifies hlen⟩
  · rw [nkoPrepPacket_eq hlen, hframe]
  · rw [hframe]
    exact Nat.add_assoc 14 28 _
  · intro ans cfg pkt₀ buf hd
    have h42 : UInt16.ofNat natKeepaliveFixedLen = 42 := by decide
    simp only [configureNatKeepalive, hd, nkoPrepPacket_eq hlen, h42]
    rw [if_neg (not_not.mpr rfl), if_neg (not_not.mpr rfl), Option.map_some,
      toNat_add_payloadLen hlen (by decide), hframe]
    rfl
  · rw [natIpv4, List.length_append, UdpHdr.length_toBytes, length_data hlen]
    rfl
  · rw [natUdp, hton16_hton16, Ne, ← UInt16.toNat_zero, UInt16.toNat_inj]
    exact cylpaUdpCksum_ne_zero _ _ _

end Frame

/-- A keepalive with a payload of three bytes. -/
def oddKeepalive : NatKeepalive :=
  { srcMac := ⟨#v[0, 1, 2, 3, 4, 5]⟩, dstMac := ⟨#v[6, 7, 8, 9, 10, 11]⟩, srcip := 0x0a00000a,
    dstip := 0x0100000a, srcport := 4500, dstport := 4500, payload := Vector.replicate 127 0xff,
    payloadLen := 3 }

theorem nkoPrepPacket_wellFormed_odd :
    oddKeepalive.payloadLen.toNat ≤ cylpaNatKeepaliveMaxPayload ∧
      ∃ (frame : Bytes) (p : Wire.Ipv4) (u : Wire.Udp), frame.length = 45 ∧
        nkoPrepPacket oddKeepalive (some []) = (resultOk, some frame) ∧
        Wire.ipv4 (p.header ++ p.payload) = some p ∧ Wire.udp p.payload = some u ∧
        u.payload = [0xff, 0xff, 0xff] ∧ onesSum (p.pseudoHeader ++ p.payload) = 0xffff := by
  have h3 : oddKeepalive.payloadLen.toNat ≤ cylpaNatKeepaliveMaxPayload := by decide
  obtain ⟨frame, p, u, hbuf, hlen, -, -, -, hip, -, -, -, -, -, -, hudp, -, -, -, -, hdata, -, -,
    hsum⟩ := nkoPrepPacket_wellFormed h3
  refine ⟨h3, frame, p, u, hlen, ?_, hip, hudp, hdata, hsum⟩
  rw [hbuf, List.drop_nil, List.append_nil]

end Lpa
