import Lpa.Common.Checksum
import Lpa.Common.Wire

/-!
# Keepalive — the TCP keepalive packet

`prep_packet` of `cy_whd_tko_api.c` builds the probe the firmware sends while the host sleeps.
It writes three headers over a buffer it does not clear, each field by assignment and each
checksum by reading back what it has written so far.

The headers it ends up with are `tkoEther`, `tkoIp` and `tkoTcp` of the socket alone
(`prepPacket_eq`), whatever the buffer held.  A receiver reads them back as the socket's
addresses, ports and numbers, and both checksums verify (`prepPacket_wellFormed`).
-/

namespace Lpa

/-- `TKO_ERROR`. -/
def tkoError : ℤ := 0xfffe

/-- `sock_seq_t`: what the network stack knows of a TCP connection. -/
structure SockSeq where
  srcMac : WhdMac
  dstMac : WhdMac
  srcip : UInt32
  dstip : UInt32
  srcport : UInt16
  dstport : UInt16
  seqnum : UInt32
  acknum : UInt32
  rxWindow : UInt16
deriving DecidableEq, Repr

/-- `prep_packet`: the return value and the buffer afterwards. -/
def prepPacket (seq : SockSeq) (_index : ℤ) (buf : Option Bytes) : ℤ × Option Bytes :=
  match buf with
  | none => (tkoError, none)
  | some buf =>
    let eth := WhdEtherHeader.ofBytes buf
    let eth := { eth with etherDhost := seq.dstMac.octet }
    let eth := { eth with etherShost := seq.srcMac.octet }
    let eth := { eth with etherType := hton16 etherTypeIp }
    let ip := Ipv4Hdr.ofBytes (buf.drop sizeofWhdEtherHeader)
    let ip := { ip with dstIp := mem32 seq.dstip }
    let ip := { ip with srcIp := mem32 seq.srcip }
    let ip := { ip with versionIhl := cylpaIpVer4 <<< cylpaIpv4VerShift |||
                          UInt8.ofNat (cylpaIpv4MinHeaderLen / 4) }
    let ip := { ip with tos := 0 }
    let ip := { ip with totLen := hton16 (UInt16.ofNat (sizeofIpv4Hdr + sizeofBcmtcpHdr)) }
    let ip := { ip with id := hton16 0, frag := 0, ttl := 32, prot := cylpaIpProtoTcp }
    let ip := { ip with hdrChksum := 0 }
    let ip := { ip with hdrChksum :=
                          cylpaIpv4HdrCksum (some ip.toBytes) (cylpaIpv4Hlen ip.toBytes) }
    let tcp := BcmtcpHdr.ofBytes (buf.drop (sizeofWhdEtherHeader + sizeofIpv4Hdr))
    let tcp := { tcp with srcPort := hton16 seq.srcport, dstPort := hton16 seq.dstport }
    let tcp := { tcp with seqNum := hton32 seq.seqnum, ackNum := hton32 seq.acknum }
    let tcp := { tcp with tcpwin := hton16 seq.rxWindow, chksum := 0, urgPtr := 0 }
    let tcp := { tcp with hdrlenRsvdFlags := cylpaTcpFlagAck <<< 8 |||
                            UInt16.ofNat (sizeofBcmtcpHdr >>> 2) <<< cylpaTcpHdrlenShift }
    let tcp := { tcp with chksum := cylpaIpv4TcpHdrCksum ip.toBytes tcp.toBytes
                            (UInt16.ofNat sizeofBcmtcpHdr) }
    let len := sizeofWhdEtherHeader + sizeofIpv4Hdr + sizeofBcmtcpHdr
    let buf := eth.toBytes ++ ip.toBytes ++ tcp.toBytes ++ buf.drop len
    if (tcp.chksum.toNat : ℤ) = tkoError then (tkoError, some buf) else (len, some buf)

/-! ### The headers it writes -/

/-- The Ethernet header of a keepalive. -/
def tkoEther (seq : SockSeq) : WhdEtherHeader :=
  { etherDhost := seq.dstMac.octet, etherShost := seq.srcMac.octet,
    etherType := hton16 etherTypeIp }

/-- The IP header of a keepalive, its checksum still zero. -/
def tkoIpZero (seq : SockSeq) : Ipv4Hdr :=
  { versionIhl := 0x45, tos := 0, totLen := hton16 40, id := hton16 0, frag := 0, ttl := 32,
    prot := cylpaIpProtoTcp, hdrChksum := 0, srcIp := mem32 seq.srcip, dstIp := mem32 seq.dstip }

def tkoIp (seq : SockSeq) : Ipv4Hdr :=
  { tkoIpZero seq with hdrChksum := cylpaIpv4HdrCksum (some (tkoIpZero seq).toBytes) 20 }

/-- The TCP header of a keepalive, its checksum still zero. -/
def tkoTcpZero (seq : SockSeq) : BcmtcpHdr :=
  { srcPort := hton16 seq.srcport, dstPort := hton16 seq.dstport, seqNum := hton32 seq.seqnum,
    ackNum := hton32 seq.acknum, hdrlenRsvdFlags := 0x1050, tcpwin := hton16 seq.rxWindow,
    chksum := 0, urgPtr := 0 }

def tkoTcp (seq : SockSeq) : BcmtcpHdr :=
  { tkoTcpZero seq with
    chksum := cylpaIpv4TcpHdrCksum (tkoIp seq).toBytes (tkoTcpZero seq).toBytes 20 }

/-- The 54 bytes of a keepalive. -/
def tkoFrame (seq : SockSeq) : Bytes :=
  (tkoEther seq).toBytes ++ (tkoIp seq).toBytes ++ (tkoTcp seq).toBytes

/-- **`prep_packet`** fails exactly if the TCP checksum is the error code. -/
theorem prepPacket_some (seq : SockSeq) (index : ℤ) (buf : Bytes) :
    prepPacket seq index (some buf) =
      (if ((tkoTcp seq).chksum.toNat : ℤ) = tkoError then tkoError else 54,
        some (tkoFrame seq ++ buf.drop 54)) := by
  have hver : cylpaIpVer4 <<< cylpaIpv4VerShift ||| UInt8.ofNat (cylpaIpv4MinHeaderLen / 4) =
      0x45 := by decide
  have hflags : cylpaTcpFlagAck <<< 8 |||
      UInt16.ofNat (sizeofBcmtcpHdr >>> 2) <<< cylpaTcpHdrlenShift = 0x1050 := by decide
  have htot : UInt16.ofNat (sizeofIpv4Hdr + sizeofBcmtcpHdr) = 40 := by decide
  have htcp : UInt16.ofNat sizeofBcmtcpHdr = 20 := by decide
  have hlen : sizeofWhdEtherHeader + sizeofIpv4Hdr + sizeofBcmtcpHdr = 54 := by decide
  have hhl := cylpaIpv4Hlen_toBytes (h := tkoIpZero seq) rfl
  have hframe : prepPacket seq index (some buf) =
      if ((tkoTcp seq).chksum.toNat : ℤ) = tkoError then
        (tkoError, some (tkoFrame seq ++ buf.drop 54))
      else (54, some (tkoFrame seq ++ buf.drop 54)) := by
    simp only [prepPacket, hver, hflags, htot, htcp, hlen]
    simp only [tkoTcp, tkoIp, tkoFrame, tkoTcpZero, tkoEther, tkoIpZero] at hhl ⊢
    simp only [hhl]
    rfl
  rw [hframe]
  split <;> rfl

/-- **What `prep_packet` writes** depends on the socket alone; the rest of the buffer stays. -/
theorem prepPacket_eq (seq : SockSeq) (index : ℤ) (buf : Bytes) :
    (prepPacket seq index (some buf)).2 = some (tkoFrame seq ++ buf.drop 54) := by
  rw [prepPacket_some]

/-! ### What the peer receives -/

theorem wire_tkoFrame (seq : SockSeq) :
    Wire.ether (tkoFrame seq) = some
      { dst := seq.dstMac.octet.toList, src := seq.srcMac.octet.toList, etherType := 0x0800,
        payload := (tkoIp seq).toBytes ++ (tkoTcp seq).toBytes } := by
  rw [tkoFrame, List.append_assoc, WhdEtherHeader.wire, tkoEther, hton16_hton16]
  rfl

/-- The IPv4 packet of a keepalive. -/
def tkoIpv4 (seq : SockSeq) : Wire.Ipv4 :=
  { version := 4, ihl := 5, totalLength := 40, timeToLive := 32, protocol := 6,
    src := le32 seq.srcip, dst := le32 seq.dstip, header := (tkoIp seq).toBytes,
    payload := (tkoTcp seq).toBytes }

theorem wire_tkoIp (seq : SockSeq) :
    Wire.ipv4 ((tkoIp seq).toBytes ++ (tkoTcp seq).toBytes) = some (tkoIpv4 seq) := by
  rw [Ipv4Hdr.wire _ _ rfl]
  · rfl
  · rw [BcmtcpHdr.length_toBytes, tkoIp, tkoIpZero, hton16_hton16]
    rfl

theorem wire_tkoTcp (seq : SockSeq) :
    Wire.tcp (tkoTcp seq).toBytes = some
      { srcPort := seq.srcport.toNat, dstPort := seq.dstport.toNat,
        seqNum := seq.seqnum.toNat, ackNum := seq.acknum.toNat, dataOffset := 5, flags := 0x010,
        window := seq.rxWindow.toNat, urgentPointer := 0, payload := [] } := by
  have hflags : (hton16 (tkoTcp seq).hdrlenRsvdFlags).toNat = 0x5010 := by
    have hfield : (tkoTcp seq).hdrlenRsvdFlags = 0x1050 := rfl
    rw [hfield]
    decide
  have h := BcmtcpHdr.wire (tkoTcp seq) [] (by rw [hflags])
  rw [List.append_nil, hflags] at h
  rw [h, tkoTcp, tkoTcpZero]
  simp only [hton16_hton16, hton32_hton32]
  rfl

/-- **Every TCP keepalive is well formed and carries its inputs.**  Whatever the buffer held, the
54 bytes written are one frame that depends on the socket alone, reads back as its addresses,
ports, numbers and window with only `ACK` set, and verifies under both checksums. -/
theorem prepPacket_wellFormed (seq : SockSeq) :
    ∃ (frame : Bytes) (p : Wire.Ipv4),
      (∀ index buf, (prepPacket seq index (some buf)).2 = some (frame ++ buf.drop 54)) ∧
      frame.length = 54 ∧
      Wire.ether frame = some
        { dst := seq.dstMac.octet.toList, src := seq.srcMac.octet.toList, etherType := 0x0800,
          payload := p.header ++ p.payload } ∧
      Wire.ipv4 (p.header ++ p.payload) = some p ∧
      p.version = 4 ∧ p.ihl = 5 ∧ p.totalLength = 40 ∧ p.protocol = 6 ∧
      p.src = le32 seq.srcip ∧ p.dst = le32 seq.dstip ∧
      Wire.tcp p.payload = some
        { srcPort := seq.srcport.toNat, dstPort := seq.dstport.toNat,
          seqNum := seq.seqnum.toNat, ackNum := seq.acknum.toNat, dataOffset := 5,
          flags := 0x010, window := seq.rxWindow.toNat, urgentPointer := 0, payload := [] } ∧
      p.header.length = 20 ∧ onesSum p.header = 0xffff ∧
      onesSum (p.pseudoHeader ++ p.payload) = 0xffff := by
  refine ⟨tkoFrame seq, tkoIpv4 seq, prepPacket_eq seq, ?_, wire_tkoFrame seq, wire_tkoIp seq, rfl,
    rfl, rfl, rfl, rfl, rfl, wire_tkoTcp seq, ?_, (tkoIpZero seq).verifies, ?_⟩
  · simp [tkoFrame, sizeofWhdEtherHeader, sizeofIpv4Hdr, sizeofBcmtcpHdr]
  · exact (tkoIp seq).length_toBytes
  · exact BcmtcpHdr.verifies (tkoIp seq) (tkoTcpZero seq)

end Lpa
