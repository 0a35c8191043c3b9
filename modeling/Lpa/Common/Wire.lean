import Lpa.Common.Headers

/-!
# Common — frames as a receiver reads them

The other end of the link knows nothing of the host's structures: it reads numbers in network
order at fixed offsets, follows the header lengths it finds, and sums words.  `ether`, `ipv4`,
`tcp` and `udp` are that reading, one layer each, refusing bytes too short for what their own
lengths announce.

Each layer has one lemma: the bytes of the host's structure (`toBytes`), followed by a body,
read as the structure's fields in network order.
-/

namespace Lpa

namespace Wire

/-- The 16-bit number at `off`, in network order. -/
def be16 (bs : Bytes) (off : ℕ) : ℕ := 256 * (bs.getD off 0).toNat + (bs.getD (off + 1) 0).toNat

/-- The 32-bit number at `off`, in network order. -/
def be32 (bs : Bytes) (off : ℕ) : ℕ := 65536 * be16 bs off + be16 bs (off + 2)

/-- An Ethernet frame. -/
structure Ether where
  dst : Bytes
  src : Bytes
  etherType : ℕ
  payload : Bytes
deriving DecidableEq, Repr

def ether (bs : Bytes) : Option Ether :=
  if bs.length < 14 then none
  else some
    { dst := bs.take 6, src := (bs.drop 6).take 6, etherType := be16 bs 12, payload := bs.drop 14 }

/-- An IPv4 packet. -/
structure Ipv4 where
  version : ℕ
  ihl : ℕ
  totalLength : ℕ
  timeToLive : ℕ
  protocol : ℕ
  src : Bytes
  dst : Bytes
  header : Bytes
  payload : Bytes
deriving DecidableEq, Repr

def ipv4 (bs : Bytes) : Option Ipv4 :=
  let ihl := (bs.getD 0 0).toNat % 16
  if bs.length < be16 bs 2 ∨ be16 bs 2 < 4 * ihl ∨ ihl < 5 then none
  else some
    { version := (bs.getD 0 0).toNat / 16, ihl := ihl, totalLength := be16 bs 2,
      timeToLive := (bs.getD 8 0).toNat, protocol := (bs.getD 9 0).toNat,
      src := (bs.drop 12).take 4, dst := (bs.drop 16).take 4, header := bs.take (4 * ihl),
      payload := (bs.take (be16 bs 2)).drop (4 * ihl) }

/-- What the transport checksums cover besides the segment itself. -/
def Ipv4.pseudoHeader (p : Ipv4) : Bytes :=
  p.src ++ p.dst ++ [0, UInt8.ofNat p.protocol] ++ le16 (hton16 (UInt16.ofNat p.payload.length))

/-- A TCP segment; `flags` are the twelve bits below the data offset, `ACK` being 16. -/
structure Tcp where
  srcPort : ℕ
  dstPort : ℕ
  seqNum : ℕ
  ackNum : ℕ
  dataOffset : ℕ
  flags : ℕ
  window : ℕ
  urgentPointer : ℕ
  payload : Bytes
deriving DecidableEq, Repr

def tcp (bs : Bytes) : Option Tcp :=
  let dataOffset := be16 bs 12 / 4096
  if bs.length < 4 * dataOffset ∨ dataOffset < 5 then none
  else some
    { srcPort := be16 bs 0, dstPort := be16 bs 2, seqNum := be32 bs 4, ackNum := be32 bs 8,
      dataOffset := dataOffset, flags := be16 bs 12 % 4096, window := be16 bs 14,
      urgentPointer := be16 bs 18, payload := bs.drop (4 * dataOffset) }

/-- A UDP datagram. -/
structure Udp where
  srcPort : ℕ
  dstPort : ℕ
  length : ℕ
  checksum : ℕ
  payload : Bytes
deriving DecidableEq, Repr

def udp (bs : Bytes) : Option Udp :=
  if bs.length < be16 bs 4 ∨ be16 bs 4 < 8 then none
  else some
    { srcPort := be16 bs 0, dstPort := be16 bs 2, length := be16 bs 4, checksum := be16 bs 6,
      payload := (bs.take (be16 bs 4)).drop 8 }

/-- The number a 16-bit object holds in network order. -/
theorem toNat_hton16 (x : UInt16) : (hton16 x).toNat = 256 * (lo x).toNat + (hi x).toNat := by
  rw [hton16, toNat_u16]
  omega

theorem toNat_hton32 (x : UInt32) :
    (hton32 x).toNat = 65536 * (256 * (byte x 0).toNat + (byte x 1).toNat) +
      (256 * (byte x 2).toNat + (byte x 3).toNat) := by
  rw [hton32, toNat_u32]
  omega

end Wire

theorem WhdEtherHeader.wire (e : WhdEtherHeader) (body : Bytes) :
    Wire.ether (e.toBytes ++ body) = some
      { dst := e.etherDhost.toList, src := e.etherShost.toList,
        etherType := (hton16 e.etherType).toNat, payload := body } := by
  simp only [toBytes, toList_six, le16, Wire.toNat_hton16]
  rfl

theorem Ipv4Hdr.wire (h : Ipv4Hdr) (body : Bytes) (hv : h.versionIhl = 0x45)
    (hlen : (hton16 h.totLen).toNat = 20 + body.length) :
    Wire.ipv4 (h.toBytes ++ body) = some
      { version := 4, ihl := 5, totalLength := 20 + body.length, timeToLive := h.ttl.toNat,
        protocol := h.prot.toNat, src := h.srcIp.toList, dst := h.dstIp.toList,
        header := h.toBytes, payload := body } := by
  have htot : Wire.be16 (h.toBytes ++ body) 2 = 20 + body.length := by
    rw [← hlen, Wire.toNat_hton16]
    rfl
  have hver : (h.toBytes ++ body).getD 0 0 = 0x45 := by
    rw [← hv]
    rfl
  have hbytes : (h.toBytes ++ body).length = 20 + body.length := by
    rw [List.length_append, length_toBytes]
    rfl
  have hall : (h.toBytes ++ body).take (20 + body.length) = h.toBytes ++ body :=
    List.take_of_length_le (by rw [hbytes])
  simp only [Wire.ipv4, htot, hver, hbytes, hall]
  rw [if_neg (by simp)]
  simp only [toBytes, toList_four]
  rfl

theorem BcmtcpHdr.wire (t : BcmtcpHdr) (body : Bytes)
    (hoff : (hton16 t.hdrlenRsvdFlags).toNat / 4096 = 5) :
    Wire.tcp (t.toBytes ++ body) = some
      { srcPort := (hton16 t.srcPort).toNat, dstPort := (hton16 t.dstPort).toNat,
        seqNum := (hton32 t.seqNum).toNat, ackNum := (hton32 t.ackNum).toNat,
        dataOffset := 5, flags := (hton16 t.hdrlenRsvdFlags).toNat % 4096,
        window := (hton16 t.tcpwin).toNat, urgentPointer := (hton16 t.urgPtr).toNat,
        payload := body } := by
  have hflags : Wire.be16 (t.toBytes ++ body) 12 = (hton16 t.hdrlenRsvdFlags).toNat := by
    rw [Wire.toNat_hton16]
    rfl
  have hbytes : (t.toBytes ++ body).length = 20 + body.length := by
    rw [List.length_append, length_toBytes]
    rfl
  simp only [Wire.tcp, hflags, hoff, hbytes]
  rw [if_neg (by simp)]
  simp only [Wire.toNat_hton16, Wire.toNat_hton32]
  rfl

theorem UdpHdr.wire (u : UdpHdr) (body : Bytes)
    (hlen : (hton16 u.len).toNat = 8 + body.length) :
    Wire.udp (u.toBytes ++ body) = some
      { srcPort := (hton16 u.srcPort).toNat, dstPort := (hton16 u.dstPort).toNat,
        length := 8 + body.length, checksum := (hton16 u.chksum).toNat, payload := body } := by
  have hl : Wire.be16 (u.toBytes ++ body) 4 = 8 + body.length := by
    rw [← hlen, Wire.toNat_hton16]
    rfl
  have hbytes : (u.toBytes ++ body).length = 8 + body.length := by
    rw [List.length_append, length_toBytes]
    rfl
  have hall : (u.toBytes ++ body).take (8 + body.length) = u.toBytes ++ body :=
    List.take_of_length_le (by rw [hbytes])
  simp only [Wire.udp, hl, hbytes, hall]
  rw [if_neg (by simp)]
  simp only [Wire.toNat_hton16]
  rfl

end Lpa
