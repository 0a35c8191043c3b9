import Lpa.Common.Bytes
import Mathlib.Data.List.GetD
import Mathlib.Tactic.IntervalCases

/-!
# Common — the packed headers

The packed structures of `cy_lpa_common_priv.h`.  A pointer cast over a buffer is read as a view
of its bytes (`ofBytes`) and the fields written through it are those of the view, whose bytes
(`toBytes`) replace the ones it was taken from.
-/

namespace Lpa

/-- `CYLPA_IPV4_ADDR_LEN`. -/
def cylpaIpv4AddrLen : ℕ := 4

/-- `ETHER_TYPE_IP`. -/
def etherTypeIp : UInt16 := 0x0800

/-- `CYLPA_IPV4_VER_SHIFT`. -/
def cylpaIpv4VerShift : UInt8 := 4

/-- `CYLPA_IP_VER_4`. -/
def cylpaIpVer4 : UInt8 := 4

/-- `CYLPA_IPV4_MIN_HEADER_LEN`. -/
def cylpaIpv4MinHeaderLen : ℕ := 20

/-- `CYLPA_IPV4_HLEN_MASK`. -/
def cylpaIpv4HlenMask : UInt8 := 0x0f

/-- `CYLPA_IP_PROTO_TCP`. -/
def cylpaIpProtoTcp : UInt8 := 6

/-- `CYLPA_IP_PROTO_UDP`. -/
def cylpaIpProtoUdp : UInt8 := 17

/-- `CYLPA_UDP_HLEN`. -/
def cylpaUdpHlen : UInt16 := 8

/-- `CYLPA_TCP_FLAG_ACK`. -/
def cylpaTcpFlagAck : UInt16 := 0x10

/-- `CYLPA_TCP_MIN_HEADER_LEN`. -/
def cylpaTcpMinHeaderLen : UInt16 := 20

/-- `CYLPA_TCP_HDRLEN_SHIFT`. -/
def cylpaTcpHdrlenShift : UInt16 := 4

/-- `whd_mac_t`. -/
structure WhdMac where
  octet : Vector UInt8 6
deriving DecidableEq, Repr

/-- The `n` bytes of memory from `off` on. -/
def bytesAt (n : ℕ) (bs : Bytes) (off : ℕ) : Vector UInt8 n :=
  Vector.ofFn fun i => bs.getD (off + i) 0

/-- The 16-bit object at `off`. -/
def u16At (bs : Bytes) (off : ℕ) : UInt16 := u16 (bs.getD off 0) (bs.getD (off + 1) 0)

/-- The 32-bit object at `off`. -/
def u32At (bs : Bytes) (off : ℕ) : UInt32 :=
  u32 (bs.getD off 0) (bs.getD (off + 1) 0) (bs.getD (off + 2) 0) (bs.getD (off + 3) 0)

/-- The bytes `memcpy(_, &x, 4)` copies. -/
def mem32 (x : UInt32) : Vector UInt8 4 := #v[byte x 0, byte x 1, byte x 2, byte x 3]

theorem toList_four (v : Vector UInt8 4) : v.toList = [v[0], v[1], v[2], v[3]] := by
  refine List.ext_getElem (by simp) fun i h _ => ?_
  simp only [Vector.length_toList] at h
  interval_cases i <;> rfl

theorem toList_six (v : Vector UInt8 6) : v.toList = [v[0], v[1], v[2], v[3], v[4], v[5]] := by
  refine List.ext_getElem (by simp) fun i h _ => ?_
  simp only [Vector.length_toList] at h
  interval_cases i <;> rfl

theorem u16At_take {bs : Bytes} {off n : ℕ} (h : off + 2 ≤ n) :
    u16At (bs.take n) off = u16At bs off := by
  simp [u16At, List.getD_eq_getElem?_getD, show off < n by omega, show off + 1 < n by omega]

/-- Storing a field's own value changes nothing. -/
theorem memcpy_u16At {bs : Bytes} {off : ℕ} (h : off + 2 ≤ bs.length) :
    memcpy bs off (le16 (u16At bs off)) = bs := by
  have h₀ : bs.getD off 0 = bs[off] := List.getD_eq_getElem _ _ (by omega)
  have h₁ : bs.getD (off + 1) 0 = bs[off + 1] := List.getD_eq_getElem _ _ (by omega)
  rw [memcpy, u16At, le16, lo_u16, hi_u16, h₀, h₁, List.append_assoc, List.cons_append,
    List.cons_append, List.nil_append, List.length_cons, List.length_cons, List.length_nil,
    ← List.drop_eq_getElem_cons, ← List.drop_eq_getElem_cons, List.take_append_drop]

/-- `whd_ether_header_t`. -/
structure WhdEtherHeader where
  etherDhost : Vector UInt8 6
  etherShost : Vector UInt8 6
  etherType : UInt16
deriving DecidableEq, Repr

def WhdEtherHeader.toBytes (e : WhdEtherHeader) : Bytes :=
  e.etherDhost.toList ++ e.etherShost.toList ++ le16 e.etherType

def WhdEtherHeader.ofBytes (bs : Bytes) : WhdEtherHeader where
  etherDhost := bytesAt 6 bs 0
  etherShost := bytesAt 6 bs 6
  etherType := u16At bs 12

/-- `ipv4_hdr_t`. -/
structure Ipv4Hdr where
  versionIhl : UInt8
  tos : UInt8
  totLen : UInt16
  id : UInt16
  frag : UInt16
  ttl : UInt8
  prot : UInt8
  hdrChksum : UInt16
  srcIp : Vector UInt8 4
  dstIp : Vector UInt8 4
deriving DecidableEq, Repr

def Ipv4Hdr.toBytes (h : Ipv4Hdr) : Bytes :=
  [h.versionIhl, h.tos] ++ le16 h.totLen ++ le16 h.id ++ le16 h.frag ++ [h.ttl, h.prot] ++
    le16 h.hdrChksum ++ h.srcIp.toList ++ h.dstIp.toList

def Ipv4Hdr.ofBytes (bs : Bytes) : Ipv4Hdr where
  versionIhl := bs.getD 0 0
  tos := bs.getD 1 0
  totLen := u16At bs 2
  id := u16At bs 4
  frag := u16At bs 6
  ttl := bs.getD 8 0
  prot := bs.getD 9 0
  hdrChksum := u16At bs 10
  srcIp := bytesAt 4 bs 12
  dstIp := bytesAt 4 bs 16

/-- `tcp_pseudo_hdr_t`. -/
structure TcpPseudoHdr where
  srcIp : Vector UInt8 4
  dstIp : Vector UInt8 4
  zero : UInt8
  prot : UInt8
  tcpSize : UInt16
deriving DecidableEq, Repr

def TcpPseudoHdr.toBytes (h : TcpPseudoHdr) : Bytes :=
  h.srcIp.toList ++ h.dstIp.toList ++ [h.zero, h.prot] ++ le16 h.tcpSize

/-- `bcmtcp_hdr_t`. -/
structure BcmtcpHdr where
  srcPort : UInt16
  dstPort : UInt16
  seqNum : UInt32
  ackNum : UInt32
  hdrlenRsvdFlags : UInt16
  tcpwin : UInt16
  chksum : UInt16
  urgPtr : UInt16
deriving DecidableEq, Repr

def BcmtcpHdr.toBytes (h : BcmtcpHdr) : Bytes :=
  le16 h.srcPort ++ le16 h.dstPort ++ le32 h.seqNum ++ le32 h.ackNum ++ le16 h.hdrlenRsvdFlags ++
    le16 h.tcpwin ++ le16 h.chksum ++ le16 h.urgPtr

def BcmtcpHdr.ofBytes (bs : Bytes) : BcmtcpHdr where
  srcPort := u16At bs 0
  dstPort := u16At bs 2
  seqNum := u32At bs 4
  ackNum := u32At bs 8
  hdrlenRsvdFlags := u16At bs 12
  tcpwin := u16At bs 14
  chksum := u16At bs 16
  urgPtr := u16At bs 18

/-- `udp_hdr_t`. -/
structure UdpHdr where
  srcPort : UInt16
  dstPort : UInt16
  len : UInt16
  chksum : UInt16
deriving DecidableEq, Repr

def UdpHdr.toBytes (h : UdpHdr) : Bytes :=
  le16 h.srcPort ++ le16 h.dstPort ++ le16 h.len ++ le16 h.chksum

def UdpHdr.ofBytes (bs : Bytes) : UdpHdr where
  srcPort := u16At bs 0
  dstPort := u16At bs 2
  len := u16At bs 4
  chksum := u16At bs 6

/-- `sizeof(whd_ether_header_t)`. -/
def sizeofWhdEtherHeader : ℕ := 14

/-- `sizeof(ipv4_hdr_t)`. -/
def sizeofIpv4Hdr : ℕ := 20

/-- `sizeof(bcmtcp_hdr_t)`. -/
def sizeofBcmtcpHdr : ℕ := 20

/-- `sizeof(udp_hdr_t)`. -/
def sizeofUdpHdr : ℕ := 8

/-- `CYLPA_IPV4_HLEN`. -/
def cylpaIpv4Hlen (ipv4Body : Bytes) : ℤ :=
  4 * ((ipv4Body.getD 0 0 &&& cylpaIpv4HlenMask).toNat : ℤ)

@[simp] theorem WhdEtherHeader.length_toBytes (e : WhdEtherHeader) :
    e.toBytes.length = sizeofWhdEtherHeader := by
  simp [toBytes, sizeofWhdEtherHeader]

@[simp] theorem Ipv4Hdr.length_toBytes (h : Ipv4Hdr) : h.toBytes.length = sizeofIpv4Hdr := by
  simp [toBytes, sizeofIpv4Hdr]

@[simp] theorem TcpPseudoHdr.length_toBytes (h : TcpPseudoHdr) : h.toBytes.length = 12 := by
  simp [toBytes]

@[simp] theorem BcmtcpHdr.length_toBytes (h : BcmtcpHdr) :
    h.toBytes.length = sizeofBcmtcpHdr := rfl

@[simp] theorem UdpHdr.length_toBytes (h : UdpHdr) : h.toBytes.length = sizeofUdpHdr := rfl

/-- The view of a structure's own bytes is the structure. -/
@[simp] theorem Ipv4Hdr.ofBytes_toBytes (h : Ipv4Hdr) : ofBytes h.toBytes = h := by
  have hsrc : bytesAt 4 h.toBytes 12 = h.srcIp := by
    refine Vector.ext fun i hi => ?_
    simp only [toBytes, toList_four]
    interval_cases i <;> rfl
  have hdst : bytesAt 4 h.toBytes 16 = h.dstIp := by
    refine Vector.ext fun i hi => ?_
    simp only [toBytes, toList_four]
    interval_cases i <;> rfl
  have htot : u16At h.toBytes 2 = h.totLen := u16_lo_hi h.totLen
  have hid : u16At h.toBytes 4 = h.id := u16_lo_hi h.id
  have hfrag : u16At h.toBytes 6 = h.frag := u16_lo_hi h.frag
  have hck : u16At h.toBytes 10 = h.hdrChksum := u16_lo_hi h.hdrChksum
  rw [ofBytes, hsrc, hdst, htot, hid, hfrag, hck]
  rfl

/-- A header without options has the minimum length. -/
theorem cylpaIpv4Hlen_toBytes {h : Ipv4Hdr} (hv : h.versionIhl = 0x45) :
    cylpaIpv4Hlen h.toBytes = 20 := by
  have hget : h.toBytes.getD 0 0 = h.versionIhl := rfl
  rw [cylpaIpv4Hlen, hget, hv]
  decide

end Lpa
