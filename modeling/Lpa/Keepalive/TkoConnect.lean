import Lpa.Keepalive.TkoPacket

/-!
# Keepalive — the connect request

`tko_connect_init` lays out what the firmware needs to keep one connection alive: the addresses,
the probe to send, with the number before the next one, and the answer to expect.  Both frames come
from `prep_packet`, which tells an error by `0xfffe` and looks for it in the checksum of the frame
it has just built, where it is as good a value as any.

* `tkoTcp_chksum_iff`: which sockets have that checksum.
* `tkoConnectInit_eq`: what the request is, frame by frame.
* `tkoConnectInit_iff`: it is the one asked for exactly if neither frame has that checksum.
-/

namespace Lpa

/-! ### The checksum taken for an error -/

/-- The words a receiver sums of a keepalive, checksum aside: addresses, protocol and length of the
pseudo-header, then the TCP header. -/
def SockSeq.wordSum (seq : SockSeq) : ℕ :=
  (beWords (le32 seq.srcip)).sum + (beWords (le32 seq.dstip)).sum + 6 + 20 +
    seq.srcport.toNat + seq.dstport.toNat +
    (seq.seqnum.toNat / 65536 + seq.seqnum.toNat % 65536) +
    (seq.acknum.toNat / 65536 + seq.acknum.toNat % 65536) + 0x5010 + seq.rxWindow.toNat

/-- A sum of `256`, of which `0xfeff` is the complement: stored by the host, that is `0xfffe`. -/
def SockSeq.BadSum (seq : SockSeq) : Prop := seq.wordSum % 65535 = 256

instance (seq : SockSeq) : Decidable seq.BadSum :=
  inferInstanceAs (Decidable (seq.wordSum % 65535 = 256))

theorem beWords_sum_le32_hton32 (x : UInt32) :
    (beWords (le32 (hton32 x))).sum = x.toNat / 65536 + x.toNat % 65536 := by
  have := x.toNat_lt
  simp only [le32_hton32, beWords, List.sum_cons, List.sum_nil, toNat_byte_zero, toNat_byte_one,
    toNat_byte_two, toNat_byte_three]
  omega

theorem beWords_sum_tkoTcp (seq : SockSeq) :
    (beWords ((tcpPs (tkoIp seq) 20).toBytes ++ (tkoTcp seq).toBytes)).sum =
      seq.wordSum + (hton16 (tkoTcp seq).chksum).toNat := by
  have hps : (tcpPs (tkoIp seq) 20).toBytes =
      le32 seq.srcip ++ le32 seq.dstip ++ [0, 6] ++ [0, 20] := by
    simp only [tcpPs, tkoIp, tkoIpZero, TcpPseudoHdr.toBytes, toList_four]
    rfl
  have hchksum : le16 (tkoTcp seq).chksum = le16 (hton16 (hton16 (tkoTcp seq).chksum)) := by
    rw [hton16_hton16]
  have htcp : (tkoTcp seq).toBytes =
      le16 (hton16 seq.srcport) ++ le16 (hton16 seq.dstport) ++ le32 (hton32 seq.seqnum) ++
        le32 (hton32 seq.acknum) ++ le16 0x1050 ++ le16 (hton16 seq.rxWindow) ++
        le16 (tkoTcp seq).chksum ++ le16 0 := rfl
  have hlen : ∀ x : UInt32, (le32 x).length % 2 = 0 := fun _ => by simp [le32]
  have hlen' : ∀ x : UInt16, (le16 x).length % 2 = 0 := fun _ => by simp [le16]
  have hsix : beWords [0, 6] = [6] := rfl
  have htwenty : beWords [0, 20] = [20] := rfl
  have hflags : beWords (le16 0x1050) = [0x5010] := by decide
  have hzero : beWords (le16 0) = [0] := by decide
  rw [hps, htcp, hchksum]
  simp only [List.append_assoc, beWords_append, hlen, hlen', List.length_cons,
    List.length_nil, List.sum_append, beWords_le16_hton16, beWords_sum_le32_hton32, hsix, htwenty,
    hflags, hzero, List.sum_cons, List.sum_nil, SockSeq.wordSum]
  ring

/-- **The checksum is taken for an error** exactly at a bad sum. -/
theorem tkoTcp_chksum_iff (seq : SockSeq) :
    ((tkoTcp seq).chksum.toNat : ℤ) = tkoError ↔ seq.BadSum := by
  have hv := onesSum_eq_top_iff.mp (BcmtcpHdr.verifies (tkoIp seq) (tkoTcpZero seq))
  have hsum := beWords_sum_tkoTcp seq
  rw [tkoTcp] at hsum ⊢
  rw [hsum, Nat.modEq_zero_iff_dvd] at hv
  simp only [hton16, toNat_u16, toNat_lo, toNat_hi, tkoError, SockSeq.BadSum] at hv ⊢
  have := (cylpaIpv4TcpHdrCksum (tkoIp seq).toBytes (tkoTcpZero seq).toBytes 20).toNat_lt
  generalize (cylpaIpv4TcpHdrCksum (tkoIp seq).toBytes (tkoTcpZero seq).toBytes 20).toNat = c at *
  generalize seq.wordSum = n at *
  obtain ⟨hdvd, -⟩ := hv
  omega

/-- **`prep_packet`** fails exactly at a bad sum. -/
theorem prepPacket_fst (seq : SockSeq) (index : ℤ) (buf : Bytes) :
    (prepPacket seq index (some buf)).1 = if seq.BadSum then tkoError else 54 := by
  rw [prepPacket_some]
  simp only [tkoTcp_chksum_iff]

/-! ### The request -/

/-- `wl_tko_connect_t`; `data` is the memory from its last field on. -/
structure WlTkoConnect where
  index : UInt8
  ipAddrType : UInt8
  localPort : UInt16
  remotePort : UInt16
  localSeq : UInt32
  remoteSeq : UInt32
  requestLen : UInt16
  responseLen : UInt16
  data : Bytes
deriving DecidableEq, Repr

/-- `prep_packet` into `&connect->data[datalen]`: the return value and the data afterwards. -/
def prepPacketAt (seq : SockSeq) (index : ℤ) (data : Bytes) (datalen : ℕ) : ℤ × Bytes :=
  let r := prepPacket seq index (some (data.drop datalen))
  (r.1, data.take datalen ++ r.2.getD [])

/-- `tko_connect_init`: the return value, the request and the socket afterwards; the request's
`data` is at `offsetofData` in it. -/
def tkoConnectInit (offsetofData : ℕ) (connect : WlTkoConnect) (keepAliveOffload : SockSeq)
    (index : UInt8) : ℤ × WlTkoConnect × SockSeq :=
  let connect := { connect with
    index := index
    ipAddrType := 0
    localPort := keepAliveOffload.srcport
    remotePort := keepAliveOffload.dstport
    localSeq := keepAliveOffload.seqnum
    remoteSeq := keepAliveOffload.acknum }
  let datalen := 0
  let connect := { connect with data := memcpy connect.data datalen (le32 keepAliveOffload.srcip) }
  let datalen := datalen + 4
  let connect := { connect with data := memcpy connect.data datalen (le32 keepAliveOffload.dstip) }
  let datalen := datalen + 4
  -- the number before the next one, so that it is not taken for a real packet
  let keepAliveOffload := { keepAliveOffload with seqnum := keepAliveOffload.seqnum - 1 }
  let (len, data) := prepPacketAt keepAliveOffload index.toNat connect.data datalen
  let connect := { connect with requestLen := UInt16.ofInt len, data := data }
  if (connect.requestLen.toNat : ℤ) = tkoError then (tkoError, connect, keepAliveOffload)
  else
    let datalen := datalen + connect.requestLen.toNat
    let keepAliveOffload := { keepAliveOffload with seqnum := keepAliveOffload.seqnum + 1 }
    let (len, data) := prepPacketAt keepAliveOffload index.toNat connect.data datalen
    let connect := { connect with responseLen := UInt16.ofInt len, data := data }
    -- the length of the request is looked at once more
    if (connect.requestLen.toNat : ℤ) = tkoError then (tkoError, connect, keepAliveOffload)
    else
      let datalen := datalen + connect.responseLen.toNat
      (offsetofData + datalen, connect, keepAliveOffload)

/-- The socket as the probe is built from it. -/
def SockSeq.probe (seq : SockSeq) : SockSeq := { seq with seqnum := seq.seqnum - 1 }

/-- The request for a socket, its response having the length `responseLen`. -/
def tkoRequest (connect : WlTkoConnect) (seq : SockSeq) (index : UInt8) (responseLen : UInt16) :
    WlTkoConnect where
  index := index
  ipAddrType := 0
  localPort := seq.srcport
  remotePort := seq.dstport
  localSeq := seq.seqnum
  remoteSeq := seq.acknum
  requestLen := 54
  responseLen := responseLen
  data := le32 seq.srcip ++ le32 seq.dstip ++ tkoFrame seq.probe ++ tkoFrame seq ++
    connect.data.drop 116

theorem prepPacketAt_eq (seq : SockSeq) (index : ℤ) (xs rest : Bytes) {datalen : ℕ}
    (h : xs.length = datalen) : prepPacketAt seq index (xs ++ rest) datalen =
      (if seq.BadSum then tkoError else 54, xs ++ (tkoFrame seq ++ rest.drop 54)) := by
  have htake : (xs ++ rest).take datalen = xs := by rw [← h, List.take_left]
  have hdrop : (xs ++ rest).drop datalen = rest := by rw [← h, List.drop_left]
  have hpacket := prepPacket_some seq index rest
  simp only [tkoTcp_chksum_iff] at hpacket
  simp only [prepPacketAt, hdrop, htake, hpacket, Option.getD_some]

theorem length_tkoFrame (seq : SockSeq) : (tkoFrame seq).length = 54 := by
  simp [tkoFrame, sizeofWhdEtherHeader, sizeofIpv4Hdr, sizeofBcmtcpHdr]

section Request

variable {seq : SockSeq} (offsetofData : ℕ) (connect : WlTkoConnect) (index : UInt8)

/-- The addresses are the first eight bytes of the data. -/
theorem memcpy_addrs (data : Bytes) (srcip dstip : UInt32) :
    memcpy (memcpy data 0 (le32 srcip)) (0 + 4) (le32 dstip) =
      le32 srcip ++ le32 dstip ++ data.drop 8 := by
  simp [memcpy, le32]

/-- The probe goes right behind them. -/
theorem prepPacketAt_probe (seq : SockSeq) :
    prepPacketAt seq.probe index.toNat (le32 seq.srcip ++ le32 seq.dstip ++ connect.data.drop 8)
        (0 + 4 + 4) =
      (if seq.probe.BadSum then tkoError else 54,
        le32 seq.srcip ++ le32 seq.dstip ++
          (tkoFrame seq.probe ++ (connect.data.drop 8).drop 54)) :=
  prepPacketAt_eq seq.probe index.toNat (le32 seq.srcip ++ le32 seq.dstip) _ rfl

/-- **A bad sum of the probe** is an error. -/
theorem tkoConnectInit_of_badSum (h : seq.probe.BadSum) :
    (tkoConnectInit offsetofData connect seq index).1 = tkoError := by
  have hprobe := prepPacketAt_probe connect index seq
  have herror : ((UInt16.ofInt tkoError).toNat : ℤ) = tkoError := by decide
  rw [if_pos h, SockSeq.probe] at hprobe
  simp only [tkoConnectInit, memcpy_addrs, hprobe, herror, if_true]

/-- **Otherwise the request** is laid out in full, whatever the sum of the response. -/
theorem tkoConnectInit_eq (seq : SockSeq) (h : ¬ seq.probe.BadSum) {responseLen : UInt16}
    (hlen : responseLen = if seq.BadSum then 0xfffe else 54) :
    tkoConnectInit offsetofData connect seq index =
      (((offsetofData + 8 + 54 + responseLen.toNat : ℕ) : ℤ),
        tkoRequest connect seq index responseLen, seq) := by
  have hprobe := prepPacketAt_probe connect index seq
  have hlength : (le32 seq.srcip ++ le32 seq.dstip ++ tkoFrame seq.probe).length =
      0 + 4 + 4 + (UInt16.ofInt 54).toNat := by
    rw [List.length_append, length_tkoFrame]
    rfl
  have hresponse := prepPacketAt_eq seq index.toNat _ (connect.data.drop 62) hlength
  have hback : seq.seqnum - 1 + 1 = seq.seqnum := UInt32.sub_add_cancel _ _
  have herror : ¬ ((UInt16.ofInt 54).toNat : ℤ) = tkoError := by decide
  have hofInt : UInt16.ofInt 54 = 54 := by decide
  have hresponseLen : UInt16.ofInt (if seq.BadSum then tkoError else 54) = responseLen := by
    rw [hlen]
    split <;> decide
  rw [if_neg h, List.drop_drop, SockSeq.probe] at hprobe
  rw [List.append_assoc _ (tkoFrame _), SockSeq.probe] at hresponse
  simp only [tkoConnectInit, memcpy_addrs, hprobe, herror, if_false, hback, hresponse]
  rw [hresponseLen, hofInt, tkoRequest, SockSeq.probe, List.drop_drop,
    List.append_assoc _ (tkoFrame seq)]
  refine Prod.ext ?_ rfl
  have hprobeLen : (54 : UInt16).toNat = 54 := rfl
  simp only [hprobeLen]
  omega

end Request

/-! ### The request asked for -/

/-- The sequence number a receiver reads in a frame. -/
def Wire.seqNum (frame : Bytes) : Option ℕ := do
  let ether ← Wire.ether frame
  let ip ← Wire.ipv4 ether.payload
  let tcp ← Wire.tcp ip.payload
  return tcp.seqNum

theorem wire_seqNum_tkoFrame (seq : SockSeq) :
    Wire.seqNum (tkoFrame seq) = some seq.seqnum.toNat := by
  simp only [Wire.seqNum, wire_tkoFrame, Option.bind_eq_bind, Option.bind_some, wire_tkoIp]
  rw [tkoIpv4, wire_tkoTcp]
  rfl

/-- **The request is built**: its two frames, of 54 bytes each, carry the number before the next
one and the next one, and the socket is as it was. -/
structure TkoConnected (offsetofData : ℕ) (connect : WlTkoConnect) (seq : SockSeq)
    (r : ℤ × WlTkoConnect × SockSeq) : Prop where
  result : r.1 = offsetofData + 8 + 54 + 54
  result_ne : r.1 ≠ tkoError
  requestLen : r.2.1.requestLen = 54
  responseLen : r.2.1.responseLen = 54
  frames : ∃ request response, r.2.1.data =
      le32 seq.srcip ++ le32 seq.dstip ++ request ++ response ++ connect.data.drop 116 ∧
    request.length = 54 ∧ response.length = 54 ∧
    Wire.seqNum request = some (seq.seqnum - 1).toNat ∧
    Wire.seqNum response = some seq.seqnum.toNat
  localSeq : r.2.1.localSeq = seq.seqnum
  remoteSeq : r.2.1.remoteSeq = seq.acknum
  seqnum : r.2.2.seqnum = seq.seqnum

/-- What the driver's headers say: the offset of `data` in `wl_tko_connect_t`, that in `wl_tko_t`,
and `WL_TKO_SUBCMD_CONNECT`. -/
structure TkoLayout where
  offsetofConnectData : ℕ
  offsetofData : ℕ
  wlTkoSubcmdConnect : UInt16
  connectData_lt : offsetofConnectData < 256

/-- **The connect request is built** exactly if neither the probe nor the response has the bad
sum. -/
theorem tkoConnectInit_iff (layout : TkoLayout) (connect : WlTkoConnect) (seq : SockSeq)
    (index : UInt8) :
    TkoConnected layout.offsetofConnectData connect seq
        (tkoConnectInit layout.offsetofConnectData connect seq index) ↔
      seq.probe.wordSum % 65535 ≠ 256 ∧ seq.wordSum % 65535 ≠ 256 := by
  have hlt := layout.connectData_lt
  by_cases hprobe : seq.probe.BadSum
  · have hfst := tkoConnectInit_of_badSum layout.offsetofConnectData connect index hprobe
    exact iff_of_false (fun h => h.result_ne hfst) fun h => h.1 hprobe
  by_cases hresponse : seq.BadSum
  · have h := tkoConnectInit_eq layout.offsetofConnectData connect index seq hprobe
      (if_pos hresponse).symm
    rw [h]
    refine iff_of_false (fun h => ?_) fun h => h.2 hresponse
    have hlen : (0xfffe : UInt16) = 54 := h.responseLen
    exact absurd hlen (by decide)
  · have h := tkoConnectInit_eq layout.offsetofConnectData connect index seq hprobe
      (if_neg hresponse).symm
    rw [h]
    refine iff_of_true ?_ ⟨hprobe, hresponse⟩
    refine ⟨rfl, ?_, rfl, rfl, ⟨_, _, rfl, length_tkoFrame _, length_tkoFrame _,
      wire_seqNum_tkoFrame _, wire_seqNum_tkoFrame _⟩, rfl, rfl, rfl⟩
    have hlen : (54 : UInt16).toNat = 54 := rfl
    simp only [tkoError, hlen]
    omega

/-- A connection whose response has the bad sum: the request is built with a length of `0xfffe`. -/
theorem tkoConnectInit_not_connected :
    ¬ ∀ (layout : TkoLayout) (connect : WlTkoConnect) (seq : SockSeq) (index : UInt8),
      TkoConnected layout.offsetofConnectData connect seq
        (tkoConnectInit layout.offsetofConnectData connect seq index) := by
  intro h
  let seq : SockSeq := ⟨⟨.replicate 6 0⟩, ⟨.replicate 6 0⟩, 0x0a01a8c0, 0x0101a8c0, 50000, 1883,
    1000, 2000, 22293⟩
  have hinit := tkoConnectInit_eq 18 ⟨0, 0, 0, 0, 0, 0, 0, 0, []⟩ 0 seq
    (show ¬ seq.probe.wordSum % 65535 = 256 by decide)
    (if_pos (show seq.wordSum % 65535 = 256 by decide)).symm
  have hlen := (h ⟨18, 4, 1, by decide⟩ ⟨0, 0, 0, 0, 0, 0, 0, 0, []⟩ seq 0).responseLen
  rw [hinit] at hlen
  exact absurd hlen (by decide)

end Lpa
