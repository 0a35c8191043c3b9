import Lpa.Common.Headers
import Lpa.Common.Words

/-!
# Common — the checksum routines

`cy_lpa_common.c`.  Two engines: the IP and TCP header checksums sum little-endian words and fold
twice (`ipCksum`); the UDP checksum sums the bytes in network order and folds until nothing is
left to fold (`cylpaChecksumFinish`).  Each routine has one lemma saying what it computes, and
from it that the checksum, stored in its field, makes the bytes it covers verify:

* `ipv4HdrCksum_verifies`: the IP header.
* `tcpHdrCksum_verifies`: the TCP pseudo-header and segment.
* `udpCksum_verifies`: the UDP pseudo-header and datagram; the field is never zero.
-/

namespace Lpa

/-- `CYLPA_COMMON_ERR`. -/
def cylpaCommonErr : UInt16 := 0xffed

/-- `offsetof(ipv4_hdr_t, hdr_chksum)`. -/
def offsetofHdrChksum : ℕ := 10

/-- `offsetof(ipv4_hdr_t, src_ip)`. -/
def offsetofSrcIp : ℕ := 12

/-- `offsetof(bcmtcp_hdr_t, chksum)`. -/
def offsetofChksum : ℕ := 16

/-- `offsetof(bcmtcp_hdr_t, urg_ptr)`. -/
def offsetofUrgPtr : ℕ := 18

/-! ### The routines -/

/-- `for (i = 0; i < count; i++) sum += *val16++`. -/
def ipCksumPartialLoop : UInt32 → Bytes → ℕ → UInt32
  | sum, a :: b :: val, count + 1 => ipCksumPartialLoop (sum + (u16 a b).toUInt32) val count
  | sum, _, _ => sum

def ipCksumPartial (sum : UInt32) (val8 : Option Bytes) (count : UInt32) : UInt32 :=
  match val8 with
  | none => cylpaCommonErr.toUInt32
  | some val => if count % 2 ≠ 0 then cylpaCommonErr.toUInt32
      else ipCksumPartialLoop sum val (count / 2).toNat

/-- `while (count > 1) sum += *val16++`, then the left-over byte, if any. -/
def ipCksumLoop : UInt32 → Bytes → ℕ → UInt32
  | sum, a :: b :: val, count + 2 => ipCksumLoop (sum + (u16 a b).toUInt32) val count
  | sum, a :: _, 1 => sum + a.toUInt32
  | sum, _, _ => sum

def ipCksum (sum : UInt32) (val8 : Option Bytes) (count : UInt32) : UInt16 :=
  match val8 with
  | none => cylpaCommonErr
  | some val =>
    let sum := ipCksumLoop sum val count.toNat
    -- fold 32-bit sum to 16 bits
    let sum := (sum >>> 16) + (sum &&& 0xffff)
    let sum := sum + (sum >>> 16)
    (~~~sum).toUInt16

def tcpHdrChksum (sum : UInt32) (tcpHdr : Bytes) (tcpLen : UInt16) : UInt16 :=
  if tcpLen < cylpaTcpMinHeaderLen then cylpaCommonErr
  else
    let sum := ipCksumPartial sum (some tcpHdr) (UInt32.ofNat offsetofChksum)
    let ptr := tcpHdr.drop (offsetofChksum + 2)
    ipCksum sum (some ptr) (tcpLen.toUInt32 - UInt32.ofNat offsetofUrgPtr)

def cylpaIpv4HdrCksum (ip : Option Bytes) (ipLen : ℤ) : UInt16 :=
  match ip with
  | none => cylpaCommonErr
  | some ip =>
    if ipLen < cylpaIpv4MinHeaderLen then cylpaCommonErr
    else
      let sum := ipCksumPartial 0 (some ip) (UInt32.ofNat offsetofHdrChksum)
      let ptr := ip.drop (offsetofHdrChksum + 2)
      ipCksum sum (some ptr) (UInt32.ofInt (ipLen - offsetofSrcIp))

/-- The pseudo-header of a segment of `tcpLen` bytes under the header `ipHdr`. -/
def tcpPs (ipHdr : Ipv4Hdr) (tcpLen : UInt16) : TcpPseudoHdr :=
  { srcIp := ipHdr.srcIp, dstIp := ipHdr.dstIp, zero := 0, prot := ipHdr.prot,
    tcpSize := hton16 tcpLen }

def cylpaIpv4TcpHdrCksum (ip tcp : Bytes) (tcpLen : UInt16) : UInt16 :=
  let ipHdr := Ipv4Hdr.ofBytes ip
  if tcpLen < cylpaTcpMinHeaderLen then cylpaCommonErr
  else
    let sum := ipCksumPartial 0 (some (tcpPs ipHdr tcpLen).toBytes) 12
    tcpHdrChksum sum tcp tcpLen

/-- `for (i = 0; i < len; i++)`: an odd byte as it is, an even one shifted up. -/
def cylpaChecksumAddLoop : UInt32 → UInt16 → Bytes → ℕ → UInt32
  | sum, i, b :: buf, n + 1 =>
      cylpaChecksumAddLoop (sum + if i &&& 1 ≠ 0 then b.toUInt32 else b.toUInt32 <<< 8)
        (i + 1) buf n
  | sum, _, _, _ => sum

def cylpaChecksumAdd (len : UInt16) (buf : Bytes) : UInt32 :=
  cylpaChecksumAddLoop 0 0 buf len.toNat

theorem toNat_shiftRight_16 (x : UInt32) : (x >>> 16).toNat = x.toNat / 65536 := by
  rw [UInt32.toNat_shiftRight, Nat.shiftRight_eq_div_pow]
  rfl

theorem toNat_land_ffff (x : UInt32) : (x &&& 0xffff).toNat = x.toNat % 65536 := by
  rw [UInt32.toNat_and]
  exact Nat.and_two_pow_sub_one_eq_mod x.toNat 16

/-- The high half added to the low half is one fold. -/
theorem toNat_fold (x : UInt32) :
    ((x >>> 16) + (x &&& (0xffff : UInt32))).toNat = EndAround.fold 65536 x.toNat := by
  have := x.toNat_lt
  rw [UInt32.toNat_add, toNat_shiftRight_16, toNat_land_ffff, EndAround.fold]
  omega

theorem toNat_fold_comm (x : UInt32) :
    ((x &&& (0xffff : UInt32)) + (x >>> 16)).toNat = EndAround.fold 65536 x.toNat := by
  rw [UInt32.add_comm, toNat_fold]

theorem toNat_fold_lt {x : UInt32} (h : x >>> 16 ≠ 0) :
    ((x &&& (0xffff : UInt32)) + (x >>> 16)).toNat < x.toNat := by
  rw [toNat_fold_comm]
  refine EndAround.fold_lt_self (by decide) ?_
  rw [Ne, ← UInt32.toNat_inj, toNat_shiftRight_16] at h
  simp at h
  omega

def cylpaChecksumFinish (sum : UInt32) : UInt16 :=
  if _h : sum >>> 16 ≠ 0 then cylpaChecksumFinish ((sum &&& (0xffff : UInt32)) + (sum >>> 16))
  else (~~~sum).toUInt16
termination_by sum.toNat
decreasing_by exact toNat_fold_lt _h

def cylpaUdpCksum (length : UInt16) (addrs buf : Bytes) : UInt16 :=
  let sum : UInt32 := 0
  let sum := sum + cylpaChecksumAdd length buf
  let sum := sum + cylpaChecksumAdd (UInt16.ofNat (cylpaIpv4AddrLen * 2)) addrs
  let sum := sum + (cylpaIpProtoUdp.toUInt32 + length.toUInt32)
  let chksum := cylpaChecksumFinish sum
  -- zero means 'no checksum'
  if chksum = 0x0000 then 0xffff else chksum

/-! ### The little-endian engine -/

theorem toNat_ipCksumPartialLoop : ∀ (sum : UInt32) (bs : Bytes) (n : ℕ), 2 * n ≤ bs.length →
    sum.toNat + leSum (bs.take (2 * n)) < 2 ^ 32 →
    (ipCksumPartialLoop sum bs n).toNat = sum.toNat + leSum (bs.take (2 * n))
  | sum, a :: b :: bs, n + 1, hn, hlt => by
      have hlen : 2 * n ≤ bs.length := by simp only [List.length_cons] at hn; omega
      rw [show 2 * (n + 1) = 2 * n + 1 + 1 by ring, List.take_succ_cons, List.take_succ_cons,
        leSum] at hlt ⊢
      have hs : (sum + (u16 a b).toUInt32).toNat = sum.toNat + (a.toNat + 256 * b.toNat) := by
        rw [UInt32.toNat_add, UInt16.toNat_toUInt32, toNat_u16]
        omega
      rw [ipCksumPartialLoop, toNat_ipCksumPartialLoop _ bs n hlen (by rw [hs]; omega), hs]
      omega
  | sum, bs, 0, _, _ => by simp [ipCksumPartialLoop, leSum]
  | sum, [], n + 1, hn, _ => by simp at hn
  | sum, [a], n + 1, hn, _ => by simp at hn; omega

theorem toNat_ipCksumLoop : ∀ (sum : UInt32) (bs : Bytes) (n : ℕ), n ≤ bs.length →
    sum.toNat + leSum (bs.take n) < 2 ^ 32 →
    (ipCksumLoop sum bs n).toNat = sum.toNat + leSum (bs.take n)
  | sum, a :: b :: bs, n + 2, hn, hlt => by
      have hlen : n ≤ bs.length := by simp only [List.length_cons] at hn; omega
      rw [List.take_succ_cons, List.take_succ_cons, leSum] at hlt ⊢
      have hs : (sum + (u16 a b).toUInt32).toNat = sum.toNat + (a.toNat + 256 * b.toNat) := by
        rw [UInt32.toNat_add, UInt16.toNat_toUInt32, toNat_u16]
        omega
      rw [ipCksumLoop, toNat_ipCksumLoop _ bs n hlen (by rw [hs]; omega), hs]
      omega
  | sum, a :: bs, 1, _, hlt => by
      rw [List.take_succ_cons, List.take_zero, leSum] at hlt ⊢
      have : ipCksumLoop sum (a :: bs) 1 = sum + a.toUInt32 := by cases bs <;> rfl
      rw [this, UInt32.toNat_add, UInt8.toNat_toUInt32]
      omega
  | sum, bs, 0, _, _ => by
      have : ipCksumLoop sum bs 0 = sum := by
        rcases bs with _ | ⟨a, _ | ⟨b, bs⟩⟩ <;> rfl
      simp [this, leSum]
  | sum, [], n + 1, hn, _ => by simp at hn
  | sum, [a], n + 2, hn, _ => by simp at hn

/-- The complement of a 32-bit word, cut to 16 bits. -/
theorem toNat_not_toUInt16 (x : UInt32) : (~~~x).toUInt16.toNat = 65535 - x.toNat % 65536 := by
  have := x.toNat_lt
  rw [UInt32.toNat_toUInt16, UInt32.toNat_not]
  simp only [UInt32.size]
  omega

/-- A second fold without the mask is a fold in the low half. -/
theorem toNat_add_shiftRight_16 {x : UInt32} (h : x.toNat ≤ 131070) :
    (x + (x >>> 16)).toNat % 65536 = EndAround.fold 65536 x.toNat := by
  rw [UInt32.toNat_add, toNat_shiftRight_16, EndAround.fold]
  omega

/-- The little-endian engine returns the complement of the word its sum folds down to. -/
theorem ipCksum_foldsTo (sum count : UInt32) (bs : Bytes) (hn : count.toNat ≤ bs.length)
    (hlt : sum.toNat + leSum (bs.take count.toNat) < 2 ^ 32) :
    ∃ s, EndAround.FoldsTo 65536 (sum.toNat + leSum (bs.take count.toNat)) s ∧
      (ipCksum sum (some bs) count).toNat = 65536 - 1 - s := by
  have hs := toNat_ipCksumLoop sum bs count.toNat hn hlt
  set s := ipCksumLoop sum bs count.toNat
  set n := sum.toNat + leSum (bs.take count.toNat)
  have hf : ((s >>> 16) + (s &&& (0xffff : UInt32))).toNat = EndAround.fold 65536 n := by
    rw [toNat_fold, hs]
  have hle : EndAround.fold 65536 n ≤ 131070 := by unfold EndAround.fold; omega
  -- two folds bring 32 bits down to 16
  have hlt' : EndAround.fold 65536 (EndAround.fold 65536 n) < 65536 := by
    unfold EndAround.fold at hle ⊢
    omega
  refine ⟨_, ((EndAround.foldsTo_self hlt').of_fold (by decide)).of_fold (by decide), ?_⟩
  rw [ipCksum, toNat_not_toUInt16, toNat_add_shiftRight_16 (by rw [hf]; exact hle), hf]

/-- **The little-endian engine** complements the sum it is given and the words it reads. -/
theorem ipCksum_complements (sum count : UInt32) (bs : Bytes) (hn : count.toNat ≤ bs.length)
    (hlt : sum.toNat + leSum (bs.take count.toNat) < 2 ^ 32) :
    EndAround.Complements 65536 (ipCksum sum (some bs) count).toNat
      (sum.toNat + leSum (bs.take count.toNat)) := by
  obtain ⟨s, hs, hc⟩ := ipCksum_foldsTo sum count bs hn hlt
  rw [hc]
  exact hs.complements (by decide)

theorem toNat_ofNat_of_lt_16 {n : ℕ} (h : n < 2 ^ 16) : (UInt32.ofNat n).toNat = n :=
  UInt32.toNat_ofNat_of_lt (h.trans (by decide))

theorem toNat_ofNat_div_two {n : ℕ} (h : n < 2 ^ 16) : (UInt32.ofNat n / 2).toNat = n / 2 := by
  rw [UInt32.toNat_div, toNat_ofNat_of_lt_16 h]
  rfl

/-- The bytes before the checksum field, summed. -/
theorem toNat_ipCksumPartial (sum : UInt32) (bs : Bytes) {n : ℕ} (h2 : n % 2 = 0)
    (hn : n ≤ bs.length) (hn16 : n < 2 ^ 16)
    (hlt : sum.toNat + leSum (bs.take n) < 2 ^ 32) :
    (ipCksumPartial sum (some bs) (UInt32.ofNat n)).toNat = sum.toNat + leSum (bs.take n) := by
  have hto := toNat_ofNat_of_lt_16 hn16
  have hmod : UInt32.ofNat n % 2 = 0 := by
    rw [← UInt32.toNat_inj, UInt32.toNat_mod, hto]
    exact h2
  have hhalf := toNat_ofNat_div_two hn16
  have htwice : 2 * (n / 2) = n := by omega
  rw [ipCksumPartial, if_neg (by simp [hmod]), hhalf,
    toNat_ipCksumPartialLoop _ _ _ (by omega) (by rw [htwice]; exact hlt), htwice]

/-- A stretch summed with its checksum field left out, starting from `sum`: the checksum stored
in the field complements what `sum` already holds. -/
theorem skipField_complements (sum : UInt32) (bs : Bytes) (off : ℕ) {len : ℕ}
    (h2 : off % 2 = 0) (hoff : off + 2 ≤ len) (hlen : len ≤ bs.length) (hlen16 : len < 2 ^ 16)
    (hsum : sum.toNat < 2 ^ 30) :
    EndAround.Complements 65536
      (ipCksum (ipCksumPartial sum (some bs) (UInt32.ofNat off)) (some (bs.drop (off + 2)))
        (UInt32.ofNat (len - (off + 2)))).toNat
      (sum.toNat + leSum (bs.take off) + leSum ((bs.take len).drop (off + 2))) := by
  have hlo := leSum_le (bs.take off)
  have hhi := leSum_le ((bs.drop (off + 2)).take (len - (off + 2)))
  rw [List.length_take_of_le (by omega)] at hlo
  rw [List.length_take_of_le (by rw [List.length_drop]; omega)] at hhi
  have hto := toNat_ofNat_of_lt_16 (show len - (off + 2) < 2 ^ 16 by omega)
  have hpart : (ipCksumPartial sum (some bs) (UInt32.ofNat off)).toNat =
      sum.toNat + leSum (bs.take off) :=
    toNat_ipCksumPartial sum bs h2 (by omega) (by omega) (by omega)
  have hc := ipCksum_complements (ipCksumPartial sum (some bs) (UInt32.ofNat off))
    (UInt32.ofNat (len - (off + 2))) (bs.drop (off + 2))
    (by rw [hto, List.length_drop]; omega) (by rw [hto, hpart]; omega)
  rwa [hto, hpart, ← List.drop_take] at hc

/-- The bytes of an IP header after its checksum. -/
theorem ofInt_sub_srcIp {ipLen : ℕ} (h20 : cylpaIpv4MinHeaderLen ≤ ipLen)
    (hlen16 : ipLen < 2 ^ 16) :
    UInt32.ofInt ((ipLen : ℤ) - (offsetofSrcIp : ℕ)) = UInt32.ofNat (ipLen - (10 + 2)) := by
  have h20' : 20 ≤ ipLen := h20
  have : (((ipLen - 12 : ℕ) : ℤ) % 2 ^ 32).toNat = ipLen - 12 := by omega
  rw [offsetofSrcIp, ← Nat.cast_sub (by omega), UInt32.ofInt, this]

/-- The bytes of a TCP segment after its checksum. -/
theorem sub_urgPtr {tcpLen : UInt16} (h20 : cylpaTcpMinHeaderLen ≤ tcpLen) :
    tcpLen.toUInt32 - UInt32.ofNat offsetofUrgPtr = UInt32.ofNat (tcpLen.toNat - (16 + 2)) := by
  have h20' : 20 ≤ tcpLen.toNat := h20
  have hlen16 := tcpLen.toNat_lt
  rw [← UInt32.toNat_inj, UInt32.toNat_sub_of_le, UInt16.toNat_toUInt32,
    toNat_ofNat_of_lt_16 (n := tcpLen.toNat - (16 + 2)) (by omega)]
  · rfl
  · rw [UInt32.le_iff_toNat_le, UInt16.toNat_toUInt32]
    exact le_trans (by decide) h20'

/-- The pseudo-header, summed. -/
theorem toNat_ipCksumPartial_tcpPs (ip : Bytes) (tcpLen : UInt16) :
    (ipCksumPartial 0 (some (tcpPs (Ipv4Hdr.ofBytes ip) tcpLen).toBytes) 12).toNat =
      leSum (tcpPs (Ipv4Hdr.ofBytes ip) tcpLen).toBytes := by
  set ps := (tcpPs (Ipv4Hdr.ofBytes ip) tcpLen).toBytes with hps
  have hpslen : ps.length = 12 := by simp [hps]
  have hpsle := leSum_le ps
  rw [hpslen] at hpsle
  have := toNat_ipCksumPartial 0 ps (n := 12) (by decide) (by omega)
    (by decide) (by rw [List.take_of_length_le (by omega)]; simp; omega)
  rw [List.take_of_length_le (by omega)] at this
  simpa using this

/-- **The IP header verifies** once its checksum is stored. -/
theorem ipv4HdrCksum_verifies (ip : Bytes) (ipLen : ℕ) (h20 : cylpaIpv4MinHeaderLen ≤ ipLen)
    (hlen : ipLen ≤ ip.length) (hlen16 : ipLen < 2 ^ 16) :
    onesSum (memcpy (ip.take ipLen) offsetofHdrChksum
      (le16 (cylpaIpv4HdrCksum (some ip) ipLen))) = 65535 := by
  have h20' : 20 ≤ ipLen := h20
  have hcount := ofInt_sub_srcIp h20 hlen16
  have hc : EndAround.Complements 65536 (cylpaIpv4HdrCksum (some ip) ipLen).toNat
      (leSum (ip.take 10) + leSum ((ip.take ipLen).drop (10 + 2))) := by
    have := skipField_complements 0 ip 10 (by decide)
      (show 10 + 2 ≤ ipLen by omega) hlen hlen16 (by decide)
    rw [cylpaIpv4HdrCksum, if_neg (by exact_mod_cast not_lt.mpr h20), hcount]
    simpa [offsetofHdrChksum] using this
  have hl : leSum (memcpy (ip.take ipLen) offsetofHdrChksum
      (le16 (cylpaIpv4HdrCksum (some ip) ipLen))) =
      (cylpaIpv4HdrCksum (some ip) ipLen).toNat +
        (leSum (ip.take 10) + leSum ((ip.take ipLen).drop (10 + 2))) := by
    rw [offsetofHdrChksum, leSum_memcpy_le16 _ (by decide) (by rw [List.length_take]; omega),
      List.take_take, Nat.min_eq_left (by omega)]
    omega
  exact onesSum_eq_top (hl ▸ hc.1) (hl ▸ hc.2)

/-- **The TCP segment verifies** under its pseudo-header once its checksum is stored. -/
theorem tcpHdrCksum_verifies (ip tcp : Bytes) (tcpLen : UInt16)
    (h20 : cylpaTcpMinHeaderLen ≤ tcpLen) (hlen : tcpLen.toNat ≤ tcp.length) :
    onesSum ((tcpPs (Ipv4Hdr.ofBytes ip) tcpLen).toBytes ++
      memcpy (tcp.take tcpLen.toNat) offsetofChksum
        (le16 (cylpaIpv4TcpHdrCksum ip tcp tcpLen))) = 65535 := by
  have h20' : 20 ≤ tcpLen.toNat := h20
  have hlen16 := tcpLen.toNat_lt
  set ps := (tcpPs (Ipv4Hdr.ofBytes ip) tcpLen).toBytes with hps
  have hpslen : ps.length = 12 := by simp [hps]
  have hpsle := leSum_le ps
  rw [hpslen] at hpsle
  have hsum : (ipCksumPartial 0 (some ps) 12).toNat = leSum ps :=
    toNat_ipCksumPartial_tcpPs ip tcpLen
  have hcount := sub_urgPtr h20
  have hc : EndAround.Complements 65536 (cylpaIpv4TcpHdrCksum ip tcp tcpLen).toNat
      (leSum ps + leSum (tcp.take 16) + leSum ((tcp.take tcpLen.toNat).drop (16 + 2))) := by
    have := skipField_complements (ipCksumPartial 0 (some ps) 12) tcp 16
      (by decide) (show 16 + 2 ≤ tcpLen.toNat by omega) hlen hlen16 (by rw [hsum]; omega)
    simp only [cylpaIpv4TcpHdrCksum, tcpHdrChksum, if_neg (UInt16.not_lt.mpr h20), hcount]
    rwa [hsum] at this
  have hl : leSum (ps ++ memcpy (tcp.take tcpLen.toNat) offsetofChksum
      (le16 (cylpaIpv4TcpHdrCksum ip tcp tcpLen))) =
      (cylpaIpv4TcpHdrCksum ip tcp tcpLen).toNat +
        (leSum ps + leSum (tcp.take 16) + leSum ((tcp.take tcpLen.toNat).drop (16 + 2))) := by
    -- the pseudo-header is of even length, so the segment's words are unshifted
    rw [leSum_append _ (by rw [hpslen]), offsetofChksum,
      leSum_memcpy_le16 _ (by decide) (by rw [List.length_take]; omega), List.take_take,
      Nat.min_eq_left (by omega)]
    omega
  exact onesSum_eq_top (hl ▸ hc.1) (hl ▸ hc.2)

/-! ### The network-order engine -/

theorem toNat_land_one (i : UInt16) : (i &&& 1).toNat = i.toNat % 2 := by
  rw [UInt16.toNat_and]
  exact Nat.and_two_pow_sub_one_eq_mod i.toNat 1

theorem toNat_shiftLeft_8 (b : UInt8) : (b.toUInt32 <<< 8).toNat = 256 * b.toNat := by
  have := b.toNat_lt
  simp [UInt32.toNat_shiftLeft, Nat.shiftLeft_eq]
  omega

/-- The loop takes the bytes two at a time: its index is even at the first of the two. -/
theorem toNat_cylpaChecksumAddLoop : ∀ (sum : UInt32) (i : UInt16) (bs : Bytes) (n : ℕ),
    i.toNat % 2 = 0 → n ≤ bs.length → sum.toNat + (beWords (bs.take n)).sum < 2 ^ 32 →
    (cylpaChecksumAddLoop sum i bs n).toNat = sum.toNat + (beWords (bs.take n)).sum
  | sum, i, a :: b :: bs, n + 2, hi, hn, hlt => by
      have hlen : n ≤ bs.length := by simp only [List.length_cons] at hn; omega
      have hi1 : (i + 1).toNat % 2 = 1 := by rw [UInt16.toNat_add]; simp; omega
      have hi2 : (i + 1 + 1).toNat % 2 = 0 := by rw [UInt16.toNat_add]; simp; omega
      have heven : ¬ i &&& 1 ≠ 0 := by
        rw [not_not, ← UInt16.toNat_inj, toNat_land_one, hi]; rfl
      have hodd : i + 1 &&& 1 ≠ 0 := by
        rw [Ne, ← UInt16.toNat_inj, toNat_land_one, hi1]; decide
      rw [List.take_succ_cons, List.take_succ_cons, beWords, List.sum_cons] at hlt ⊢
      have hs : (sum + a.toUInt32 <<< 8 + b.toUInt32).toNat =
          sum.toNat + (256 * a.toNat + b.toNat) := by
        rw [UInt32.toNat_add, UInt32.toNat_add, toNat_shiftLeft_8, UInt8.toNat_toUInt32]
        omega
      rw [cylpaChecksumAddLoop, if_neg heven, cylpaChecksumAddLoop, if_pos hodd,
        toNat_cylpaChecksumAddLoop _ _ bs n hi2 hlen (by rw [hs]; omega), hs]
      omega
  | sum, i, a :: bs, 1, hi, _, hlt => by
      have heven : ¬ i &&& 1 ≠ 0 := by
        rw [not_not, ← UInt16.toNat_inj, toNat_land_one, hi]; rfl
      rw [List.take_succ_cons, List.take_zero, beWords, List.sum_singleton] at hlt ⊢
      have : cylpaChecksumAddLoop sum i (a :: bs) 1 = sum + a.toUInt32 <<< 8 := by
        rw [cylpaChecksumAddLoop, if_neg heven]
        cases bs <;> rfl
      rw [this, UInt32.toNat_add, toNat_shiftLeft_8]
      omega
  | sum, i, bs, 0, _, _, _ => by
      have : cylpaChecksumAddLoop sum i bs 0 = sum := by cases bs <;> rfl
      simp [this, beWords]
  | sum, i, [], n + 1, _, hn, _ => by simp at hn
  | sum, i, [a], n + 2, _, hn, _ => by simp at hn

theorem toNat_cylpaChecksumAdd {len : UInt16} {bs : Bytes} (hn : len.toNat ≤ bs.length) :
    (cylpaChecksumAdd len bs).toNat = (beWords (bs.take len.toNat)).sum := by
  have hle := beWords_sum_le (bs.take len.toNat)
  rw [List.length_take_of_le hn] at hle
  have hlen := len.toNat_lt
  have := toNat_cylpaChecksumAddLoop 0 0 bs len.toNat (by decide) hn (by simp; omega)
  simpa [cylpaChecksumAdd] using this

/-- The network-order engine returns the complement of the word its sum folds down to. -/
theorem cylpaChecksumFinish_foldsTo (sum : UInt32) :
    ∃ s, EndAround.FoldsTo 65536 sum.toNat s ∧
      (cylpaChecksumFinish sum).toNat = 65536 - 1 - s := by
  fun_induction cylpaChecksumFinish sum with
  | case1 sum h ih =>
      obtain ⟨s, hs, hc⟩ := ih
      rw [toNat_fold_comm] at hs
      exact ⟨s, hs.of_fold (by decide), hc⟩
  | case2 sum h =>
      have hlt : sum.toNat < 65536 := by
        rw [not_not, ← UInt32.toNat_inj, toNat_shiftRight_16] at h
        simp at h
        omega
      refine ⟨sum.toNat, EndAround.foldsTo_self hlt, ?_⟩
      rw [toNat_not_toUInt16, Nat.mod_eq_of_lt hlt]

/-- **The network-order engine** complements the sum it folds. -/
theorem cylpaChecksumFinish_complements (sum : UInt32) :
    EndAround.Complements 65536 (cylpaChecksumFinish sum).toNat sum.toNat := by
  obtain ⟨s, hs, hc⟩ := cylpaChecksumFinish_foldsTo sum
  rw [hc]
  exact hs.complements (by decide)

/-- What `cylpa_udp_cksum` complements. -/
theorem cylpaUdpCksum_complements {length : UInt16} {addrs buf : Bytes}
    (haddrs : addrs.length = 8) (hlen : length.toNat ≤ buf.length) :
    EndAround.Complements 65536 (cylpaUdpCksum length addrs buf).toNat
      ((beWords (buf.take length.toNat)).sum + (beWords addrs).sum + (17 + length.toNat)) := by
  have hbuf := beWords_sum_le (buf.take length.toNat)
  rw [List.length_take_of_le hlen] at hbuf
  have hadd := beWords_sum_le addrs
  rw [haddrs] at hadd
  have hlen16 := length.toNat_lt
  -- three sums of 16-bit words, too few for 32 bits to overflow
  set sum : UInt32 := 0 + cylpaChecksumAdd length buf +
    cylpaChecksumAdd (UInt16.ofNat (cylpaIpv4AddrLen * 2)) addrs +
      (cylpaIpProtoUdp.toUInt32 + length.toUInt32) with hsum
  have hs : sum.toNat =
      (beWords (buf.take length.toNat)).sum + (beWords addrs).sum + (17 + length.toNat) := by
    have ha : (cylpaChecksumAdd (UInt16.ofNat (cylpaIpv4AddrLen * 2)) addrs).toNat =
        (beWords addrs).sum := by
      rw [toNat_cylpaChecksumAdd (by rw [haddrs]; decide),
        List.take_of_length_le (by rw [haddrs]; decide)]
    have hp : cylpaIpProtoUdp.toUInt32.toNat = 17 := rfl
    rw [hsum, UInt32.toNat_add, UInt32.toNat_add, UInt32.toNat_add, UInt32.toNat_add, ha,
      toNat_cylpaChecksumAdd hlen, UInt16.toNat_toUInt32, hp, UInt32.toNat_zero]
    omega
  have hc := hs ▸ cylpaChecksumFinish_complements sum
  have hdef : cylpaUdpCksum length addrs buf =
      if cylpaChecksumFinish sum = 0 then 0xffff else cylpaChecksumFinish sum := rfl
  rw [hdef]
  split
  · rename_i h0
    rw [h0] at hc
    exact hc.top (by decide)
  · exact hc

/-- The UDP checksum is never the 'no checksum' zero. -/
theorem cylpaUdpCksum_ne_zero (length : UInt16) (addrs buf : Bytes) :
    cylpaUdpCksum length addrs buf ≠ 0 := by
  unfold cylpaUdpCksum
  dsimp only
  split
  · decide
  · assumption

/-- **The UDP datagram verifies** under its pseudo-header once its checksum is stored in a field
that was zero. -/
theorem udpCksum_verifies (length : UInt16) {addrs buf : Bytes} (haddrs : addrs.length = 8)
    (h8 : cylpaUdpHlen ≤ length) (hlen : length.toNat ≤ buf.length) (h0 : u16At buf 6 = 0) :
    onesSum (addrs ++ [0, cylpaIpProtoUdp] ++ le16 (hton16 length) ++
      memcpy (buf.take length.toNat) 6 (le16 (hton16 (cylpaUdpCksum length addrs buf)))) =
        65535 := by
  have h8' : 8 ≤ length.toNat := h8
  have hc := cylpaUdpCksum_complements haddrs hlen
  set c := cylpaUdpCksum length addrs buf
  -- the field was summed as zero
  have hz : (beWords (buf.take length.toNat)).sum =
      (beWords ((buf.take length.toNat).take 6)).sum +
        (beWords ((buf.take length.toNat).drop (6 + 2))).sum := by
    have h0' : u16At (buf.take length.toNat) 6 = 0 := by
      rw [u16At_take (by omega), h0]
    have := beWords_sum_memcpy (buf.take length.toNat) 6 0 (by decide)
      (by rw [List.length_take]; omega)
    rwa [show hton16 0 = u16At (buf.take length.toNat) 6 by rw [h0']; rfl,
      memcpy_u16At (by rw [List.length_take]; omega)] at this
  have hb : (beWords (addrs ++ [0, cylpaIpProtoUdp] ++ le16 (hton16 length) ++
      memcpy (buf.take length.toNat) 6 (le16 (hton16 c)))).sum =
      c.toNat +
        ((beWords (buf.take length.toNat)).sum + (beWords addrs).sum + (17 + length.toNat)) := by
    rw [beWords_append _ (by simp [haddrs]), beWords_append _ (by simp [haddrs]),
      beWords_append _ (by simp [haddrs]), List.sum_append, List.sum_append, List.sum_append,
      beWords_le16_hton16,
      beWords_sum_memcpy _ 6 _ (by decide) (by rw [List.length_take]; omega), hz]
    have : (beWords [0, cylpaIpProtoUdp]).sum = 17 := rfl
    simp only [this, List.sum_singleton]
    omega
  rw [onesSum_eq_top_iff, hb]
  exact hc

/-! ### Headers with their checksum in place -/

/-- The IP checksum does not read the field it is stored in. -/
theorem cylpaIpv4HdrCksum_hdrChksum (h : Ipv4Hdr) (c : UInt16) :
    cylpaIpv4HdrCksum (some { h with hdrChksum := c }.toBytes) 20 =
      cylpaIpv4HdrCksum (some h.toBytes) 20 := rfl

/-- An IP header without options verifies with its checksum in place. -/
theorem Ipv4Hdr.verifies (h : Ipv4Hdr) :
    onesSum { h with hdrChksum := cylpaIpv4HdrCksum (some h.toBytes) 20 }.toBytes = 65535 := by
  have hv := ipv4HdrCksum_verifies h.toBytes 20 (le_refl _)
    (by simp [sizeofIpv4Hdr]) (by decide)
  rw [List.take_of_length_le (by simp [sizeofIpv4Hdr])] at hv
  exact hv

/-- A TCP header verifies under its pseudo-header with its checksum in place. -/
theorem BcmtcpHdr.verifies (ip : Ipv4Hdr) (t : BcmtcpHdr) :
    onesSum ((tcpPs ip 20).toBytes ++
      { t with chksum := cylpaIpv4TcpHdrCksum ip.toBytes t.toBytes 20 }.toBytes) = 65535 := by
  have hv := tcpHdrCksum_verifies ip.toBytes t.toBytes 20
    (by decide) (by simp [sizeofBcmtcpHdr])
  rw [List.take_of_length_le (by simp [sizeofBcmtcpHdr]), Ipv4Hdr.ofBytes_toBytes] at hv
  exact hv

/-- The UDP checksum reads no further than its length. -/
theorem cylpaUdpCksum_append {length : UInt16} (addrs : Bytes) {buf : Bytes} (rest : Bytes)
    (hlen : length.toNat ≤ buf.length) :
    cylpaUdpCksum length addrs (buf ++ rest) = cylpaUdpCksum length addrs buf := by
  have h : cylpaChecksumAdd length (buf ++ rest) = cylpaChecksumAdd length buf := by
    rw [← UInt32.toNat_inj, toNat_cylpaChecksumAdd (by rw [List.length_append]; omega),
      toNat_cylpaChecksumAdd hlen, List.take_append_of_le_length hlen]
  rw [cylpaUdpCksum, cylpaUdpCksum, h]

/-- A UDP datagram verifies under its pseudo-header with its checksum in place. -/
theorem UdpHdr.verifies (u : UdpHdr) (addrs payload : Bytes) (length : UInt16)
    (haddrs : addrs.length = 8) (hlen : length.toNat = 8 + payload.length) (h0 : u.chksum = 0) :
    onesSum (addrs ++ [0, cylpaIpProtoUdp] ++ le16 (hton16 length) ++
      ({ u with chksum := hton16 (cylpaUdpCksum length addrs (u.toBytes ++ payload)) }.toBytes ++
        payload)) = 65535 := by
  have hbuf : (u.toBytes ++ payload).length = length.toNat := by
    rw [List.length_append, UdpHdr.length_toBytes, hlen]
    rfl
  have hfield : u16At (u.toBytes ++ payload) 6 = 0 := (u16_lo_hi u.chksum).trans h0
  have hv := udpCksum_verifies length haddrs
    (by rw [UInt16.le_iff_toNat_le, hlen]; exact Nat.le_add_right 8 _) (by rw [hbuf]) hfield
  rw [List.take_of_length_le (by rw [hbuf])] at hv
  exact hv

end Lpa
