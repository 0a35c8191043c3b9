import Lpa.Common.Checksum

/-!
# Common — the two checksum engines

`cy_lpa_common.c` again.  Each routine of the little-endian engine is written out a second time
with additions that give up where 32 bits would wrap (`addNoWrap`); on every length the callers
pass, the two versions return the same, so no addition of the routines wraps.

* `cksums_verify`: the checksums verify, ignore what their field held before, and are computed
  without a wrap.
* `engines_agree`: the network-order engine returns the little-endian engine's checksum with its
  bytes swapped, after at most two rounds of its folding loop.
-/

namespace Lpa

/-! ### Additions that do not wrap -/

/-- `a + b`, or nothing where the 32-bit sum wraps. -/
def addNoWrap (a b : UInt32) : Option UInt32 :=
  if a.toNat + b.toNat < 2 ^ 32 then some (a + b) else none

/-- `ip_cksum_partial`'s loop, stopping where `sum` wraps. -/
def ipCksumPartialLoopNoWrap : UInt32 → Bytes → ℕ → Option UInt32
  | sum, a :: b :: val, count + 1 => do
      let sum ← addNoWrap sum (u16 a b).toUInt32
      ipCksumPartialLoopNoWrap sum val count
  | sum, _, _ => some sum

def ipCksumPartialNoWrap (sum : UInt32) (val8 : Option Bytes) (count : UInt32) :
    Option UInt32 :=
  match val8 with
  | none => some cylpaCommonErr.toUInt32
  | some val => if count % 2 ≠ 0 then some cylpaCommonErr.toUInt32
      else ipCksumPartialLoopNoWrap sum val (count / 2).toNat

/-- `ip_cksum`'s loop and its left-over byte, stopping where `sum` wraps. -/
def ipCksumLoopNoWrap : UInt32 → Bytes → ℕ → Option UInt32
  | sum, a :: b :: val, count + 2 => do
      let sum ← addNoWrap sum (u16 a b).toUInt32
      ipCksumLoopNoWrap sum val count
  | sum, a :: _, 1 => addNoWrap sum a.toUInt32
  | sum, _, _ => some sum

def ipCksumNoWrap (sum : UInt32) (val8 : Option Bytes) (count : UInt32) : Option UInt16 :=
  match val8 with
  | none => some cylpaCommonErr
  | some val => do
    let sum ← ipCksumLoopNoWrap sum val count.toNat
    let sum ← addNoWrap (sum >>> 16) (sum &&& 0xffff)
    let sum ← addNoWrap sum (sum >>> 16)
    return (~~~sum).toUInt16

def tcpHdrChksumNoWrap (sum : UInt32) (tcpHdr : Bytes) (tcpLen : UInt16) : Option UInt16 :=
  if tcpLen < cylpaTcpMinHeaderLen then some cylpaCommonErr
  else do
    let sum ← ipCksumPartialNoWrap sum (some tcpHdr) (UInt32.ofNat offsetofChksum)
    let ptr := tcpHdr.drop (offsetofChksum + 2)
    ipCksumNoWrap sum (some ptr) (tcpLen.toUInt32 - UInt32.ofNat offsetofUrgPtr)

def cylpaIpv4HdrCksumNoWrap (ip : Option Bytes) (ipLen : ℤ) : Option UInt16 :=
  match ip with
  | none => some cylpaCommonErr
  | some ip =>
    if ipLen < cylpaIpv4MinHeaderLen then some cylpaCommonErr
    else do
      let sum ← ipCksumPartialNoWrap 0 (some ip) (UInt32.ofNat offsetofHdrChksum)
      let ptr := ip.drop (offsetofHdrChksum + 2)
      ipCksumNoWrap sum (some ptr) (UInt32.ofInt (ipLen - offsetofSrcIp))

def cylpaIpv4TcpHdrCksumNoWrap (ip tcp : Bytes) (tcpLen : UInt16) : Option UInt16 :=
  let ipHdr := Ipv4Hdr.ofBytes ip
  if tcpLen < cylpaTcpMinHeaderLen then some cylpaCommonErr
  else do
    let sum ← ipCksumPartialNoWrap 0 (some (tcpPs ipHdr tcpLen).toBytes) 12
    tcpHdrChksumNoWrap sum tcp tcpLen

theorem addNoWrap_eq {a b : UInt32} (h : a.toNat + b.toNat < 2 ^ 32) :
    addNoWrap a b = some (a + b) :=
  if_pos h

theorem ipCksumPartialLoopNoWrap_eq : ∀ (sum : UInt32) (bs : Bytes) (n : ℕ),
    sum.toNat + leSum (bs.take (2 * n)) < 2 ^ 32 →
    ipCksumPartialLoopNoWrap sum bs n = some (ipCksumPartialLoop sum bs n)
  | sum, a :: b :: bs, n + 1, hlt => by
      rw [show 2 * (n + 1) = 2 * n + 1 + 1 by ring, List.take_succ_cons, List.take_succ_cons,
        leSum] at hlt
      have hab : (u16 a b).toUInt32.toNat = a.toNat + 256 * b.toNat := by
        rw [UInt16.toNat_toUInt32, toNat_u16]
      have hadd : addNoWrap sum (u16 a b).toUInt32 = some (sum + (u16 a b).toUInt32) :=
        addNoWrap_eq (by rw [hab]; omega)
      rw [ipCksumPartialLoopNoWrap, hadd, ipCksumPartialLoop]
      refine ipCksumPartialLoopNoWrap_eq _ bs n ?_
      rw [UInt32.toNat_add, hab]
      omega
  | sum, bs, 0, _ => by cases bs with
      | nil => rfl
      | cons a bs => cases bs <;> rfl
  | sum, [], n + 1, _ => rfl
  | sum, [a], n + 1, _ => rfl

theorem ipCksumLoopNoWrap_eq : ∀ (sum : UInt32) (bs : Bytes) (n : ℕ),
    sum.toNat + leSum (bs.take n) < 2 ^ 32 →
    ipCksumLoopNoWrap sum bs n = some (ipCksumLoop sum bs n)
  | sum, a :: b :: bs, n + 2, hlt => by
      rw [List.take_succ_cons, List.take_succ_cons, leSum] at hlt
      have hab : (u16 a b).toUInt32.toNat = a.toNat + 256 * b.toNat := by
        rw [UInt16.toNat_toUInt32, toNat_u16]
      have hadd : addNoWrap sum (u16 a b).toUInt32 = some (sum + (u16 a b).toUInt32) :=
        addNoWrap_eq (by rw [hab]; omega)
      rw [ipCksumLoopNoWrap, hadd, ipCksumLoop]
      refine ipCksumLoopNoWrap_eq _ bs n ?_
      rw [UInt32.toNat_add, hab]
      omega
  | sum, a :: bs, 1, hlt => by
      rw [List.take_succ_cons, List.take_zero, leSum] at hlt
      have hadd : addNoWrap sum a.toUInt32 = some (sum + a.toUInt32) :=
        addNoWrap_eq (by rw [UInt8.toNat_toUInt32]; exact hlt)
      cases bs <;> exact hadd
  | sum, bs, 0, _ => by
      rcases bs with _ | ⟨a, _ | ⟨b, bs⟩⟩ <;> rfl
  | sum, [], n + 1, _ => rfl
  | sum, [a], n + 2, _ => rfl

theorem ipCksumPartialNoWrap_eq (sum : UInt32) (bs : Bytes) (count : UInt32)
    (hlt : sum.toNat + leSum (bs.take (2 * (count / 2).toNat)) < 2 ^ 32) :
    ipCksumPartialNoWrap sum (some bs) count = some (ipCksumPartial sum (some bs) count) := by
  rw [ipCksumPartialNoWrap, ipCksumPartial, ipCksumPartialLoopNoWrap_eq _ _ _ hlt]
  split <;> rfl

/-- Neither fold wraps, whatever the loop summed. -/
theorem ipCksumNoWrap_eq (sum : UInt32) (bs : Bytes) (count : UInt32)
    (hlt : sum.toNat + leSum (bs.take count.toNat) < 2 ^ 32) :
    ipCksumNoWrap sum (some bs) count = some (ipCksum sum (some bs) count) := by
  set s := ipCksumLoop sum bs count.toNat with hs
  have hloop : ipCksumLoopNoWrap sum bs count.toNat = some s := ipCksumLoopNoWrap_eq _ _ _ hlt
  have hs32 := s.toNat_lt
  have h₁ : addNoWrap (s >>> 16) (s &&& 0xffff) = some ((s >>> 16) + (s &&& 0xffff)) :=
    addNoWrap_eq (by rw [toNat_shiftRight_16, toNat_land_ffff]; omega)
  set f := (s >>> 16) + (s &&& (0xffff : UInt32)) with hf
  have hf32 : f.toNat ≤ 131070 := by rw [hf, toNat_fold, EndAround.fold]; omega
  have h₂ : addNoWrap f (f >>> 16) = some (f + (f >>> 16)) :=
    addNoWrap_eq (by rw [toNat_shiftRight_16]; omega)
  simp only [ipCksumNoWrap, hloop, h₁, h₂, Option.bind_eq_bind, Option.bind_some, ipCksum,
    ← hs, ← hf, Option.pure_def]

/-- The routines that leave a checksum field out wrap nowhere. -/
theorem skipField_noWrap (sum : UInt32) (bs : Bytes) (off : ℕ) {len : ℕ} (h2 : off % 2 = 0)
    (hoff : off + 2 ≤ len) (hlen : len ≤ bs.length) (hlen16 : len < 2 ^ 16)
    (hsum : sum.toNat < 2 ^ 30) :
    (ipCksumPartialNoWrap sum (some bs) (UInt32.ofNat off)).bind (fun s =>
        ipCksumNoWrap s (some (bs.drop (off + 2))) (UInt32.ofNat (len - (off + 2)))) =
      some (ipCksum (ipCksumPartial sum (some bs) (UInt32.ofNat off))
        (some (bs.drop (off + 2))) (UInt32.ofNat (len - (off + 2)))) := by
  have hlo := leSum_le (bs.take off)
  have hhi := leSum_le ((bs.drop (off + 2)).take (len - (off + 2)))
  rw [List.length_take_of_le (by omega)] at hlo
  rw [List.length_take_of_le (by rw [List.length_drop]; omega)] at hhi
  have hhalf : 2 * (UInt32.ofNat off / 2).toNat = off := by
    rw [toNat_ofNat_div_two (by omega)]
    omega
  rw [ipCksumPartialNoWrap_eq _ _ _ (by rw [hhalf]; omega), Option.bind_some,
    ipCksumNoWrap_eq]
  rw [toNat_ofNat_of_lt_16 (n := len - (off + 2)) (by omega),
    toNat_ipCksumPartial sum bs h2 (by omega) (by omega) (by omega)]
  omega

/-! ### The field a checksum is stored in -/

/-- The loop reads no further than its count. -/
theorem ipCksumPartialLoop_take : ∀ (sum : UInt32) (bs : Bytes) (n : ℕ),
    ipCksumPartialLoop sum (bs.take (2 * n)) n = ipCksumPartialLoop sum bs n
  | sum, a :: b :: bs, n + 1 => by
      rw [show 2 * (n + 1) = 2 * n + 1 + 1 by ring, List.take_succ_cons, List.take_succ_cons,
        ipCksumPartialLoop, ipCksumPartialLoop, ipCksumPartialLoop_take _ bs n]
  | sum, bs, 0 => by
      rcases bs with _ | ⟨a, _ | ⟨b, bs⟩⟩ <;> rfl
  | sum, [], n + 1 => by rw [List.take_nil]
  | sum, [a], n + 1 => by
      rw [show 2 * (n + 1) = 2 * n + 1 + 1 by ring, List.take_succ_cons, List.take_nil]

theorem take_memcpy_self (bs xs : Bytes) {off : ℕ} (h : off ≤ bs.length) :
    (memcpy bs off xs).take off = bs.take off := by
  rw [memcpy, List.append_assoc, List.take_left' (List.length_take_of_le h)]

theorem drop_memcpy_self (bs xs : Bytes) {off : ℕ} (h : off ≤ bs.length) :
    (memcpy bs off xs).drop (off + xs.length) = bs.drop (off + xs.length) := by
  rw [memcpy, List.drop_left' (by rw [List.length_append, List.length_take_of_le h])]

/-- The words before the field do not change with the field. -/
theorem ipCksumPartial_memcpy (sum : UInt32) (bs xs : Bytes) {off : ℕ} (h2 : off % 2 = 0)
    (hoff : off ≤ bs.length) (hoff16 : off < 2 ^ 16) :
    ipCksumPartial sum (some (memcpy bs off xs)) (UInt32.ofNat off) =
      ipCksumPartial sum (some bs) (UInt32.ofNat off) := by
  have hhalf : 2 * (UInt32.ofNat off / 2).toNat = off := by
    rw [toNat_ofNat_div_two hoff16]
    omega
  have hloop : ipCksumPartialLoop sum (memcpy bs off xs) (UInt32.ofNat off / 2).toNat =
      ipCksumPartialLoop sum bs (UInt32.ofNat off / 2).toNat := by
    rw [← ipCksumPartialLoop_take, hhalf, take_memcpy_self bs xs hoff]
    nth_rewrite 1 [← hhalf]
    exact ipCksumPartialLoop_take sum bs _
  rw [ipCksumPartial, ipCksumPartial, hloop]

theorem skipField_memcpy (sum count : UInt32) (bs : Bytes) (x : UInt16) {off : ℕ}
    (h2 : off % 2 = 0) (hoff : off ≤ bs.length) (hoff16 : off < 2 ^ 16) :
    ipCksum (ipCksumPartial sum (some (memcpy bs off (le16 x))) (UInt32.ofNat off))
        (some ((memcpy bs off (le16 x)).drop (off + 2))) count =
      ipCksum (ipCksumPartial sum (some bs) (UInt32.ofNat off)) (some (bs.drop (off + 2)))
        count := by
  have hdrop := drop_memcpy_self bs (le16 x) hoff
  rw [length_le16] at hdrop
  rw [ipCksumPartial_memcpy sum bs _ h2 hoff hoff16, hdrop]

/-- The IP checksum is the same whatever its field holds. -/
theorem cylpaIpv4HdrCksum_memcpy (ip : Bytes) (ipLen : ℤ) (x : UInt16)
    (h : offsetofHdrChksum ≤ ip.length) :
    cylpaIpv4HdrCksum (some (memcpy ip offsetofHdrChksum (le16 x))) ipLen =
      cylpaIpv4HdrCksum (some ip) ipLen := by
  simp only [cylpaIpv4HdrCksum, skipField_memcpy _ _ ip x (by decide) h (by decide)]

/-- The TCP checksum is the same whatever its field holds. -/
theorem cylpaIpv4TcpHdrCksum_memcpy (ip tcp : Bytes) (tcpLen x : UInt16)
    (h : offsetofChksum ≤ tcp.length) :
    cylpaIpv4TcpHdrCksum ip (memcpy tcp offsetofChksum (le16 x)) tcpLen =
      cylpaIpv4TcpHdrCksum ip tcp tcpLen := by
  simp only [cylpaIpv4TcpHdrCksum, tcpHdrChksum,
    skipField_memcpy _ _ tcp x (by decide) h (by decide)]

/-! ### The routines, whole -/

theorem cylpaIpv4HdrCksumNoWrap_eq (ip : Bytes) (ipLen : ℕ)
    (h20 : cylpaIpv4MinHeaderLen ≤ ipLen) (hlen : ipLen ≤ ip.length) (hlen16 : ipLen < 2 ^ 16) :
    cylpaIpv4HdrCksumNoWrap (some ip) ipLen = some (cylpaIpv4HdrCksum (some ip) ipLen) := by
  have h20' : 20 ≤ ipLen := h20
  have hnot : ¬ (ipLen : ℤ) < (cylpaIpv4MinHeaderLen : ℕ) := by exact_mod_cast not_lt.mpr h20
  rw [cylpaIpv4HdrCksumNoWrap, if_neg hnot, cylpaIpv4HdrCksum, if_neg hnot,
    ofInt_sub_srcIp h20 hlen16]
  exact skipField_noWrap 0 ip 10 (by decide) (show 10 + 2 ≤ ipLen by omega) hlen hlen16
    (by decide)

theorem cylpaIpv4TcpHdrCksumNoWrap_eq (ip tcp : Bytes) (tcpLen : UInt16)
    (h20 : cylpaTcpMinHeaderLen ≤ tcpLen) (hlen : tcpLen.toNat ≤ tcp.length) :
    cylpaIpv4TcpHdrCksumNoWrap ip tcp tcpLen = some (cylpaIpv4TcpHdrCksum ip tcp tcpLen) := by
  have h20' : 20 ≤ tcpLen.toNat := h20
  set ps := (tcpPs (Ipv4Hdr.ofBytes ip) tcpLen).toBytes with hps
  have hps12 : ps.take (2 * ((12 : UInt32) / 2).toNat) = ps :=
    List.take_of_length_le (by simp [hps])
  have hpsle := leSum_le ps
  rw [show ps.length = 12 by simp [hps]] at hpsle
  have hpartial : ipCksumPartialNoWrap 0 (some ps) 12 = some (ipCksumPartial 0 (some ps) 12) :=
    ipCksumPartialNoWrap_eq 0 ps 12 (by rw [hps12, UInt32.toNat_zero]; omega)
  have hsum := toNat_ipCksumPartial_tcpPs ip tcpLen
  rw [← hps] at hsum
  simp only [cylpaIpv4TcpHdrCksumNoWrap, tcpHdrChksumNoWrap, cylpaIpv4TcpHdrCksum, tcpHdrChksum,
    if_neg (UInt16.not_lt.mpr h20), ← hps, hpartial, Option.bind_eq_bind, Option.bind_some,
    sub_urgPtr h20]
  exact skipField_noWrap _ tcp 16 (by decide) (show 16 + 2 ≤ tcpLen.toNat by omega) hlen
    tcpLen.toNat_lt (by rw [hsum]; omega)

/-- The pseudo-header as it is on the wire: the addresses of the IP header `ip`, a zero, its
protocol, and the length of the segment, high byte first. -/
def pseudoHeader (ip : Bytes) (tcpLen : UInt16) : Bytes :=
  [ip.getD 12 0, ip.getD 13 0, ip.getD 14 0, ip.getD 15 0] ++
    [ip.getD 16 0, ip.getD 17 0, ip.getD 18 0, ip.getD 19 0] ++
    [0, ip.getD 9 0, UInt8.ofNat (tcpLen.toNat / 256), UInt8.ofNat (tcpLen.toNat % 256)]

/-- The host's structure holds these bytes. -/
theorem toBytes_tcpPs (ip : Bytes) (tcpLen : UInt16) :
    (tcpPs (Ipv4Hdr.ofBytes ip) tcpLen).toBytes = pseudoHeader ip tcpLen := by
  have hhi : hi tcpLen = UInt8.ofNat (tcpLen.toNat / 256) := by
    rw [← toNat_hi, UInt8.ofNat_toNat]
  have hlo : lo tcpLen = UInt8.ofNat (tcpLen.toNat % 256) := by
    rw [← toNat_lo, UInt8.ofNat_toNat]
  simp only [tcpPs, TcpPseudoHdr.toBytes, le16_hton16, toList_four, hhi, hlo]
  rfl

/-- **The header checksums** make their bytes verify, do not depend on what their field held
before, and are summed without a wrap, on any length from a bare header up to 65535. -/
theorem cksums_verify :
    (∀ (ip : Bytes) (ipLen : ℕ), 20 ≤ ipLen → ipLen ≤ 65535 → ipLen ≤ ip.length →
      onesSum (memcpy (ip.take ipLen) offsetofHdrChksum
        (le16 (cylpaIpv4HdrCksum (some ip) ipLen))) = 65535 ∧
      (∀ x, cylpaIpv4HdrCksum (some (memcpy ip offsetofHdrChksum (le16 x))) ipLen =
        cylpaIpv4HdrCksum (some ip) ipLen) ∧
      cylpaIpv4HdrCksumNoWrap (some ip) ipLen = some (cylpaIpv4HdrCksum (some ip) ipLen)) ∧
    ∀ (ip tcp : Bytes) (tcpLen : UInt16), 20 ≤ tcpLen → tcpLen.toNat ≤ tcp.length →
      onesSum (pseudoHeader ip tcpLen ++
        memcpy (tcp.take tcpLen.toNat) offsetofChksum
          (le16 (cylpaIpv4TcpHdrCksum ip tcp tcpLen))) = 65535 ∧
      (∀ x, cylpaIpv4TcpHdrCksum ip (memcpy tcp offsetofChksum (le16 x)) tcpLen =
        cylpaIpv4TcpHdrCksum ip tcp tcpLen) ∧
      cylpaIpv4TcpHdrCksumNoWrap ip tcp tcpLen = some (cylpaIpv4TcpHdrCksum ip tcp tcpLen) := by
  refine ⟨fun ip ipLen h20 h16 hlen => ⟨?_, fun x => ?_, ?_⟩,
    fun ip tcp tcpLen h20 hlen => ⟨?_, fun x => ?_, ?_⟩⟩
  · exact ipv4HdrCksum_verifies ip ipLen h20 hlen (by omega)
  · exact cylpaIpv4HdrCksum_memcpy ip ipLen x (by rw [offsetofHdrChksum]; omega)
  · exact cylpaIpv4HdrCksumNoWrap_eq ip ipLen h20 hlen (by omega)
  · rw [← toBytes_tcpPs]
    exact tcpHdrCksum_verifies ip tcp tcpLen h20 hlen
  · have h20' : 20 ≤ tcpLen.toNat := h20
    exact cylpaIpv4TcpHdrCksum_memcpy ip tcp tcpLen x (by rw [offsetofChksum]; omega)
  · exact cylpaIpv4TcpHdrCksumNoWrap_eq ip tcp tcpLen h20 hlen

/-- An IP header of all ones but for its last byte, and a TCP segment with an odd byte of data. -/
theorem cksums_verify_ones :
    cylpaIpv4HdrCksumNoWrap (some (List.replicate 19 0xff ++ [1])) (20 : ℕ) =
      some (cylpaIpv4HdrCksum (some (List.replicate 19 0xff ++ [1])) (20 : ℕ)) ∧
    onesSum (pseudoHeader (List.replicate 20 0x45) 21 ++
      memcpy (List.take (21 : UInt16).toNat (List.replicate 21 0xff)) offsetofChksum
        (le16 (cylpaIpv4TcpHdrCksum (List.replicate 20 0x45) (List.replicate 21 0xff) 21))) =
      65535 ∧
    cylpaIpv4TcpHdrCksumNoWrap (List.replicate 20 0x45) (List.replicate 21 0xff) 21 =
      some (cylpaIpv4TcpHdrCksum (List.replicate 20 0x45) (List.replicate 21 0xff) 21) := by
  obtain ⟨-, -, hip⟩ := cksums_verify.1 (List.replicate 19 0xff ++ [1]) 20 (by decide) (by decide)
    (by decide)
  obtain ⟨hsum, -, htcp⟩ := cksums_verify.2 (List.replicate 20 0x45) (List.replicate 21 0xff) 21
    (by decide) (by decide)
  exact ⟨hip, hsum, htcp⟩

/-! ### The engines, compared -/

/-- One round of `cylpa_checksum_finish`'s loop. -/
def finishRound (sum : UInt32) : UInt32 := (sum &&& (0xffff : UInt32)) + (sum >>> 16)

theorem cylpaChecksumFinish_of_shiftRight_ne {sum : UInt32} (h : sum >>> 16 ≠ 0) :
    cylpaChecksumFinish sum = cylpaChecksumFinish (finishRound sum) := by
  rw [cylpaChecksumFinish, dif_pos h, finishRound]

theorem cylpaChecksumFinish_of_shiftRight_eq {sum : UInt32} (h : sum >>> 16 = 0) :
    cylpaChecksumFinish sum = (~~~sum).toUInt16 := by
  rw [cylpaChecksumFinish, dif_neg (not_not.mpr h)]

/-- Two rounds bring any 32-bit sum down to 16 bits. -/
theorem finishRound_finishRound_shiftRight (sum : UInt32) :
    finishRound (finishRound sum) >>> 16 = 0 := by
  have hlt := sum.toNat_lt
  rw [← UInt32.toNat_inj, toNat_shiftRight_16, finishRound, toNat_fold_comm, finishRound,
    toNat_fold_comm, UInt32.toNat_zero, EndAround.fold, EndAround.fold]
  omega

/-- The bytes of a complement, swapped. -/
theorem toNat_hton16_compl {x : UInt16} {t : ℕ} (ht : t < 65536)
    (hx : x.toNat = 65536 - 1 - t) :
    (hton16 x).toNat = 65536 - 1 - (t / 256 + 256 * (t % 256)) := by
  rw [hton16, toNat_u16, toNat_hi, toNat_lo, hx]
  omega

/-- The word the big-endian bytes fold down to, swapped, is the one the little-endian words do. -/
theorem foldsTo_leSum {bs : Bytes} {t : ℕ}
    (ht : EndAround.FoldsTo 65536 (beWords bs).sum t) :
    EndAround.FoldsTo 65536 (leSum bs) (t / 256 + 256 * (t % 256)) := by
  have htlt := ht.lt
  have ht' : EndAround.FoldsTo (256 * 256) (beWords bs).sum (256 * (t / 256) + t % 256) := by
    rw [Nat.div_add_mod]
    exact ht
  refine (ht'.swap (by decide) (by omega) (by omega)).congr (leSum_modEq bs).symm ?_
  rw [leSum_eq_zero_iff, Nat.mul_eq_zero]
  omega

theorem hton16_cylpaChecksumFinish (n : UInt16) (buf : Bytes) (hn : n.toNat ≤ buf.length) :
    hton16 (cylpaChecksumFinish (cylpaChecksumAdd n buf)) =
      ipCksum 0 (some buf) n.toUInt32 := by
  have hn32 : n.toUInt32.toNat = n.toNat := UInt16.toNat_toUInt32 n
  have hle := leSum_le (buf.take n.toNat)
  rw [List.length_take_of_le hn] at hle
  have hlt := n.toNat_lt
  obtain ⟨s, hs, hsc⟩ := ipCksum_foldsTo 0 n.toUInt32 buf (by rw [hn32]; exact hn)
    (by rw [hn32, UInt32.toNat_zero]; omega)
  obtain ⟨t, ht, htc⟩ := cylpaChecksumFinish_foldsTo (cylpaChecksumAdd n buf)
  rw [hn32, UInt32.toNat_zero, Nat.zero_add] at hs
  rw [toNat_cylpaChecksumAdd hn] at ht
  have hst : s = t / 256 + 256 * (t % 256) := hs.unique (foldsTo_leSum ht)
  rw [← UInt16.toNat_inj, toNat_hton16_compl ht.lt htc, hsc, hst]

/-- **The two engines agree**: the network-order engine's checksum of any bytes, its bytes
swapped, is the little-endian engine's; and its folding loop ends on every sum. -/
theorem engines_agree :
    (∀ (n : UInt16) (buf : Bytes), n.toNat ≤ buf.length →
      hton16 (cylpaChecksumFinish (cylpaChecksumAdd n buf)) =
        ipCksum 0 (some buf) n.toUInt32) ∧
    ∀ sum : UInt32, ∃ k ≤ 2, (∀ j < k, finishRound^[j] sum >>> 16 ≠ 0) ∧
      finishRound^[k] sum >>> 16 = 0 ∧
      cylpaChecksumFinish sum = (~~~(finishRound^[k] sum)).toUInt16 := by
  refine ⟨hton16_cylpaChecksumFinish, fun sum => ?_⟩
  by_cases h₀ : sum >>> 16 = 0
  · exact ⟨0, by omega, fun j hj => absurd hj (by omega), h₀,
      cylpaChecksumFinish_of_shiftRight_eq h₀⟩
  have hfinish := cylpaChecksumFinish_of_shiftRight_ne h₀
  by_cases h₁ : finishRound sum >>> 16 = 0
  · refine ⟨1, by omega, fun j hj => ?_, h₁, ?_⟩
    · rw [show j = 0 by omega]
      exact h₀
    · rw [hfinish]
      exact cylpaChecksumFinish_of_shiftRight_eq h₁
  · have h₂ := finishRound_finishRound_shiftRight sum
    refine ⟨2, by omega, fun j hj => ?_, h₂, ?_⟩
    · interval_cases j
      · exact h₀
      · exact h₁
    · rw [hfinish, cylpaChecksumFinish_of_shiftRight_ne h₁]
      exact cylpaChecksumFinish_of_shiftRight_eq h₂

/-- Two bytes, the sum of which is the other zero. -/
theorem engines_agree_ones :
    hton16 (cylpaChecksumFinish (cylpaChecksumAdd 2 [0xff, 0xff])) =
      ipCksum 0 (some [0xff, 0xff]) (2 : UInt16).toUInt32 :=
  engines_agree.1 2 [0xff, 0xff] (by decide)

end Lpa
