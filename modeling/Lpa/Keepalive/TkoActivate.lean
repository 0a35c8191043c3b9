import Lpa.Keepalive.TkoConnect
import Lpa.Offload.Info

/-!
# Keepalive — activating a connection

`whd_tko_activate`: the socket's numbers from the network stack, the two hardware addresses, and
the connect request, which goes to the firmware in one iovar.

The length of the iovar is what `tko_connect_init` returns.  An error there is caught, except that
of the response frame: its length is `0xfffe` then, and the sum goes out.

* `whdTkoActivate_eq`: what is sent for a socket.
* `tkoErrorCaught_iff`: an error is always caught exactly for a socket whose response has not the
  bad sum, or whose next number is `0`, where the probe has the same.
-/

namespace Lpa

/-- What the calls for a connection's numbers and addresses answer: the statistics of the socket,
`whd_wifi_get_mac_address` and `cy_wcm_get_gateway_mac_address`, each of which may fail. -/
structure AddressAnswers where
  sockStats : Option SockSeq
  macAddress : Option WhdMac
  gateway : Option WhdMac

/-- The answers to `whd_tko_activate`: those, the iovar buffer, and that of `set_iovar`. -/
structure TkoActivateAnswers extends AddressAnswers where
  buffer : WlTkoConnect
  setIovar : ℤ

/-- The remote hardware address: that of the stack's table, where the search answers an index, or
the gateway's. -/
def remoteMac (search : ℤ × WhdMac) (gateway : Option WhdMac) : Option WhdMac :=
  if search.1 ≥ 0 then some search.2 else gateway

/-- `whd_tko_activate`, up to the hardware addresses; `search` is the stack's, of an address. -/
def tkoAddresses (search : UInt32 → ℤ × WhdMac) (ans : AddressAnswers) : Option SockSeq := do
  let seq ← ans.sockStats
  let srcMac ← ans.macAddress
  let seq := { seq with srcMac := srcMac }
  let dstMac ← remoteMac (search seq.dstip) ans.gateway
  return { seq with dstMac := dstMac }

/-- `wl_tko_t` with a connect request. -/
structure WlTko where
  subcmdId : UInt16
  len : UInt16
  connect : WlTkoConnect
deriving DecidableEq, Repr

/-- `whd_tko_activate`: the result and the iovar set, if any. -/
def whdTkoActivate (layout : TkoLayout) (whdBadarg : ℤ) (search : UInt32 → ℤ × WhdMac)
    (index : UInt8) (ans : TkoActivateAnswers) : ℤ × Option WlTko :=
  match tkoAddresses search ans.toAddressAnswers with
  | none => (whdBadarg, none)
  | some seq =>
    let r := tkoConnectInit layout.offsetofConnectData ans.buffer seq index
    if r.1 = tkoError then (r.1, none)
    else (ans.setIovar, some
      { subcmdId := layout.wlTkoSubcmdConnect
        len := UInt16.ofNat layout.offsetofData + UInt16.ofInt r.1
        connect := r.2.1 })

/-! ### What is sent -/

section Activate

variable {layout : TkoLayout} {whdBadarg : ℤ} {search : UInt32 → ℤ × WhdMac} {index : UInt8}
  {ans : TkoActivateAnswers} {seq' : SockSeq}

/-- The addresses add to the socket of the stack, and to nothing a sum is made of. -/
theorem tkoAddresses_eq {ans : AddressAnswers} (h : tkoAddresses search ans = some seq') :
    ∃ seq srcMac dstMac, ans.sockStats = some seq ∧
      remoteMac (search seq.dstip) ans.gateway = some dstMac ∧
      seq' = { seq with srcMac := srcMac, dstMac := dstMac } := by
  obtain ⟨seq, hseq, h⟩ := Option.bind_eq_some_iff.mp h
  obtain ⟨srcMac, -, h⟩ := Option.bind_eq_some_iff.mp h
  obtain ⟨dstMac, hdstMac, h⟩ := Option.bind_eq_some_iff.mp h
  cases h
  exact ⟨seq, srcMac, dstMac, hseq, hdstMac, rfl⟩

/-- **What is sent** is the request, unless it could not be built. -/
theorem whdTkoActivate_eq {tko : WlTko}
    (h : (whdTkoActivate layout whdBadarg search index ans).2 = some tko) :
    ∃ seq, tkoAddresses search ans.toAddressAnswers = some seq ∧
      (tkoConnectInit layout.offsetofConnectData ans.buffer seq index).1 ≠ tkoError ∧
      tko = ⟨layout.wlTkoSubcmdConnect, UInt16.ofNat layout.offsetofData +
          UInt16.ofInt (tkoConnectInit layout.offsetofConnectData ans.buffer seq index).1,
        (tkoConnectInit layout.offsetofConnectData ans.buffer seq index).2.1⟩ := by
  unfold whdTkoActivate at h
  cases haddrs : tkoAddresses search ans.toAddressAnswers with
  | none =>
      simp only [haddrs] at h
      cases h
  | some seq =>
      simp only [haddrs] at h
      split at h
      · cases h
      · rename_i hne
        cases h
        exact ⟨seq, rfl, hne, rfl⟩

end Activate

/-! ### Errors -/

/-- The probe's sum is one less, but for the carry out of the lower half. -/
theorem probe_wordSum {seq : SockSeq} (h : seq.seqnum ≠ 0) :
    seq.probe.wordSum + 1 = seq.wordSum ∨ seq.probe.wordSum + 1 = seq.wordSum + 65535 := by
  have hpos : seq.seqnum.toNat ≠ 0 := fun h0 => h (UInt32.toNat_inj.mp h0)
  have hlt := seq.seqnum.toNat_lt
  have hprobe : (seq.seqnum - 1).toNat = seq.seqnum.toNat - 1 := by
    rw [UInt32.toNat_sub_of_le]
    · rfl
    · rw [UInt32.le_iff_toNat_le]
      exact Nat.one_le_iff_ne_zero.mpr hpos
  simp only [SockSeq.wordSum, SockSeq.probe, hprobe]
  omega

/-- Before `0` comes the top number, whose halves sum to zero. -/
theorem probe_wordSum_zero {seq : SockSeq} (h : seq.seqnum = 0) :
    seq.probe.wordSum = seq.wordSum + 2 * 65535 := by
  have hprobe : ((0 : UInt32) - 1).toNat = 4294967295 := by decide
  have hzero : (0 : UInt32).toNat = 0 := rfl
  simp only [SockSeq.wordSum, SockSeq.probe, h, hprobe, hzero]
  omega

/-- **An error is caught**: `tko_connect_init` tells of one in either frame, and what
`whd_tko_activate` sends has a length that is that of two frames. -/
structure TkoErrorCaught (layout : TkoLayout) (whdBadarg : ℤ) (seq : SockSeq) : Prop where
  connectInit (connect : WlTkoConnect) (index : UInt8) (buf buf' : Bytes) :
    (prepPacket seq.probe index.toNat (some buf)).1 = tkoError ∨
        (prepPacket seq index.toNat (some buf')).1 = tkoError →
      (tkoConnectInit layout.offsetofConnectData connect seq index).1 = tkoError
  activate (search : UInt32 → ℤ × WhdMac) (index : UInt8) (ans : TkoActivateAnswers)
    (tko : WlTko) : ans.sockStats = some seq →
      (whdTkoActivate layout whdBadarg search index ans).2 = some tko →
      tko.connect.requestLen = 54 ∧ tko.connect.responseLen = 54 ∧
        tko.len = UInt16.ofNat
          (layout.offsetofData + (layout.offsetofConnectData + 8 + 54 + 54))

/-- The iovar of a socket whose response has not the bad sum. -/
theorem whdTkoActivate_len {layout : TkoLayout} {whdBadarg : ℤ} {seq : SockSeq}
    (hseq : ¬ seq.BadSum) {search : UInt32 → ℤ × WhdMac} {index : UInt8}
    {ans : TkoActivateAnswers} {tko : WlTko} (hans : ans.sockStats = some seq)
    (h : (whdTkoActivate layout whdBadarg search index ans).2 = some tko) :
    tko.connect.requestLen = 54 ∧ tko.connect.responseLen = 54 ∧
      tko.len = UInt16.ofNat
        (layout.offsetofData + (layout.offsetofConnectData + 8 + 54 + 54)) := by
  obtain ⟨seq', haddrs, hne, rfl⟩ := whdTkoActivate_eq h
  obtain ⟨seq₁, srcMac, dstMac, hseq₁, -, rfl⟩ := tkoAddresses_eq haddrs
  cases hans.symm.trans hseq₁
  set seq' : SockSeq := { seq with srcMac := srcMac, dstMac := dstMac }
  have hprobe : ¬ seq'.probe.BadSum := fun hbad => hne (tkoConnectInit_of_badSum _ _ _ hbad)
  have hinit := tkoConnectInit_eq layout.offsetofConnectData ans.buffer index _ hprobe
    (if_neg (show ¬ seq'.BadSum from hseq)).symm
  have hofInt : ∀ n : ℕ, UInt16.ofInt n = UInt16.ofNat n := by
    intro n
    rw [UInt16.ofInt, ← UInt16.toNat_inj]
    simp
    omega
  rw [hinit]
  refine ⟨rfl, rfl, ?_⟩
  simp only [hofInt, ← UInt16.ofNat_add]
  rfl

/-- **Errors are caught** exactly for the sockets whose response has not the bad sum, or whose next
number is `0`: there the probe has the same sum. -/
theorem tkoErrorCaught_iff (layout : TkoLayout) (whdBadarg : ℤ) (seq : SockSeq) :
    TkoErrorCaught layout whdBadarg seq ↔ ¬ (seq.wordSum % 65535 = 256 ∧ seq.seqnum ≠ 0) := by
  have herror : ∀ (seq : SockSeq) (index : ℤ) (buf : Bytes),
      (prepPacket seq index (some buf)).1 = tkoError ↔ seq.BadSum := by
    intro seq index buf
    rw [prepPacket_fst]
    split
    · exact iff_of_true rfl ‹_›
    · exact iff_of_false (by decide) ‹_›
  constructor
  · rintro h ⟨hbad, hseqnum⟩
    have hprobe : ¬ seq.probe.BadSum := by
      have hsum := probe_wordSum hseqnum
      unfold SockSeq.BadSum
      omega
    have hinit := tkoConnectInit_eq layout.offsetofConnectData ⟨0, 0, 0, 0, 0, 0, 0, 0, []⟩ 0 _
      hprobe (if_pos hbad).symm
    have hcaught := h.connectInit ⟨0, 0, 0, 0, 0, 0, 0, 0, []⟩ 0 [] []
      (.inr ((herror _ _ _).mpr hbad))
    rw [hinit] at hcaught
    have hlen : (0xfffe : UInt16).toNat = 0xfffe := rfl
    simp only [tkoError, hlen] at hcaught
    omega
  · intro h
    by_cases hbad : seq.BadSum
    · have hseqnum : seq.seqnum = 0 := by
        by_contra hne
        exact h ⟨hbad, hne⟩
      have hprobe : seq.probe.BadSum := by
        have hsum := probe_wordSum_zero hseqnum
        unfold SockSeq.BadSum at hbad ⊢
        omega
      refine ⟨fun connect index _ _ _ => tkoConnectInit_of_badSum _ _ _ hprobe,
        fun search index ans tko hans hsent => ?_⟩
      obtain ⟨seq', haddrs, hne, -⟩ := whdTkoActivate_eq hsent
      obtain ⟨seq₁, srcMac, dstMac, hseq₁, -, rfl⟩ := tkoAddresses_eq haddrs
      cases hans.symm.trans hseq₁
      have hprobe' : ({ seq with srcMac := srcMac, dstMac := dstMac } : SockSeq).probe.BadSum :=
        hprobe
      exact absurd (tkoConnectInit_of_badSum _ _ _ hprobe') hne
    · refine ⟨fun connect index buf buf' hfails => ?_,
        fun search index ans tko hans hsent => whdTkoActivate_len hbad hans hsent⟩
      rw [herror, herror, or_iff_left hbad] at hfails
      exact tkoConnectInit_of_badSum _ _ _ hfails

/-- A connection whose response alone has the bad sum: the error is not told. -/
theorem tkoError_not_caught :
    ¬ ∀ (layout : TkoLayout) (whdBadarg : ℤ) (seq : SockSeq),
      TkoErrorCaught layout whdBadarg seq := by
  intro h
  let seq : SockSeq := ⟨⟨.replicate 6 0⟩, ⟨.replicate 6 0⟩, 0x0a01a8c0, 0x0101a8c0, 50000, 1883,
    1000, 2000, 22293⟩
  have hbad : seq.BadSum := show seq.wordSum % 65535 = 256 by decide
  have hinit := tkoConnectInit_eq 18 ⟨0, 0, 0, 0, 0, 0, 0, 0, []⟩ 0 seq
    (show ¬ seq.probe.wordSum % 65535 = 256 by decide) (if_pos hbad).symm
  have hfails : (prepPacket seq (0 : UInt8).toNat (some [])).1 = tkoError := by
    rw [prepPacket_fst, if_pos hbad]
  have hcaught := (h ⟨18, 4, 1, by decide⟩ 2 seq).connectInit ⟨0, 0, 0, 0, 0, 0, 0, 0, []⟩ 0 [] []
    (.inr hfails)
  rw [hinit] at hcaught
  exact absurd hcaught (by decide)

end Lpa
