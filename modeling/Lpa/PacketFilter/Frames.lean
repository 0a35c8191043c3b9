import Lpa.Common.Wire
import Lpa.PacketFilter.Power
import Lpa.Support.Masked

/-!
# Packet filter — the frames a filter selects

The firmware reads `mask_size` bytes of a frame from `offset` on and compares each, masked, with
the pattern's.  What the entry asks for is said without the headers of the code, by the EtherType,
the protocol and the ports at their places in the frame (`CyPfOlCfg.Selects`), and byte for byte
by the list of masks and patterns the entry has of its own (`compared`).

* `memcpy_memcpy`: headers copied one behind the other are copied as one, so that the buffers
  begin with the entry's own bytes, and the four a port filter copies too many stand behind
  `mask_size`.
* `at_compared`: these bytes match the frames the entry selects.
* `cylpaPfOlInit_describes`: hence the filters added are one for each known entry, in order, each
  as its own entry asks for, whatever the buffers held.
-/

namespace Lpa

open Masked

/-- The filter matches the frame. -/
def WhdPacketFilter.Matches (filter : WhdPacketFilter) (frame : Bytes) : Prop :=
  ∀ i < filter.maskSize,
    frame.getD (filter.offset + i) 0 &&& filter.mask.getD i 0 = filter.pattern.getD i 0

/-- The 16-bit number of a frame at `off`. -/
def word (frame : Bytes) (off : ℕ) : UInt16 := UInt16.ofNat (Wire.be16 frame off)

/-- The ports at bytes 34 and 36 are ones the pair computed for the entry lets through. -/
def CyPnDirection.Selects (d : CyPnDirection) (pm : UInt16 × UInt16) (frame : Bytes) : Prop :=
  match d with
  | .source => Matches pm (word frame 34)
  | .dest => Matches pm (word frame 36)
  | _ => Matches pm (word frame 34) ∧ Matches pm (word frame 36)

/-- The frames an entry is about. -/
def CyPfOlCfg.Selects (e : CyPfOlCfg) (frame : Bytes) : Prop :=
  match e.feature with
  | .ethtype eth => word frame 12 = eth
  | .iptype ipType => word frame 12 = 0x0800 ∧ frame.getD 23 0 = ipType
  | .portnum pf =>
    word frame 12 = 0x0800 ∧ frame.getD 23 0 = (if pf.proto = .udp then 17 else 6) ∧
      pf.portnum.direction.Selects (portMask pf.portnum) frame
  | .other _ => False

/-! ### An entry's own bytes -/

/-- A masked number in network order. -/
def wordPairs (mask pattern : UInt16) : List (UInt8 × UInt8) :=
  [(hi mask, hi pattern), (lo mask, lo pattern)]

/-- Bytes not looked at. -/
def anyBytes (n : ℕ) : List (UInt8 × UInt8) := List.replicate n (0, 0)

/-- An IPv4 header of which only the protocol is looked at. -/
def protPairs (prot : UInt8) : List (UInt8 × UInt8) := anyBytes 9 ++ [(0xff, prot)] ++ anyBytes 10

/-- The ports. -/
def CyPnDirection.pairs (d : CyPnDirection) (pm : UInt16 × UInt16) : List (UInt8 × UInt8) :=
  match d with
  | .source => wordPairs pm.2 pm.1 ++ anyBytes 2
  | .dest => anyBytes 2 ++ wordPairs pm.2 pm.1
  | _ => wordPairs pm.2 pm.1 ++ wordPairs pm.2 pm.1

/-- The masks and patterns of an entry, from the EtherType on. -/
def CyPfOlCfg.compared (e : CyPfOlCfg) : List (UInt8 × UInt8) :=
  match e.feature with
  | .ethtype eth => wordPairs 0xffff eth
  | .iptype ipType => wordPairs 0xffff etherTypeIp ++ protPairs ipType
  | .portnum pf =>
    wordPairs 0xffff etherTypeIp ++ protPairs pf.proto.prot ++
      pf.portnum.direction.pairs (portMask pf.portnum)
  | .other _ => []

/-- A filter is the entry's own. -/
structure CyPfOlCfg.Describes (e : CyPfOlCfg) (filter : WhdPacketFilter) : Prop where
  id : filter.id = e.id
  rule : filter.rule = .negativeMatching ↔ e.bits &&& cyPfActionDiscard ≠ 0
  offset : filter.offset = ethtypeOffset
  size : filter.maskSize = e.compared.length
  mask : filter.mask.take filter.maskSize = e.compared.map Prod.fst
  pattern : filter.pattern.take filter.maskSize = e.compared.map Prod.snd
  selects : ∀ frame : Bytes, 38 ≤ frame.length → (filter.Matches frame ↔ e.Selects frame)

/-- The filters among the calls. -/
def PfCall.added : PfCall → Option WhdPacketFilter
  | .add filter => some filter
  | _ => none

/-! ### The bytes match the frames the entry selects -/

theorem word_eq_u16 (frame : Bytes) (off : ℕ) :
    word frame off = u16 (frame.getD (off + 1) 0) (frame.getD off 0) := by
  rw [word, Wire.be16, u16, Nat.add_comm]

theorem and_eq_iff_bytes (x m p : UInt16) :
    x &&& m = p ↔ hi x &&& hi m = hi p ∧ lo x &&& lo m = lo p := by
  have hhi : hi (x &&& m) = hi x &&& hi m := by
    rw [hi, UInt16.shiftRight_and, UInt16.toUInt8_and]
    rfl
  have hlo : lo (x &&& m) = lo x &&& lo m := by simp [lo]
  rw [← hhi, ← hlo]
  constructor
  · rintro rfl
    exact ⟨rfl, rfl⟩
  · rintro ⟨h₁, h₀⟩
    rw [← u16_lo_hi (x &&& m), h₀, h₁, u16_lo_hi]

theorem at_wordPairs (frame : Bytes) (off : ℕ) (mask pattern : UInt16) :
    At (frame.getD · 0) off (wordPairs mask pattern) ↔ word frame off &&& mask = pattern := by
  rw [and_eq_iff_bytes, word_eq_u16, hi_u16, lo_u16, wordPairs, at_cons, at_cons,
    and_iff_left at_nil]

theorem at_anyBytes (frame : Bytes) (off n : ℕ) : At (frame.getD · 0) off (anyBytes n) :=
  at_replicate (fun _ => UInt8.and_zero) n

theorem at_protPairs (frame : Bytes) (off : ℕ) (prot : UInt8) :
    At (frame.getD · 0) off (protPairs prot) ↔ frame.getD (off + 9) 0 = prot := by
  have hprot : At (frame.getD · 0) (off + 9) [(0xff, prot)] ↔ frame.getD (off + 9) 0 = prot := by
    rw [at_cons, and_iff_left at_nil, show (0xff : UInt8) = -1 from rfl, UInt8.and_neg_one]
  rw [protPairs, at_append, at_append, ← hprot]
  exact ⟨fun h => h.1.2, fun h => ⟨⟨at_anyBytes _ _ _, h⟩, at_anyBytes _ _ _⟩⟩

theorem at_pairs (frame : Bytes) (d : CyPnDirection) (pm : UInt16 × UInt16) :
    At (frame.getD · 0) 34 (d.pairs pm) ↔ d.Selects pm frame := by
  cases d with
  | source =>
      rw [CyPnDirection.pairs, at_append, and_iff_left (at_anyBytes _ _ _), at_wordPairs]
      rfl
  | dest =>
      rw [CyPnDirection.pairs, at_append, and_iff_right (at_anyBytes _ _ _), at_wordPairs]
      rfl
  | sourceDest => exact at_append.trans (and_congr (at_wordPairs _ _ _ _) (at_wordPairs _ _ _ _))
  | other n => exact at_append.trans (and_congr (at_wordPairs _ _ _ _) (at_wordPairs _ _ _ _))

theorem CyPfProto.prot_eq (p : CyPfProto) : p.prot = if p = .udp then 17 else 6 := by
  cases p <;> rfl

theorem at_compared {e : CyPfOlCfg} (h : e.feature.known) (frame : Bytes) :
    At (frame.getD · 0) ethtypeOffset e.compared ↔ e.Selects frame := by
  have hword : ∀ eth, At (frame.getD · 0) ethtypeOffset (wordPairs 0xffff eth) ↔
      word frame 12 = eth := by
    intro eth
    rw [at_wordPairs, show (0xffff : UInt16) = -1 from rfl, UInt16.and_neg_one]
    rfl
  unfold CyPfOlCfg.compared CyPfOlCfg.Selects
  cases hf : e.feature with
  | portnum pf =>
      rw [at_append, at_append, hword, at_protPairs, and_assoc, CyPfProto.prot_eq]
      exact and_congr Iff.rfl (and_congr Iff.rfl (at_pairs frame _ _))
  | ethtype eth => exact hword eth
  | iptype ipType =>
      rw [at_append, hword, at_protPairs]
      rfl
  | other n => rw [hf] at h; cases h

/-! ### The buffers begin with them -/

theorem memcpy_zero (bs xs : Bytes) : memcpy bs 0 xs = xs ++ bs.drop xs.length := by
  rw [memcpy, List.take_zero, List.nil_append, Nat.zero_add]

/-- What is copied to the front is found there, whatever is copied behind it. -/
theorem take_memcpy (bs xs ys : Bytes) : (memcpy bs 0 (xs ++ ys)).take xs.length = xs := by
  rw [memcpy_zero, List.append_assoc, List.take_left]

/-- Two copies, the second right behind the first, are one. -/
theorem memcpy_memcpy (bs xs ys : Bytes) :
    memcpy (memcpy bs 0 xs) xs.length ys = memcpy bs 0 (xs ++ ys) := by
  simp [memcpy, List.append_assoc]

theorem map_wordPairs (mask pattern : UInt16) :
    (wordPairs mask pattern).map Prod.fst = le16 (hton16 mask) ∧
      (wordPairs mask pattern).map Prod.snd = le16 (hton16 pattern) := by
  rw [le16_hton16, le16_hton16]
  exact ⟨rfl, rfl⟩

theorem Ipv4Hdr.cleared_eq :
    cleared = ⟨0, 0, 0, 0, 0, 0, 0, 0, #v[0, 0, 0, 0], #v[0, 0, 0, 0]⟩ := by decide

theorem UdpHdr.cleared_eq : cleared = ⟨0, 0, 0, 0⟩ := by decide

theorem map_protPairs (prot : UInt8) :
    (protPairs prot).map Prod.fst = { Ipv4Hdr.cleared with prot := 0xff }.toBytes ∧
      (protPairs prot).map Prod.snd = { Ipv4Hdr.cleared with prot := prot }.toBytes := by
  have hzero : le16 0 = [0, 0] := by decide
  simp only [Ipv4Hdr.cleared_eq, Ipv4Hdr.toBytes, hzero]
  exact ⟨rfl, rfl⟩

/-- The port header ends with two fields the filter does not declare. -/
theorem map_pairs (d : CyPnDirection) (pm : UInt16 × UInt16) :
    (d.pairs pm).map Prod.fst ++ [0, 0, 0, 0] = (d.udpHdr pm.2).toBytes ∧
      (d.pairs pm).map Prod.snd ++ [0, 0, 0, 0] = (d.udpHdr pm.1).toBytes := by
  unfold CyPnDirection.udpHdr UdpHdr.toBytes
  rw [UdpHdr.cleared_eq]
  cases d <;> simp only [le16_hton16] <;> exact ⟨rfl, rfl⟩

/-- A filter whose buffers begin with the entry's own bytes; `ms` and `ps` are copied behind
them. -/
theorem CyPfOlCfg.describes_of_bytes {e : CyPfOlCfg} {filter : WhdPacketFilter} (bufs : PfBufs)
    (ms ps : Bytes) (hknown : e.feature.known) (hid : filter.id = e.id)
    (hrule : filter.rule = commonFilterAttrs e) (hoffset : filter.offset = ethtypeOffset)
    (hsize : filter.maskSize = e.compared.length)
    (hmask : filter.mask = memcpy bufs.mask 0 (e.compared.map Prod.fst ++ ms))
    (hpattern : filter.pattern = memcpy bufs.pat 0 (e.compared.map Prod.snd ++ ps)) :
    e.Describes filter where
  id := hid
  rule := by
    rw [hrule, commonFilterAttrs]
    split_ifs with h <;> simp [h]
  offset := hoffset
  size := hsize
  mask := by rw [hmask, hsize, ← List.length_map Prod.fst, take_memcpy]
  pattern := by rw [hpattern, hsize, ← List.length_map Prod.snd, take_memcpy]
  selects frame _ := by
    rw [WhdPacketFilter.Matches, hsize, hmask, hpattern, hoffset, memcpy_zero, memcpy_zero,
      List.append_assoc, List.append_assoc, ← at_compared hknown]
    exact forall_getD_iff (frame.getD · 0) 0 _ _ e.compared ethtypeOffset

/-! ### One filter for each entry, its own -/

theorem cylpaCreateEthtypeFilter_describes (bufs : PfBufs) {e : CyPfOlCfg} {eth : UInt16}
    (hf : e.feature = .ethtype eth) : e.Describes (cylpaCreateEthtypeFilter bufs e eth).2 := by
  have hown : e.compared = wordPairs 0xffff eth := by rw [CyPfOlCfg.compared, hf]
  obtain ⟨hmask, hpattern⟩ := map_wordPairs 0xffff eth
  refine CyPfOlCfg.describes_of_bytes bufs [] [] (by rw [hf]; rfl) rfl rfl rfl (by rw [hown]; rfl)
    ?_ ?_
  · rw [hown, hmask, List.append_nil]
    rfl
  · rw [hown, hpattern, List.append_nil]
    rfl

theorem cylpaCreateIpFilter_describes (bufs : PfBufs) {e : CyPfOlCfg} {ipType : UInt8}
    (hf : e.feature = .iptype ipType) : e.Describes (cylpaCreateIpFilter bufs e ipType).2 := by
  have hown : e.compared = wordPairs 0xffff etherTypeIp ++ protPairs ipType := by
    rw [CyPfOlCfg.compared, hf]
  obtain ⟨hmask, hpattern⟩ := map_wordPairs 0xffff etherTypeIp
  obtain ⟨hmask', hpattern'⟩ := map_protPairs ipType
  refine CyPfOlCfg.describes_of_bytes bufs [] [] (by rw [hf]; rfl) rfl rfl rfl (by rw [hown]; rfl)
    ?_ ?_
  · rw [hown, List.map_append, hmask, hmask', List.append_nil, ← memcpy_memcpy]
    rfl
  · rw [hown, List.map_append, hpattern, hpattern', List.append_nil, ← memcpy_memcpy]
    rfl

theorem CyPnDirection.length_pairs (d : CyPnDirection) (pm : UInt16 × UInt16) :
    (d.pairs pm).length = 4 := by
  cases d <;> rfl

theorem cylpaCreatePortFilter_describes (bufs : PfBufs) {e : CyPfOlCfg} {pf : CyPfPnCfg}
    (hf : e.feature = .portnum pf) :
    e.Describes (cylpaCreatePortFilter bufs e pf (portMask pf.portnum).1
      (portMask pf.portnum).2).2 := by
  have hown : e.compared = wordPairs 0xffff etherTypeIp ++ protPairs pf.proto.prot ++
      pf.portnum.direction.pairs (portMask pf.portnum) := by rw [CyPfOlCfg.compared, hf]
  have hsize : e.compared.length = portFilterLen := by
    rw [hown, List.length_append, CyPnDirection.length_pairs]
    rfl
  obtain ⟨hmask, hpattern⟩ := map_wordPairs 0xffff etherTypeIp
  obtain ⟨hmask', hpattern'⟩ := map_protPairs pf.proto.prot
  obtain ⟨hmaskPorts, hpatternPorts⟩ := map_pairs pf.portnum.direction (portMask pf.portnum)
  refine CyPfOlCfg.describes_of_bytes bufs [0, 0, 0, 0] [0, 0, 0, 0] (by rw [hf]; rfl) rfl rfl rfl
    hsize.symm ?_ ?_
  · rw [hown, List.map_append, List.map_append, hmask, hmask', List.append_assoc, hmaskPorts,
      ← memcpy_memcpy, ← memcpy_memcpy]
    rfl
  · rw [hown, List.map_append, List.map_append, hpattern, hpattern', List.append_assoc,
      hpatternPorts, ← memcpy_memcpy, ← memcpy_memcpy]
    rfl

theorem createFilter_describes (bufs : PfBufs) {e : CyPfOlCfg} (h : e.feature.known) :
    ∃ filter, (createFilter bufs e).2 = some filter ∧ e.Describes filter := by
  unfold createFilter
  cases hf : e.feature with
  | portnum pf => exact ⟨_, rfl, cylpaCreatePortFilter_describes bufs hf⟩
  | ethtype eth => exact ⟨_, rfl, cylpaCreateEthtypeFilter_describes bufs hf⟩
  | iptype ipType => exact ⟨_, rfl, cylpaCreateIpFilter_describes bufs hf⟩
  | other n => rw [hf] at h; cases h

theorem createFilter_unknown (bufs : PfBufs) {e : CyPfOlCfg} (h : ¬ e.feature.known) :
    (createFilter bufs e).2 = none := by
  unfold createFilter
  cases hf : e.feature with
  | other n => rfl
  | _ => rw [hf] at h; exact absurd rfl h

/-- The loop: each turn leaves its own bytes in the buffers, and the next asks nothing of these. -/
theorem createFilters_describe (bufs : PfBufs) (cfg : List CyPfOlCfg) :
    List.Forall₂ CyPfOlCfg.Describes (cfg.filter (·.feature.known))
      (createFilters bufs cfg).2 := by
  induction cfg generalizing bufs with
  | nil => exact .nil
  | cons e cfg ih =>
      have ih := ih (createFilter bufs e).1
      have hdef : (createFilters bufs (e :: cfg)).2 =
          (createFilter bufs e).2.toList ++ (createFilters (createFilter bufs e).1 cfg).2 := rfl
      by_cases h : e.feature.known
      · obtain ⟨filter, hfilter, hdescribes⟩ := createFilter_describes bufs h
        have hkept : (e :: cfg).filter (·.feature.known) = e :: cfg.filter (·.feature.known) :=
          List.filter_cons_of_pos h
        rw [hkept, hdef, hfilter]
        exact .cons hdescribes ih
      · have hleft : (e :: cfg).filter (·.feature.known) = cfg.filter (·.feature.known) :=
          List.filter_cons_of_neg h
        rw [hleft, hdef, createFilter_unknown bufs h]
        exact ih

/-- The filters added are those of the first loop. -/
theorem added_cylpaPfOlInit (bufs : PfBufs) (info : OlInfo) (cfg : List CyPfOlCfg) :
    (cylpaPfOlInit bufs info cfg).calls.filterMap PfCall.added = (createFilters bufs cfg).2 := by
  have hadd : ((createFilters bufs cfg).2.map PfCall.add).filterMap PfCall.added =
      (createFilters bufs cfg).2 := by
    rw [List.filterMap_map]
    exact List.filterMap_some
  have hwake : (cfg.flatMap enableWake).filterMap PfCall.added = [] := by
    simp only [List.filterMap_eq_nil_iff, List.mem_flatMap, enableWake]
    rintro call ⟨e, -, he⟩
    split_ifs at he with hbits
    · rw [List.mem_singleton.mp he]; rfl
    · cases he
  have hstats : (cylpaDumpFiltersStats cfg).filterMap PfCall.added = [] := by
    simp only [List.filterMap_eq_nil_iff, cylpaDumpFiltersStats, List.mem_flatMap]
    rintro call ⟨e, -, he⟩
    rw [List.mem_singleton.mp he]; rfl
  show ((createFilters bufs cfg).2.map PfCall.add ++ cfg.flatMap enableWake ++
    cylpaDumpFiltersStats cfg).filterMap PfCall.added = _
  rw [List.filterMap_append, List.filterMap_append, hadd, hwake, hstats, List.append_nil,
    List.append_nil]

/-- **Each filter describes its own entry**, byte for byte. -/
theorem cylpaPfOlInit_describes (bufs : PfBufs) (info : OlInfo) (cfg : List CyPfOlCfg) :
    List.Forall₂ CyPfOlCfg.Describes (cfg.filter (·.feature.known))
      ((cylpaPfOlInit bufs info cfg).calls.filterMap PfCall.added) := by
  rw [added_cylpaPfOlInit]
  exact createFilters_describe bufs cfg

end Lpa
