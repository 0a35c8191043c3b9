import Lpa.Common.Headers
import Lpa.PacketFilter.Mask

/-!
# Packet filter — the filters handed to the firmware

A filter is a pattern and a mask over the bytes of a frame from the EtherType on.  The code lays
both out as headers and copies these into two static buffers that the filter points to; the
buffers are never cleared, so what a filter carries beyond its own `mask_size` is what an earlier
one left there.
-/

namespace Lpa

/-- `ETHTYPE_OFFSET`. -/
def ethtypeOffset : ℕ := 12

/-- `ETHER_TYPE_LEN`. -/
def etherTypeLen : ℕ := 2

/-- `PORT_FILTER_LEN`. -/
def portFilterLen : ℕ := 26

/-- `whd_packet_filter_rule_t`. -/
inductive WhdPacketFilterRule where
  | positiveMatching
  | negativeMatching
deriving DecidableEq, Repr

/-- `whd_packet_filter_t`, the buffers it points to as they are when it is passed on. -/
structure WhdPacketFilter where
  id : UInt8
  rule : WhdPacketFilterRule
  offset : ℕ
  maskSize : ℕ
  mask : Bytes
  pattern : Bytes
deriving DecidableEq, Repr

/-- `cylpa_glob_pat_buf` and `cylpa_glob_mask_buf`. -/
structure PfBufs where
  pat : Bytes
  mask : Bytes
deriving DecidableEq, Repr

/-- The buffers of a program just started. -/
def PfBufs.boot : PfBufs := ⟨List.replicate 32 0, List.replicate 32 0⟩

/-- A header cleared with `memset`. -/
def Ipv4Hdr.cleared : Ipv4Hdr := .ofBytes (List.replicate sizeofIpv4Hdr 0)

/-- A header cleared with `memset`. -/
def UdpHdr.cleared : UdpHdr := .ofBytes (List.replicate sizeofUdpHdr 0)

/-- `common_filter_attrs`: the rule of the filter. -/
def commonFilterAttrs (e : CyPfOlCfg) : WhdPacketFilterRule :=
  if e.bits &&& cyPfActionDiscard ≠ 0 then .negativeMatching else .positiveMatching

/-- `cylpa_create_ip_filter`. -/
def cylpaCreateIpFilter (bufs : PfBufs) (e : CyPfOlCfg) (ipType : UInt8) :
    PfBufs × WhdPacketFilter :=
  let ipHdrMask := { Ipv4Hdr.cleared with prot := 0xff }
  let ipHdrPattern := { Ipv4Hdr.cleared with prot := ipType }
  let mask := memcpy bufs.mask 0 (le16 (hton16 0xffff))
  let mask := memcpy mask etherTypeLen ipHdrMask.toBytes
  let pat := memcpy bufs.pat 0 (le16 (hton16 etherTypeIp))
  let pat := memcpy pat etherTypeLen ipHdrPattern.toBytes
  (⟨pat, mask⟩,
    { id := e.id, rule := commonFilterAttrs e, offset := ethtypeOffset,
      maskSize := etherTypeLen + sizeofIpv4Hdr, mask := mask, pattern := pat })

/-- `cylpa_create_ethtype_filter`. -/
def cylpaCreateEthtypeFilter (bufs : PfBufs) (e : CyPfOlCfg) (eth : UInt16) :
    PfBufs × WhdPacketFilter :=
  let mask := memcpy bufs.mask 0 (le16 (hton16 0xffff))
  let pat := memcpy bufs.pat 0 (le16 (hton16 eth))
  (⟨pat, mask⟩,
    { id := e.id, rule := commonFilterAttrs e, offset := ethtypeOffset,
      maskSize := etherTypeLen, mask := mask, pattern := pat })

/-- The value `cylpa_create_port_filter` matches the protocol against. -/
def CyPfProto.prot : CyPfProto → UInt8
  | .udp => cylpaIpProtoUdp
  | .tcp => cylpaIpProtoTcp
  | .other _ => cylpaIpProtoTcp

/-- The port header with `v` in the ports the filter looks at. -/
def CyPnDirection.udpHdr (d : CyPnDirection) (v : UInt16) : UdpHdr :=
  match d with
  | .source => { UdpHdr.cleared with srcPort := hton16 v }
  | .dest => { UdpHdr.cleared with dstPort := hton16 v }
  | _ => { UdpHdr.cleared with srcPort := hton16 v, dstPort := hton16 v }

/-- `cylpa_create_port_filter`. -/
def cylpaCreatePortFilter (bufs : PfBufs) (e : CyPfOlCfg) (pf : CyPfPnCfg)
    (pattern mask : UInt16) : PfBufs × WhdPacketFilter :=
  let ipHdrMask := { Ipv4Hdr.cleared with prot := 0xff }
  let ipHdrPattern := { Ipv4Hdr.cleared with prot := pf.proto.prot }
  let udpHdrPattern := pf.portnum.direction.udpHdr pattern
  let udpHdrMask := pf.portnum.direction.udpHdr mask
  let maskBuf := memcpy bufs.mask 0 (le16 (hton16 0xffff))
  let maskBuf := memcpy maskBuf etherTypeLen ipHdrMask.toBytes
  let maskBuf := memcpy maskBuf (etherTypeLen + sizeofIpv4Hdr) udpHdrMask.toBytes
  let patBuf := memcpy bufs.pat 0 (le16 (hton16 etherTypeIp))
  let patBuf := memcpy patBuf etherTypeLen ipHdrPattern.toBytes
  let patBuf := memcpy patBuf (etherTypeLen + sizeofIpv4Hdr) udpHdrPattern.toBytes
  (⟨patBuf, maskBuf⟩,
    { id := e.id, rule := commonFilterAttrs e, offset := ethtypeOffset,
      maskSize := portFilterLen, mask := maskBuf, pattern := patBuf })

/-- The filter `cylpa_pf_ol_init` makes of an entry, if it knows the feature. -/
def createFilter (bufs : PfBufs) (e : CyPfOlCfg) : PfBufs × Option WhdPacketFilter :=
  match e.feature with
  | .portnum pf =>
    let (pattern, mask) := portMask pf.portnum
    let (bufs, filter) := cylpaCreatePortFilter bufs e pf pattern mask
    (bufs, some filter)
  | .ethtype eth =>
    let (bufs, filter) := cylpaCreateEthtypeFilter bufs e eth
    (bufs, some filter)
  | .iptype ipType =>
    let (bufs, filter) := cylpaCreateIpFilter bufs e ipType
    (bufs, some filter)
  | .other _ => (bufs, none)

/-- The loop of `cylpa_pf_ol_init` over the entries: the buffers afterwards and the filters
added. -/
def createFilters (bufs : PfBufs) : List CyPfOlCfg → PfBufs × List WhdPacketFilter
  | [] => (bufs, [])
  | e :: cfg =>
    let (bufs, filter) := createFilter bufs e
    let (bufs, filters) := createFilters bufs cfg
    (bufs, filter.toList ++ filters)

/-! ### One filter for each entry -/

theorem createFilter_id (bufs : PfBufs) {e : CyPfOlCfg} (h : e.feature.known) :
    ∃ filter, (createFilter bufs e).2 = some filter ∧ filter.id = e.id := by
  unfold createFilter
  cases hf : e.feature with
  | portnum pf => exact ⟨_, rfl, rfl⟩
  | ethtype eth => exact ⟨_, rfl, rfl⟩
  | iptype ipType => exact ⟨_, rfl, rfl⟩
  | other n => rw [hf] at h; cases h

/-- **The filters added** are one for each entry, under its id. -/
theorem createFilters_ids {cfg : List CyPfOlCfg} (h : ∀ e ∈ cfg, e.feature.known)
    (bufs : PfBufs) : (createFilters bufs cfg).2.map (·.id) = cfg.map (·.id) := by
  induction cfg generalizing bufs with
  | nil => rfl
  | cons e cfg ih =>
      obtain ⟨filter, hfilter, hid⟩ := createFilter_id bufs (h e List.mem_cons_self)
      have ih := ih (fun x hx => h x (List.mem_cons_of_mem _ hx)) (createFilter bufs e).1
      have hdef : (createFilters bufs (e :: cfg)).2 =
          (createFilter bufs e).2.toList ++ (createFilters (createFilter bufs e).1 cfg).2 := rfl
      rw [hdef, hfilter, Option.toList_some, List.map_append, ih, List.map_singleton, hid,
        List.map_cons, List.singleton_append]

end Lpa
