import Lpa.Offload.IpChange

/-!
# ARP — the offload

`cy_lpa_wifi_arp_ol.c`: initialisation, deinitialisation and the power-mode handler.  The offload
works on its context, the static state around it and the firmware; the calls it makes are kept in
order (`ArpWorld.calls`), the firmware being known only by what was last written to it
(`lastFeatures`, `lastArpoe`).

`ol_info_ptr` points into the offload manager, so what it points to is an argument of each
function; following it while it is `NULL` is `none`.
-/

namespace Lpa

/-- `CY_ARP_OL_AGENT_ENABLE`. -/
def cyArpOlAgentEnable : UInt32 := 0x1

/-- `CY_ARP_OL_HOST_AUTO_REPLY_ENABLE`. -/
def cyArpOlHostAutoReplyEnable : UInt32 := 0x4

/-- `CY_ARP_OL_PEER_AUTO_REPLY_ENABLE`. -/
def cyArpOlPeerAutoReplyEnable : UInt32 := 0x8

/-- `CY_ARPOL_DHCP_RETRY_COUNT`. -/
def cyArpolDhcpRetryCount : ℤ := 25

/-- `arp_ol_cfg_t`. -/
structure ArpOlCfg where
  awakeEnableMask : UInt32
  sleepEnableMask : UInt32
  peerage : UInt32
deriving DecidableEq, Repr

/-- `arp_ol_config_state_t`. -/
inductive ArpOlConfigState where
  | uninitialized
  | awake
  | goingToSleep
deriving DecidableEq, Repr

/-- `arp_ol_t`; `olInfoPtr` tells whether the pointer is set. -/
structure ArpOl where
  config : Option ArpOlCfg
  olInfoPtr : Bool
  ipAddress : UInt32
  state : ArpOlConfigState
deriving DecidableEq, Repr

/-- A context cleared with `memset`. -/
def ArpOl.cleared : ArpOl := ⟨none, false, 0, .uninitialized⟩

/-- A call out of the offload. -/
inductive ArpCall where
  | arpoeSet (enable : UInt32)
  | featuresSet (features : UInt32)
  | cacheClear
  | statsClear
  | hostipListClear
  | peerageSet (age : UInt32)
  | initTimer
  | deinitTimer
  | startTimer (ms : UInt32)
  | wcm (c : WcmCall)
deriving DecidableEq, Repr

/-- The context, if there is one, the static state, and the calls made so far. -/
structure ArpWorld where
  ol : Option ArpOl
  nw : NwIpHelper
  dhcpRetryCount : ℤ
  calls : List ArpCall
deriving DecidableEq, Repr

namespace ArpWorld

/-- The ARP offload before anything has run. -/
def boot : ArpWorld := ⟨some .cleared, ⟨none, none, false⟩, cyArpolDhcpRetryCount, []⟩

/-- Some calls more. -/
def emit (w : ArpWorld) (cs : List ArpCall) : ArpWorld := { w with calls := w.calls ++ cs }

/-- `cylpa_nw_ip_register_status_change_callback`. -/
def register (w : ArpWorld) : ArpWorld :=
  { w with nw := w.nw.register.1, calls := w.calls ++ w.nw.register.2.map .wcm }

/-- `cylpa_nw_ip_unregister_status_change_callback`. -/
def unregister (w : ArpWorld) : ArpWorld :=
  { w with nw := w.nw.unregister.1, calls := w.calls ++ w.nw.unregister.2.map .wcm }

end ArpWorld

/-- The context's own address, the argument of its callback. -/
def arpOlHandle : Handle := 0

/-- `cylpa_arp_ol_pm`. -/
def cylpaArpOlPm (olInfo : OlInfo) (w : ArpWorld) (st : OlPmSt) : Option ArpWorld :=
  match w.ol with
  | none => some w
  | some arpOl =>
    if arpOl.olInfoPtr = false then none
    else if olInfo.whd = none then some w
    else if olInfo.fwNewInfra ≠ 0 then some w
    else
      match arpOl.config with
      | none => some w
      | some config =>
        let newArpOlState : ArpOlConfigState := if st = .awake then .awake else .goingToSleep
        if newArpOlState = arpOl.state then some w
        else
          let enableFlags : UInt32 := 0
          let enableFlags := if st = .awake ∧ config.awakeEnableMask ≠ 0 then
            config.awakeEnableMask else enableFlags
          let enableFlags := if st = .goingToSleep ∧ config.sleepEnableMask ≠ 0 then
            config.sleepEnableMask else enableFlags
          let w :=
            if arpOl.state = .uninitialized ∨ config.awakeEnableMask ≠ config.sleepEnableMask then
              let w := w.register
              let enableFlags :=
                if enableFlags &&& (cyArpOlHostAutoReplyEnable ||| cyArpOlPeerAutoReplyEnable) ≠ 0
                then enableFlags ||| cyArpOlAgentEnable else enableFlags
              w.emit [.arpoeSet 1, .featuresSet enableFlags]
            else w.emit [.featuresSet 0, .arpoeSet 0]
          some { w with ol := some { arpOl with state := newArpOlState } }

/-- `cylpa_arp_ol_init`: the result and the world afterwards. -/
def cylpaArpOlInit (olInfo : Option OlInfo) (cfg : Option ArpOlCfg) (w : ArpWorld) :
    Option (ℤ × ArpWorld) :=
  match w.ol, olInfo, cfg with
  | some _, some olInfo, some cfg =>
    let arpOl := ArpOl.cleared
    let arpOl := { arpOl with config := some cfg, olInfoPtr := true, state := .uninitialized }
    let w := { w with ol := some arpOl }
    if olInfo.fwNewInfra ≠ 0 then some (resultOk, w)
    else
      let w := w.emit [.initTimer]
      let w := { w with nw := w.nw.initialize .arpOlNwIpChange (some arpOlHandle) }
      let w := w.emit [.arpoeSet 1, .featuresSet 0, .cacheClear, .statsClear, .hostipListClear,
        .peerageSet cfg.peerage, .arpoeSet 0]
      (cylpaArpOlPm olInfo w .awake).map fun w => (resultOk, w)
  | _, _, _ => some (resultBadargs, w)

/-- `cylpa_arp_ol_deinit`. -/
def cylpaArpOlDeinit (olInfo : OlInfo) (w : ArpWorld) : Option ArpWorld :=
  match w.ol with
  | none => some w
  | some arpOl =>
    if arpOl.olInfoPtr = false then none
    else if olInfo.fwNewInfra ≠ 0 then some w
    else
      let w := { w with ol := some { arpOl with state := .uninitialized } }
      let w := w.unregister
      some (w.emit [.deinitTimer, .arpoeSet 0])

/-- `CY_ARPOL_SHORT_DELAY_FOR_DHCP_MS`. -/
def cyArpolShortDelayForDhcpMs : UInt32 := 500

/-- `cylpa_arp_ol_nw_ip_change_callback`. -/
def cylpaArpOlNwIpChangeCallback (olInfo : OlInfo) (arg : Option Handle) (w : ArpWorld) :
    ArpWorld :=
  match arg, w.ol with
  | some _, some arpOl =>
    if arpOl.olInfoPtr = false ∨ olInfo.worker = none then w
    else w.emit [.startTimer cyArpolShortDelayForDhcpMs]
  | _, _ => w

/-! ### What the firmware was last told -/

/-- The word a call writes with `whd_arp_features_set`. -/
def ArpCall.features : ArpCall → Option UInt32
  | .featuresSet m => some m
  | _ => none

/-- The value a call writes with `whd_arp_arpoe_set`. -/
def ArpCall.arpoe : ArpCall → Option UInt32
  | .arpoeSet m => some m
  | _ => none

/-- The last word written with `whd_arp_features_set`. -/
def lastFeatures (calls : List ArpCall) : Option UInt32 :=
  (calls.filterMap ArpCall.features).getLast?

/-- The last value written with `whd_arp_arpoe_set`. -/
def lastArpoe (calls : List ArpCall) : Option UInt32 :=
  (calls.filterMap ArpCall.arpoe).getLast?

theorem lastFeatures_append (xs ys : List ArpCall) :
    lastFeatures (xs ++ ys) = (lastFeatures ys).or (lastFeatures xs) := by
  rw [lastFeatures, List.filterMap_append, List.getLast?_append]
  rfl

theorem lastArpoe_append (xs ys : List ArpCall) :
    lastArpoe (xs ++ ys) = (lastArpoe ys).or (lastArpoe xs) := by
  rw [lastArpoe, List.filterMap_append, List.getLast?_append]
  rfl

end Lpa
