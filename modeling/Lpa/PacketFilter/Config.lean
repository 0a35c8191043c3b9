import Lpa.Offload.Info

/-!
# Packet filter — configuration

The structures of `cy_lpa_wifi_pf_ol.h`.  The union of a filter's parameters and the feature that
selects its member are one tagged type; a configuration is the list of entries before the one
marked `CY_PF_OL_FEAT_LAST`.
-/

namespace Lpa

/-- `cy_pf_proto_t`. -/
inductive CyPfProto where
  | udp
  | tcp
  | other (n : UInt32)
deriving DecidableEq, Repr

/-- `cy_pn_direction_t`. -/
inductive CyPnDirection where
  | dest
  | source
  | sourceDest
  | other (n : UInt32)
deriving DecidableEq, Repr

/-- `cy_pf_port_t`. -/
structure CyPfPort where
  portnum : UInt16
  range : UInt16
  direction : CyPnDirection
deriving DecidableEq, Repr

/-- `cy_pf_pn_cfg_t`. -/
structure CyPfPnCfg where
  portnum : CyPfPort
  proto : CyPfProto
deriving DecidableEq, Repr

/-- `cy_pf_feature_t` with the member of the union it selects. -/
inductive CyPfFeature where
  | portnum (pf : CyPfPnCfg)
  | ethtype (ethType : UInt16)
  | iptype (ipType : UInt8)
  | other (n : UInt32)
deriving DecidableEq, Repr

/-- The features `cylpa_pf_ol_init` has a case for. -/
def CyPfFeature.known : CyPfFeature → Bool
  | .other _ => false
  | _ => true

/-- `CY_PF_ACTIVE_SLEEP`. -/
def cyPfActiveSleep : UInt32 := (1 : UInt32) <<< 0

/-- `CY_PF_ACTIVE_WAKE`. -/
def cyPfActiveWake : UInt32 := (1 : UInt32) <<< 1

/-- `CY_PF_ACTION_DISCARD`. -/
def cyPfActionDiscard : UInt32 := (1 : UInt32) <<< 2

/-- `cy_pf_ol_cfg_t`. -/
structure CyPfOlCfg where
  feature : CyPfFeature
  bits : UInt32
  id : UInt8
deriving DecidableEq, Repr

end Lpa
