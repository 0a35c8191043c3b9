import Lpa.Offload.Info

/-!
# Offload — the IP-change callback

`cy_nw_lpa_helper.c`: the offloads hear of a new IP address through one callback record and one
registration with the connection manager, both static.
-/

namespace Lpa

/-- The functions handed over as IP-change callbacks: the offloads' and other clients'. -/
inductive IpCallbackFunc where
  | arpOlNwIpChange
  | nkoOlIpChange
  | other (f : Handle)
deriving DecidableEq, Repr

/-- `cylpa_ip_status_change_callback` and `is_wcm_callback_registered`. -/
structure NwIpHelper where
  cbFunc : Option IpCallbackFunc
  arg : Option Handle
  isWcmCallbackRegistered : Bool
deriving DecidableEq, Repr

/-- A call to the connection manager. -/
inductive WcmCall where
  | registerEventCallback
  | deregisterEventCallback
deriving DecidableEq, Repr

/-- `cylpa_nw_ip_initialize_status_change_callback`. -/
def NwIpHelper.initialize (nw : NwIpHelper) (cbFunc : IpCallbackFunc) (arg : Option Handle) :
    NwIpHelper :=
  { nw with cbFunc := some cbFunc, arg := arg }

/-- `cylpa_nw_ip_register_status_change_callback`. -/
def NwIpHelper.register (nw : NwIpHelper) : NwIpHelper × List WcmCall :=
  if nw.isWcmCallbackRegistered = false then
    ({ nw with isWcmCallbackRegistered := true }, [.registerEventCallback])
  else (nw, [])

/-- `cylpa_nw_ip_unregister_status_change_callback`. -/
def NwIpHelper.unregister (nw : NwIpHelper) : NwIpHelper × List WcmCall :=
  if nw.isWcmCallbackRegistered = true then
    ({ nw with isWcmCallbackRegistered := false }, [.deregisterEventCallback])
  else (nw, [])

/-! ### Delivery -/

/-- `cy_wcm_event_t`: `CY_WCM_EVENT_IP_CHANGED` or another. -/
inductive CyWcmEvent where
  | ipChanged
  | other
deriving DecidableEq, Repr

/-- The `version` of the address an event carries: `CY_WCM_IP_VER_V4` or another. -/
inductive CyWcmIpVersion where
  | v4
  | other
deriving DecidableEq, Repr

/-- A callback function called with its argument. -/
structure IpCallback where
  cbFunc : IpCallbackFunc
  arg : Option Handle
deriving DecidableEq, Repr

/-- `cylpa_nw_ip_status_change_handler`, on the record of the file. -/
def cylpaNwIpStatusChangeHandler (nw : NwIpHelper) : List IpCallback :=
  match nw.cbFunc with
  | none => []
  | some cbFunc => [⟨cbFunc, nw.arg⟩]

/-- `cy_wcm_event_callback_func`; the data of an event is the version of its address. -/
def cyWcmEventCallbackFunc (event : CyWcmEvent) (eventData : Option CyWcmIpVersion)
    (nw : NwIpHelper) : List IpCallback :=
  if eventData ≠ none ∧ event = .ipChanged then
    if eventData = some .v4 then cylpaNwIpStatusChangeHandler nw else []
  else []

end Lpa
