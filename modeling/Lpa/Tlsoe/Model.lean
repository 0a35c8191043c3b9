import Lpa.NetActivity.Handler
import Lpa.Support.Interference
import Lpa.Wowl.Pattern
import Mathlib.Logic.Function.Basic

/-!
# TLS offload — activating and disabling connections

`cylpa_tlsoe_ol_pm`, with `whd_tlsoe_activate` and `whd_tlsoe_disable` of `cy_whd_tls_api.c`, as
programs over the calls they make to the driver, the socket layer and the connection manager.

The driver's table of event handlers is shared with other users, who register and deregister
handlers at any time; they are the environment.  Registering gives a free index.  The offload keeps
the index it got last, in one variable for all connections.
-/

namespace Lpa

/-- `cy_tlsoe_ol_connect_t`, as configured. -/
structure CyTlsoeOlConnect where
  interval : UInt16
  localPort : UInt16
  remotePort : UInt16
  remoteIp : String
  tlsSocket : Handle
  pattLen : UInt16
  wakepatt : List UInt8
deriving DecidableEq

/-- `tlsoe_ol_t`; the configuration is copied to `cy_tlsoe_ol_cfg`. -/
structure TlsoeOl where
  whd : Option Handle
deriving DecidableEq

/-- `MQTT_HEADER_SIZE`. -/
def mqttHeaderSize : UInt16 := 4

/-- The pattern that wakes the host up for a connection. -/
def CyTlsoeOlConnect.pattern (port : CyTlsoeOlConnect) : WowlPattern where
  offset := mqttHeaderSize
  mask := List.replicate (UInt8.ofNat ((port.pattLen.toNat + 7) / 8)).toNat 0xff
  pattern := port.wakepatt.take port.pattLen.toUInt8.toNat

/-- How the offload is compiled, and what it takes from the driver's headers. -/
structure TlsBuild where
  stack : NetworkStack
  bits : WowlBits
  whdBadarg : UInt32
  whdBadarg_ne : whdBadarg ≠ whdResultSuccess

namespace Tlsoe

open Prog (when loop)

/-! ### Calls -/

/-- The calls of the offload.  `nextNotification` is the offload manager's: it answers the next
power-mode notification. -/
inductive TlsOp where
  | nextNotification
  | whdGetWowlCap
  | whdSetWowlCap (value : UInt32)
  | whdSetWowlPattern (add : Bool) (p : WowlPattern)
  | whdTlsoeGetSockStats (localPort remotePort : UInt16) (remoteIp : String)
  | whdWifiGetMacAddress
  | findMacAddr
  | cyWcmGetGatewayMacAddress
  | cySocketGetTlsInfo (socket : Handle)
  | whdWowlActivateSecure (keepaliveInterval : UInt16)
  | txMutexGet
  | whdManagementSetEventHandler
  | tlsoeOffloadUpdateEntry
  | whdWowlGetSecureSessionStatus
  | cySocketUpdateTlsSequence (socket : Handle)
  | whdTlsoeUpdateSockSeq (localPort remotePort : UInt16) (remoteIp : String)
  | txMutexPut
  | whdWowlClear
  | whdWifiDeregisterEventHandler (entry : UInt16)

/-- What a call answers: a result, unless it is read for something else. -/
@[reducible] def TlsRes : TlsOp → Type
  | .nextNotification => OlPmSt
  | .whdGetWowlCap => UInt32 × UInt32
  | .findMacAddr => Bool
  | .whdManagementSetEventHandler => UInt16
  | .tlsoeOffloadUpdateEntry => UInt16
  | _ => UInt32

/-- A program of the offload. -/
abbrev Tls (α : Type) := Prog TlsOp TlsRes α

/-- One call. -/
abbrev op (o : TlsOp) : Tls (TlsRes o) := Prog.op o

/-! ### The wake-up pattern -/

/-- The wake reasons are written if some of `bits` are missing in `wowl`. -/
def setMissingCap (bits wowl : UInt32) : Tls UInt32 :=
  if wowl &&& bits ≠ bits then op (.whdSetWowlCap (wowl &&& bits ||| bits))
  else return whdResultSuccess

/-- `whd_tlsoe_set_wowl_pattern`. -/
def whdTlsoeSetWowlPattern (bits : WowlBits) (port : CyTlsoeOlConnect) : Tls UInt32 := do
  let (_, wowl) ← op .whdGetWowlCap
  if port.pattLen > 0 then
    let result ← setMissingCap (bits.secure ||| bits.net) wowl
    let result' ← op (.whdSetWowlPattern true port.pattern)
    return result ||| result'
  else setMissingCap bits.secure wowl

/-- `whd_tlsoe_del_wowl_pattern`. -/
def whdTlsoeDelWowlPattern (port : CyTlsoeOlConnect) : Tls UInt32 :=
  if port.pattLen > 0 then op (.whdSetWowlPattern false port.pattern)
  else return whdResultSuccess

/-! ### A connection -/

/-- The handler of the offload is registered; with NetX Duo, the TLS protection is taken first. -/
def registerHandler (stack : NetworkStack) : Tls Unit := do
  when (stack = .netxduo) do
    let _ ← op .txMutexGet
  let _ ← op .whdManagementSetEventHandler

/-- Where the peer's hardware address is not known, the gateway's is taken. -/
def destinationMac : Tls UInt32 := do
  let found ← op .findMacAddr
  if found = true then return whdResultSuccess else op .cyWcmGetGatewayMacAddress

/-- `whd_tlsoe_activate`. -/
def whdTlsoeActivate (b : TlsBuild) (port : CyTlsoeOlConnect) : Tls UInt32 := do
  let result ← op (.whdTlsoeGetSockStats port.localPort port.remotePort port.remoteIp)
  if result ≠ whdResultSuccess then return b.whdBadarg
  else
    let result ← op .whdWifiGetMacAddress
    if result ≠ whdResultSuccess then return b.whdBadarg
    else
      let result ← destinationMac
      if result ≠ whdResultSuccess then return b.whdBadarg
      else
        let result ← op (.cySocketGetTlsInfo port.tlsSocket)
        if result ≠ whdResultSuccess then return b.whdBadarg
        else
          let result ← op (.whdWowlActivateSecure port.interval)
          if result ≠ whdResultSuccess then return b.whdBadarg
          else
            registerHandler b.stack
            return result

/-- `whd_tlsoe_disable`, up to the release of the TLS protection: its results are not looked at. -/
def restoreSocket (port : CyTlsoeOlConnect) : Tls Unit := do
  let ret ← op .whdWowlGetSecureSessionStatus
  when (ret = whdResultSuccess) do
    let result ← op (.cySocketUpdateTlsSequence port.tlsSocket)
    when (result = whdResultSuccess) do
      let _ ← op (.whdTlsoeUpdateSockSeq port.localPort port.remotePort port.remoteIp)

/-- `whd_tlsoe_disable`. -/
def whdTlsoeDisable (b : TlsBuild) (port : CyTlsoeOlConnect) : Tls UInt32 := do
  restoreSocket port
  when (b.stack = .netxduo) do
    let _ ← op .txMutexPut
  let ret ← op .whdWowlClear
  let entry ← op .tlsoeOffloadUpdateEntry
  let _ ← op (.whdWifiDeregisterEventHandler entry)
  return ret

/-! ### Notifications -/

/-- A connection, going to sleep. -/
def sleepConnection (b : TlsBuild) (port : CyTlsoeOlConnect) : Tls Unit := do
  let result ← whdTlsoeSetWowlPattern b.bits port
  when (result = whdResultSuccess) do
    let result ← whdTlsoeActivate b port
    when (result ≠ whdResultSuccess) do
      let _ ← whdTlsoeDelWowlPattern port

/-- A connection, waking up. -/
def wakeConnection (b : TlsBuild) (port : CyTlsoeOlConnect) : Tls Unit := do
  let result ← whdTlsoeDelWowlPattern port
  when (result = whdResultSuccess) do
    let _ ← whdTlsoeDisable b port

/-- `for (int i = 0; i < MAX_TLSOE; i++)`. -/
def forPorts (f : CyTlsoeOlConnect → Tls Unit) : List CyTlsoeOlConnect → Tls Unit
  | [] => return ()
  | port :: ports => do
      f port
      forPorts f ports

/-- `cylpa_tlsoe_ol_pm`; `ports` are those of `cy_tlsoe_ol_cfg`. -/
def cylpaTlsoeOlPm (b : TlsBuild) (ports : List CyTlsoeOlConnect) (ctxt : Option TlsoeOl)
    (st : OlPmSt) : Tls Unit :=
  match ctxt with
  | some { whd := some _ } =>
      if st = .goingToSleep then forPorts (sleepConnection b) ports
      else forPorts (wakeConnection b) ports
  | _ => return ()

/-- One notification after another. -/
def notifications (b : TlsBuild) (ports : List CyTlsoeOlConnect) (ctxt : Option TlsoeOl) :
    Tls Unit :=
  loop do
    let st ← op .nextNotification
    cylpaTlsoeOlPm b ports ctxt st
    return none

/-! ### The world -/

/-- A handler in the driver's event table: that of the offload, or another user's. -/
inductive TlsHandler where
  | tlsoeCallbackHandler
  | other (h : Handle)
deriving DecidableEq

/-- The offload's variable, the driver's event table, and how many times the offload holds
`_nx_secure_tls_protection`. -/
structure TlsWorld where
  tlsoeOffloadUpdateEntry : UInt16
  handlers : UInt16 → Option TlsHandler
  nxSecureTlsProtection : ℕ

/-- The world before anything has run. -/
def TlsWorld.boot : TlsWorld := ⟨0xff, fun _ => none, 0⟩

def TlsWorld.setHandler (i : UInt16) (f : Option TlsHandler) (s : TlsWorld) : TlsWorld :=
  { s with handlers := Function.update s.handlers i f }

/-- **What a call does.**  Any other call answers anything and changes nothing here. -/
def tlsSem : (o : TlsOp) → TlsWorld → TlsRes o → TlsWorld → Prop
  | .txMutexGet, s, (r : UInt32), s' =>
      -- the offload waits for it for ever
      r = txSuccess ∧ s' = { s with nxSecureTlsProtection := s.nxSecureTlsProtection + 1 }
  | .txMutexPut, s, _, s' => s' = { s with nxSecureTlsProtection := s.nxSecureTlsProtection - 1 }
  | .whdManagementSetEventHandler, s, (i : UInt16), s' =>
      s.handlers i = none ∧
        s' = { s.setHandler i (some .tlsoeCallbackHandler) with tlsoeOffloadUpdateEntry := i }
  | .tlsoeOffloadUpdateEntry, s, (i : UInt16), s' => i = s.tlsoeOffloadUpdateEntry ∧ s' = s
  | .whdWifiDeregisterEventHandler i, s, _, s' => s' = s.setHandler i none
  | _, s, _, s' => s' = s

/-- What the other users do. -/
inductive OtherUser where
  | register (i : UInt16) (h : Handle)
  | deregister (i : UInt16)

/-- The steps of the environment. -/
def otherUser : OtherUser → TlsWorld → TlsWorld → Prop
  | .register i h, s, s' => s.handlers i = none ∧ s' = s.setHandler i (some (.other h))
  | .deregister i, s, s' => s' = s.setHandler i none

/-- What the calls have been, how they were answered, and what other users have done. -/
abbrev TlsHist := List (Prog.Label TlsOp TlsRes OtherUser)

end Tlsoe

end Lpa
