import Lpa.Offload.Info
import Lpa.Support.Program
import Mathlib.Data.Int.Notation

/-!
# Network activity — suspending the stack until there is traffic

`network_activity_handler.c` as programs over the calls it makes.  `wait_net_suspend` waits until
the network has been quiet for a while, suspends the network stack, lets the MCU go to deep sleep,
and resumes the stack on activity or when its time is up.  The file is compiled for one of two
network stacks, and with or without the ULP mode of the WLAN chip; `NaBuild` says which.

What a call does is not said here.  `Balance.lean` takes every answer as possible; `World.lean`
gives the calls of the lwIP build their meaning.

The file's two waits on its event are told apart by the `EventWait` of the call.
-/

namespace Lpa

/-! ### Data -/

/-- `network_stack_state_t`. -/
inductive NetworkStackState where
  | success
  | waitTimeoutExpired
  | waitInactivityTimeoutExpired
  | waitActivityTimeoutExpired
  | badArgs
  | badState
  | connectFailed
  | disconnectFailed
  | wifiNetSuspendedFailed
  | wifiNetResumingFailed
  | netActivity
deriving DecidableEq, Repr

/-- `cylpa_notify_event_type_t`. -/
inductive CylpaNotifyEventType where
  | nwSuspended
  | nwResuming
deriving DecidableEq, Repr

/-- `cy_rslt_t`: `CY_RSLT_SUCCESS`, `CY_RTOS_TIMEOUT`, or another code. -/
inductive CyRslt where
  | success
  | rtosTimeout
  | error (code : UInt32)
deriving DecidableEq, Repr

/-- `CY_LPA_RX_EVENT_FLAG`. -/
def cyLpaRxEventFlag : UInt32 := 1

/-- `CY_LPA_TX_EVENT_FLAG`. -/
def cyLpaTxEventFlag : UInt32 := 2

/-- `TX_SUCCESS`. -/
def txSuccess : UInt32 := 0

/-- `TX_TRUE`. -/
def txTrue : UInt32 := 1

/-- `TX_FALSE`. -/
def txFalse : UInt32 := 0

/-- `NX_SUCCESS`. -/
def nxSuccess : UInt32 := 0

/-- `ERR_OK`. -/
def errOk : ℤ := 0

/-- `NETIF_FLAG_UP`. -/
def netifFlagUp : UInt8 := 1

/-- `COMPONENT_LWIP` or `COMPONENT_NETXDUO`. -/
inductive NetworkStack where
  | lwip
  | netxduo
deriving DecidableEq, Repr

/-- `CY_ULP_MODE_SUPPORT` and `CY_ULP_WAIT_TIME`. -/
structure UlpConfig where
  modeSupport : UInt32
  waitTime : UInt32
deriving DecidableEq, Repr

/-- How the file is compiled; `ulp` is there if `CYCFG_ULP_SUPPORT_ENABLED` is. -/
structure NaBuild where
  stack : NetworkStack
  ulp : Option UlpConfig
deriving DecidableEq, Repr

/-- The file's variables; the last two are `static` in a function. -/
structure NaVars where
  isRxPktQueueCreated : Bool
  cylpaSNsSuspended : Bool
  cyLpWaitNetEventValid : Bool
  cyDsleepNwSuspendTime : UInt32
  suspendNotifyCb : Option Handle
  cbData : Option Handle
  isUlpConfigured : Bool
  emacActivityCallbackRegistered : Bool
deriving DecidableEq, Repr

/-- The variables before anything has run. -/
def NaVars.boot : NaVars := ⟨false, false, false, 0, none, none, false, false⟩

/-- `cylpa_rx_queue_t`; a packet is known by its buffer. -/
structure CylpaRxQueue where
  iface : Handle
  buf : Handle
deriving DecidableEq, Repr

/-- The mutexes of an `NX_IP` and an `NX_DHCP`. -/
inductive NxMutex where
  | nxIpProtection (ipPtr : Handle)
  | nxDhcpMutex (dhcpPtr : Handle)
deriving DecidableEq, Repr

/-- The timers of an `NX_IP` and an `NX_DHCP`. -/
inductive NxTimer where
  | nxIpPeriodicTimer (ipPtr : Handle)
  | nxIpFastPeriodicTimer (ipPtr : Handle)
  | nxDhcpTimer (dhcpPtr : Handle)
deriving DecidableEq, Repr

/-- Which wait on the event this is: for the network to fall quiet, or for it to wake up. -/
inductive EventWait where
  | inactivity
  | wakeUp
deriving DecidableEq, Repr

/-! ### Calls -/

/-- The calls of the file, and the reads and writes of its variables. -/
inductive NaOp where
  | load
  | store (f : NaVars → NaVars)
  | cyNetworkGetNwInterface
  | cyWcmIsConnectedToAp
  | nxInterfaceValid (wifi : Handle)
  | cyRtosInitEvent
  | cyRtosInitMutex
  | cyNetworkActivityRegisterCb
  | cyRtosQueueInit (length : ℕ)
  | lockDeepsleep
  | unlockDeepsleep
  | cyRtosClearbitsEvent (bits : UInt32)
  | cyRtosWaitbitsEvent (wait : EventWait) (flags : UInt32) (timeout : UInt32)
  | cyRtosGetTime
  | cyOlmGetWhdInterface
  | whdWifiConfigUlpMode (ifp : Handle) (mode waitTime : UInt32)
  | lockTcpipCore
  | unlockTcpipCore
  | txMutexGet (m : NxMutex)
  | txMutexPut (m : NxMutex)
  | txTimerInfoGet (t : NxTimer)
  | txTimerActivate (t : NxTimer)
  | txTimerDeactivate (t : NxTimer)
  | cyNetworkGetDhcpHandle
  | cyNetworkRegisterRxQueueCb (rxActivity : Bool)
  | suspendNotifyCb (cb : Handle) (type : CylpaNotifyEventType) (data : Option Handle)
  | cylpaOlmDispatchPmNotification (st : OlPmSt)
  | cyRtosGetMutex (timeout : UInt32)
  | cyRtosSetMutex
  | netifFlags (wifi : Handle)
  | nxIpStatusCheck (wifi : Handle)
  | whdPrintStats (ifp : Handle)
  | cyRtosQueueCount
  | cyRtosQueueGet
  | netifInputIsNull (iface : Handle)
  | netifInput (item : CylpaRxQueue)
  | cyBufferRelease (buf : Handle)

/-- What a call answers, values passed back through pointers included; a queue that cannot give
an item answers `none`. -/
@[reducible] def NaRes : NaOp → Type
  | .load => NaVars
  | .cyNetworkGetNwInterface => Option Handle
  | .cyWcmIsConnectedToAp => UInt8
  | .nxInterfaceValid _ => UInt8
  | .cyRtosInitEvent => CyRslt
  | .cyRtosInitMutex => CyRslt
  | .cyRtosQueueInit _ => CyRslt
  | .cyRtosClearbitsEvent _ => CyRslt
  | .cyRtosWaitbitsEvent _ _ _ => CyRslt
  | .cyRtosGetTime => UInt32
  | .cyOlmGetWhdInterface => Option Handle
  | .whdWifiConfigUlpMode _ _ _ => CyRslt
  | .txMutexGet _ => UInt32
  | .txMutexPut _ => UInt32
  | .txTimerInfoGet _ => UInt32 × UInt32
  | .txTimerActivate _ => UInt32
  | .txTimerDeactivate _ => UInt32
  | .cyNetworkGetDhcpHandle => Option Handle
  | .cyRtosGetMutex _ => CyRslt
  | .cyRtosSetMutex => CyRslt
  | .netifFlags _ => UInt8
  | .nxIpStatusCheck _ => UInt32
  | .cyRtosQueueCount => ℕ
  | .cyRtosQueueGet => Option CylpaRxQueue
  | .netifInputIsNull _ => Bool
  | .netifInput _ => ℤ
  | _ => Unit

/-- The answer of a call where all goes well and there is no traffic. -/
def NaOp.usual : (o : NaOp) → NaRes o
  | .load => .boot
  | .store _ => ()
  | .cyNetworkGetNwInterface => some 1
  | .cyWcmIsConnectedToAp => 1
  | .nxInterfaceValid _ => 1
  | .cyRtosInitEvent => .success
  | .cyRtosInitMutex => .success
  | .cyNetworkActivityRegisterCb => ()
  | .cyRtosQueueInit _ => .success
  | .lockDeepsleep => ()
  | .unlockDeepsleep => ()
  | .cyRtosClearbitsEvent _ => .success
  | .cyRtosWaitbitsEvent _ _ _ => .rtosTimeout
  | .cyRtosGetTime => 0
  | .cyOlmGetWhdInterface => some 1
  | .whdWifiConfigUlpMode _ _ _ => .success
  | .lockTcpipCore => ()
  | .unlockTcpipCore => ()
  | .txMutexGet _ => txSuccess
  | .txMutexPut _ => txSuccess
  | .txTimerInfoGet _ => (txSuccess, txTrue)
  | .txTimerActivate _ => txSuccess
  | .txTimerDeactivate _ => txSuccess
  | .cyNetworkGetDhcpHandle => none
  | .cyNetworkRegisterRxQueueCb _ => ()
  | .suspendNotifyCb _ _ _ => ()
  | .cylpaOlmDispatchPmNotification _ => ()
  | .cyRtosGetMutex _ => .success
  | .cyRtosSetMutex => .success
  | .netifFlags _ => netifFlagUp
  | .nxIpStatusCheck _ => nxSuccess
  | .whdPrintStats _ => ()
  | .cyRtosQueueCount => 0
  | .cyRtosQueueGet => none
  | .netifInputIsNull _ => false
  | .netifInput _ => errOk
  | .cyBufferRelease _ => ()

/-- A program of the file. -/
abbrev Na (α : Type) := Prog NaOp NaRes α

namespace NetActivity

open Prog (when loop)

/-- One call. -/
abbrev op (o : NaOp) : Na (NaRes o) := Prog.op o

/-! ### Set-up -/

/-- `cylpa_register_network_activity_callback`. -/
def cylpaRegisterNetworkActivityCallback : Na CyRslt := do
  let result ← op .cyRtosInitEvent
  if result ≠ .success then return result
  else
    -- the event is valid from here on, whatever becomes of the mutex
    op (.store fun v => { v with cyLpWaitNetEventValid := true })
    let result ← op .cyRtosInitMutex
    if result ≠ .success then return result
    else
      op .cyNetworkActivityRegisterCb
      return .success

/-- `cylpa_network_act_handler_init`. -/
def cylpaNetworkActHandlerInit : Na Unit := do
  let _ ← cylpaRegisterNetworkActivityCallback
  return ()

/-- The first call of `wait_net_suspend` sets the event, the mutex and the callback up. -/
def initHandlerOnce : Na Unit := do
  let v ← op .load
  when (v.emacActivityCallbackRegistered = false) do
    cylpaNetworkActHandlerInit
    -- set even where the set-up has failed
    op (.store fun v => { v with emacActivityCallbackRegistered := true })

/-- `RX_PKT_Q_LENGTH`. -/
def rxPktQLength : ℕ := 20

/-- In the lwIP build, the first call of `wait_net_suspend` creates the queue. -/
def initRxPktQueueOnce (b : NaBuild) : Na Unit :=
  when (b.stack = .lwip) do
    let v ← op .load
    when (v.isRxPktQueueCreated = false) do
      let _ ← op (.cyRtosQueueInit rxPktQLength)
      op (.store fun v => { v with isRxPktQueueCreated := true })

/-! ### Waiting for the network to fall quiet -/

/-- Both flags of the event. -/
def cyLpaEventFlags : UInt32 := cyLpaTxEventFlag ||| cyLpaRxEventFlag

/-- The ULP mode is configured once, and only when connected. -/
def configUlpOnce (ulp : UlpConfig) (ifp : Handle) (inactiveWindowMs : UInt32) : Na Unit := do
  let connected ← op .cyWcmIsConnectedToAp
  when (connected = 1) do
    let v ← op .load
    when (v.isUlpConfigured = false) do
      let ulpWaitTime := if inactiveWindowMs < ulp.waitTime then ulp.waitTime else inactiveWindowMs
      let _ ← op (.whdWifiConfigUlpMode ifp ulp.modeSupport ulpWaitTime)
      op (.store fun v => { v with isUlpConfigured := true })

/-- One round of the loop of `cylpa_wait_net_inactivity`. -/
def inactivityRound (configUlp : Na Unit)
    (lpStartTime inactiveIntervalMs inactiveWindowMs : UInt32) :
    Na (Option NetworkStackState) := do
  configUlp
  let result ← op (.cyRtosWaitbitsEvent .inactivity cyLpaEventFlags inactiveWindowMs)
  if result = .rtosTimeout then return some .success
  else
    -- any other answer, an error too, is taken for traffic
    let lpEndTime ← op .cyRtosGetTime
    let elapsedMs := lpEndTime - lpStartTime
    if elapsedMs ≥ inactiveIntervalMs then return some .waitInactivityTimeoutExpired
    else return none

/-- `cylpa_wait_net_inactivity`, past the look for the WHD interface. -/
def monitorInactivity (configUlp : Na Unit) (inactiveIntervalMs inactiveWindowMs : UInt32) :
    Na NetworkStackState :=
  if inactiveIntervalMs > inactiveWindowMs then do
    let _ ← op (.cyRtosClearbitsEvent cyLpaEventFlags)
    let lpStartTime ← op .cyRtosGetTime
    loop (inactivityRound configUlp lpStartTime inactiveIntervalMs inactiveWindowMs)
  else return .badArgs

/-- `cylpa_wait_net_inactivity`. -/
def cylpaWaitNetInactivity (b : NaBuild) (inactiveIntervalMs inactiveWindowMs : UInt32) :
    Na NetworkStackState :=
  match b.ulp with
  | none => monitorInactivity (return ()) inactiveIntervalMs inactiveWindowMs
  | some ulp => do
      let ifp ← op .cyOlmGetWhdInterface
      match ifp with
      | none => return .badState
      | some ifp =>
          monitorInactivity (configUlpOnce ulp ifp inactiveWindowMs) inactiveIntervalMs
            inactiveWindowMs

/-! ### Suspending and resuming the stack -/

/-- An active timer is deactivated; answers what `tx_timer_info_get` did. -/
def deactivateIfActive (t : NxTimer) : Na UInt32 := do
  let (res, active) ← op (.txTimerInfoGet t)
  when (res = txSuccess ∧ active = txTrue) do
    let _ ← op (.txTimerDeactivate t)
  return res

/-- An inactive timer is activated; answers what `tx_timer_info_get` did. -/
def activateIfInactive (t : NxTimer) : Na UInt32 := do
  let (res, active) ← op (.txTimerInfoGet t)
  when (res = txSuccess ∧ active = txFalse) do
    let _ ← op (.txTimerActivate t)
  return res

/-- The DHCP client's part of suspending the NetX Duo stack, and the way back if it is refused. -/
def suspendDhcp (ipPtr : Handle) : Option Handle → Na NetworkStackState
  | none => return .success
  | some dhcpPtr => do
      let res ← op (.txMutexGet (.nxDhcpMutex dhcpPtr))
      if res ≠ txSuccess then
        let _ ← op (.txTimerActivate (.nxIpPeriodicTimer ipPtr))
        let _ ← op (.txTimerActivate (.nxIpFastPeriodicTimer ipPtr))
        let _ ← op (.txMutexPut (.nxIpProtection ipPtr))
        return .wifiNetSuspendedFailed
      else
        let _ ← deactivateIfActive (.nxDhcpTimer dhcpPtr)
        return .success

/-- What `cylpa_suspend_ns` does to the stack. -/
def suspendStack : NetworkStack → Na NetworkStackState
  | .lwip => do
      op .lockTcpipCore
      return .success
  | .netxduo => do
      let ipPtr ← op .cyNetworkGetNwInterface
      match ipPtr with
      | none => return .wifiNetSuspendedFailed
      | some ipPtr =>
          let res ← op (.txMutexGet (.nxIpProtection ipPtr))
          if res ≠ txSuccess then return .wifiNetSuspendedFailed
          else
            let _ ← deactivateIfActive (.nxIpPeriodicTimer ipPtr)
            let _ ← deactivateIfActive (.nxIpFastPeriodicTimer ipPtr)
            let dhcpPtr ← op .cyNetworkGetDhcpHandle
            suspendDhcp ipPtr dhcpPtr

/-- `cylpa_suspend_ns`. -/
def cylpaSuspendNs (b : NaBuild) : Na NetworkStackState := do
  let v ← op .load
  if v.cylpaSNsSuspended = true then return .badState
  else
    let state ← suspendStack b.stack
    if state = .success then
      op (.store fun v => { v with cylpaSNsSuspended := true })
      return .success
    else return state

/-- The DHCP client's part of resuming the NetX Duo stack. -/
def resumeDhcp : Option Handle → Na NetworkStackState
  | none => return .success
  | some dhcpPtr => do
      let res ← activateIfInactive (.nxDhcpTimer dhcpPtr)
      let _ ← op (.txMutexPut (.nxDhcpMutex dhcpPtr))
      -- `res` is the timer's answer, not the mutex's
      if res ≠ txSuccess then
        let _ ← op (.txTimerDeactivate (.nxDhcpTimer dhcpPtr))
        return .wifiNetResumingFailed
      else return .success

/-- The way back for the DHCP client where the rest is refused. -/
def retakeDhcp : Option Handle → Na Unit
  | none => return ()
  | some dhcpPtr => do
      let _ ← op (.txMutexGet (.nxDhcpMutex dhcpPtr))
      let _ ← op (.txTimerDeactivate (.nxDhcpTimer dhcpPtr))
      return ()

/-- The IP instance's part of resuming the NetX Duo stack. -/
def resumeIp (dhcpPtr : Option Handle) : Option Handle → Na NetworkStackState
  | none => do
      retakeDhcp dhcpPtr
      return .wifiNetResumingFailed
  | some ipPtr => do
      let _ ← activateIfInactive (.nxIpPeriodicTimer ipPtr)
      let _ ← activateIfInactive (.nxIpFastPeriodicTimer ipPtr)
      let res ← op (.txMutexPut (.nxIpProtection ipPtr))
      if res ≠ txSuccess then
        let _ ← op (.txTimerDeactivate (.nxIpPeriodicTimer ipPtr))
        let _ ← op (.txTimerDeactivate (.nxIpFastPeriodicTimer ipPtr))
        retakeDhcp dhcpPtr
        return .wifiNetResumingFailed
      else return .success

/-- What `cylpa_resume_ns` does to the stack. -/
def resumeStack : NetworkStack → Na NetworkStackState
  | .lwip => do
      op .unlockTcpipCore
      return .success
  | .netxduo => do
      let dhcpPtr ← op .cyNetworkGetDhcpHandle
      let state ← resumeDhcp dhcpPtr
      if state = .success then
        let ipPtr ← op .cyNetworkGetNwInterface
        resumeIp dhcpPtr ipPtr
      else return state

/-- `cylpa_resume_ns`. -/
def cylpaResumeNs (b : NaBuild) : Na NetworkStackState := do
  let v ← op .load
  if v.cylpaSNsSuspended = false then return .badState
  else
    let state ← resumeStack b.stack
    if state = .success then
      op (.store fun v => { v with cylpaSNsSuspended := false })
      return .success
    else return state

/-! ### The packets that came meanwhile -/

/-- One packet of the queue goes to the stack, or is released if the stack does not take it. -/
def rxQueuePkt : Option CylpaRxQueue → Na Unit
  | none => return ()
  | some item => do
      let inputIsNull ← op (.netifInputIsNull item.iface)
      if inputIsNull = true then op (.cyBufferRelease item.buf)
      else
        let err ← op (.netifInput item)
        when (err ≠ errOk) (op (.cyBufferRelease item.buf))

/-- One round of the loop of `cylpa_rx_queue_pkt_input`. -/
def rxQueueRound : Na (Option Unit) := do
  let remainingItemsInQueue ← op .cyRtosQueueCount
  if remainingItemsInQueue = 0 then return some ()
  else
    let item ← op .cyRtosQueueGet
    rxQueuePkt item
    return none

/-- `cylpa_rx_queue_pkt_input`. -/
def cylpaRxQueuePktInput : Na Unit := loop rxQueueRound

/-- In the lwIP build packets are queued while the stack is suspended. -/
def queueRxPackets (b : NaBuild) : Na Unit :=
  when (b.stack = .lwip) (op (.cyNetworkRegisterRxQueueCb true))

/-- In the lwIP build, before the stack is resumed: packets are not queued any more, and those in
the queue go to the stack. -/
def takeRxPackets (b : NaBuild) : Na Unit :=
  when (b.stack = .lwip) do
    op (.cyNetworkRegisterRxQueueCb false)
    cylpaRxQueuePktInput

/-! ### Waiting for the network to wake up -/

/-- The test of `cylpa_print_whd_bus_stats`. -/
def interfaceIsUp (wifi : Handle) : NetworkStack → Na Bool
  | .lwip => do
      let flags ← op (.netifFlags wifi)
      return decide (flags &&& netifFlagUp ≠ 0)
  | .netxduo => do
      let res ← op (.nxIpStatusCheck wifi)
      return decide (res = nxSuccess)

/-- `cylpa_print_whd_bus_stats`. -/
def cylpaPrintWhdBusStats (b : NaBuild) (wifi : Handle) : Na Unit := do
  let isUp ← interfaceIsUp wifi b.stack
  when (isUp = true) do
    let ifp ← op .cyOlmGetWhdInterface
    match ifp with
    | none => return ()
    | some ifp => op (.whdPrintStats ifp)

/-- The application is told, if it has registered for it. -/
def notifyApplication (type : CylpaNotifyEventType) : Na Unit := do
  let v ← op .load
  match v.suspendNotifyCb with
  | none => return ()
  | some cb => op (.suspendNotifyCb cb type v.cbData)

/-- The interface to suspend, if there is one and it is connected. -/
def connectedInterface (b : NaBuild) : Na (Option Handle) := do
  let wifi ← op .cyNetworkGetNwInterface
  match wifi with
  | none => return none
  | some wifi =>
      let connected ← op .cyWcmIsConnectedToAp
      if connected ≠ 0 then return some wifi
      else
        match b.stack with
        | .lwip => return none
        | .netxduo =>
            let valid ← op (.nxInterfaceValid wifi)
            return if valid ≠ 0 then some wifi else none

/-- From the stack suspended to the wake-up: the answer of the wait and how long it took. -/
def waitNetActivity (waitMs : UInt32) : Na (NetworkStackState × UInt32) := do
  notifyApplication .nwSuspended
  let _ ← op (.cyRtosClearbitsEvent cyLpaEventFlags)
  op (.cylpaOlmDispatchPmNotification .goingToSleep)
  op .unlockDeepsleep
  let lpStartTime ← op .cyRtosGetTime
  let result ← op (.cyRtosWaitbitsEvent .wakeUp cyLpaEventFlags waitMs)
  let lpEndTime ← op .cyRtosGetTime
  return (if result = .rtosTimeout then .waitTimeoutExpired else .netActivity,
    if lpEndTime > lpStartTime then lpEndTime - lpStartTime else lpStartTime - lpEndTime)

/-- In the lwIP build the statistics are printed, in the other only when connected. -/
def printBusStats (b : NaBuild) (wifi : Handle) : Na Unit :=
  match b.stack with
  | .lwip => cylpaPrintWhdBusStats b wifi
  | .netxduo => do
      let connected ← op .cyWcmIsConnectedToAp
      when (connected ≠ 0) (cylpaPrintWhdBusStats b wifi)

/-- From the wake-up to the stack resumed. -/
def resumeSection (b : NaBuild) (wifi : Handle) (waitMs : UInt32) (state : NetworkStackState)
    (lpTime : UInt32) : Na NetworkStackState := do
  let _ ← op (.cyRtosGetMutex waitMs)
  op .lockDeepsleep
  op (.store fun v => { v with cyDsleepNwSuspendTime := v.cyDsleepNwSuspendTime + lpTime })
  printBusStats b wifi
  notifyApplication .nwResuming
  op (.cylpaOlmDispatchPmNotification .awake)
  takeRxPackets b
  -- a refusal is not looked at
  let _ ← cylpaResumeNs b
  let _ ← op .cyRtosSetMutex
  return if lpTime > waitMs then .waitTimeoutExpired else state

/-- The part of `wait_net_suspend` for a network that has fallen quiet. -/
def suspendUntilActivity (b : NaBuild) (wifi : Handle) (waitMs : UInt32) :
    Na NetworkStackState := do
  let state ← cylpaSuspendNs b
  -- the callback is registered before `state` is looked at
  queueRxPackets b
  if state = .success then
    let (state, lpTime) ← waitNetActivity waitMs
    resumeSection b wifi waitMs state lpTime
  else return state

/-- The part of `wait_net_suspend` under the deep-sleep lock. -/
def suspendIfInactive (b : NaBuild) (wifi : Handle)
    (waitMs networkInactiveIntervalMs networkInactiveWindowMs : UInt32) :
    Na NetworkStackState := do
  let state ← cylpaWaitNetInactivity b networkInactiveIntervalMs networkInactiveWindowMs
  if state = .success then suspendUntilActivity b wifi waitMs else return state

/-- `wait_net_suspend`. -/
def waitNetSuspend (b : NaBuild)
    (waitMs networkInactiveIntervalMs networkInactiveWindowMs : UInt32) :
    Na NetworkStackState := do
  let wifi ← connectedInterface b
  match wifi with
  | none => return .badState
  | some wifi =>
      initHandlerOnce
      initRxPktQueueOnce b
      op .lockDeepsleep
      let state ←
        suspendIfInactive b wifi waitMs networkInactiveIntervalMs networkInactiveWindowMs
      op .unlockDeepsleep
      return state

end NetActivity

end Lpa
