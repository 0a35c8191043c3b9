import Lpa.Arp.StaysOff
import Lpa.Keepalive.NatPacket
import Lpa.Keepalive.TkoEvents
import Lpa.Olm.Lifecycle
import Lpa.PacketFilter.Power
import Lpa.Tlsoe.Model
import Lpa.Wowl.Power
import Mathlib.Logic.Function.Basic

/-!
# Offload manager — the built-in offloads

The offloads of the library as descriptors of a list: packet filter, ARP, TCP keep-alive, TLS,
wake on WLAN, NAT keep-alive and null keep-alive, each on a context of its own, with the pointers
it tests and follows.  What they tell the driver is in the modules about each of them; here it is
left out where no context depends on it.

A pointer that is `NULL` is followed only to `none`.  What a configuration points to is given where
a function looks at it.
-/

namespace Lpa

/-! ### Packet filter -/

/-- The context, the buffers of the file and the calls made. -/
abbrev PfWorld := PfOl × PfBufs × List PfCall

/-- `pf_ol_fns`; its initialisation does not test the configuration. -/
def pfOlFns (cfg : Option (List CyPfOlCfg)) : Offload PfWorld where
  init olInfo w := do
    let cfg ← cfg
    let r := cylpaPfOlInit w.2.1 olInfo cfg
    return (r.result, r.ctxt, r.bufs, w.2.2 ++ r.calls)
  deinit _ w := some (w.1, w.2.1, w.2.2 ++ cylpaPfOlDeinit (some w.1))
  pm _ st w := some (w.1, w.2.1, w.2.2 ++ cylpaPfOlPm (some w.1) st)

/-! ### Keep-alives -/

/-- `tko_ol_t`, `nko_ol_t` and `nullko_ol_t`; `olInfoPtr` tells whether the pointer is set. -/
structure OlCtxt (Cfg : Type) where
  cfg : Option Cfg
  whd : Option Handle
  olInfoPtr : Bool
deriving DecidableEq

/-- A context cleared with `memset`. -/
def OlCtxt.cleared {Cfg : Type} : OlCtxt Cfg := ⟨none, none, false⟩

/-- `cylpa_tko_ol_init`: the context does not depend on what the driver answers. -/
def cylpaTkoOlInit (info : OlInfo) (cfg : Option Handle) : ℤ × OlCtxt Handle :=
  match cfg with
  | none => (resultOk, .cleared)
  | some cfg => (resultOk, ⟨some cfg, info.whd, true⟩)

/-- `tko_ol_fns`. -/
def tkoOlFns (cfg : Option Handle) : Offload (OlCtxt Handle) where
  init olInfo _ := some (cylpaTkoOlInit olInfo cfg)
  deinit _ ctxt := some ctxt
  pm _ st ctxt :=
    if ctxt.whd = none then some ctxt
    else if st = .goingToSleep then
      -- whether the infrastructure is new
      if ctxt.olInfoPtr = false then none else some ctxt
    else some ctxt

/-- `cylpa_tlsoe_ol_init`. -/
def cylpaTlsoeOlInit (info : OlInfo) (cfg : Option Handle) : ℤ × TlsoeOl :=
  match cfg with
  | none => (resultBadargs, ⟨none⟩)
  | some _ => (resultOk, ⟨info.whd⟩)

/-- `tlsoe_ol_fns`: the connections are those of `cy_tlsoe_ol_cfg`. -/
def tlsoeOlFns (cfg : Option Handle) : Offload TlsoeOl where
  init olInfo _ := some (cylpaTlsoeOlInit olInfo cfg)
  deinit _ ctxt := some ctxt
  pm _ _ ctxt := some ctxt

/-- `CY_NKO_SUPPORTED`. -/
def cyNkoSupported (olInfo : OlInfo) (ctxt : OlCtxt NkoOlCfg) : Bool :=
  ctxt.olInfoPtr && olInfo.fwNewInfra ≠ 0

/-- `cylpa_nko_is_valid_config`. -/
def cylpaNkoIsValidConfig (cfg : Option NkoOlCfg) : ℤ :=
  match cfg with
  | none => resultError
  | some cfg => if cfg.dPort > 0 ∧ cfg.sPort > 0 then resultOk else resultError

/-- `cylpa_nko_ol_init`; `ol` is the context's address. -/
def cylpaNkoOlInit (ol : Handle) (info : OlInfo) (cfg : Option NkoOlCfg) (w : ArpWorld) :
    ℤ × OlCtxt NkoOlCfg × ArpWorld :=
  match cfg with
  | none => (resultOk, .cleared, w)
  | some cfg =>
    let ctxt : OlCtxt NkoOlCfg := ⟨some cfg, info.whd, true⟩
    if cyNkoSupported info ctxt = false then (resultOk, ctxt, w)
    else
      let res := cylpaNkoIsValidConfig ctxt.cfg
      if res ≠ resultOk then (res, ctxt, w)
      else
        let w := { w with nw := w.nw.initialize .nkoOlIpChange (some ol) }
        (resultOk, ctxt, w.register)

/-- `cylpa_nko_ol_deinit`. -/
def cylpaNkoOlDeinit (olInfo : OlInfo) (ctxt : OlCtxt NkoOlCfg) (w : ArpWorld) :
    Option ArpWorld :=
  if ctxt.whd = none then some w
  else if cyNkoSupported olInfo ctxt = false then some w
  -- for the interface
  else if ctxt.olInfoPtr = false then none
  else some w.unregister

/-- `nko_ol_fns`; the callback is that of ARP too. -/
def nkoOlFns (ol : Handle) (cfg : Option NkoOlCfg) : Offload (OlCtxt NkoOlCfg × ArpWorld) where
  init olInfo w := some (cylpaNkoOlInit ol olInfo cfg w.2)
  deinit olInfo w := (cylpaNkoOlDeinit olInfo w.1 w.2).map fun ip => (w.1, ip)
  pm _ _ w := some w

/-- `cylpa_nullko_ol_init`; `answer` is that of `whd_wifi_keepalive_config`. -/
def cylpaNullkoOlInit (answer : ℤ) (info : Option OlInfo) (cfg : Option Handle) :
    ℤ × OlCtxt Handle :=
  match cfg, info with
  | some cfg, some info =>
    let ctxt := ⟨some cfg, info.whd, true⟩
    if info.fwNewInfra = 0 then (resultOk, ctxt)
    else if answer ≠ whdSuccess then (answer, ctxt)
    else (resultOk, ctxt)
  | _, _ => (resultOk, .cleared)

/-- `cylpa_nullko_ol_deinit`. -/
def cylpaNullkoOlDeinit (ctxt : OlCtxt Handle) : Option (OlCtxt Handle) :=
  if ctxt.whd = none then some ctxt
  -- whether the infrastructure is new
  else if ctxt.olInfoPtr = false then none
  else some ctxt

/-- `nullko_ol_fns`. -/
def nullkoOlFns (answer : ℤ) (cfg : Option Handle) : Offload (OlCtxt Handle) where
  init olInfo _ := some (cylpaNullkoOlInit answer (some olInfo) cfg)
  deinit _ := cylpaNullkoOlDeinit
  pm _ _ ctxt := some ctxt

/-! ### Wake on WLAN -/

/-- `cylpa_wowlpf_ol_deinit`. -/
def cylpaWowlpfOlDeinit (ctxt : WowlpfOl) : Option WowlpfOl :=
  if ctxt.whd = none then some ctxt
  -- whether the infrastructure is new
  else if ctxt.olInfoPtr = none then none
  else some ctxt

/-- `wowlpf_ol_fns`. -/
def wowlpfOlFns (cfg : Option (List CyWowlpfOlCfg)) : Offload WowlpfOl where
  init olInfo _ := some (cylpaWowlpfOlInit (some olInfo) cfg)
  deinit _ := cylpaWowlpfOlDeinit
  pm olInfo _ ctxt :=
    if ctxt.whd = none then some ctxt
    else if ctxt.olInfoPtr = none then none
    else if olInfo.fwNewInfra = 0 then some ctxt
    -- the entries, going to sleep and waking up
    else if ctxt.cfg = none then none
    else some ctxt

/-! ### The list -/

/-- `ol_desc_t` of a built-in offload: the address of its context, and its configuration. -/
inductive BuiltinDesc where
  | pf (ol : Handle) (cfg : Option (List CyPfOlCfg))
  | arp (ol : Handle) (cfg : Option ArpOlCfg)
  | tko (ol : Handle) (cfg : Option Handle)
  | tlsoe (ol : Handle) (cfg : Option Handle)
  | wowlpf (ol : Handle) (cfg : Option (List CyWowlpfOlCfg))
  | nko (ol : Handle) (cfg : Option NkoOlCfg)
  | nullko (ol : Handle) (cfg : Option Handle)

/-- The contexts, with the statics of the packet filter, and of ARP and the IP-change callback. -/
structure OlContexts where
  pf : Handle → PfOl
  pfStatics : PfBufs × List PfCall
  arp : Handle → ArpOl
  ip : ArpWorld
  tko : Handle → OlCtxt Handle
  tlsoe : Handle → TlsoeOl
  wowlpf : Handle → WowlpfOl
  nko : Handle → OlCtxt NkoOlCfg
  nullko : Handle → OlCtxt Handle

/-- Zero-initialised contexts. -/
def OlContexts.boot : OlContexts where
  pf _ := ⟨none, none⟩
  pfStatics := (.boot, [])
  arp _ := .cleared
  ip := .boot
  tko _ := .cleared
  tlsoe _ := ⟨none⟩
  wowlpf _ := ⟨none, none, none⟩
  nko _ := .cleared
  nullko _ := .cleared

/-- The functions of a descriptor; `answer` is that of the driver while it is initialised. -/
def BuiltinDesc.offload (answer : ℤ) : BuiltinDesc → Offload OlContexts
  | .pf ol cfg => (pfOlFns cfg).on (fun s => (s.pf ol, s.pfStatics))
      fun w s => { s with pf := Function.update s.pf ol w.1, pfStatics := w.2 }
  | .arp ol cfg => (arpOlFns cfg).on (fun s => { s.ip with ol := some (s.arp ol) })
      fun w s => { s with arp := Function.update s.arp ol (w.ol.getD .cleared), ip := w }
  | .tko ol cfg => (tkoOlFns cfg).on (fun s => s.tko ol)
      fun c s => { s with tko := Function.update s.tko ol c }
  | .tlsoe ol cfg => (tlsoeOlFns cfg).on (fun s => s.tlsoe ol)
      fun c s => { s with tlsoe := Function.update s.tlsoe ol c }
  | .wowlpf ol cfg => (wowlpfOlFns cfg).on (fun s => s.wowlpf ol)
      fun c s => { s with wowlpf := Function.update s.wowlpf ol c }
  | .nko ol cfg => (nkoOlFns ol cfg).on (fun s => (s.nko ol, s.ip))
      fun w s => { s with nko := Function.update s.nko ol w.1, ip := w.2 }
  | .nullko ol cfg => (nullkoOlFns answer cfg).on (fun s => s.nullko ol)
      fun c s => { s with nullko := Function.update s.nullko ol c }

/-! ### Runs -/

/-- A call to the manager.  The answers of the driver are given with it: whether the firmware has
offloads of its own, and those to the keep-alives that each entry of the list configures. -/
inductive OlmCall where
  | init (olList : Option (List BuiltinDesc)) (fwcap : Option Bool)
  | initOls (whd ip : Handle) (answers : ℕ → ℤ)
  | deinitOls
  | notify (st : OlPmSt)

/-- The manager and the contexts. -/
structure OlmRun where
  olm : OlmOf BuiltinDesc
  contexts : OlContexts

/-- The list, with the driver's answer to each entry. -/
def OlmRun.items (s : OlmRun) (answers : ℕ → ℤ) : Option (List (BuiltinDesc × ℤ)) :=
  s.olm.olList.map fun its => its.mapIdx fun i it => (it, answers i)

/-- The functions of some entries, each with the driver's answer. -/
def olFns (its : List (BuiltinDesc × ℤ)) : List (Offload OlContexts) :=
  its.map fun it => it.1.offload it.2

/-- The manager as its functions see it. -/
def OlmRun.manager (s : OlmRun) (answers : ℕ → ℤ) : Manager OlContexts where
  olList := (s.items answers).map olFns
  olInfo := s.olm.olInfo

/-- One call; there is no state after it if a pointer that is `NULL` has been followed. -/
def OlmRun.step (s : OlmRun) : OlmCall → Option OlmRun
  | .init olList fwcap => some { s with olm := cylpaOlmInit s.olm olList fwcap }
  | .initOls whd ip answers =>
      (cylpaOlmInitOls (s.manager answers) (some whd) (some ip) s.contexts).map fun r =>
        ⟨{ s.olm with olInfo := r.2.1.olInfo }, r.2.2⟩
  | .deinitOls =>
      (cylpaOlmDeinitOls (s.manager fun _ => whdSuccess) s.contexts).map fun c =>
        { s with contexts := c }
  | .notify st =>
      ((s.manager fun _ => whdSuccess).dispatch st s.contexts).map fun c => { s with contexts := c }

end Lpa
