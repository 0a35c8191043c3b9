import Lpa.Olm.Dispatch
import Lpa.Support.Runs

/-!
# Offload manager — the life of the offloads

`cylpa_olm_init_ols` initialises the offloads of the list one by one and, where one refuses,
deinitialises those before it; `cylpa_olm_deinit_ols` deinitialises them all; a notification goes
to all of them.

Here an offload's function may follow a pointer that is `NULL`.  It then has no result, and neither
has what has called it.  The offloads keep a pointer to the manager's `ol_info`, so what that holds
when a function is called is an argument of the function.

* `cylpaOlmInitOls_keeps` and its like: what the functions of every offload keep, the manager's do.
* `dispatch_rest`: what a notification makes of the offloads is what it does in `Dispatch.lean`.
-/

namespace Lpa

/-- `ol_desc_t`: its functions, with its context and configuration, on the rest of the world `S`. -/
structure Offload (S : Type) where
  init : OlInfo → S → Option (ℤ × S)
  deinit : OlInfo → S → Option S
  pm : OlInfo → OlPmSt → S → Option S

/-- An offload that works on a part of the world. -/
def Offload.on {S C : Type} (get : S → C) (put : C → S → S) (it : Offload C) : Offload S where
  init olInfo s := (it.init olInfo (get s)).map fun p => (p.1, put p.2 s)
  deinit olInfo s := (it.deinit olInfo (get s)).map fun c => put c s
  pm olInfo st s := (it.pm olInfo st (get s)).map fun c => put c s

/-- `olm_t`; the list is the descriptors before the one without functions. -/
structure OlmOf (D : Type) where
  olList : Option (List D)
  olInfo : OlInfo

/-- A manager whose descriptors are given by their functions. -/
abbrev Manager (S : Type) := OlmOf (Offload S)

/-- The worker thread, `cy_olm_worker_thread`. -/
def cyOlmWorkerThread : Handle := 0

/-- `cylpa_olm_init`.  The answer of `whd_wifi_get_fwcap` tells whether the firmware has offloads
of its own; there is none if the call fails. -/
def cylpaOlmInit {D : Type} (olm : OlmOf D) (olList : Option (List D)) (fwcap : Option Bool) :
    OlmOf D :=
  let olm := { olm with olList := some (olList.getD []) }
  let olm :=
    match fwcap with
    | none => olm
    | some offloads =>
      { olm with olInfo := { olm.olInfo with fwNewInfra := if offloads then 1 else 0 } }
  if olm.olInfo.fwNewInfra = 0 then
    { olm with olInfo := { olm.olInfo with worker := some cyOlmWorkerThread } }
  else olm

section Lifecycle

variable {S : Type}

/-- The first loop of `cylpa_olm_init_ols`: the last result, the offloads before the one that
refused, and the world. -/
def initOls (olInfo : OlInfo) : List (Offload S) → S → Option (ℤ × List (Offload S) × S)
  | [], s => some (resultOk, [], s)
  | it :: its, s => do
      let (result, s) ← it.init olInfo s
      if result ≠ resultOk then return (result, [], s)
      else
        let (result, before, s) ← initOls olInfo its s
        return (result, it :: before, s)

/-- The loop of `cylpa_olm_deinit_ols`, and the second one of `cylpa_olm_init_ols`. -/
def deinitOls (olInfo : OlInfo) (its : List (Offload S)) (s : S) : Option S :=
  its.foldlM (fun s it => it.deinit olInfo s) s

/-- The loop of `cylpa_olm_dispatch_pm_notification`. -/
def pmOls (olInfo : OlInfo) (st : OlPmSt) (its : List (Offload S)) (s : S) : Option S :=
  its.foldlM (fun s it => it.pm olInfo st s) s

/-- `cylpa_olm_init_ols`: the result, the manager and the world. -/
def cylpaOlmInitOls (olm : Manager S) (whd ip : Option Handle) (s : S) :
    Option (ℤ × Manager S × S) :=
  let olm := { olm with olInfo := { olm.olInfo with whd := whd, ip := ip } }
  match olm.olList with
  | none => some (resultBadargs, olm, s)
  | some olList => do
      let (result, before, s) ← initOls olm.olInfo olList s
      if result ≠ resultOk then
        let s ← deinitOls olm.olInfo before s
        return (result, olm, s)
      else return (result, olm, s)

/-- `cylpa_olm_deinit_ols`. -/
def cylpaOlmDeinitOls (olm : Manager S) (s : S) : Option S :=
  match olm.olList with
  | none => some s
  | some olList => deinitOls olm.olInfo olList s

/-- What `cylpa_olm_dispatch_pm_notification` makes of the offloads. -/
def Manager.dispatch (olm : Manager S) (st : OlPmSt) (s : S) : Option S :=
  match olm.olList, olm.olInfo.whd with
  | some olList, some _ => pmOls olm.olInfo st olList s
  | _, _ => some s

/-- The manager `cylpa_olm_init_ols` leaves: its pointers set, whatever the result. -/
theorem cylpaOlmInitOls_olm {olm olm' : Manager S} {whd ip : Option Handle} {result : ℤ} {s s' : S}
    (h : cylpaOlmInitOls olm whd ip s = some (result, olm', s')) :
    olm' = { olm with olInfo := { olm.olInfo with whd := whd, ip := ip } } := by
  unfold cylpaOlmInitOls at h
  cases hl : olm.olList with
  | none => simp only [hl] at h; cases h; rfl
  | some its =>
      simp only [hl] at h
      obtain ⟨⟨result₁, before, s₁⟩, -, h⟩ := Option.bind_eq_some_iff.mp h
      simp only at h
      split at h
      · obtain ⟨s₂, -, h⟩ := Option.bind_eq_some_iff.mp h
        cases h
        rfl
      · cases h; rfl

/-! ### What the offloads keep -/

section Keeps

variable {I : S → Prop} {olInfo : OlInfo} {its before : List (Offload S)} {result : ℤ} {s s' : S}

/-- The functions of an offload keep `I`. -/
structure Offload.Keeps (olInfo : OlInfo) (it : Offload S) (I : S → Prop) : Prop where
  init {s s' : S} {result : ℤ} : I s → it.init olInfo s = some (result, s') → I s'
  deinit {s s' : S} : I s → it.deinit olInfo s = some s' → I s'
  pm {s s' : S} {st : OlPmSt} : I s → it.pm olInfo st s = some s' → I s'

/-- An offload on a part of the world keeps what it keeps of that part. -/
theorem Offload.Keeps.on {C : Type} {get : S → C} {put : C → S → S} {it : Offload C} {K : C → Prop}
    (h : it.Keeps olInfo K) (hget : ∀ s, I s → K (get s))
    (hput : ∀ c s, I s → K c → I (put c s)) : (it.on get put).Keeps olInfo I where
  init {s s' result} hs hrun := by
    obtain ⟨⟨result₁, c⟩, hc, heq⟩ := Option.map_eq_some_iff.mp hrun
    cases heq
    exact hput c s hs (h.init (hget s hs) hc)
  deinit {s s'} hs hrun := by
    obtain ⟨c, hc, rfl⟩ := Option.map_eq_some_iff.mp hrun
    exact hput c s hs (h.deinit (hget s hs) hc)
  pm {s s' st} hs hrun := by
    obtain ⟨c, hc, rfl⟩ := Option.map_eq_some_iff.mp hrun
    exact hput c s hs (h.pm (hget s hs) hc)

theorem initOls_keeps (h : ∀ it ∈ its, it.Keeps olInfo I) (hs : I s)
    (hrun : initOls olInfo its s = some (result, before, s')) : I s' ∧ before <+: its := by
  induction its generalizing s before with
  | nil => cases hrun; exact ⟨hs, List.prefix_refl _⟩
  | cons it its ih =>
      obtain ⟨⟨result₁, s₁⟩, h₁, hrun⟩ := Option.bind_eq_some_iff.mp hrun
      have hs₁ : I s₁ := (h it List.mem_cons_self).init hs h₁
      simp only at hrun
      split at hrun
      · cases hrun; exact ⟨hs₁, List.nil_prefix⟩
      · obtain ⟨⟨result₂, before₂, s₂⟩, h₂, hrun⟩ := Option.bind_eq_some_iff.mp hrun
        cases hrun
        obtain ⟨hs₂, hbefore⟩ := ih (fun it hit => h it (List.mem_cons_of_mem _ hit)) hs₁ h₂
        exact ⟨hs₂, List.prefix_cons_inj it |>.mpr hbefore⟩

theorem deinitOls_keeps (h : ∀ it ∈ its, it.Keeps olInfo I) (hs : I s)
    (hrun : deinitOls olInfo its s = some s') : I s' :=
  Runs.foldlM_keeps (fun it hit _ _ => (h it hit).deinit) hs hrun

theorem pmOls_keeps {st : OlPmSt} (h : ∀ it ∈ its, it.Keeps olInfo I) (hs : I s)
    (hrun : pmOls olInfo st its s = some s') : I s' :=
  Runs.foldlM_keeps (fun it hit _ _ => (h it hit).pm) hs hrun

/-- **What every offload of the list keeps**, `cylpa_olm_init_ols` keeps, undoing included. -/
theorem cylpaOlmInitOls_keeps {olm olm' : Manager S} {whd ip : Option Handle}
    (h : ∀ its, olm.olList = some its →
      ∀ it ∈ its, it.Keeps { olm.olInfo with whd := whd, ip := ip } I) (hs : I s)
    (hrun : cylpaOlmInitOls olm whd ip s = some (result, olm', s')) : I s' := by
  unfold cylpaOlmInitOls at hrun
  cases hl : olm.olList with
  | none => simp only [hl] at hrun; cases hrun; exact hs
  | some its =>
      simp only [hl] at hrun
      obtain ⟨⟨result₁, before, s₁⟩, h₁, hrun⟩ := Option.bind_eq_some_iff.mp hrun
      obtain ⟨hs₁, hbefore⟩ := initOls_keeps (h its hl) hs h₁
      simp only at hrun
      split at hrun
      · obtain ⟨s₂, h₂, hrun⟩ := Option.bind_eq_some_iff.mp hrun
        cases hrun
        exact deinitOls_keeps (fun it hit => h its hl it (hbefore.subset hit)) hs₁ h₂
      · cases hrun; exact hs₁

theorem dispatch_keeps {olm : Manager S} {st : OlPmSt}
    (h : ∀ its, olm.olList = some its → ∀ it ∈ its, it.Keeps olm.olInfo I) (hs : I s)
    (hrun : olm.dispatch st s = some s') : I s' := by
  unfold Manager.dispatch at hrun
  cases hl : olm.olList with
  | none => simp only [hl] at hrun; cases hrun; exact hs
  | some its =>
      cases hw : olm.olInfo.whd with
      | none => simp only [hl, hw] at hrun; cases hrun; exact hs
      | some whd => simp only [hl, hw] at hrun; exact pmOls_keeps (h its hl) hs hrun

theorem cylpaOlmDeinitOls_keeps {olm : Manager S}
    (h : ∀ its, olm.olList = some its → ∀ it ∈ its, it.Keeps olm.olInfo I) (hs : I s)
    (hrun : cylpaOlmDeinitOls olm s = some s') : I s' := by
  unfold cylpaOlmDeinitOls at hrun
  cases hl : olm.olList with
  | none => simp only [hl] at hrun; cases hrun; exact hs
  | some its => simp only [hl] at hrun; exact deinitOls_keeps (h its hl) hs hrun

end Keeps

/-! ### Notifications -/

/-- A descriptor in the sense of `Dispatch.lean`. -/
def Offload.desc (olInfo : OlInfo) (it : Offload S) : OlDesc (Option S) where
  init := some fun info s =>
    match s.bind (it.init info) with
    | none => (resultError, none)
    | some (result, s) => (result, some s)
  deinit := some fun s => s.bind (it.deinit olInfo)
  pm := some fun st s => s.bind (it.pm olInfo st)

def Manager.olm (olm : Manager S) : Olm (Option S) where
  olList := olm.olList.map fun its => its.map (Offload.desc olm.olInfo)
  olInfo := olm.olInfo

theorem dispatchPm_desc (olInfo : OlInfo) (st : OlPmSt) (its : List (Offload S)) (s : Option S) :
    dispatchPm st (its.map (Offload.desc olInfo)) s = s.bind (pmOls olInfo st its) := by
  induction its generalizing s with
  | nil => cases s <;> rfl
  | cons it its ih =>
      have hcons : dispatchPm st ((it :: its).map (Offload.desc olInfo)) s =
          dispatchPm st (its.map (Offload.desc olInfo)) (s.bind (it.pm olInfo st)) := rfl
      rw [hcons, ih, Option.bind_assoc]
      rfl

/-- **A notification** does to the offloads what it does in `Dispatch.lean`. -/
theorem dispatch_rest (olm : Manager S) (st : OlPmSt) (w : OlmWorld (Option S)) :
    (cylpaOlmDispatchPmNotification (some olm.olm) st w).rest = w.rest.bind (olm.dispatch st) := by
  obtain ⟨olList, olInfo⟩ := olm
  unfold cylpaOlmDispatchPmNotification Manager.olm Manager.dispatch
  cases olList with
  | none => simp
  | some its =>
      cases hwhd : olInfo.whd with
      | none => simp [hwhd]
      | some whd =>
          simp only [Option.map_some, hwhd, dispatchPm_desc]
          unfold cylpaOlmConfigureWlanPmode
          split <;> rfl

end Lifecycle

end Lpa
