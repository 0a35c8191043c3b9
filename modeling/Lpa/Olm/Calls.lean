import Lpa.Olm.Manager
import Lpa.Support.Runs

/-!
# Offload manager — the calls of a run

The manager's functions are called in any order, each cylpa_olm_init with an interface set or not,
and with any answers of the driver and the system.  The calls of the offloads' functions that a call
makes come last in it, and change nothing the manager looks at (`cylpaOlmInitOls_calls` and
`cylpaOlmDeinitOls_calls`).
-/

namespace Lpa

/-- A call of the manager, with what the driver and the system answer to it. -/
inductive ManagerCall (W : Type) where
  | init (whd : Option Handle) (olList : Option (List (OlDesc W))) (fwcap : Option UInt32)
      (created : Bool)
  | initOls (whd ip : Option Handle)
  | deinitOls
  | deinit

namespace ManagerState

variable {W : Type}

/-- The state after a call. -/
def step (offloads : UInt32) (s : ManagerState W) : ManagerCall W → ManagerState W
  | .init whd olList fwcap created => s.cylpaOlmInit offloads whd olList fwcap created
  | .initOls whd ip => (s.cylpaOlmInitOls whd ip).2
  | .deinitOls => s.cylpaOlmDeinitOls
  | .deinit => s.cylpaOlmDeinit

/-- The state after some calls, from the start of the program on. -/
def after (offloads : UInt32) (world : W) (calls : List (ManagerCall W)) : ManagerState W :=
  calls.foldl (step offloads) (boot world)

variable {offloads : UInt32} {world : W}

@[simp] theorem after_nil : after offloads world [] = boot world := rfl

@[simp] theorem after_append (calls : List (ManagerCall W)) (call : ManagerCall W) :
    after offloads world (calls ++ [call]) = (after offloads world calls).step offloads call := by
  simp [after]

end ManagerState

/-! ### Initialising and deinitialising the manager -/

section Init

variable {W : Type}

/-- `cylpa_olm_init` creates a worker thread, where it leaves the manager as `olm`. -/
def ManagerState.Creates (s : ManagerState W) (olm : OlmOf (OlDesc W)) : Prop :=
  olm.olInfo.fwNewInfra = 0 ∧ s.workerThreadValid = false

instance (s : ManagerState W) (olm : OlmOf (OlDesc W)) : Decidable (s.Creates olm) :=
  inferInstanceAs (Decidable (_ ∧ _))

/-- **`cylpa_olm_init`**, field by field. -/
theorem cylpaOlmInit_eq (s : ManagerState W) (offloads : UInt32) (whd : Option Handle)
    (olList : Option (List (OlDesc W))) (fwcap : Option UInt32) (created : Bool) :
    let olm := ManagerState.initOlm offloads whd olList fwcap s.olm
    s.cylpaOlmInit offloads whd olList fwcap created =
      { olm := olm
        cyOlmWhdInstanceCreated := s.cyOlmWhdInstanceCreated || whd.isSome
        workerThreadValid := if s.Creates olm then created else s.workerThreadValid
        world := s.world
        log := s.log ++ .olmInit ::
          ((if s.Creates olm then [.workerThreadCreate created] else []) ++
            whd.toList.map .initWlanConfig) } := by
  intro olm
  have hthread : ({ s.record .olmInit with olm := olm }.initWorkerThread created) =
      { s with
        olm := olm
        workerThreadValid := if s.Creates olm then created else s.workerThreadValid
        log := s.log ++ .olmInit ::
          if s.Creates olm then [.workerThreadCreate created] else [] } := by
    unfold ManagerState.initWorkerThread
    split
    · rename_i h
      have hcreates : s.Creates olm := h
      simp [hcreates, ManagerState.record, ManagerState.workerThreadCreate]
    · rename_i h
      have hcreates : ¬ s.Creates olm := h
      simp [hcreates, ManagerState.record]
  cases whd with
  | none =>
      have hrun : s.cylpaOlmInit offloads none olList fwcap created =
          { s.record .olmInit with olm := olm }.initWorkerThread created := rfl
      rw [hrun, hthread]
      simp
  | some iface =>
      have hrun : s.cylpaOlmInit offloads (some iface) olList fwcap created =
          ({ s.record .olmInit with olm := olm }.initWorkerThread created).initWlanConfig iface :=
        rfl
      rw [hrun, hthread]
      simp [ManagerState.record, ManagerState.initWlanConfig]

variable (offloads : UInt32) (whd : Option Handle) (olList : Option (List (OlDesc W)))
  (fwcap : Option UInt32) (olm : OlmOf (OlDesc W))

/-- The list it leaves is never `NULL`. -/
theorem initOlm_olList :
    (ManagerState.initOlm offloads whd olList fwcap olm).olList = some (olList.getD []) := by
  unfold ManagerState.initOlm Lpa.cylpaOlmInit
  cases fwcap <;> dsimp only [Option.map_none, Option.map_some] <;> split <;> rfl

/-- The infrastructure is what the firmware has, if it answers. -/
theorem initOlm_fwNewInfra :
    (ManagerState.initOlm offloads whd olList fwcap olm).olInfo.fwNewInfra =
      (fwcap.map fun value => if ManagerState.hasCap offloads value then 1 else 0).getD
        olm.olInfo.fwNewInfra := by
  unfold ManagerState.initOlm Lpa.cylpaOlmInit
  cases fwcap <;> dsimp only [Option.map_none, Option.map_some] <;> split <;> rfl

/-- A worker thread is for the old infrastructure only. -/
theorem initOlm_worker :
    (ManagerState.initOlm offloads whd olList fwcap olm).olInfo.worker =
      if (ManagerState.initOlm offloads whd olList fwcap olm).olInfo.fwNewInfra = 0 then
        some cyOlmWorkerThread
      else olm.olInfo.worker := by
  unfold ManagerState.initOlm Lpa.cylpaOlmInit
  cases fwcap <;> dsimp only [Option.map_none, Option.map_some] <;> split <;> simp [*]

end Init

/-! ### Calls of the offloads -/

/-- A call of an offload's function. -/
def ManagerEvent.isOffload : ManagerEvent → Bool
  | olInit .. => true
  | olDeinit _ => true
  | _ => false

section Offloads

variable {W : Type} {s s' s'' : ManagerState W}

/-- From `s` to `s'` offloads are called, and nothing else happens. -/
structure ManagerState.Offloads (s s' : ManagerState W) : Prop where
  olm : s'.olm = s.olm
  created : s'.cyOlmWhdInstanceCreated = s.cyOlmWhdInstanceCreated
  valid : s'.workerThreadValid = s.workerThreadValid
  log : ∃ trace, s'.log = s.log ++ trace ∧ ∀ e ∈ trace, e.isOffload = true

namespace ManagerState.Offloads

theorem refl (s : ManagerState W) : s.Offloads s :=
  ⟨rfl, rfl, rfl, [], (List.append_nil _).symm, by simp⟩

theorem trans (h : s.Offloads s') (h' : s'.Offloads s'') : s.Offloads s'' := by
  obtain ⟨trace, hlog, hevents⟩ := h.log
  obtain ⟨trace', hlog', hevents'⟩ := h'.log
  refine ⟨h'.olm.trans h.olm, h'.created.trans h.created, h'.valid.trans h.valid,
    trace ++ trace', by rw [hlog', hlog, List.append_assoc], fun e he => ?_⟩
  exact (List.mem_append.mp he).elim (hevents e) (hevents' e)

/-- One call. -/
theorem call (s : ManagerState W) (world : W) {event : ManagerEvent} (h : event.isOffload = true) :
    s.Offloads ({ s with world := world }.record event) :=
  ⟨rfl, rfl, rfl, [event], rfl, by simpa using h⟩

end ManagerState.Offloads

theorem deinitLoop_calls (its : List (OlDesc W × ℕ)) (s : ManagerState W) :
    s.Offloads (ManagerState.deinitLoop its s) := by
  induction its generalizing s with
  | nil => exact .refl s
  | cons it its ih =>
      rw [ManagerState.deinitLoop]
      cases it.1.deinit with
      | none => exact ih s
      | some deinit => exact (ManagerState.Offloads.call s _ rfl).trans (ih _)

theorem initLoop_calls (olInfo : OlInfo) (its : List (OlDesc W × ℕ)) (s : ManagerState W) :
    s.Offloads (ManagerState.initLoop olInfo its s).2.2 := by
  induction its generalizing s with
  | nil => exact .refl s
  | cons it its ih =>
      rw [ManagerState.initLoop]
      cases it.1.init with
      | none => exact ih s
      | some init =>
          have hcall : s.Offloads ({ s with world := (init olInfo s.world).2 }.record
              (.olInit it.2 olInfo (init olInfo s.world).1)) := .call s _ rfl
          simp only
          split
          · exact hcall
          · exact hcall.trans (ih _)

/-- **Initialising the offloads**, once the interface is set, is calls of them. -/
theorem cylpaOlmInitOls_calls (s : ManagerState W) (whd ip : Option Handle) :
    (s.setInterface whd ip).Offloads (s.cylpaOlmInitOls whd ip).2 := by
  unfold ManagerState.cylpaOlmInitOls
  dsimp only
  split
  · exact .refl _
  · split
    · exact (initLoop_calls _ _ _).trans (deinitLoop_calls _ _)
    · exact initLoop_calls _ _ _

/-- So is deinitialising them. -/
theorem cylpaOlmDeinitOls_calls (s : ManagerState W) : s.Offloads s.cylpaOlmDeinitOls := by
  unfold ManagerState.cylpaOlmDeinitOls
  split
  · exact .refl _
  · exact deinitLoop_calls _ _

end Offloads

/-! ### The infrastructure -/

section Infra

variable {W : Type}

/-- What the firmware answered when it was last asked: that it has the new infrastructure. -/
def newInfra (offloads : UInt32) (calls : List (ManagerCall W)) : Bool :=
  calls.foldl (fun infra call =>
    match call with
    | .init _ _ (some value) _ => ManagerState.hasCap offloads value
    | _ => infra) false

/-- **`fw_new_infra`** is the latest answer. -/
theorem fwNewInfra_after (offloads : UInt32) (world : W) (calls : List (ManagerCall W)) :
    (ManagerState.after offloads world calls).olm.olInfo.fwNewInfra =
      if newInfra offloads calls then 1 else 0 := by
  induction calls using List.reverseRecOn with
  | nil => rfl
  | append_singleton calls call ih =>
      rw [ManagerState.after_append, newInfra, List.foldl_append, ← newInfra]
      simp only [List.foldl_cons, List.foldl_nil]
      cases call with
      | init whd olList fwcap created =>
          rw [ManagerState.step, cylpaOlmInit_eq]
          dsimp only
          rw [initOlm_fwNewInfra, ih]
          cases fwcap <;> rfl
      | initOls whd ip =>
          rw [ManagerState.step, (cylpaOlmInitOls_calls _ whd ip).olm, setInterface_olm]
          exact ih
      | deinitOls =>
          rw [ManagerState.step, (cylpaOlmDeinitOls_calls _).olm]
          exact ih
      | deinit =>
          unfold ManagerState.step ManagerState.cylpaOlmDeinit
          dsimp only
          split <;> exact ih

end Infra

end Lpa
