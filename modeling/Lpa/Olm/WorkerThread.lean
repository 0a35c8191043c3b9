import Lpa.Olm.Calls

/-!
# Offload manager — the worker thread

Callbacks are run by a worker thread, for which there is only a need with the old infrastructure:
`cylpa_olm_init` creates it if it is not there, and `cylpa_olm_deinit` deletes it.  Each goes by
`fw_new_infra` as it is when called.  It may have changed in between, creating the thread may have
failed, and there may be none to delete.

* `workerInv_step`: the thread call by call, as long as each deinitialisation finds it as it is to.
* `workerThread_iff`: threads are created and deleted in pairs exactly if each does.
-/

namespace Lpa

/-! ### Threads -/

/-- The worker threads alive after some events. -/
def alive (log : List ManagerEvent) : ℕ :=
  log.foldl (fun n e =>
    match e with
    | .workerThreadCreate true => n + 1
    | .workerThreadDelete (some _) => n - 1
    | _ => n) 0

/-- At most one is alive; and one was, where the last event deletes it. -/
structure Paired (log : List ManagerEvent) : Prop where
  deletes (before : List ManagerEvent) (worker : Option Handle) :
    log = before ++ [.workerThreadDelete worker] → worker ≠ none ∧ 0 < alive before
  alive_le : alive log ≤ 1

/-- An event of the worker thread. -/
def ManagerEvent.isWorkerThread : ManagerEvent → Bool
  | workerThreadCreate _ => true
  | workerThreadDelete _ => true
  | _ => false

section Threads

variable {log trace : List ManagerEvent}

theorem alive_append_singleton (log : List ManagerEvent) (e : ManagerEvent) :
    alive (log ++ [e]) =
      match e with
      | .workerThreadCreate true => alive log + 1
      | .workerThreadDelete (some _) => alive log - 1
      | _ => alive log := by
  rw [alive, List.foldl_append]
  rfl

/-- Other events change nothing. -/
theorem paired_append (log : List ManagerEvent) (h : ∀ e ∈ trace, e.isWorkerThread = false) :
    alive (log ++ trace) = alive log ∧
      (Runs.Throughout Paired log → Runs.Throughout Paired (log ++ trace)) := by
  induction trace using List.reverseRecOn with
  | nil => simp
  | append_singleton trace e ih =>
      obtain ⟨halive, hpaired⟩ := ih fun e he => h e (List.mem_append_left _ he)
      have he : e.isWorkerThread = false := h e (by simp)
      have hsame : alive (log ++ trace ++ [e]) = alive (log ++ trace) := by
        rw [alive_append_singleton]
        cases e <;> first | rfl | cases he
      rw [← List.append_assoc]
      refine ⟨hsame.trans halive, fun hlog => Runs.throughout_concat.mpr ⟨hpaired hlog, ?_, ?_⟩⟩
      · intro before worker heq
        obtain ⟨-, rfl⟩ := List.append_singleton_inj.mp heq
        cases he
      · rw [hsame]
        exact (hpaired hlog _ (List.prefix_refl _)).alive_le

/-- A thread is created if none is alive. -/
theorem paired_create (created : Bool) (hlog : Runs.Throughout Paired log) (h : alive log = 0) :
    alive (log ++ [.workerThreadCreate created]) = (if created then 1 else 0) ∧
      Runs.Throughout Paired (log ++ [.workerThreadCreate created]) := by
  have halive : alive (log ++ [.workerThreadCreate created]) = if created then 1 else 0 := by
    rw [alive_append_singleton, h]
    cases created <;> rfl
  refine ⟨halive, Runs.throughout_concat.mpr ⟨hlog, fun before worker heq => ?_, ?_⟩⟩
  · cases (List.append_singleton_inj.mp heq).2
  · rw [halive]
    split <;> decide

/-- One is deleted if it is alive. -/
theorem paired_delete_iff (worker : Option Handle) :
    Runs.Throughout Paired (log ++ [.workerThreadDelete worker]) ↔
      Runs.Throughout Paired log ∧ worker ≠ none ∧ 0 < alive log := by
  rw [Runs.throughout_concat]
  refine and_congr_right fun hlog => ⟨fun h => h.deletes log worker rfl, fun hdeletes =>
    ⟨fun before worker' heq => ?_, ?_⟩⟩
  · obtain ⟨rfl, hevent⟩ := List.append_singleton_inj.mp heq
    cases hevent
    exact hdeletes
  · have hle := (hlog log (List.prefix_refl _)).alive_le
    rw [alive_append_singleton]
    cases worker with
    | none => exact hle
    | some worker => exact (Nat.sub_le _ _).trans hle

end Threads

/-! ### What the calls ask for -/

/-- What was last answered about the infrastructure; and since the latest `cylpa_olm_deinit`,
whether there was a `cylpa_olm_init` for the old one, and a thread could be created for it. -/
structure Workers where
  infra : Bool
  started : Bool
  created : Bool
deriving DecidableEq, Repr

namespace Workers

variable {W : Type}

/-- One more call. -/
def next (offloads : UInt32) (h : Workers) : ManagerCall W → Workers
  | .init _ _ fwcap created =>
    let infra := (fwcap.map (ManagerState.hasCap offloads)).getD h.infra
    if infra then { h with infra := true }
    else { infra := false, started := true, created := h.created || created }
  | .initOls _ _ => h
  | .deinitOls => h
  | .deinit => { h with started := false, created := false }

/-- A thread was created, if one is deleted; and none was asked for, if not. -/
def Deinits (h : Workers) : Prop := if h.infra then h.started = false else h.created = true

end Workers

/-- What some calls ask for. -/
def workers {W : Type} (offloads : UInt32) (calls : List (ManagerCall W)) : Workers :=
  calls.foldl (Workers.next offloads) ⟨false, false, false⟩

section Worker

variable {W : Type} {offloads : UInt32} {world : W} {s s' : ManagerState W} {h : Workers}

/-- The thread, its pointer and its state are as the calls ask for. -/
structure WorkerInv (s : ManagerState W) (h : Workers) : Prop where
  infra : s.olm.olInfo.fwNewInfra = if h.infra then 1 else 0
  worker : s.olm.olInfo.worker = if h.started then some cyOlmWorkerThread else none
  valid : s.workerThreadValid = h.created
  alive : alive s.log = if h.created then 1 else 0
  started : h.created = true → h.started = true
  paired : Runs.Throughout Paired s.log

theorem workerInv_boot (world : W) : WorkerInv (.boot world) ⟨false, false, false⟩ := by
  refine ⟨rfl, rfl, rfl, rfl, by simp, Runs.throughout_nil.mpr ⟨fun before worker heq => ?_, ?_⟩⟩
  · simp at heq
  · decide

/-- Calls that are not of the thread change none of it. -/
theorem WorkerInv.of_log (hinv : WorkerInv s h) (hinfo : s'.olm.olInfo.fwNewInfra =
      s.olm.olInfo.fwNewInfra ∧ s'.olm.olInfo.worker = s.olm.olInfo.worker)
    (hvalid : s'.workerThreadValid = s.workerThreadValid) {trace : List ManagerEvent}
    (hlog : s'.log = s.log ++ trace) (htrace : ∀ e ∈ trace, e.isWorkerThread = false) :
    WorkerInv s' h := by
  obtain ⟨halive, hpaired⟩ := paired_append s.log htrace
  refine ⟨hinfo.1.trans hinv.infra, hinfo.2.trans hinv.worker, hvalid.trans hinv.valid, ?_,
    hinv.started, ?_⟩
  · rw [hlog, halive, hinv.alive]
  · rw [hlog]
    exact hpaired hinv.paired

theorem WorkerInv.calls (hinv : WorkerInv s h) (hs : s.Offloads s') : WorkerInv s' h := by
  obtain ⟨trace, hlog, hevents⟩ := hs.log
  refine hinv.of_log (by rw [hs.olm]; exact ⟨rfl, rfl⟩) hs.valid hlog fun e he => ?_
  have hoffload := hevents e he
  cases e <;> first | rfl | cases hoffload

/-- The thread that is there stays, and one that is not is created. -/
theorem paired_init (hinv : WorkerInv s h) (whd : Option Handle) (created : Bool) :
    let log := s.log ++ .olmInit :: ((if s.workerThreadValid = false then
      [.workerThreadCreate created] else []) ++ whd.toList.map .initWlanConfig)
    alive log = (if h.created || created then 1 else 0) ∧ Runs.Throughout Paired log := by
  have hquiet : ∀ e ∈ whd.toList.map ManagerEvent.initWlanConfig, e.isWorkerThread = false := by
    simp [ManagerEvent.isWorkerThread]
  have hinit : ∀ e ∈ [ManagerEvent.olmInit], e.isWorkerThread = false := by
    simp [ManagerEvent.isWorkerThread]
  obtain ⟨halive, hpaired⟩ := paired_append s.log hinit
  intro log
  cases hcreated : h.created with
  | true =>
      have hlog : log = s.log ++ [.olmInit] ++ whd.toList.map .initWlanConfig := by
        simp [log, hinv.valid, hcreated]
      obtain ⟨halive', hpaired'⟩ := paired_append (s.log ++ [.olmInit]) hquiet
      rw [hlog, halive', halive, hinv.alive, hcreated]
      exact ⟨rfl, hpaired' (hpaired hinv.paired)⟩
  | false =>
      have hlog : log = s.log ++ [.olmInit] ++ [.workerThreadCreate created] ++
          whd.toList.map .initWlanConfig := by
        simp [log, hinv.valid, hcreated]
      have hnone : alive (s.log ++ [.olmInit]) = 0 := by rw [halive, hinv.alive, hcreated]; rfl
      obtain ⟨hcreate, hpairedCreate⟩ := paired_create created (hpaired hinv.paired) hnone
      obtain ⟨halive', hpaired'⟩ :=
        paired_append (s.log ++ [.olmInit] ++ [.workerThreadCreate created]) hquiet
      rw [hlog, halive', hcreate, Bool.false_or]
      exact ⟨rfl, hpaired' hpairedCreate⟩

/-- **`cylpa_olm_init`** creates the thread if it is to. -/
theorem workerInv_init (hinv : WorkerInv s h) (whd : Option Handle)
    (olList : Option (List (OlDesc W))) (fwcap : Option UInt32) (created : Bool) :
    WorkerInv (s.cylpaOlmInit offloads whd olList fwcap created)
      (h.next offloads (.init whd olList fwcap created)) := by
  have hinfra : (ManagerState.initOlm offloads whd olList fwcap s.olm).olInfo.fwNewInfra =
      if (fwcap.map (ManagerState.hasCap offloads)).getD h.infra then 1 else 0 := by
    rw [initOlm_fwNewInfra, hinv.infra]
    cases fwcap <;> rfl
  have hworker := initOlm_worker offloads whd olList fwcap s.olm
  rw [cylpaOlmInit_eq]
  generalize ManagerState.initOlm offloads whd olList fwcap s.olm = olm at hinfra hworker ⊢
  cases hnew : (fwcap.map (ManagerState.hasCap offloads)).getD h.infra with
  | true =>
      have hnext : h.next offloads (.init whd olList fwcap created) = { h with infra := true } := by
        simp only [Workers.next, hnew, if_true]
      have hcreates : ¬ s.Creates olm := fun hcreates => by
        rw [ManagerState.Creates, hinfra, hnew] at hcreates
        exact absurd hcreates.1 (by decide)
      have hquiet : ∀ e ∈ ManagerEvent.olmInit :: ([] ++ whd.toList.map .initWlanConfig),
          e.isWorkerThread = false := by simp [ManagerEvent.isWorkerThread]
      obtain ⟨halive, hpaired⟩ := paired_append s.log hquiet
      rw [hnext]
      refine ⟨hinfra.trans (by rw [hnew]), hworker.trans ?_, (if_neg hcreates).trans hinv.valid, ?_,
        hinv.started, ?_⟩
      · rw [hinfra, hnew]
        exact hinv.worker
      · simp only [if_neg hcreates]
        exact halive.trans hinv.alive
      · simp only [if_neg hcreates]
        exact hpaired hinv.paired
  | false =>
      have hnext : h.next offloads (.init whd olList fwcap created) =
          { infra := false, started := true, created := h.created || created } := by
        simp only [Workers.next, hnew, Bool.false_eq_true, if_false]
      have hcreates : s.Creates olm ↔ s.workerThreadValid = false :=
        and_iff_right (by rw [hinfra, hnew]; rfl)
      obtain ⟨halive, hpaired⟩ := paired_init hinv whd created
      rw [hnext]
      refine ⟨hinfra.trans (by rw [hnew]), hworker.trans (if_pos (by rw [hinfra, hnew]; rfl)), ?_,
        ?_, fun _ => rfl, ?_⟩
      · simp only [hcreates, hinv.valid]
        cases h.created <;> rfl
      · simp only [hcreates]
        exact halive
      · simp only [hcreates]
        exact hpaired

/-- With the old infrastructure, `cylpa_olm_deinit` deletes what the pointer points to. -/
theorem cylpaOlmDeinit_eq (hinv : WorkerInv s h) : s.cylpaOlmDeinit =
    if h.infra then s
    else
      { s.workerThreadDelete s.olm.olInfo.worker with
        olm := { s.olm with olInfo := { s.olm.olInfo with worker := none } } } := by
  unfold ManagerState.cylpaOlmDeinit
  rw [hinv.infra]
  cases h.infra <;> rfl

/-- **A deinitialisation**, where it finds the thread as it is to. -/
theorem workerInv_deinit (hinv : WorkerInv s h) (hdeinits : h.Deinits) :
    WorkerInv s.cylpaOlmDeinit (h.next offloads (.deinit : ManagerCall W)) := by
  rw [cylpaOlmDeinit_eq hinv]
  unfold Workers.Deinits at hdeinits
  cases hinfra : h.infra with
  | true =>
      rw [hinfra, if_pos rfl] at hdeinits
      have hcreated : h.created = false := by
        by_contra hne
        have hstarted := hinv.started (eq_true_of_ne_false hne)
        rw [hdeinits] at hstarted
        cases hstarted
      have hnext : h.next offloads (.deinit : ManagerCall W) = h := by
        obtain ⟨infra, started, created⟩ := h
        dsimp only at hdeinits hcreated
        rw [Workers.next, hdeinits, hcreated]
      rw [if_pos rfl, hnext]
      exact hinv
  | false =>
      rw [hinfra, if_neg (by decide)] at hdeinits
      have hworker := hinv.worker
      rw [hinv.started hdeinits, if_pos rfl] at hworker
      have halive := hinv.alive
      rw [hdeinits, if_pos rfl] at halive
      rw [if_neg (by decide), hworker]
      refine ⟨hinv.infra, rfl, rfl, ?_, fun hcreated => absurd hcreated Bool.false_ne_true, ?_⟩
      · exact (alive_append_singleton _ _).trans (by rw [halive]; rfl)
      · exact (paired_delete_iff _).mpr ⟨hinv.paired, Option.some_ne_none _, by rw [halive]; decide⟩

/-- **Any call**, where a deinitialisation finds the thread as it is to. -/
theorem workerInv_step (hinv : WorkerInv s h) {call : ManagerCall W}
    (hdeinits : call = .deinit → h.Deinits) :
    WorkerInv (s.step offloads call) (h.next offloads call) := by
  cases call with
  | init whd olList fwcap created => exact workerInv_init hinv whd olList fwcap created
  | initOls whd ip =>
      obtain ⟨config, hlog, hevents⟩ := setInterface_log whd ip s
      have hset : WorkerInv (s.setInterface whd ip) h := by
        refine hinv.of_log (by rw [setInterface_olm]; exact ⟨rfl, rfl⟩)
          (setInterface_rest whd ip s).2 hlog fun e he => ?_
        obtain ⟨iface, rfl⟩ := hevents e he
        rfl
      exact hset.calls (cylpaOlmInitOls_calls s whd ip)
  | deinitOls => exact hinv.calls (cylpaOlmDeinitOls_calls s)
  | deinit => exact workerInv_deinit hinv (hdeinits rfl)

/-- Otherwise it deletes a thread that is not there, or leaves one. -/
theorem deinits_of_paired (hinv : WorkerInv s h)
    (hpaired : Runs.Throughout Paired s.cylpaOlmDeinit.log)
    (hworker : s.cylpaOlmDeinit.olm.olInfo.worker = none) : h.Deinits := by
  rw [cylpaOlmDeinit_eq hinv] at hpaired hworker
  unfold Workers.Deinits
  cases hinfra : h.infra with
  | true =>
      rw [hinfra, if_pos rfl, hinv.worker] at hworker
      rw [if_pos rfl]
      by_contra hstarted
      rw [eq_true_of_ne_false hstarted, if_pos rfl] at hworker
      cases hworker
  | false =>
      rw [hinfra, if_neg (by decide)] at hpaired
      obtain ⟨-, -, halive⟩ := (paired_delete_iff _).mp hpaired
      rw [hinv.alive] at halive
      rw [if_neg (by decide)]
      by_contra hcreated
      rw [if_neg hcreated] at halive
      exact absurd halive (by decide)

/-- **Paired**: threads are created and deleted in pairs, and after `cylpa_olm_deinit` there is
none, and no pointer to one. -/
structure WorkerPaired (offloads : UInt32) (world : W) (calls : List (ManagerCall W)) : Prop where
  paired : Runs.Throughout Paired (ManagerState.after offloads world calls).log
  deinit (ys : List (ManagerCall W)) : calls = ys ++ [.deinit] →
    alive (ManagerState.after offloads world calls).log = 0 ∧
      (ManagerState.after offloads world calls).olm.olInfo.worker = none

/-- The thread is as `cylpa_olm_deinit` is to find it. -/
def WorkerDeinits (offloads : UInt32) (calls : List (ManagerCall W)) : Prop :=
  ∀ ys, calls = ys ++ [.deinit] → (workers offloads ys).Deinits

@[simp] theorem workers_append (calls : List (ManagerCall W)) (call : ManagerCall W) :
    workers offloads (calls ++ [call]) = (workers offloads calls).next offloads call := by
  simp [workers]

/-- **A `cylpa_olm_deinit`** leaves no thread exactly if it finds it as it is to. -/
theorem workerPaired_deinit_iff {calls : List (ManagerCall W)}
    (hinv : WorkerInv (.after offloads world calls) (workers offloads calls)) :
    WorkerPaired offloads world (calls ++ [.deinit]) ↔ (workers offloads calls).Deinits := by
  constructor
  · intro h
    have hpaired := h.paired
    obtain ⟨-, hworker⟩ := h.deinit calls rfl
    rw [ManagerState.after_append] at hpaired hworker
    exact deinits_of_paired hinv hpaired hworker
  · intro h
    have hafter : WorkerInv (ManagerState.after offloads world calls).cylpaOlmDeinit
        ((workers offloads calls).next offloads (.deinit : ManagerCall W)) :=
      workerInv_deinit hinv h
    refine ⟨?_, fun ys _ => ?_⟩
    · rw [ManagerState.after_append]
      exact hafter.paired
    · rw [ManagerState.after_append]
      exact ⟨hafter.alive, hafter.worker⟩

/-- **The worker thread** is created and deleted in pairs throughout exactly if each
`cylpa_olm_deinit` finds it as it is to. -/
theorem workerThread_iff (offloads : UInt32) (world : W) (run : List (ManagerCall W)) :
    Runs.Throughout (WorkerPaired offloads world) run ↔
      Runs.Throughout (WorkerDeinits offloads) run := by
  refine Runs.throughout_iff_of_invariant (A := fun _ => True)
    (I := fun calls => WorkerInv (.after offloads world calls) (workers offloads calls))
    (fun _ _ => trivial) (workerInv_boot world) ?_ (fun calls call hinv _ => ?_)
    fun calls call hinv _ hdeinits => ?_
  · exact iff_of_true ⟨(workerInv_boot world).paired, by simp⟩ fun ys hys => by simp at hys
  · by_cases hcall : call = .deinit
    · rw [hcall, workerPaired_deinit_iff hinv]
      refine ⟨fun h ys hys => ?_, fun h => h calls rfl⟩
      rwa [← (List.append_singleton_inj.mp hys).1]
    · -- no other call is asked for more than it keeps
      have hlast : ∀ ys, calls ++ [call] ≠ ys ++ [.deinit] := fun ys hys =>
        hcall (List.append_singleton_inj.mp hys).2
      have hafter : WorkerInv ((ManagerState.after offloads world calls).step offloads call)
          ((workers offloads calls).next offloads call) := workerInv_step hinv (absurd · hcall)
      refine iff_of_true ⟨?_, fun ys hys => absurd hys (hlast ys)⟩
        fun ys hys => absurd hys (hlast ys)
      rw [ManagerState.after_append]
      exact hafter.paired
  · rw [ManagerState.after_append, workers_append]
    exact workerInv_step hinv fun hcall => hdeinits calls (by rw [hcall])

/-- The manager is initialised without an interface, and again with one whose firmware has the new
infrastructure: the thread is left. -/
theorem workerThread_not_paired : ¬ ∀ (offloads : UInt32) (run : List (ManagerCall Unit)),
    Runs.Throughout (WorkerPaired offloads ()) run := by
  intro h
  have hpaired := h 3 [.init none none none true, .init (some 1) none (some 8) true, .deinit] _
    (List.prefix_refl _)
  obtain ⟨halive, -⟩ :=
    hpaired.deinit [.init none none none true, .init (some 1) none (some 8) true] rfl
  exact absurd halive (by decide)

end Worker

end Lpa
