import Lpa.Olm.Lifecycle

/-!
# Offload manager — the manager itself

`cylpa_olm_init`, `cylpa_olm_init_ols`, `cylpa_olm_deinit_ols` and `cylpa_olm_deinit` with what they
work on besides the offloads: the flag that an interface has been configured, the worker thread,
and the interface's configuration.  What they do is recorded in a log, event by event.

Here a descriptor may lack its functions, and each call of one is recorded under its position in
the list.

* `cylpaOlmInitOls_rolledBack`: `cylpa_olm_init_ols` starts the offloads up to the first that
  fails, and stops the ones before it.
* `cylpaOlmInitOls_desc`: on descriptors with all functions it does what it does in
  `Lifecycle.lean`.
-/

namespace Lpa

/-- What the manager does; an offload is its position in the list. -/
inductive ManagerEvent where
  | olmInit
  | initWlanConfig (whd : Handle)
  | workerThreadCreate (created : Bool)
  | workerThreadDelete (worker : Option Handle)
  | olInit (position : ℕ) (olInfo : OlInfo) (result : ℤ)
  | olDeinit (position : ℕ)
deriving DecidableEq

/-- The manager, `cy_olm_whd_instance_created`, whether the state of `cy_olm_worker_thread` is
`CY_WORKER_THREAD_VALID`, the rest of the world, and what has been done. -/
structure ManagerState (W : Type) where
  olm : OlmOf (OlDesc W)
  cyOlmWhdInstanceCreated : Bool
  workerThreadValid : Bool
  world : W
  log : List ManagerEvent

namespace ManagerState

variable {W : Type}

/-- A program just started. -/
def boot (world : W) : ManagerState W where
  olm := ⟨none, ⟨none, none, none, 0⟩⟩
  cyOlmWhdInstanceCreated := false
  workerThreadValid := false
  world := world
  log := []

def record (s : ManagerState W) (event : ManagerEvent) : ManagerState W :=
  { s with log := s.log ++ [event] }

/-- `cylpa_olm_init_wlan_config`, and the flag that goes with it. -/
def initWlanConfig (s : ManagerState W) (whd : Handle) : ManagerState W :=
  { s.record (.initWlanConfig whd) with cyOlmWhdInstanceCreated := true }

/-- `cy_worker_thread_create`. -/
def workerThreadCreate (s : ManagerState W) (created : Bool) : ManagerState W :=
  { s.record (.workerThreadCreate created) with workerThreadValid := created }

/-- `cy_worker_thread_delete`; a worker that is there is not valid any more. -/
def workerThreadDelete (s : ManagerState W) (worker : Option Handle) : ManagerState W :=
  { s.record (.workerThreadDelete worker) with
    workerThreadValid := if worker = none then s.workerThreadValid else false }

/-- The capability word has the bit. -/
def hasCap (offloads : UInt32) (value : UInt32) : Bool := value &&& (1 <<< offloads) ≠ 0

/-- What `cylpa_olm_init` leaves of the manager, the caller having set `whd`; `offloads` is
`WHD_FWCAP_OFFLOADS`, and the answer of `whd_wifi_get_fwcap` is the capability word, if the call
does not fail. -/
def initOlm (offloads : UInt32) (whd : Option Handle) (olList : Option (List (OlDesc W)))
    (fwcap : Option UInt32) (olm : OlmOf (OlDesc W)) : OlmOf (OlDesc W) :=
  Lpa.cylpaOlmInit { olm with olInfo := { olm.olInfo with whd := whd } } olList
    (fwcap.map (hasCap offloads))

/-- The worker thread is for the old infrastructure only, and created if it is not there. -/
def initWorkerThread (created : Bool) (s : ManagerState W) : ManagerState W :=
  if s.olm.olInfo.fwNewInfra = 0 ∧ s.workerThreadValid = false then s.workerThreadCreate created
  else s

/-- `cylpa_olm_init`; `created` tells whether `cy_worker_thread_create` succeeds. -/
def cylpaOlmInit (offloads : UInt32) (whd : Option Handle) (olList : Option (List (OlDesc W)))
    (fwcap : Option UInt32) (created : Bool) (s : ManagerState W) : ManagerState W :=
  let s := s.record .olmInit
  let s := { s with olm := initOlm offloads whd olList fwcap s.olm }.initWorkerThread created
  match whd with
  | some iface => s.initWlanConfig iface
  | none => s

/-- `cylpa_olm_deinit`. -/
def cylpaOlmDeinit (s : ManagerState W) : ManagerState W :=
  if s.olm.olInfo.fwNewInfra = 1 then s
  else
    let s := s.workerThreadDelete s.olm.olInfo.worker
    { s with olm := { s.olm with olInfo := { s.olm.olInfo with worker := none } } }

/-- The first loop of `cylpa_olm_init_ols`, from a position on: the last result, the entries before
the one it stopped at, and the state. -/
def initLoop (olInfo : OlInfo) :
    List (OlDesc W × ℕ) → ManagerState W → ℤ × List (OlDesc W × ℕ) × ManagerState W
  | [], s => (resultOk, [], s)
  | (it0, position) :: its, s =>
    match it0.init with
    | none =>
      let r := initLoop olInfo its s
      (r.1, (it0, position) :: r.2.1, r.2.2)
    | some init =>
      let p := init olInfo s.world
      let s := { s with world := p.2 }.record (.olInit position olInfo p.1)
      if p.1 ≠ resultOk then (p.1, [], s)
      else
        let r := initLoop olInfo its s
        (r.1, (it0, position) :: r.2.1, r.2.2)

/-- The second loop of `cylpa_olm_init_ols`, and that of `cylpa_olm_deinit_ols`. -/
def deinitLoop : List (OlDesc W × ℕ) → ManagerState W → ManagerState W
  | [], s => s
  | (it1, position) :: its, s =>
    match it1.deinit with
    | none => deinitLoop its s
    | some deinit => deinitLoop its ({ s with world := deinit s.world }.record (.olDeinit position))

/-- `cylpa_olm_init_ols`, before the loops: the pointers, and an interface that came late. -/
def setInterface (whd ip : Option Handle) (s : ManagerState W) : ManagerState W :=
  let s := { s with olm := { s.olm with olInfo := { s.olm.olInfo with whd := whd, ip := ip } } }
  match s.olm.olList, whd with
  | some _, some whd => if s.cyOlmWhdInstanceCreated = false then s.initWlanConfig whd else s
  | _, _ => s

/-- `cylpa_olm_init_ols`: the result and the state. -/
def cylpaOlmInitOls (whd ip : Option Handle) (s : ManagerState W) : ℤ × ManagerState W :=
  let s := s.setInterface whd ip
  match s.olm.olList with
  | none => (resultBadargs, s)
  | some olList =>
    let r := initLoop s.olm.olInfo olList.zipIdx s
    if r.1 ≠ resultOk then (r.1, deinitLoop r.2.1 r.2.2) else (r.1, r.2.2)

/-- `cylpa_olm_deinit_ols`. -/
def cylpaOlmDeinitOls (s : ManagerState W) : ManagerState W :=
  match s.olm.olList with
  | none => s
  | some olList => deinitLoop olList.zipIdx s

end ManagerState

/-! ### What is started and stopped -/

section RolledBack

variable {W : Type} {olInfo : OlInfo} {its before : List (OlDesc W × ℕ)} {s s' : ManagerState W}
  {result : ℤ}

/-- The positions with an initialisation function. -/
def starts (its : List (OlDesc W × ℕ)) : List ℕ :=
  (its.filter fun it => it.1.init.isSome).map Prod.snd

/-- The positions with a deinitialisation function. -/
def stops (its : List (OlDesc W × ℕ)) : List ℕ :=
  (its.filter fun it => it.1.deinit.isSome).map Prod.snd

/-- **The initialisation functions** of the entries, called in order with `olInfo`, each on the
world the one before it leaves, and all of them return `RESULT_OK`. -/
inductive Started (olInfo : OlInfo) : List (OlDesc W × ℕ) → W → W → Prop
  | nil (w : W) : Started olInfo [] w w
  | absent {it : OlDesc W} {position : ℕ} {its : List (OlDesc W × ℕ)} {w w' : W}
      (hinit : it.init = none) (h : Started olInfo its w w') :
      Started olInfo ((it, position) :: its) w w'
  | call {it : OlDesc W} {position : ℕ} {its : List (OlDesc W × ℕ)} {w w₁ w' : W}
      {init : OlInfo → W → ℤ × W} (hinit : it.init = some init)
      (hcall : init olInfo w = (resultOk, w₁)) (h : Started olInfo its w₁ w') :
      Started olInfo ((it, position) :: its) w w'

/-- The deinitialisation functions of the entries, called in order. -/
inductive Stopped : List (OlDesc W × ℕ) → W → W → Prop
  | nil (w : W) : Stopped [] w w
  | absent {it : OlDesc W} {position : ℕ} {its : List (OlDesc W × ℕ)} {w w' : W}
      (hdeinit : it.deinit = none) (h : Stopped its w w') : Stopped ((it, position) :: its) w w'
  | call {it : OlDesc W} {position : ℕ} {its : List (OlDesc W × ℕ)} {w w' : W} {deinit : W → W}
      (hdeinit : it.deinit = some deinit) (h : Stopped its (deinit w) w') :
      Stopped ((it, position) :: its) w w'

/-- **What is called** from a world on, the result and the world it leaves: every offload is
started; or those before the first whose function returns another value than `RESULT_OK`, and that
one, and then those before it are stopped.  The result is the one that function returns, and each
call is recorded with what it returns.  All of them are called with `olInfo`. -/
inductive RolledBack (olInfo : OlInfo) (its : List (OlDesc W × ℕ)) (w : W) :
    ℤ → W → List ManagerEvent → Prop
  | started (w' : W) (hstarted : Started olInfo its w w') :
      RolledBack olInfo its w resultOk w' ((starts its).map fun i => .olInit i olInfo resultOk)
  | failed (before : List (OlDesc W × ℕ)) (it : OlDesc W) (position : ℕ)
      (after : List (OlDesc W × ℕ)) (init : OlInfo → W → ℤ × W) (result : ℤ) (w₁ w₂ w' : W)
      (hits : its = before ++ (it, position) :: after) (hstarted : Started olInfo before w w₁)
      (hinit : it.init = some init) (hcall : init olInfo w₁ = (result, w₂))
      (hresult : result ≠ resultOk) (hstopped : Stopped before w₂ w') :
      RolledBack olInfo its w result w'
        ((starts before).map (fun i => .olInit i olInfo resultOk) ++
          .olInit position olInfo result :: (stops before).map .olDeinit)

theorem deinitLoop_log (its : List (OlDesc W × ℕ)) (s : ManagerState W) :
    (ManagerState.deinitLoop its s).log = s.log ++ (stops its).map .olDeinit := by
  induction its generalizing s with
  | nil => exact (List.append_nil _).symm
  | cons it its ih =>
      obtain ⟨it, position⟩ := it
      rw [ManagerState.deinitLoop]
      cases hdeinit : it.deinit with
      | none => simp only [ih, stops, hdeinit, List.filter_cons, Option.isSome_none,
          Bool.false_eq_true, if_false]
      | some deinit =>
          simp only [ih, stops, hdeinit, List.filter_cons, Option.isSome_some, if_true,
            List.map_cons, ManagerState.record, List.append_assoc, List.singleton_append]

/-- The second loop calls the deinitialisation functions. -/
theorem deinitLoop_stopped (its : List (OlDesc W × ℕ)) (s : ManagerState W) :
    Stopped its s.world (ManagerState.deinitLoop its s).world := by
  induction its generalizing s with
  | nil => exact .nil s.world
  | cons it its ih =>
      obtain ⟨it, position⟩ := it
      rw [ManagerState.deinitLoop]
      cases hdeinit : it.deinit with
      | none => exact .absent hdeinit (ih s)
      | some deinit =>
          exact .call hdeinit (ih ({ s with world := deinit s.world }.record (.olDeinit position)))

/-- **The first loop**: the offloads it starts, up to one that fails if there is one. -/
theorem initLoop_log (olInfo : OlInfo) (its : List (OlDesc W × ℕ)) (s : ManagerState W) :
    let r := ManagerState.initLoop olInfo its s
    (r.1 = resultOk ∧ Started olInfo its s.world r.2.2.world ∧
      r.2.2.log = s.log ++ (starts its).map fun i => .olInit i olInfo resultOk) ∨
    (r.1 ≠ resultOk ∧ ∃ it position after init w₁, its = r.2.1 ++ (it, position) :: after ∧
      Started olInfo r.2.1 s.world w₁ ∧ it.init = some init ∧
      init olInfo w₁ = (r.1, r.2.2.world) ∧ r.2.2.log = s.log ++
        ((starts r.2.1).map (fun i => .olInit i olInfo resultOk) ++
          [.olInit position olInfo r.1])) := by
  induction its generalizing s with
  | nil => exact .inl ⟨rfl, .nil s.world, (List.append_nil _).symm⟩
  | cons it its ih =>
      obtain ⟨it, position⟩ := it
      rw [ManagerState.initLoop]
      cases hinit : it.init with
      | none =>
          have hstarts : ∀ its, starts ((it, position) :: its) = starts its := by
            intro its
            simp only [starts, List.filter_cons, hinit, Option.isSome_none, Bool.false_eq_true,
              if_false]
          simp only [hstarts]
          rcases ih s with ⟨hr, hstarted, hlog⟩ |
            ⟨hr, it', position', after, init, w₁, hits, hstarted, hinit', hcall, hlog⟩
          · exact .inl ⟨hr, .absent hinit hstarted, hlog⟩
          · refine .inr ⟨hr, it', position', after, init, w₁, ?_, .absent hinit hstarted, hinit',
              hcall, hlog⟩
            exact congrArg ((it, position) :: ·) hits
      | some init =>
          have hstarts : ∀ its, starts ((it, position) :: its) = position :: starts its := by
            intro its
            simp only [starts, List.filter_cons, hinit, Option.isSome_some, if_true, List.map_cons]
          simp only
          split
          · rename_i hr
            exact .inr ⟨hr, it, position, its, init, s.world, rfl, .nil s.world, hinit, rfl, rfl⟩
          · rename_i hr
            rw [not_not] at hr
            have hcall : init olInfo s.world = (resultOk, (init olInfo s.world).2) :=
              Prod.ext hr rfl
            simp only [hstarts, hr, List.map_cons]
            rcases ih ({ s with world := (init olInfo s.world).2 }.record
                (.olInit position olInfo resultOk)) with ⟨hr', hstarted, hlog⟩ |
              ⟨hr', it', position', after, init', w₁, hits, hstarted, hinit', hcall', hlog⟩
            · refine .inl ⟨hr', .call hinit hcall hstarted, hlog.trans ?_⟩
              exact List.append_assoc _ _ _
            · refine .inr ⟨hr', it', position', after, init', w₁, ?_, .call hinit hcall hstarted,
                hinit', hcall', hlog.trans ?_⟩
              · exact congrArg ((it, position) :: ·) hits
              · exact List.append_assoc _ _ _

/-- **Before the loops** an interface is configured if there is a list and none has been. -/
theorem setInterface_cases (whd ip : Option Handle) (s : ManagerState W) :
    (∃ iface, whd = some iface ∧ s.olm.olList ≠ none ∧ s.cyOlmWhdInstanceCreated = false ∧
      (s.setInterface whd ip).cyOlmWhdInstanceCreated = true ∧
      (s.setInterface whd ip).log = s.log ++ [.initWlanConfig iface]) ∨
    ((whd = none ∨ s.olm.olList = none ∨ s.cyOlmWhdInstanceCreated = true) ∧
      (s.setInterface whd ip).cyOlmWhdInstanceCreated = s.cyOlmWhdInstanceCreated ∧
      (s.setInterface whd ip).log = s.log) := by
  unfold ManagerState.setInterface
  cases hlist : s.olm.olList with
  | none =>
      simp only [hlist]
      exact .inr ⟨.inr (.inl trivial), trivial, trivial⟩
  | some its =>
      cases whd with
      | none =>
          simp only [hlist]
          exact .inr ⟨.inl trivial, trivial, trivial⟩
      | some iface =>
          simp only [hlist]
          split
          · exact .inl ⟨iface, rfl, by simp, ‹_›, rfl, rfl⟩
          · exact .inr ⟨.inr (.inr (eq_true_of_ne_false ‹_›)), rfl, rfl⟩

/-- At most that is done before them. -/
theorem setInterface_log (whd ip : Option Handle) (s : ManagerState W) :
    ∃ config, (s.setInterface whd ip).log = s.log ++ config ∧
      ∀ e ∈ config, ∃ whd, e = .initWlanConfig whd := by
  rcases setInterface_cases whd ip s with ⟨iface, -, -, -, -, hlog⟩ | ⟨-, -, hlog⟩
  · exact ⟨[.initWlanConfig iface], hlog, by simp⟩
  · exact ⟨[], by rw [hlog, List.append_nil], by simp⟩

/-- Nothing else of the manager is set. -/
theorem setInterface_olm (whd ip : Option Handle) (s : ManagerState W) :
    (s.setInterface whd ip).olm =
      { s.olm with olInfo := { s.olm.olInfo with whd := whd, ip := ip } } := by
  unfold ManagerState.setInterface
  dsimp only
  split
  · split <;> rfl
  · rfl

/-- The world and the worker thread are left alone. -/
theorem setInterface_rest (whd ip : Option Handle) (s : ManagerState W) :
    (s.setInterface whd ip).world = s.world ∧
      (s.setInterface whd ip).workerThreadValid = s.workerThreadValid := by
  unfold ManagerState.setInterface
  dsimp only
  split
  · split <;> exact ⟨rfl, rfl⟩
  · exact ⟨rfl, rfl⟩

/-- The loops of `cylpa_olm_init_ols`, after the interface is set. -/
theorem cylpaOlmInitOls_log {olList : List (OlDesc W)} (hlist : s.olm.olList = some olList)
    (whd ip : Option Handle) :
    ∃ trace, (s.cylpaOlmInitOls whd ip).2.log = (s.setInterface whd ip).log ++ trace ∧
      RolledBack { s.olm.olInfo with whd := whd, ip := ip } olList.zipIdx s.world
        (s.cylpaOlmInitOls whd ip).1 (s.cylpaOlmInitOls whd ip).2.world trace := by
  unfold ManagerState.cylpaOlmInitOls
  simp only [setInterface_olm, hlist, ← (setInterface_rest whd ip s).1]
  rcases initLoop_log { s.olm.olInfo with whd := whd, ip := ip } olList.zipIdx
      (s.setInterface whd ip) with ⟨hr, hstarted, hlog⟩ |
    ⟨hr, it, position, after, init, w₁, hits, hstarted, hinit, hcall, hlog⟩
  · rw [if_neg (not_not.mpr hr)]
    refine ⟨_, hlog, ?_⟩
    rw [hr]
    exact .started _ hstarted
  · rw [if_pos hr]
    refine ⟨_, ?_, .failed _ it position after init _ w₁ _ _ hits hstarted hinit hcall hr
      (deinitLoop_stopped _ _)⟩
    rw [deinitLoop_log, hlog]
    simp only [List.append_assoc, List.singleton_append]

/-- **Initialising the offloads** starts them up to the first one that fails, and then stops those
before it; before that at most the interface is configured. -/
theorem cylpaOlmInitOls_rolledBack (s : ManagerState W) (olList : List (OlDesc W))
    (whd ip : Option Handle) :
    let s := { s with olm := { s.olm with olList := some olList } }
    ∃ config trace, (s.cylpaOlmInitOls whd ip).2.log = s.log ++ config ++ trace ∧
      (∀ e ∈ config, ∃ whd, e = .initWlanConfig whd) ∧
      RolledBack { s.olm.olInfo with whd := whd, ip := ip } olList.zipIdx s.world
        (s.cylpaOlmInitOls whd ip).1 (s.cylpaOlmInitOls whd ip).2.world trace := by
  intro s
  obtain ⟨config, hconfig, hevents⟩ := setInterface_log whd ip s
  obtain ⟨trace, hlog, hrolledBack⟩ := cylpaOlmInitOls_log (s := s) rfl whd ip
  exact ⟨config, trace, by rw [hlog, hconfig], hevents, hrolledBack⟩

end RolledBack

/-! ### Descriptors with all functions -/

section Desc

variable {S : Type} {olInfo : OlInfo}

/-- Stopping the offloads is what it is in `Lifecycle.lean`. -/
theorem deinitLoop_desc {ps : List (OlDesc (Option S) × ℕ)} {its : List (Offload S)}
    (hps : ps.map Prod.fst = its.map (Offload.desc olInfo)) (s : ManagerState (Option S)) :
    (ManagerState.deinitLoop ps s).world = s.world.bind (deinitOls olInfo its) := by
  induction its generalizing ps s with
  | nil =>
      cases List.map_eq_nil_iff.mp hps
      cases h : s.world <;> simp [ManagerState.deinitLoop, h, deinitOls]
  | cons it its ih =>
      obtain ⟨⟨_, position⟩, ps, rfl, rfl, hrest⟩ := List.map_eq_cons_iff.mp hps
      refine (ih hrest _).trans ?_
      exact Option.bind_assoc s.world (it.deinit olInfo) (deinitOls olInfo its)

/-- Starting them is, too; where a `NULL` pointer is followed there, the loop stops here. -/
theorem initLoop_desc {ps : List (OlDesc (Option S) × ℕ)} {its : List (Offload S)}
    (hps : ps.map Prod.fst = its.map (Offload.desc olInfo)) {s : ManagerState (Option S)} {w : S}
    (hs : s.world = some w) :
    let r := ManagerState.initLoop olInfo ps s
    ∃ before, r.2.1.map Prod.fst = before.map (Offload.desc olInfo) ∧
      ((∃ w', initOls olInfo its w = some (r.1, before, w') ∧ r.2.2.world = some w') ∨
        (initOls olInfo its w = none ∧ r.1 ≠ resultOk ∧ r.2.2.world = none)) := by
  induction its generalizing ps s w with
  | nil =>
      cases List.map_eq_nil_iff.mp hps
      exact ⟨[], rfl, .inl ⟨w, rfl, hs⟩⟩
  | cons it its ih =>
      obtain ⟨⟨_, position⟩, ps, rfl, rfl, hrest⟩ := List.map_eq_cons_iff.mp hps
      rw [ManagerState.initLoop, initOls]
      simp only [Offload.desc, hs, Option.bind_some]
      cases hinit : it.init olInfo w with
      | none =>
          have hne : resultError ≠ resultOk := by decide
          rw [if_pos hne]
          exact ⟨[], rfl, .inr ⟨rfl, hne, rfl⟩⟩
      | some p =>
          obtain ⟨result, w₁⟩ := p
          simp only
          split
          · rename_i hresult
            exact ⟨[], rfl, .inl ⟨w₁, by simp [hresult], rfl⟩⟩
          · rename_i hresult
            rw [not_not] at hresult
            obtain ⟨before, hbefore, hcases⟩ := ih hrest
              (s := { s with world := some w₁ }.record (.olInit position olInfo result)) rfl
            refine ⟨it :: before, ?_, ?_⟩
            · rw [List.map_cons, hbefore]
              rfl
            · rcases hcases with ⟨w', hinits, hw'⟩ | ⟨hinits, hne, hw'⟩
              · exact .inl ⟨w', by simp [hresult, hinits], hw'⟩
              · exact .inr ⟨by simp [hresult, hinits], hne, hw'⟩

/-- **Initialising the offloads** is what it is in `Lifecycle.lean`, with the same result wherever
that has one. -/
theorem cylpaOlmInitOls_desc {olm : Manager S} {its : List (Offload S)}
    (hlist : olm.olList = some its) {whd ip : Option Handle} {s : ManagerState (Option S)} {w : S}
    (hs : s.world = some w) (holm : s.olm = ⟨some (its.map (Offload.desc
      { olm.olInfo with whd := whd, ip := ip })), olm.olInfo⟩) :
    (s.cylpaOlmInitOls whd ip).2.world = (cylpaOlmInitOls olm whd ip w).map (fun r => r.2.2) ∧
      ∀ r, cylpaOlmInitOls olm whd ip w = some r → (s.cylpaOlmInitOls whd ip).1 = r.1 := by
  have hset : (s.setInterface whd ip).olm =
      ⟨some (its.map (Offload.desc { olm.olInfo with whd := whd, ip := ip })),
        { olm.olInfo with whd := whd, ip := ip }⟩ := by
    rw [setInterface_olm, holm]
  have hworld : (s.setInterface whd ip).world = some w :=
    (setInterface_rest whd ip s).1.trans hs
  have hzipIdx : (its.map (Offload.desc { olm.olInfo with whd := whd, ip := ip })).zipIdx.map
      Prod.fst = its.map (Offload.desc { olm.olInfo with whd := whd, ip := ip }) :=
    List.zipIdx_map_fst _ _
  obtain ⟨before, hbefore, hcases⟩ := initLoop_desc hzipIdx hworld
  unfold ManagerState.cylpaOlmInitOls cylpaOlmInitOls
  simp only [hset, hlist]
  rcases hcases with ⟨w', hinits, hw'⟩ | ⟨hinits, hne, hw'⟩
  · rw [hinits]
    simp only [Option.bind_eq_bind, Option.bind_some]
    split
    · rw [deinitLoop_desc hbefore, hw', Option.bind_some]
      cases deinitOls { olm.olInfo with whd := whd, ip := ip } before w' with
      | none => exact ⟨rfl, by simp⟩
      | some w'' => exact ⟨rfl, by simp⟩
    · exact ⟨hw', by simp⟩
  · rw [hinits, if_pos hne]
    refine ⟨?_, by simp⟩
    rw [deinitLoop_desc hbefore, hw']
    rfl

end Desc

end Lpa
