import Lpa.Olm.Calls
import Lpa.Support.Leases

/-!
# Offload manager — initialised and deinitialised in pairs

`cylpa_olm_init_ols` initialises the offloads of the list, and where one of them fails deinitialises
those before it; `cylpa_olm_deinit_ols` deinitialises them all, without looking at what has been
initialised.  An application that initialises them while they are down, deinitialises them while
they are up and exchanges the list in between may rely on it: a position of the list is a key that
is taken and given back (`Leases`).

* `ManagerSession.written`: the log is what the offloads' functions do, one after the other.
* `acts_rolledBack`: what `cylpa_olm_init_ols` takes it keeps, or gives back when an offload fails.
* `session_paired`: in every session no offload is initialised twice or deinitialised without being
  initialised, and those initialised are those of the list while they are up, and none otherwise.
-/

namespace Lpa

variable {W : Type}

/-- An initialisation that succeeds takes the position, a deinitialisation gives it back. -/
def ManagerEvent.act : ManagerEvent → Option (Leases.Act ℕ)
  | olInit position _ result => if result = resultOk then some (.take position) else none
  | olDeinit position => some (.give position)
  | _ => none

/-- What has been initialised and deinitialised. -/
def ManagerState.acts (s : ManagerState W) : List (Leases.Act ℕ) :=
  s.log.filterMap ManagerEvent.act

/-- Every descriptor has both functions or neither. -/
def BothOrNeither (its : List (OlDesc W)) : Prop :=
  ∀ it ∈ its, it.init.isSome = it.deinit.isSome

/-- The positions of the offloads there should be. -/
def ManagerState.positions (s : ManagerState W) (up : Bool) : Finset ℕ :=
  if up then (starts (s.olm.olList.getD []).zipIdx).toFinset else ∅

/-- **A session**: the manager after some calls, and whether the offloads are up.  They are
initialised while down and deinitialised while up, and the list is exchanged while they are down. -/
inductive ManagerSession (offloads : UInt32) (world : W) : ManagerState W → Bool → Prop
  | boot : ManagerSession offloads world (.boot world) false
  | init {s : ManagerState W} {up : Bool} (h : ManagerSession offloads world s up)
      (whd : Option Handle) (olList : Option (List (OlDesc W))) (fwcap : Option UInt32)
      (created : Bool) (hlist : ∀ its, olList = some its → BothOrNeither its)
      (hsame : up = true → olList = s.olm.olList) :
      ManagerSession offloads world (s.cylpaOlmInit offloads whd olList fwcap created) up
  | initOls {s : ManagerState W} (h : ManagerSession offloads world s false)
      (whd ip : Option Handle) :
      ManagerSession offloads world (s.cylpaOlmInitOls whd ip).2
        (decide ((s.cylpaOlmInitOls whd ip).1 = resultOk))
  | deinitOls {s : ManagerState W} (h : ManagerSession offloads world s true) :
      ManagerSession offloads world s.cylpaOlmDeinitOls false
  | deinit {s : ManagerState W} {up : Bool} (h : ManagerSession offloads world s up) :
      ManagerSession offloads world s.cylpaOlmDeinit up

/-! ### What the log says -/

/-- An event in which no offload is called and the list stays. -/
def ManagerEvent.aside : ManagerEvent → Bool
  | initWlanConfig _ | workerThreadCreate _ | workerThreadDelete _ => true
  | _ => false

/-- **A log**, the list and the world it leaves, from a world on: each function called is that of
the list's descriptor at the position, it is called on the world the calls before it have left, and
an initialisation is recorded with what it returns. -/
inductive Written (world : W) : List ManagerEvent → Option (List (OlDesc W)) → W → Prop
  | nil : Written world [] none world
  | olmInit {log : List ManagerEvent} {olList : Option (List (OlDesc W))} {w : W}
      (h : Written world log olList w) (its : List (OlDesc W)) :
      Written world (log ++ [.olmInit]) (some its) w
  | aside {log : List ManagerEvent} {olList : Option (List (OlDesc W))} {w : W}
      (h : Written world log olList w) {e : ManagerEvent} (he : e.aside) :
      Written world (log ++ [e]) olList w
  | olInit {log : List ManagerEvent} {its : List (OlDesc W)} {w : W}
      (h : Written world log (some its) w) {position : ℕ} {it : OlDesc W}
      (hit : its[position]? = some it) {init : OlInfo → W → ℤ × W} (hinit : it.init = some init)
      (olInfo : OlInfo) :
      Written world (log ++ [.olInit position olInfo (init olInfo w).1]) (some its)
        (init olInfo w).2
  | olDeinit {log : List ManagerEvent} {its : List (OlDesc W)} {w : W}
      (h : Written world log (some its) w) {position : ℕ} {it : OlDesc W}
      (hit : its[position]? = some it) {deinit : W → W} (hdeinit : it.deinit = some deinit) :
      Written world (log ++ [.olDeinit position]) (some its) (deinit w)

/-- The log of the manager is what has been done. -/
def ManagerState.Written (s : ManagerState W) (world : W) : Prop :=
  Lpa.Written world s.log s.olm.olList s.world

section Written

variable {world w : W} {log trace : List ManagerEvent} {its : List (OlDesc W)}
  {olInfo : OlInfo} {ps : List (OlDesc W × ℕ)}

theorem Written.asides {olList : Option (List (OlDesc W))} (h : Written world log olList w)
    (htrace : ∀ e ∈ trace, e.aside) : Written world (log ++ trace) olList w := by
  induction trace generalizing log with
  | nil => rwa [List.append_nil]
  | cons e trace ih =>
      obtain ⟨he, htrace⟩ := List.forall_mem_cons.mp htrace
      rw [List.append_cons]
      exact ih (h.aside he) htrace

/-- The calls of the first loop, where the entries are of the list. -/
theorem Written.started {w' : W} (hstarted : Started olInfo ps w w')
    (hps : ∀ p ∈ ps, its[p.2]? = some p.1) (h : Written world log (some its) w) :
    Written world (log ++ (starts ps).map fun i => .olInit i olInfo resultOk) (some its) w' := by
  induction hstarted generalizing log with
  | nil w => rwa [starts, List.filter_nil, List.map_nil, List.map_nil, List.append_nil]
  | absent hinit _ ih =>
      obtain ⟨-, hps⟩ := List.forall_mem_cons.mp hps
      rw [starts, List.filter_cons_of_neg (by simp [hinit])]
      exact ih hps h
  | @call it position its' w w₁ w' init hinit hcall _ ih =>
      obtain ⟨hit, hps⟩ := List.forall_mem_cons.mp hps
      rw [starts, List.filter_cons_of_pos (by simp [hinit]), List.map_cons, List.map_cons,
        List.append_cons]
      have hnext := h.olInit hit hinit olInfo
      rw [hcall] at hnext
      exact ih hps hnext

/-- The calls of the second loop. -/
theorem Written.stopped {w' : W} (hstopped : Stopped ps w w')
    (hps : ∀ p ∈ ps, its[p.2]? = some p.1) (h : Written world log (some its) w) :
    Written world (log ++ (stops ps).map .olDeinit) (some its) w' := by
  induction hstopped generalizing log with
  | nil w => rwa [stops, List.filter_nil, List.map_nil, List.map_nil, List.append_nil]
  | absent hdeinit _ ih =>
      obtain ⟨-, hps⟩ := List.forall_mem_cons.mp hps
      rw [stops, List.filter_cons_of_neg (by simp [hdeinit])]
      exact ih hps h
  | call hdeinit _ ih =>
      obtain ⟨hit, hps⟩ := List.forall_mem_cons.mp hps
      rw [stops, List.filter_cons_of_pos (by simp [hdeinit]), List.map_cons, List.map_cons,
        List.append_cons]
      exact ih hps (h.olDeinit hit hdeinit)

/-- An entry is the list's descriptor at its position. -/
theorem getElem?_of_zipIdx : ∀ p ∈ its.zipIdx, its[p.2]? = some p.1 :=
  fun _ hp => List.mem_zipIdx_iff_getElem?.mp hp

/-- The calls of `cylpa_olm_init_ols`. -/
theorem Written.rolledBack {result : ℤ} {w' : W}
    (hrolledBack : RolledBack olInfo its.zipIdx w result w' trace)
    (h : Written world log (some its) w) : Written world (log ++ trace) (some its) w' := by
  cases hrolledBack with
  | started w' hstarted => exact h.started hstarted getElem?_of_zipIdx
  | failed before it position after init result w₁ w₂ w' hits hstarted hinit hcall _ hstopped =>
      have hps : ∀ p ∈ before ++ (it, position) :: after, its[p.2]? = some p.1 :=
        hits ▸ getElem?_of_zipIdx
      obtain ⟨hbefore, hrest⟩ := List.forall_mem_append.mp hps
      have hfailed := (h.started hstarted hbefore).olInit (hrest _ List.mem_cons_self) hinit olInfo
      rw [hcall] at hfailed
      have hwritten := hfailed.stopped hstopped hbefore
      rwa [List.append_assoc, List.append_assoc, List.singleton_append] at hwritten

variable {offloads : UInt32} {s : ManagerState W} {up : Bool}

theorem ManagerState.Written.init (hs : s.Written world) (whd : Option Handle)
    (olList : Option (List (OlDesc W))) (fwcap : Option UInt32) (created : Bool) :
    (s.cylpaOlmInit offloads whd olList fwcap created).Written world := by
  unfold ManagerState.Written
  rw [cylpaOlmInit_eq, initOlm_olList]
  dsimp only
  rw [List.append_cons]
  refine (Lpa.Written.olmInit hs _).asides fun e he => ?_
  rcases List.mem_append.mp he with he | he
  · split at he
    · rw [List.mem_singleton.mp he]
      rfl
    · cases he
  · obtain ⟨iface, -, rfl⟩ := List.mem_map.mp he
    rfl

theorem ManagerState.Written.initOls (hs : s.Written world) (whd ip : Option Handle) :
    (s.cylpaOlmInitOls whd ip).2.Written world := by
  have hset : Lpa.Written world (s.setInterface whd ip).log s.olm.olList s.world := by
    obtain ⟨config, hlog, hevents⟩ := setInterface_log whd ip s
    rw [hlog]
    refine Lpa.Written.asides hs fun e he => ?_
    obtain ⟨iface, rfl⟩ := hevents e he
    rfl
  unfold ManagerState.Written
  rw [(cylpaOlmInitOls_calls s whd ip).olm, setInterface_olm]
  cases hlist : s.olm.olList with
  | none =>
      have hrun : (s.cylpaOlmInitOls whd ip).2 = s.setInterface whd ip := by
        simp only [ManagerState.cylpaOlmInitOls, setInterface_olm, hlist]
      rw [hrun, (setInterface_rest whd ip s).1]
      rwa [hlist] at hset
  | some its =>
      obtain ⟨trace, hlog, hrolledBack⟩ := cylpaOlmInitOls_log hlist whd ip
      rw [hlog]
      rw [hlist] at hset
      exact hset.rolledBack hrolledBack

theorem ManagerState.Written.deinitOls (hs : s.Written world) :
    s.cylpaOlmDeinitOls.Written world := by
  cases hlist : s.olm.olList with
  | none =>
      have hrun : s.cylpaOlmDeinitOls = s := by
        unfold ManagerState.cylpaOlmDeinitOls
        rw [hlist]
      rwa [hrun]
  | some its =>
      have hrun : s.cylpaOlmDeinitOls = .deinitLoop its.zipIdx s := by
        unfold ManagerState.cylpaOlmDeinitOls
        rw [hlist]
      unfold ManagerState.Written at hs ⊢
      rw [hlist] at hs
      rw [(cylpaOlmDeinitOls_calls s).olm, hlist, hrun, deinitLoop_log]
      exact hs.stopped (deinitLoop_stopped its.zipIdx s) getElem?_of_zipIdx

theorem ManagerState.Written.deinit (hs : s.Written world) : s.cylpaOlmDeinit.Written world := by
  unfold ManagerState.cylpaOlmDeinit
  split
  · exact hs
  · exact Lpa.Written.aside hs rfl

theorem ManagerSession.written (h : ManagerSession offloads world s up) : s.Written world := by
  induction h with
  | boot => exact .nil
  | init _ whd olList fwcap created _ _ ih => exact ih.init whd olList fwcap created
  | initOls _ whd ip ih => exact ih.initOls whd ip
  | deinitOls _ ih => exact ih.deinitOls
  | deinit _ ih => exact ih.deinit

end Written

/-! ### What is taken and given back -/

section Acts

variable {its : List (OlDesc W × ℕ)} {olInfo : OlInfo}

theorem filterMap_act_starts (its : List (OlDesc W × ℕ)) (olInfo : OlInfo) :
    ((starts its).map fun i => .olInit i olInfo resultOk).filterMap ManagerEvent.act =
      (starts its).map .take := by
  rw [List.filterMap_map]
  exact congrFun List.filterMap_eq_map _

theorem filterMap_act_stops (its : List (OlDesc W × ℕ)) :
    ((stops its).map .olDeinit).filterMap ManagerEvent.act = (stops its).map .give := by
  rw [List.filterMap_map]
  exact congrFun List.filterMap_eq_map _

/-- The descriptors that can be initialised are those that can be deinitialised. -/
theorem stops_eq_starts (h : ∀ p ∈ its, p.1.init.isSome = p.1.deinit.isSome) :
    stops its = starts its := by
  unfold stops starts
  rw [List.filter_congr fun p hp => (h p hp).symm]

/-- Positions differ. -/
theorem nodup_starts (olList : List (OlDesc W)) {before : List (OlDesc W × ℕ)}
    (h : before.Sublist olList.zipIdx) : (starts before).Nodup := by
  have hsub : (starts before).Sublist (olList.zipIdx.map Prod.snd) :=
    ((List.filter_sublist).map Prod.snd).trans (h.map Prod.snd)
  refine hsub.nodup ?_
  rw [List.zipIdx_map_snd]
  exact List.nodup_range'

theorem bothOrNeither_zipIdx {olList : List (OlDesc W)} (h : BothOrNeither olList) :
    ∀ p ∈ olList.zipIdx, p.1.init.isSome = p.1.deinit.isSome := by
  intro p hp
  refine h p.1 ?_
  rw [← List.zipIdx_map_fst 0 olList]
  exact List.mem_map_of_mem hp

/-- **`cylpa_olm_init_ols`** takes the positions of the list, or gives back those it has taken. -/
theorem acts_rolledBack {olList : List (OlDesc W)} (hlist : BothOrNeither olList) {w w' : W}
    {result : ℤ} {trace : List ManagerEvent}
    (h : RolledBack olInfo olList.zipIdx w result w' trace) :
    Leases.InOrder ∅ (trace.filterMap ManagerEvent.act) ∧
      Leases.after ∅ (trace.filterMap ManagerEvent.act) =
        if result = resultOk then (starts olList.zipIdx).toFinset else ∅ := by
  cases h with
  | started _ _ =>
      rw [filterMap_act_starts, if_pos rfl, Leases.after_takes, Finset.empty_union]
      exact ⟨Leases.inOrder_takes (nodup_starts olList (List.Sublist.refl _)) (by simp), rfl⟩
  | failed before it position after init result w₁ w₂ w' hits _ _ _ hresult _ =>
      have hbefore : before.Sublist olList.zipIdx := by
        rw [hits]
        exact List.sublist_append_left _ _
      have hstops : stops before = starts before :=
        stops_eq_starts fun p hp => bothOrNeither_zipIdx hlist p (hbefore.subset hp)
      have hnodup := nodup_starts olList hbefore
      have hacts : ((starts before).map (fun i => ManagerEvent.olInit i olInfo resultOk) ++
          ManagerEvent.olInit position olInfo result ::
            (stops before).map ManagerEvent.olDeinit).filterMap ManagerEvent.act =
          (starts before).map .take ++ (starts before).map .give := by
        rw [List.filterMap_append, filterMap_act_starts, List.filterMap_cons_none
          (show ManagerEvent.act (.olInit position olInfo result) = none from if_neg hresult),
          filterMap_act_stops, hstops]
      rw [hacts, if_neg hresult, Leases.inOrder_append, Leases.after_append, Leases.after_gives,
        Leases.after_takes, Finset.empty_union]
      refine ⟨⟨Leases.inOrder_takes hnodup (by simp), Leases.inOrder_gives hnodup ?_⟩, ?_⟩
      · exact fun k hk => List.mem_toFinset.mpr hk
      · exact Finset.sdiff_self _

end Acts

/-! ### Sessions -/

/-- What every call of a session keeps. -/
structure PairedInv (s : ManagerState W) (up : Bool) : Prop where
  list : ∀ its, s.olm.olList = some its → BothOrNeither its
  inOrder : Leases.InOrder ∅ s.acts
  held : Leases.after ∅ s.acts = s.positions up

section Session

variable {offloads : UInt32} {world : W} {s s' : ManagerState W} {up : Bool}

/-- A stretch of the log that takes and gives back nothing. -/
theorem acts_append_none {trace : List ManagerEvent} (hlog : s'.log = s.log ++ trace)
    (h : ∀ e ∈ trace, e.act = none) : s'.acts = s.acts := by
  rw [ManagerState.acts, hlog, List.filterMap_append, List.filterMap_eq_nil_iff.mpr h,
    List.append_nil]
  rfl

theorem PairedInv.init (hs : PairedInv s up) {whd : Option Handle}
    {olList : Option (List (OlDesc W))} {fwcap : Option UInt32} {created : Bool}
    (hlist : ∀ its, olList = some its → BothOrNeither its)
    (hsame : up = true → olList = s.olm.olList) :
    PairedInv (s.cylpaOlmInit offloads whd olList fwcap created) up := by
  rw [cylpaOlmInit_eq]
  have hacts : (s.cylpaOlmInit offloads whd olList fwcap created).acts = s.acts := acts_append_none
    (by rw [cylpaOlmInit_eq]) (by
      intro e he
      rcases List.mem_cons.mp he with rfl | he
      · rfl
      rcases List.mem_append.mp he with he | he
      · split at he
        · rw [List.mem_singleton.mp he]
          rfl
        · cases he
      · obtain ⟨iface, -, rfl⟩ := List.mem_map.mp he
        rfl)
  rw [cylpaOlmInit_eq] at hacts
  refine ⟨fun its hits => ?_, hacts ▸ hs.inOrder, hacts ▸ hs.held.trans ?_⟩
  · obtain rfl := Option.some.inj ((initOlm_olList offloads whd olList fwcap s.olm).symm.trans hits)
    cases olList with
    | none => exact fun it hit => (List.not_mem_nil hit).elim
    | some its => exact hlist its rfl
  · cases up with
    | false => rfl
    | true =>
        unfold ManagerState.positions
        simp only [initOlm_olList, Option.getD_some, hsame rfl]

theorem PairedInv.initOls (hs : PairedInv s false) (whd ip : Option Handle) :
    PairedInv (s.cylpaOlmInitOls whd ip).2
      (decide ((s.cylpaOlmInitOls whd ip).1 = resultOk)) := by
  have holList : (s.cylpaOlmInitOls whd ip).2.olm.olList = s.olm.olList := by
    rw [(cylpaOlmInitOls_calls s whd ip).olm, setInterface_olm]
  have hset : (s.setInterface whd ip).acts = s.acts := by
    obtain ⟨config, hlog, hevents⟩ := setInterface_log whd ip s
    refine acts_append_none hlog fun e he => ?_
    obtain ⟨iface, rfl⟩ := hevents e he
    rfl
  have hdown : Leases.after ∅ s.acts = ∅ := hs.held
  cases hlist : s.olm.olList with
  | none =>
      have hrun : s.cylpaOlmInitOls whd ip = (resultBadargs, s.setInterface whd ip) := by
        unfold ManagerState.cylpaOlmInitOls
        simp only [setInterface_olm, hlist]
      rw [hrun]
      refine ⟨fun its hits => hs.list its ?_, hset ▸ hs.inOrder, hset ▸ hdown⟩
      rw [setInterface_olm] at hits
      exact hits
  | some olList =>
      obtain ⟨trace, hlog, hrolledBack⟩ := cylpaOlmInitOls_log hlist whd ip
      obtain ⟨horder, hafter⟩ := acts_rolledBack (hs.list olList hlist) hrolledBack
      have hacts : (s.cylpaOlmInitOls whd ip).2.acts =
          s.acts ++ trace.filterMap ManagerEvent.act := by
        rw [ManagerState.acts, hlog, List.filterMap_append]
        exact congrArg (· ++ _) hset
      refine ⟨fun its hits => hs.list its (holList ▸ hits), ?_, ?_⟩
      · rw [hacts, Leases.inOrder_append, hdown]
        exact ⟨hs.inOrder, horder⟩
      · rw [hacts, Leases.after_append, hdown, hafter, ManagerState.positions, holList, hlist]
        by_cases hr : (s.cylpaOlmInitOls whd ip).1 = resultOk
        · simp [hr]
        · simp [hr]

theorem PairedInv.deinitOls (hs : PairedInv s true) : PairedInv s.cylpaOlmDeinitOls false := by
  cases hlist : s.olm.olList with
  | none =>
      have hrun : s.cylpaOlmDeinitOls = s := by
        unfold ManagerState.cylpaOlmDeinitOls
        rw [hlist]
      have hheld := hs.held
      rw [ManagerState.positions, hlist] at hheld
      rw [hrun]
      exact ⟨hs.list, hs.inOrder, hheld⟩
  | some olList =>
      have hrun : s.cylpaOlmDeinitOls = .deinitLoop olList.zipIdx s := by
        unfold ManagerState.cylpaOlmDeinitOls
        rw [hlist]
      have hstops : stops olList.zipIdx = starts olList.zipIdx :=
        stops_eq_starts (bothOrNeither_zipIdx (hs.list olList hlist))
      have hacts : s.cylpaOlmDeinitOls.acts =
          s.acts ++ (starts olList.zipIdx).map .give := by
        rw [hrun, ManagerState.acts, deinitLoop_log, List.filterMap_append, filterMap_act_stops,
          hstops]
        rfl
      have hheld : Leases.after ∅ s.acts = (starts olList.zipIdx).toFinset := by
        rw [hs.held, ManagerState.positions, hlist]
        rfl
      refine ⟨fun its hits => hs.list its ((cylpaOlmDeinitOls_calls s).olm ▸ hits), ?_, ?_⟩
      · rw [hacts, Leases.inOrder_append, hheld]
        refine ⟨hs.inOrder, Leases.inOrder_gives ?_ fun k hk => List.mem_toFinset.mpr hk⟩
        exact nodup_starts olList (List.Sublist.refl _)
      · rw [hacts, Leases.after_append, hheld, Leases.after_gives]
        exact Finset.sdiff_self _

theorem PairedInv.deinit (hs : PairedInv s up) : PairedInv s.cylpaOlmDeinit up := by
  unfold ManagerState.cylpaOlmDeinit
  split
  · exact hs
  · have hacts : (s.workerThreadDelete s.olm.olInfo.worker).acts = s.acts :=
      acts_append_none rfl (by simp [ManagerEvent.act])
    exact ⟨hs.list, hacts ▸ hs.inOrder, hacts ▸ hs.held⟩

theorem ManagerSession.inv (h : ManagerSession offloads world s up) : PairedInv s up := by
  induction h with
  | boot => exact ⟨fun _ h => (nomatch h), trivial, rfl⟩
  | init _ whd olList fwcap created hlist hsame ih => exact ih.init hlist hsame
  | initOls _ whd ip ih => exact ih.initOls whd ip
  | deinitOls _ ih => exact ih.deinitOls
  | deinit _ ih => exact ih.deinit

/-- **Offloads are initialised and deinitialised in pairs.**  In every session, whatever the
offloads' functions do, the log is what they do, and no offload is initialised while it is
initialised or deinitialised while it is not; those initialised are exactly those of the list while
they are up, and none while they are down.  So every initialisation that has succeeded has had its
deinitialisation, but for those of the offloads that are up. -/
theorem session_paired (h : ManagerSession offloads world s up) :
    s.Written world ∧ Leases.InOrder ∅ s.acts ∧ Leases.after ∅ s.acts = s.positions up ∧
      ∀ i, s.acts.count (.take i) =
        s.acts.count (.give i) + if i ∈ s.positions up then 1 else 0 := by
  obtain ⟨-, horder, hheld⟩ := h.inv
  refine ⟨h.written, horder, hheld, fun i => ?_⟩
  have hcount := Leases.count_take i horder
  rw [hheld, if_neg (Finset.notMem_empty i)] at hcount
  exact hcount

/-- An offload that starts, and one that fails the first time. -/
def retriedList : List (OlDesc ℕ) :=
  [⟨some fun _ w => (resultOk, w), some fun w => w, none⟩,
    ⟨some fun _ w => (if w = 0 then resultError else resultOk, w + 1), some fun w => w, none⟩]

/-- The first one is deinitialised when the other fails, and both are initialised after that. -/
theorem session_paired_retried : ∃ s : ManagerState ℕ, ManagerSession 0 0 s true ∧
    s.Written 0 ∧ s.positions true = {0, 1} ∧
      s.acts.count (.take 0) = s.acts.count (.give 0) + 1 := by
  have hboth : ∀ its, some retriedList = some its → BothOrNeither its := by
    rintro its ⟨⟩ it hit
    rcases List.mem_pair.mp hit with rfl | rfl <;> rfl
  have hdown : ManagerSession 0 0 _ false :=
    (ManagerSession.boot.init none _ none true hboth nofun).initOls none none
  have hup : ManagerSession 0 0 _ true := hdown.initOls none none
  obtain ⟨hwritten, -, -, hcount⟩ := session_paired hup
  exact ⟨_, hup, hwritten, rfl, hcount 0⟩

end Session

end Lpa
