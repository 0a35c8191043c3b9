import Lpa.Olm.Calls

/-!
# Offload manager — the interface in use

The interface may be there when the manager is initialised, or come with the offloads.  Either way
it is to be configured before an offload uses it, and `fw_new_infra` is to be what its firmware
has.  The flag that an interface has been configured is one for all of them, and is never cleared;
the firmware is asked only when the manager is initialised.

* `interfaceInv_step`: which interface has been configured, call by call.
* `wlanConfig_iff`: the interface in use is configured exactly if it is the one of the latest
  `cylpa_olm_init`, or that had none and no interface had been in use before.
* `newInfra_iff`: the offloads have the right infrastructure exactly if the last interface at a
  `cylpa_olm_init` had the same.
-/

namespace Lpa

/-! ### What has been configured -/

/-- The events since the latest `cylpa_olm_init`. -/
def sinceInit (log : List ManagerEvent) : List ManagerEvent :=
  log.foldl (fun since e => if e = .olmInit then [] else since ++ [e]) []

theorem sinceInit_append {log trace : List ManagerEvent} (h : ∀ e ∈ trace, e ≠ .olmInit) :
    sinceInit (log ++ trace) = sinceInit log ++ trace := by
  induction trace using List.reverseRecOn with
  | nil => rw [List.append_nil, List.append_nil]
  | append_singleton trace e ih =>
      have he : e ≠ .olmInit := h e (by simp)
      have htrace := ih fun e he => h e (List.mem_append_left _ he)
      rw [← List.append_assoc, sinceInit, List.foldl_append]
      simp only [List.foldl_cons, List.foldl_nil, if_neg he]
      rw [← sinceInit, htrace, List.append_assoc]

theorem sinceInit_olmInit {log trace : List ManagerEvent} (h : ∀ e ∈ trace, e ≠ .olmInit) :
    sinceInit (log ++ .olmInit :: trace) = trace := by
  rw [List.append_cons, sinceInit_append h, sinceInit, List.foldl_append]
  rfl

/-- The interfaces given to the manager since it has a list: whether one was in use before the
latest `cylpa_olm_init`, that call's, and the first one to come with the offloads after it. -/
structure Interfaces where
  hasList : Bool
  before : Bool
  atInit : Option Handle
  late : Option Handle
deriving DecidableEq, Repr

namespace Interfaces

variable {W : Type}

/-- An interface has been in use. -/
def used (h : Interfaces) : Bool := h.before || h.atInit.isSome || h.late.isSome

/-- One more call. -/
def next (h : Interfaces) : ManagerCall W → Interfaces
  | .init whd _ _ _ => { hasList := true, before := h.used, atInit := whd, late := none }
  | .initOls whd _ => if h.hasList then { h with late := h.late.or whd } else h
  | .deinitOls => h
  | .deinit => h

/-- The interface is the one of the latest `cylpa_olm_init`; or that had none, no interface had been
in use before it, and this is the first one since. -/
def Fits (h : Interfaces) (whd : Handle) : Prop :=
  h.atInit = some whd ∨ h.atInit = none ∧ h.before = false ∧ h.late = some whd

end Interfaces

/-- The interfaces of some calls. -/
def interfaces {W : Type} (calls : List (ManagerCall W)) : Interfaces :=
  calls.foldl Interfaces.next ⟨false, false, none, none⟩

section Configured

variable {W : Type} {offloads : UInt32} {world : W} {s s' : ManagerState W} {h : Interfaces}

/-- The flag tells whether an interface has been in use; the one that fits is configured. -/
structure InterfaceInv (s : ManagerState W) (h : Interfaces) : Prop where
  hasList : s.olm.olList.isSome = h.hasList
  created : s.cyOlmWhdInstanceCreated = h.used
  configured (whd : Handle) : .initWlanConfig whd ∈ sinceInit s.log ↔ h.Fits whd

/-- Other events change none of it. -/
theorem InterfaceInv.of_log (hinv : InterfaceInv s h) (hlist : s'.olm.olList = s.olm.olList)
    (hcreated : s'.cyOlmWhdInstanceCreated = s.cyOlmWhdInstanceCreated) {trace : List ManagerEvent}
    (hlog : s'.log = s.log ++ trace)
    (hother : ∀ e ∈ trace, e ≠ .olmInit ∧ ∀ whd, e ≠ .initWlanConfig whd) :
    InterfaceInv s' h := by
  refine ⟨hlist ▸ hinv.hasList, hcreated.trans hinv.created, fun whd => ?_⟩
  have hconfig : .initWlanConfig whd ∉ trace := fun he => (hother _ he).2 whd rfl
  rw [hlog, sinceInit_append fun e he => (hother e he).1, List.mem_append, or_iff_left hconfig]
  exact hinv.configured whd

theorem InterfaceInv.calls (hinv : InterfaceInv s h) (hs : s.Offloads s') :
    InterfaceInv s' h := by
  obtain ⟨trace, hlog, hevents⟩ := hs.log
  refine hinv.of_log (congrArg OlmOf.olList hs.olm) hs.created hlog fun e he => ?_
  have hoffload := hevents e he
  exact ⟨fun heq => by simp [heq, ManagerEvent.isOffload] at hoffload,
    fun whd heq => by simp [heq, ManagerEvent.isOffload] at hoffload⟩

/-- **An interface that comes with the offloads** is configured if none has been in use. -/
theorem interfaceInv_setInterface (hinv : InterfaceInv s h) (whd ip : Option Handle) :
    InterfaceInv (s.setInterface whd ip) (h.next (.initOls (W := W) whd ip)) := by
  have hlist : (s.setInterface whd ip).olm.olList = s.olm.olList := by rw [setInterface_olm]
  rcases setInterface_cases whd ip s with
    ⟨iface, rfl, hl, hflag, hflag', hlog⟩ | ⟨hwhy, hflag', hlog⟩
  · have hhas : h.hasList = true := by
      rw [← hinv.hasList]
      exact Option.isSome_iff_ne_none.mpr hl
    have hunused : h.used = false := hinv.created.symm.trans hflag
    simp only [Interfaces.used, Bool.or_eq_false_iff, Option.isSome_eq_false_iff,
      Option.isNone_iff_eq_none] at hunused
    obtain ⟨⟨hbefore, hatInit⟩, hlate⟩ := hunused
    have hconfigured := hinv.configured
    simp only [Interfaces.Fits, hatInit, hlate] at hconfigured
    refine ⟨?_, ?_, fun whd => ?_⟩
    · rw [hlist, hinv.hasList, Interfaces.next, if_pos hhas]
    · rw [hflag', Interfaces.next, if_pos hhas, Interfaces.used, hlate]
      simp
    · rw [hlog, sinceInit_append (by simp), List.mem_append, hconfigured, Interfaces.next,
        if_pos hhas]
      simp [Interfaces.Fits, hatInit, hbefore, hlate, eq_comm]
  · have hsame : InterfaceInv (s.setInterface whd ip) h :=
      hinv.of_log hlist hflag' (hlog.trans (List.append_nil _).symm) (by simp)
    rw [Interfaces.next]
    split
    · rename_i hhas
      rcases hwhy with rfl | hl | hflag
      · rwa [Option.or_none]
      · rw [← hinv.hasList, hl] at hhas
        cases hhas
      · -- some interface has been in use, so that one more is not the first
        have hused : h.used = true := hinv.created.symm.trans hflag
        cases hlate : h.late with
        | some iface =>
            have hnext : ({ h with late := (some iface).or whd } : Interfaces) = h := by
              rw [Option.some_or, ← hlate]
            rwa [hnext]
        | none =>
            simp only [Interfaces.used, hlate, Option.isSome_none, Bool.or_false,
              Bool.or_eq_true] at hused
            refine ⟨hsame.hasList, hsame.created.trans ?_, fun iface =>
              (hsame.configured iface).trans ?_⟩
            · simp [Interfaces.used, hlate, hused]
            · have hnot : ¬ (h.atInit = none ∧ h.before = false) := by
                rintro ⟨hatInit, hbefore⟩
                simp [hatInit, hbefore] at hused
              simp only [Interfaces.Fits, ← and_assoc, hnot, false_and]
    · exact hsame

/-- **`cylpa_olm_init`** configures the interface it has. -/
theorem interfaceInv_init (hinv : InterfaceInv s h) (whd : Option Handle)
    (olList : Option (List (OlDesc W))) (fwcap : Option UInt32) (created : Bool) :
    InterfaceInv (s.cylpaOlmInit offloads whd olList fwcap created)
      (h.next (.init whd olList fwcap created)) := by
  have hinit := cylpaOlmInit_eq s offloads whd olList fwcap created
  refine ⟨?_, ?_, fun iface => ?_⟩
  · rw [hinit, initOlm_olList]
    rfl
  · rw [hinit, hinv.created]
    simp [Interfaces.next, Interfaces.used]
  · rw [hinit, sinceInit_olmInit]
    · split <;> simp [Interfaces.next, Interfaces.Fits, Option.mem_toList]
    · split <;> simp

theorem interfaceInv_step (hinv : InterfaceInv s h) (call : ManagerCall W) :
    InterfaceInv (s.step offloads call) (h.next call) := by
  cases call with
  | init whd olList fwcap created => exact interfaceInv_init hinv whd olList fwcap created
  | initOls whd ip =>
      exact (interfaceInv_setInterface hinv whd ip).calls (cylpaOlmInitOls_calls s whd ip)
  | deinitOls => exact hinv.calls (cylpaOlmDeinitOls_calls s)
  | deinit =>
      unfold ManagerState.step ManagerState.cylpaOlmDeinit
      dsimp only
      split
      · exact hinv
      · exact hinv.of_log rfl rfl rfl (by simp)

@[simp] theorem interfaces_append (calls : List (ManagerCall W)) (call : ManagerCall W) :
    interfaces (calls ++ [call]) = (interfaces calls).next call := by
  simp [interfaces]

/-- **The invariant** after any calls. -/
theorem interfaceInv_after (offloads : UInt32) (world : W) (calls : List (ManagerCall W)) :
    InterfaceInv (ManagerState.after offloads world calls) (interfaces calls) := by
  induction calls using List.reverseRecOn with
  | nil => exact ⟨rfl, rfl, fun whd => by
      simp [ManagerState.boot, sinceInit, interfaces, Interfaces.Fits]⟩
  | append_singleton calls call ih =>
      rw [ManagerState.after_append, interfaces_append]
      exact interfaceInv_step ih call

/-- What has been done when a call comes to the offloads: from `s` it leads to `s'`. -/
def beforeOffloads (s s' : ManagerState W) : List ManagerEvent :=
  s.log ++ (s'.log.drop s.log.length).takeWhile fun e => !e.isOffload

theorem beforeOffloads_initOls (s : ManagerState W) (whd ip : Option Handle) :
    beforeOffloads s (s.cylpaOlmInitOls whd ip).2 = (s.setInterface whd ip).log := by
  obtain ⟨config, hconfig, hevents⟩ := setInterface_log whd ip s
  obtain ⟨trace, hlog, htrace⟩ := (cylpaOlmInitOls_calls s whd ip).log
  have hother : ∀ e ∈ config, (!e.isOffload) = true := by
    intro e he
    obtain ⟨iface, rfl⟩ := hevents e he
    rfl
  have hfirst : trace.takeWhile (fun e => !e.isOffload) = [] := by
    cases trace with
    | nil => rfl
    | cons e trace => simp [htrace e List.mem_cons_self]
  rw [beforeOffloads, hlog, hconfig, List.append_assoc, List.drop_left,
    List.takeWhile_append_of_pos hother, hfirst, List.append_nil]

/-- **Configured before use**: when `cylpa_olm_init_ols` comes to the offloads, the interface it
has been given is configured since the latest `cylpa_olm_init`. -/
def ConfiguredBeforeUse (offloads : UInt32) (world : W) (calls : List (ManagerCall W)) : Prop :=
  ∀ ys whd ip, calls = ys ++ [.initOls (some whd) ip] →
    (ManagerState.after offloads world ys).olm.olList ≠ none →
      .initWlanConfig whd ∈ sinceInit (beforeOffloads (ManagerState.after offloads world ys)
        (ManagerState.after offloads world calls))

/-- The interface given to `cylpa_olm_init_ols`, there being a list, is one that fits. -/
def InterfaceFits (calls : List (ManagerCall W)) : Prop :=
  ∀ ys whd ip, calls = ys ++ [.initOls (some whd) ip] → (interfaces ys).hasList = true →
    (interfaces calls).Fits whd

/-- **The interface in use is configured** throughout exactly if each one given with the offloads
is that of the latest `cylpa_olm_init`, or the first one of all. -/
theorem wlanConfig_iff (offloads : UInt32) (world : W) (run : List (ManagerCall W)) :
    Runs.Throughout (ConfiguredBeforeUse offloads world) run ↔
      Runs.Throughout InterfaceFits run := by
  refine forall₂_congr fun calls _ => ?_
  refine forall₃_congr fun ys whd ip => forall_congr' fun hcalls => ?_
  have hinv := interfaceInv_after offloads world ys
  have hlist : (ManagerState.after offloads world ys).olm.olList ≠ none ↔
      (interfaces ys).hasList = true := by
    rw [← hinv.hasList, Option.isSome_iff_ne_none]
  rw [hlist, hcalls, ManagerState.after_append, interfaces_append, ManagerState.step,
    beforeOffloads_initOls]
  exact imp_congr_right fun _ => (interfaceInv_setInterface hinv (some whd) ip).configured whd

/-- Another interface comes with the offloads: it is not configured. -/
theorem wlanConfig_not_done : ¬ ∀ (offloads : UInt32) (run : List (ManagerCall Unit)),
    Runs.Throughout (ConfiguredBeforeUse offloads ()) run := by
  intro h
  have hconfig := h 0 [.init (some 1) none (some 0) true, .initOls (some 2) none] _
    (List.prefix_refl _) [.init (some 1) none (some 0) true] 2 none rfl (by decide)
  exact absurd hconfig (by decide)

end Configured

/-! ### The infrastructure of the interface in use -/

section Infra

variable {W : Type} {olInfo : OlInfo} {its : List (OlDesc W × ℕ)} {w w' : W} {result : ℤ}
  {trace : List ManagerEvent}

/-- The call, where the firmware of each interface has a capability word, and there is none without
an interface. -/
def ManagerCall.answered (fwcap : Handle → UInt32) : ManagerCall W → ManagerCall W
  | init whd olList _ created => init whd olList (whd.map fwcap) created
  | initOls whd ip => initOls whd ip
  | deinitOls => deinitOls
  | deinit => deinit

/-- The last interface at a `cylpa_olm_init`. -/
def lastAtInit (calls : List (ManagerCall W)) : Option Handle :=
  calls.foldl (fun last call =>
    match call with
    | .init (some whd) _ _ _ => some whd
    | _ => last) none

/-- What was answered is what its firmware has. -/
theorem newInfra_answered (offloads : UInt32) (fwcap : Handle → UInt32)
    (calls : List (ManagerCall W)) :
    newInfra offloads (calls.map (ManagerCall.answered fwcap)) =
      (lastAtInit calls).any fun whd => ManagerState.hasCap offloads (fwcap whd) := by
  induction calls using List.reverseRecOn with
  | nil => rfl
  | append_singleton calls call ih =>
      rw [List.map_append, newInfra, List.foldl_append, ← newInfra, lastAtInit, List.foldl_append,
        ← lastAtInit, ih]
      cases call with
      | init whd olList _ created => cases whd <;> rfl
      | initOls whd ip => rfl
      | deinitOls => rfl
      | deinit => rfl

/-- `fw_new_infra` is as the firmware has it, whichever way it is tested. -/
structure InfraFits (olInfo : OlInfo) (cap : Bool) : Prop where
  new : olInfo.fwNewInfra = 1 ↔ cap = true
  old : olInfo.fwNewInfra = 0 ↔ cap = false

theorem infraFits_iff {infra cap : Bool} (h : olInfo.fwNewInfra = if infra then 1 else 0) :
    InfraFits olInfo cap ↔ infra = cap := by
  constructor
  · intro hfits
    have hnew := hfits.new
    rw [h] at hnew
    cases infra <;> cases cap <;> simp_all
  · rintro rfl
    refine ⟨?_, ?_⟩ <;> rw [h] <;> cases infra <;> decide

/-- The offloads started are all given the same, and there is one if one can be started. -/
theorem RolledBack.olInit (h : RolledBack olInfo its w result w' trace) :
    (∀ position info r, ManagerEvent.olInit position info r ∈ trace →
      info = olInfo ∧ ∃ it ∈ its, it.1.init.isSome) ∧
    ((∃ it ∈ its, it.1.init.isSome) → ∃ position r, .olInit position olInfo r ∈ trace) := by
  have hstarts : ∀ {its : List (OlDesc W × ℕ)} {position : ℕ}, position ∈ starts its →
      ∃ it ∈ its, it.1.init.isSome := by
    intro its position hposition
    obtain ⟨it, hit, -⟩ := List.mem_map.mp hposition
    obtain ⟨hmem, hinit⟩ := List.mem_filter.mp hit
    exact ⟨it, hmem, hinit⟩
  cases h with
  | started _ _ =>
      refine ⟨fun position info r he => ?_, fun ⟨it, hmem, hinit⟩ => ?_⟩
      · obtain ⟨i, hi, heq⟩ := List.mem_map.mp he
        cases heq
        exact ⟨rfl, hstarts hi⟩
      · exact ⟨it.2, resultOk, List.mem_map.mpr ⟨it.2, List.mem_map.mpr
          ⟨it, List.mem_filter.mpr ⟨hmem, hinit⟩, rfl⟩, rfl⟩⟩
  | failed before it position after init result w₁ w₂ w' hits _ hinit' _ _ _ =>
      have hmem : (it, position) ∈ its := by rw [hits]; simp
      have hinit : it.init.isSome := by rw [hinit']; rfl
      refine ⟨fun position' info r he => ⟨?_, (it, position), hmem, hinit⟩,
        fun _ => ⟨position, result, by simp⟩⟩
      simp only [List.mem_append, List.mem_map, List.mem_cons] at he
      rcases he with ⟨i, -, heq⟩ | heq | ⟨i, -, heq⟩
      · cases heq; rfl
      · cases heq; rfl
      · cases heq

/-- The offloads that are started are so with the interface given, and `fw_new_infra` as it is. -/
theorem olInit_mem_initOls {s : ManagerState W} {whd ip : Option Handle} {position : ℕ}
    {info : OlInfo} {r : ℤ}
    (h : .olInit position info r ∈ (s.cylpaOlmInitOls whd ip).2.log.drop s.log.length) :
    info = { s.olm.olInfo with whd := whd, ip := ip } ∧
      ∃ olList, s.olm.olList = some olList ∧ ∃ it ∈ olList, it.init.isSome := by
  obtain ⟨config, hconfig, hevents⟩ := setInterface_log whd ip s
  have hother : .olInit position info r ∉ config := fun he => by simpa using hevents _ he
  cases hlist : s.olm.olList with
  | none =>
      have hlog : (s.cylpaOlmInitOls whd ip).2 = s.setInterface whd ip := by
        simp only [ManagerState.cylpaOlmInitOls, setInterface_olm, hlist]
      rw [hlog, hconfig, List.drop_left] at h
      exact absurd h hother
  | some olList =>
      obtain ⟨trace, hlog, hrolledBack⟩ := cylpaOlmInitOls_log hlist whd ip
      rw [hlog, hconfig, List.append_assoc, List.drop_left, List.mem_append,
        or_iff_right hother] at h
      obtain ⟨hinfo, it, hmem, hinit⟩ := hrolledBack.olInit.1 position info r h
      exact ⟨hinfo, olList, rfl, it.1, List.fst_mem_of_mem_zipIdx hmem, hinit⟩

/-- One is started if one can be. -/
theorem exists_olInit_initOls {s : ManagerState W} (whd ip : Option Handle)
    {olList : List (OlDesc W)} (hlist : s.olm.olList = some olList) {it : OlDesc W}
    (hmem : it ∈ olList) (hinit : it.init.isSome) :
    ∃ position r, .olInit position { s.olm.olInfo with whd := whd, ip := ip } r ∈
      (s.cylpaOlmInitOls whd ip).2.log.drop s.log.length := by
  obtain ⟨config, hconfig, -⟩ := setInterface_log whd ip s
  obtain ⟨trace, hlog, hrolledBack⟩ := cylpaOlmInitOls_log hlist whd ip
  obtain ⟨i, hi⟩ := List.mem_iff_getElem?.mp hmem
  obtain ⟨position, r, he⟩ := hrolledBack.olInit.2
    ⟨(it, i), List.mem_zipIdx_iff_getElem?.mpr hi, hinit⟩
  refine ⟨position, r, ?_⟩
  rw [hlog, hconfig, List.append_assoc, List.drop_left]
  exact List.mem_append_right _ he

variable (offloads : UInt32) (fwcap : Handle → UInt32) (world : W)

/-- The state after calls whose answers are the firmwares'. -/
def afterAnswered (calls : List (ManagerCall W)) : ManagerState W :=
  .after offloads world (calls.map (ManagerCall.answered fwcap))

/-- **The right infrastructure**: an offload started with an interface finds `fw_new_infra` as the
interface's firmware has it. -/
def RightInfra (calls : List (ManagerCall W)) : Prop :=
  ∀ ys whd ip, calls = ys ++ [.initOls (some whd) ip] → ∀ position olInfo result,
    .olInit position olInfo result ∈ (afterAnswered offloads fwcap world calls).log.drop
        (afterAnswered offloads fwcap world ys).log.length →
      InfraFits olInfo (ManagerState.hasCap offloads (fwcap whd))

/-- Where an offload is to be started with an interface, its firmware has what that of the last
interface at a `cylpa_olm_init` has; with none, it has not the new infrastructure. -/
def SameInfra (calls : List (ManagerCall W)) : Prop :=
  ∀ ys whd ip, calls = ys ++ [.initOls (some whd) ip] →
    (∃ olList, (afterAnswered offloads fwcap world ys).olm.olList = some olList ∧
      ∃ it ∈ olList, it.init.isSome) →
    (lastAtInit ys).any (fun whd => ManagerState.hasCap offloads (fwcap whd)) =
      ManagerState.hasCap offloads (fwcap whd)

/-- **The offloads run in the mode of the firmware** throughout exactly if, whenever one is to be
started, the last interface at a `cylpa_olm_init` had the same. -/
theorem newInfra_iff (run : List (ManagerCall W)) :
    Runs.Throughout (RightInfra offloads fwcap world) run ↔
      Runs.Throughout (SameInfra offloads fwcap world) run := by
  refine forall₂_congr fun calls _ => ?_
  refine forall₃_congr fun ys whd ip => forall_congr' fun hcalls => ?_
  have hstep : afterAnswered offloads fwcap world calls =
      ((afterAnswered offloads fwcap world ys).cylpaOlmInitOls (some whd) ip).2 := by
    rw [hcalls, afterAnswered, List.map_append]
    exact ManagerState.after_append _ _
  let olInfo : OlInfo :=
    { (afterAnswered offloads fwcap world ys).olm.olInfo with whd := some whd, ip := ip }
  have hinfra : olInfo.fwNewInfra =
      if (lastAtInit ys).any fun whd => ManagerState.hasCap offloads (fwcap whd) then 1 else 0 := by
    rw [← newInfra_answered]
    exact fwNewInfra_after offloads world (ys.map (ManagerCall.answered fwcap))
  rw [hstep]
  constructor
  · rintro h ⟨olList, hlist, it, hmem, hinit⟩
    obtain ⟨position, r, he⟩ := exists_olInit_initOls (some whd) ip hlist hmem hinit
    exact (infraFits_iff hinfra).mp (h position olInfo r he)
  · intro h position olInfo r he
    obtain ⟨rfl, hlist⟩ := olInit_mem_initOls he
    exact (infraFits_iff hinfra).mpr (h hlist)

/-- An interface comes with the offloads, and its firmware has the new infrastructure: they are
started for the old one. -/
theorem newInfra_not_found : ¬ ∀ (offloads : UInt32) (fwcap : Handle → UInt32)
    (run : List (ManagerCall Unit)), Runs.Throughout (RightInfra offloads fwcap ()) run := by
  intro h
  let arp : OlDesc Unit := ⟨some fun _ _ => (resultOk, ()), none, none⟩
  have hfits := h 3 (fun _ => 8) [.init none (some [arp]) none true, .initOls (some 1) none] _
    (List.prefix_refl _) [.init none (some [arp]) none true] 1 none rfl 0
    ⟨some 1, none, some cyOlmWorkerThread, 0⟩ resultOk (by decide)
  exact absurd (hfits.new.mpr (by decide)) (by decide)

end Infra

end Lpa
