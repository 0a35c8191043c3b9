import Lpa.PacketFilter.Power

/-!
# Packet filter — calls that the driver turns down

Any call of `cylpa_pf_ol_init`, `cylpa_pf_ol_pm` and `cylpa_pf_ol_deinit` may be turned down by the
driver; the offload logs that and goes on.  It keeps no record of what has got through, so it never
asks again for what has been turned down: what a filter has missed is made up for by the next
notification it hears of, if there are calls for it in one.

* `heard_step`: a notification a filter hears of leaves it as that asks for, one it does not hear
  of as it was.
* `pf_faults`: over any run and any answers, a filter is as the last notification it has heard of
  asks for; and one active in both power states is enabled exactly if the call at initialisation
  got through.
-/

namespace Lpa

/-- A notification, with the answers to the calls `cylpa_pf_ol_pm` makes. -/
structure PfNotified (ctxt : PfOl) where
  st : OlPmSt
  answered : List (PfCall × Bool)
  calls : answered.map Prod.fst = cylpaPfOlPm (some ctxt) st

/-- The call adds a filter. -/
def PfCall.isAdd : PfCall → Bool
  | .add _ => true
  | _ => false

namespace CyPfOlCfg

variable {ctxt : PfOl} (e : CyPfOlCfg)

/-- The filter is active in both power states. -/
def AlwaysOn : Prop := e.activeIn .goingToSleep ∧ e.activeIn .awake

instance : Decidable e.AlwaysOn := inferInstanceAs (Decidable (_ ∧ _))

/-- The calls for the filter that got through. -/
def gotThrough (answered : List (PfCall × Bool)) : List PfCall :=
  Keyed.on PfCall.id e.id (Keyed.through answered)

/-- The filter was added at initialisation. -/
def Added (init : List (PfCall × Bool)) : Prop := ∃ c ∈ e.gotThrough init, c.isAdd

instance (init : List (PfCall × Bool)) : Decidable (e.Added init) :=
  inferInstanceAs (Decidable (∃ c ∈ _, _))

/-- The filter was enabled at initialisation. -/
def Enabled (init : List (PfCall × Bool)) : Prop := .enable e.id ∈ e.gotThrough init

instance (init : List (PfCall × Bool)) : Decidable (e.Enabled init) :=
  inferInstanceAs (Decidable (_ ∈ _))

/-- The power state the filter has heard of at initialisation, if it was enabled there. -/
def heardFirst (init : List (PfCall × Bool)) : Option OlPmSt :=
  if e.Enabled init then some .awake else none

/-- The power state the filter has heard of last. -/
def heard (init : List (PfCall × Bool)) (ns : List (PfNotified ctxt)) : Option OlPmSt :=
  ns.foldl (fun s n => if e.gotThrough n.answered = [] then s else some n.st) (e.heardFirst init)

/-- Enabled or not, having heard of `s` last. -/
def shown (s : Option OlPmSt) (enabled : Bool) : Bool := (s.map e.activeIn).getD enabled

end CyPfOlCfg

/-- The table after an initialisation and some notifications. -/
def PfTable.afterFaults {ctxt : PfOl} (t : PfTable) (init : List (PfCall × Bool))
    (ns : List (PfNotified ctxt)) : PfTable :=
  t.after (Keyed.through init ++ ns.flatMap fun n => Keyed.through n.answered)

section Faults

variable {bufs : PfBufs} {info : OlInfo} {cfg : List CyPfOlCfg} {e : CyPfOlCfg} {v : Option Bool}

/-- A sublist of a list of at most one element. -/
theorem eq_nil_or_eq_of_sublist {xs : List PfCall} {c : PfCall} (h : xs.Sublist [c]) :
    xs = [] ∨ xs = [c] := by
  cases xs with
  | nil => exact .inl rfl
  | cons x xs => exact .inr (h.eq_of_length_le (Nat.succ_le_succ (Nat.zero_le _)))

/-- **A notification** calls for a filter once, to have it as it asks for, unless the filter is
always on or the power state unknown. -/
theorem pmEntry_spec (e : CyPfOlCfg) (st : OlPmSt) :
    (e.AlwaysOn ∨ st = .max) ∧ pmEntry st e = [] ∨
      ∃ c, pmEntry st e = [c] ∧ ∀ v, c.effect v = v.map fun _ => e.activeIn st := by
  by_cases hboth : e.AlwaysOn
  · exact .inl ⟨.inl hboth, pmEntry_of_both st hboth⟩
  have hbits := (both_active_iff e.bits).not.mpr
    (by simpa [CyPfOlCfg.AlwaysOn, CyPfOlCfg.activeIn] using hboth)
  unfold pmEntry
  rw [if_neg hbits]
  cases st with
  | max => exact .inl ⟨.inr rfl, rfl⟩
  | goingToSleep =>
      by_cases ha : e.bits &&& cyPfActiveSleep ≠ 0
      · exact .inr ⟨.enable e.id, if_pos ha, by simp [PfCall.effect, CyPfOlCfg.activeIn, ha]⟩
      · exact .inr ⟨.disable e.id, if_neg ha, by simp [PfCall.effect, CyPfOlCfg.activeIn, ha]⟩
  | awake =>
      by_cases ha : e.bits &&& cyPfActiveWake ≠ 0
      · exact .inr ⟨.enable e.id, if_pos ha, by simp [PfCall.effect, CyPfOlCfg.activeIn, ha]⟩
      · exact .inr ⟨.disable e.id, if_neg ha, by simp [PfCall.effect, CyPfOlCfg.activeIn, ha]⟩

/-! ### Initialisation -/

theorem mem_enableWake {c : PfCall} (h : c ∈ enableWake e) : c = .enable e.id := by
  unfold enableWake at h
  split at h
  · exact List.mem_singleton.mp h
  · cases h

/-- What the two loops of initialisation make of a filter. -/
theorem effects_init {f : WhdPacketFilter} {adds enables stats : List PfCall}
    (hadds : adds.Sublist [.add f]) (henables : enables.Sublist (enableWake e))
    (hstats : stats.Sublist [.getStats e.id]) :
    Keyed.effects PfCall.effect v (adds ++ enables ++ stats) =
      (if adds = [] then v else some false).map
        (e.shown (if enables = [] then none else some .awake)) := by
  have hstat : ∀ v, Keyed.effects PfCall.effect v stats = v := by
    intro v
    rcases eq_nil_or_eq_of_sublist hstats with rfl | rfl <;> rfl
  have henable : ∀ v, Keyed.effects PfCall.effect v enables =
      v.map (e.shown (if enables = [] then none else some .awake)) := by
    intro v
    unfold enableWake at henables
    split at henables
    · rename_i hwake
      rcases eq_nil_or_eq_of_sublist henables with rfl | rfl
      · exact Option.map_id'.symm
      · have hshown : e.shown (some .awake) = fun _ => true := by
          funext b
          simpa [CyPfOlCfg.shown, CyPfOlCfg.activeIn] using hwake
        rw [if_neg (List.cons_ne_nil _ _), hshown]
        rfl
    · rw [List.sublist_nil.mp henables]
      exact Option.map_id'.symm
  have hadd : Keyed.effects PfCall.effect v adds = if adds = [] then v else some false := by
    rcases eq_nil_or_eq_of_sublist hadds with rfl | rfl <;> rfl
  rw [Keyed.effects, List.foldl_append, List.foldl_append]
  exact (hstat _).trans ((henable _).trans (congrArg _ hadd))

section Run

variable (hids : (cfg.map (·.id)).Nodup) (hknown : ∀ e ∈ cfg, e.feature.known) (he : e ∈ cfg)
variable {init : List (PfCall × Bool)}
variable (hinit : init.map Prod.fst = (cylpaPfOlInit bufs info cfg).calls)

include hids hknown he hinit in
/-- **What gets through of an initialisation** to a filter: adding it, enabling it, and asking for
its statistics, or some of these. -/
theorem gotThrough_init : ∃ f adds enables stats,
    e.gotThrough init = adds ++ enables ++ stats ∧ adds.Sublist [.add f] ∧
      enables.Sublist (enableWake e) ∧ stats.Sublist [.getStats e.id] := by
  have hmap := createFilters_ids hknown bufs
  obtain ⟨f, hf, hid⟩ := List.mem_map.mp (hmap ▸ List.mem_map_of_mem he : e.id ∈ _)
  have hcalls : init.map Prod.fst = (createFilters bufs cfg).2.map .add ++
    cfg.flatMap enableWake ++ cylpaDumpFiltersStats cfg := hinit
  obtain ⟨front, stats, rfl, hfront, hstats⟩ := List.map_eq_append_iff.mp hcalls
  obtain ⟨adds, enables, rfl, hadds, henables⟩ := List.map_eq_append_iff.mp hfront
  have hadds' : adds.map Prod.fst = (createFilters bufs cfg).2.flatMap fun f => [.add f] :=
    hadds.trans List.map_eq_flatMap
  refine ⟨f, Keyed.on PfCall.id e.id (Keyed.through adds),
    Keyed.on PfCall.id e.id (Keyed.through enables),
    Keyed.on PfCall.id e.id (Keyed.through stats), ?_, ?_, ?_, ?_⟩
  · rw [CyPfOlCfg.gotThrough, Keyed.through_append, Keyed.through_append, Keyed.on_append,
      Keyed.on_append]
  · rw [← hid]
    refine Keyed.on_through (fun filter c hc => ?_) hadds' (hmap ▸ hids) hf
    rw [List.mem_singleton.mp hc, PfCall.id]
  · exact Keyed.on_through id_of_mem_enableWake henables hids he
  · refine Keyed.on_through (fun e c hc => ?_) hstats hids he
    rw [List.mem_singleton.mp hc, PfCall.id]

include hids hknown he hinit in
/-- **Initialisation**, any calls of it turned down. -/
theorem init_faults (t : PfTable) : t.after (Keyed.through init) e.id =
    (if e.Added init then some false else t e.id).map (e.shown (e.heardFirst init)) := by
  obtain ⟨f, adds, enables, stats, hon, hadds, henables, hstats⟩ :=
    gotThrough_init hids hknown he hinit
  have henable : ∀ c ∈ enables, c = .enable e.id := fun c hc =>
    mem_enableWake (henables.subset hc)
  have hstat : ∀ c ∈ stats, c = .getStats e.id := fun c hc =>
    List.mem_singleton.mp (hstats.subset hc)
  have hadded : e.Added init ↔ adds ≠ [] := by
    rw [CyPfOlCfg.Added, hon]
    rcases eq_nil_or_eq_of_sublist hadds with rfl | rfl
    · refine iff_of_false ?_ (fun h => h rfl)
      rintro ⟨c, hc, hadd⟩
      rcases List.mem_append.mp hc with hc | hc
      · rw [henable c hc] at hadd
        cases hadd
      · rw [hstat c hc] at hadd
        cases hadd
    · exact iff_of_true ⟨.add f, by simp, rfl⟩ (List.cons_ne_nil _ _)
  have henabled : e.Enabled init ↔ enables ≠ [] := by
    rw [CyPfOlCfg.Enabled, hon]
    constructor
    · rintro hmem rfl
      rw [List.append_nil] at hmem
      rcases List.mem_append.mp hmem with hc | hc
      · cases List.mem_singleton.mp (hadds.subset hc)
      · cases hstat _ hc
    · intro hne
      obtain ⟨c, hc⟩ := List.exists_mem_of_ne_nil _ hne
      obtain rfl := henable c hc
      exact List.mem_append_left _ (List.mem_append_right _ hc)
  have heffects := effects_init (v := t e.id) hadds henables hstats
  rw [← hon] at heffects
  rw [PfTable.after, Keyed.run_apply]
  refine heffects.trans ?_
  simp only [CyPfOlCfg.heardFirst, hadded, henabled, ne_eq, ite_not]

/-! ### Notifications -/

variable {ctxt : PfOl}

include hids he in
/-- **A notification**: a filter that hears of it is as it asks for, one that does not is as it
was. -/
theorem heard_step {n : PfNotified ctxt} (hcalls : n.answered.map Prod.fst =
    cfg.flatMap (pmEntry n.st)) {t : PfTable} {s : Option OlPmSt}
    (h : t e.id = v.map (e.shown s)) :
    t.after (Keyed.through n.answered) e.id =
      v.map (e.shown (if e.gotThrough n.answered = [] then s else some n.st)) := by
  have hsub : (e.gotThrough n.answered).Sublist (pmEntry n.st e) :=
    Keyed.on_through (id_of_mem_pmEntry n.st) hcalls hids he
  have hafter : t.after (Keyed.through n.answered) e.id =
      Keyed.effects PfCall.effect (v.map (e.shown s)) (e.gotThrough n.answered) := by
    rw [PfTable.after, Keyed.run_apply, h]
    rfl
  rw [hafter]
  rcases pmEntry_spec e n.st with ⟨-, hnone⟩ | ⟨c, hone, heffect⟩
  · rw [hnone] at hsub
    rw [List.sublist_nil.mp hsub]
    rfl
  · rw [hone] at hsub
    rcases eq_nil_or_eq_of_sublist hsub with hnone | hheard
    · rw [hnone]
      rfl
    · rw [hheard, if_neg (List.cons_ne_nil _ _)]
      refine (heffect _).trans ?_
      rw [Option.map_map]
      rfl

variable (hwhd : info.whd ≠ none)

include hids hknown he hinit hwhd in
/-- **A run**, any calls of it turned down. -/
theorem heard_run (t : PfTable) (ns : List (PfNotified (cylpaPfOlInit bufs info cfg).ctxt)) :
    t.afterFaults init ns e.id =
      (if e.Added init then some false else t e.id).map (e.shown (e.heard init ns)) := by
  induction ns using List.reverseRecOn with
  | nil =>
      rw [PfTable.afterFaults, List.flatMap_nil, List.append_nil]
      exact init_faults hids hknown he hinit t
  | append_singleton ns n ih =>
      have hcalls := n.calls.trans (cylpaPfOlPm_init bufs info hwhd n.st)
      have hstep := heard_step hids he hcalls ih
      rw [PfTable.afterFaults, ← PfTable.after_append] at hstep
      rw [PfTable.afterFaults, List.flatMap_append, List.flatMap_singleton, ← List.append_assoc,
        hstep, CyPfOlCfg.heard, CyPfOlCfg.heard, List.foldl_append]
      rfl

include hids he hwhd in
/-- A filter that is always on hears of no notification. -/
theorem heard_of_alwaysOn (h : e.AlwaysOn)
    (ns : List (PfNotified (cylpaPfOlInit bufs info cfg).ctxt)) :
    e.heard init ns = e.heardFirst init := by
  induction ns using List.reverseRecOn with
  | nil => rfl
  | append_singleton ns n ih =>
      have hsub : (e.gotThrough n.answered).Sublist (pmEntry n.st e) :=
        Keyed.on_through (id_of_mem_pmEntry n.st)
          (n.calls.trans (cylpaPfOlPm_init bufs info hwhd n.st)) hids he
      rw [pmEntry_of_both n.st h, List.sublist_nil] at hsub
      rw [CyPfOlCfg.heard, List.foldl_append]
      exact (if_pos hsub).trans ih

omit hids in
include he hwhd in
/-- Any other filter hears of a notification whose calls get through. -/
theorem heard_of_through (hne : ¬ e.AlwaysOn)
    (ns : List (PfNotified (cylpaPfOlInit bufs info cfg).ctxt))
    {n : PfNotified (cylpaPfOlInit bufs info cfg).ctxt} (hst : n.st ≠ .max)
    (hthrough : ∀ c ∈ n.answered, c.1.id = e.id → c.2 = true) :
    e.heard init (ns ++ [n]) = some n.st := by
  rcases pmEntry_spec e n.st with ⟨hno, -⟩ | ⟨c, hone, -⟩
  · exact absurd hno (not_or.mpr ⟨hne, hst⟩)
  · have hcalls := n.calls.trans (cylpaPfOlPm_init bufs info hwhd n.st)
    have hentry : c ∈ pmEntry n.st e := hone ▸ List.mem_singleton_self c
    have hid : c.id = e.id := id_of_mem_pmEntry n.st e c hentry
    have hmem : c ∈ n.answered.map Prod.fst := hcalls ▸ List.mem_flatMap.mpr ⟨e, he, hentry⟩
    obtain ⟨⟨c', ok⟩, hc', rfl⟩ := List.mem_map.mp hmem
    have hok : ok = true := hthrough _ hc' hid
    have hgot : c' ∈ e.gotThrough n.answered := by
      refine List.mem_filter.mpr ⟨Keyed.mem_through.mpr (hok ▸ hc'), ?_⟩
      simpa using hid
    rw [CyPfOlCfg.heard, List.foldl_append]
    exact if_neg (List.ne_nil_of_mem hgot)

omit hids in
include hknown hinit hwhd in
/-- The filters that are not of the configuration are as they were. -/
theorem others_run (t : PfTable) (ns : List (PfNotified (cylpaPfOlInit bufs info cfg).ctxt))
    {id : UInt8} (hid : id ∉ cfg.map (·.id)) : t.afterFaults init ns id = t id := by
  have hmap := createFilters_ids hknown bufs
  have hadds : Keyed.on PfCall.id id ((createFilters bufs cfg).2.map .add) = [] := by
    rw [List.map_eq_flatMap]
    refine Keyed.on_flatMap_of_notMem (fun filter c hc => ?_) (hmap ▸ hid)
    rw [List.mem_singleton.mp hc, PfCall.id]
  have hstats : Keyed.on PfCall.id id (cylpaDumpFiltersStats cfg) = [] := by
    refine Keyed.on_flatMap_of_notMem (fun e c hc => ?_) hid
    rw [List.mem_singleton.mp hc, PfCall.id]
  have hinits : Keyed.on PfCall.id id (Keyed.through init) = [] := by
    have hsub := Keyed.on_sublist PfCall.id id (Keyed.through_sublist init)
    have hcalls : (cylpaPfOlInit bufs info cfg).calls = (createFilters bufs cfg).2.map .add ++
      cfg.flatMap enableWake ++ cylpaDumpFiltersStats cfg := rfl
    rw [hinit, hcalls, Keyed.on_append, Keyed.on_append, hadds, hstats,
      Keyed.on_flatMap_of_notMem id_of_mem_enableWake hid] at hsub
    exact List.sublist_nil.mp hsub
  have hns : Keyed.on PfCall.id id (ns.flatMap fun n => Keyed.through n.answered) = [] := by
    induction ns with
    | nil => rfl
    | cons n ns ih =>
        rw [List.flatMap_cons, Keyed.on_append, ih, Keyed.on_through_of_notMem
          (id_of_mem_pmEntry n.st) (n.calls.trans (cylpaPfOlPm_init bufs info hwhd n.st)) hid]
        rfl
  rw [PfTable.afterFaults, PfTable.after, Keyed.run_apply, Keyed.on_append, hinits, hns]
  rfl

include hids he hwhd in
/-- **Deinitialisation**: a filter is gone if the call for it gets through. -/
theorem deinit_faults (t : PfTable) {removed : List (PfCall × Bool)}
    (hremoved : removed.map Prod.fst = cylpaPfOlDeinit (some (cylpaPfOlInit bufs info cfg).ctxt)) :
    t.after (Keyed.through removed) e.id =
      if e.gotThrough removed = [] then t e.id else none := by
  obtain ⟨whd, hw⟩ := Option.ne_none_iff_exists'.mp hwhd
  have hdeinit : cylpaPfOlDeinit (some (cylpaPfOlInit bufs info cfg).ctxt) =
      cfg.flatMap fun e => [.remove e.id] := by
    simp only [cylpaPfOlInit, cylpaPfOlDeinit, hw]
  have hsub : (e.gotThrough removed).Sublist [.remove e.id] := by
    refine Keyed.on_through (fun e c hc => ?_) (hremoved.trans hdeinit) hids he
    rw [List.mem_singleton.mp hc, PfCall.id]
  have hafter : t.after (Keyed.through removed) e.id =
      Keyed.effects PfCall.effect (t e.id) (e.gotThrough removed) := by
    rw [PfTable.after, Keyed.run_apply]
    rfl
  rw [hafter]
  rcases eq_nil_or_eq_of_sublist hsub with hnone | hone
  · rw [hnone]
    rfl
  · rw [hone]
    rfl

end Run

end Faults

/-- **Packet filters under a driver that turns down calls.**  Whatever calls it turns down, a
filter is as the last notification it has heard of asks for, from how it was at first, and the
filters that are not of the configuration are as they were.  So one notification whose calls get
through makes up for whatever has failed before, but not for a filter that is always on: that is
enabled exactly if it was at initialisation.  After deinitialisation a filter is there still exactly
if the call to remove it has been turned down. -/
theorem pf_faults (bufs : PfBufs) (info : OlInfo) (cfg : List CyPfOlCfg) (t₀ : PfTable)
    (hids : (cfg.map (·.id)).Nodup) (hknown : ∀ e ∈ cfg, e.feature.known) (hwhd : info.whd ≠ none)
    {init : List (PfCall × Bool)}
    (hinit : init.map Prod.fst = (cylpaPfOlInit bufs info cfg).calls)
    (ns : List (PfNotified (cylpaPfOlInit bufs info cfg).ctxt)) :
    (∀ e ∈ cfg, t₀.afterFaults init ns e.id =
      (if e.Added init then some false else t₀ e.id).map (e.shown (e.heard init ns))) ∧
    (∀ e ∈ cfg, e.Added init → e.AlwaysOn →
      t₀.afterFaults init ns e.id = some (decide (e.Enabled init))) ∧
    (∀ e ∈ cfg, e.Added init → ¬ e.AlwaysOn → ∀ ns' n, ns = ns' ++ [n] → n.st ≠ .max →
      (∀ c ∈ n.answered, c.1.id = e.id → c.2 = true) →
      t₀.afterFaults init ns e.id = some (e.activeIn n.st)) ∧
    (∀ id, id ∉ cfg.map (·.id) → t₀.afterFaults init ns id = t₀ id) ∧
    ∀ removed, removed.map Prod.fst = cylpaPfOlDeinit (some (cylpaPfOlInit bufs info cfg).ctxt) →
      ∀ e ∈ cfg, (t₀.afterFaults init ns).after (Keyed.through removed) e.id =
        if e.gotThrough removed = [] then t₀.afterFaults init ns e.id else none := by
  have hrun := fun e he => heard_run hids hknown (e := e) he hinit hwhd t₀ ns
  refine ⟨hrun, fun e he hadded halways => ?_, fun e he hadded hne ns' n hns hst hthrough => ?_,
    fun id hid => others_run hknown hinit hwhd t₀ ns hid,
    fun removed hremoved e he => deinit_faults hids he hwhd _ hremoved⟩
  · rw [hrun e he, if_pos hadded, heard_of_alwaysOn hids he hwhd halways,
      CyPfOlCfg.heardFirst]
    by_cases henabled : e.Enabled init
    · rw [if_pos henabled, decide_eq_true henabled, ← halways.2]
      rfl
    · rw [if_neg henabled, decide_eq_false henabled]
      rfl
  · rw [hrun e he, if_pos hadded, hns, heard_of_through he hwhd hne ns' hst hthrough]
    rfl

/-- Every call gets through but those turned down. -/
def answeredBut (turnedDown calls : List PfCall) : List (PfCall × Bool) :=
  calls.map fun c => (c, decide (c ∉ turnedDown))

theorem map_fst_answeredBut (turnedDown calls : List PfCall) :
    (answeredBut turnedDown calls).map Prod.fst = calls := by
  rw [answeredBut, List.map_map]
  exact List.map_id calls

/-- Enabling the filter that is always on is turned down, and disabling the one for the awake state
the first time: that is made up for, the other is not. -/
theorem pf_faults_turnedDown :
    let info : OlInfo := ⟨some 0, none, none, 0⟩
    let init := answeredBut [.enable 3] (cylpaPfOlInit .boot info threeFilters).calls
    let asleep : List PfCall → PfNotified (cylpaPfOlInit .boot info threeFilters).ctxt :=
      fun turnedDown => ⟨.goingToSleep, answeredBut turnedDown _, map_fst_answeredBut _ _⟩
    let t := PfTable.afterFaults (fun _ => none) init [asleep [.disable 1], asleep []]
    t 1 = some false ∧ t 3 = some false := by
  intro info init asleep t
  have hinit : init.map Prod.fst = (cylpaPfOlInit .boot info threeFilters).calls :=
    map_fst_answeredBut _ _
  obtain ⟨-, halways, hothers, -⟩ := pf_faults .boot info threeFilters (fun _ => none) (by decide)
    (by decide) (by decide) hinit [asleep [.disable 1], asleep []]
  refine ⟨?_, ?_⟩
  · exact hothers threeFilters[0] (by decide) (by decide) (by decide) [asleep [.disable 1]]
      (asleep []) rfl (by decide) (by decide)
  · exact halways threeFilters[2] (by decide) (by decide) (by decide)

end Lpa
