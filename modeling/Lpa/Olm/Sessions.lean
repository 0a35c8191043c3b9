import Lpa.Olm.Builtin

/-!
# Offload manager — one offload among the others

The manager runs the functions of all the offloads of a list, and undoes some of it when one of
them refuses.  What an offload alone makes of its part of the world, between states in which it is
down and states in which it is up, the manager makes of it too, whatever the other offloads are,
provided they leave that part alone.

* `cylpaOlmInitOls_serves` and its like: the manager brings an offload up and down as the offload's
  own functions do, rolling back included.
* `OlmSession`: the manager with the built-in offloads, from the start of the program on, and
  whether the offloads are up.
* `session_filters`: in every session with a driver that takes the packet filter's calls the
  firmware filters packets exactly while the offloads are up, and then as the power state asks for.
-/

namespace Lpa

/-! ### One offload among the others -/

section Serves

variable {S : Type} {Down Up : S → Prop} {olInfo : OlInfo} {it : Offload S}
variable {before after started : List (Offload S)} {result : ℤ} {s s' : S}

/-- An offload goes up when it is initialised, unless it refuses, and down when it is
deinitialised. -/
structure Offload.Serves (olInfo : OlInfo) (it : Offload S) (Down Up : S → Prop) : Prop where
  init {s s' : S} {result : ℤ} : Down s → it.init olInfo s = some (result, s') →
    if result = resultOk then Up s' else Down s'
  deinit {s s' : S} : Up s → it.deinit olInfo s = some s' → Down s'

/-- The other offloads leave it as it is. -/
def LeaveAlone (olInfo : OlInfo) (others : List (Offload S)) (Down Up : S → Prop) : Prop :=
  ∀ o ∈ others, o.Keeps olInfo Down ∧ o.Keeps olInfo Up

/-- **The first loop** stops before the offload has gone up, or after. -/
theorem initOls_serves (hit : it.Serves olInfo Down Up)
    (hothers : LeaveAlone olInfo (before ++ after) Down Up) (hs : Down s)
    (hrun : initOls olInfo (before ++ it :: after) s = some (result, started, s')) :
    (result ≠ resultOk ∧ Down s' ∧ started <+: before) ∨
      (Up s' ∧ ∃ later, started = before ++ it :: later ∧ later <+: after) := by
  induction before generalizing s started with
  | nil =>
      obtain ⟨⟨result₁, s₁⟩, hinit, hrun⟩ := Option.bind_eq_some_iff.mp hrun
      have hserved := hit.init hs hinit
      simp only at hrun
      split at hrun
      · rename_i hr
        cases hrun
        rw [if_neg hr] at hserved
        exact .inl ⟨hr, hserved, List.nil_prefix⟩
      · rename_i hr
        obtain ⟨⟨result₂, later, s₂⟩, hrest, hrun⟩ := Option.bind_eq_some_iff.mp hrun
        cases hrun
        rw [if_pos (not_not.mp hr)] at hserved
        obtain ⟨hup, hlater⟩ := initOls_keeps (fun o ho => (hothers o ho).2) hserved hrest
        exact .inr ⟨hup, later, rfl, hlater⟩
  | cons o before ih =>
      obtain ⟨⟨result₁, s₁⟩, hinit, hrun⟩ := Option.bind_eq_some_iff.mp hrun
      have hs₁ : Down s₁ := (hothers o List.mem_cons_self).1.init hs hinit
      simp only at hrun
      split at hrun
      · rename_i hr
        cases hrun
        exact .inl ⟨hr, hs₁, List.nil_prefix⟩
      · obtain ⟨⟨result₂, started₂, s₂⟩, hrest, hrun⟩ := Option.bind_eq_some_iff.mp hrun
        cases hrun
        rcases ih (fun o ho => hothers o (List.mem_cons_of_mem _ ho)) hs₁ hrest with
          ⟨hr, hdown, hpre⟩ | ⟨hup, later, rfl, hlater⟩
        · exact .inl ⟨hr, hdown, (List.prefix_cons_inj o).mpr hpre⟩
        · exact .inr ⟨hup, later, rfl, hlater⟩

theorem deinitOls_append (its its' : List (Offload S)) (s : S) :
    deinitOls olInfo (its ++ its') s = (deinitOls olInfo its s).bind (deinitOls olInfo its') := by
  simp only [deinitOls, List.foldlM_append]
  rfl

/-- **Deinitialisation** brings it down. -/
theorem deinitOls_serves (hit : ∀ s s', Up s → it.deinit olInfo s = some s' → Down s')
    (hothers : LeaveAlone olInfo (before ++ after) Down Up) (hs : Up s)
    (hrun : deinitOls olInfo (before ++ it :: after) s = some s') : Down s' := by
  rw [deinitOls_append] at hrun
  obtain ⟨s₁, hbefore, hrun⟩ := Option.bind_eq_some_iff.mp hrun
  obtain ⟨s₂, hdeinit, hafter⟩ := Option.bind_eq_some_iff.mp hrun
  have hs₁ : Up s₁ :=
    deinitOls_keeps (fun o ho => (hothers o (List.mem_append_left _ ho)).2) hs hbefore
  exact deinitOls_keeps (fun o ho => (hothers o (List.mem_append_right _ ho)).1)
    (hit s₁ s₂ hs₁ hdeinit) hafter

/-- **`cylpa_olm_init_ols`** brings it up, or leaves it down. -/
theorem cylpaOlmInitOls_serves {olm olm' : Manager S} {whd ip : Option Handle}
    (hlist : olm.olList = some (before ++ it :: after))
    (hit : it.Serves { olm.olInfo with whd := whd, ip := ip } Down Up)
    (hothers : LeaveAlone { olm.olInfo with whd := whd, ip := ip } (before ++ after) Down Up)
    (hs : Down s) (hrun : cylpaOlmInitOls olm whd ip s = some (result, olm', s')) :
    if result = resultOk then Up s' else Down s' := by
  unfold cylpaOlmInitOls at hrun
  simp only [hlist] at hrun
  obtain ⟨⟨result₁, started, s₁⟩, hinit, hrun⟩ := Option.bind_eq_some_iff.mp hrun
  have hloop := initOls_serves hit hothers hs hinit
  simp only at hrun
  split at hrun
  · rename_i hr
    obtain ⟨s₂, hdeinit, hrun⟩ := Option.bind_eq_some_iff.mp hrun
    cases hrun
    rw [if_neg hr]
    rcases hloop with ⟨-, hdown, hpre⟩ | ⟨hup, later, rfl, hlater⟩
    · -- it had not been reached, or has refused
      refine deinitOls_keeps (fun o ho => (hothers o ?_).1) hdown hdeinit
      exact List.mem_append_left _ (hpre.subset ho)
    · -- it is among those undone
      refine deinitOls_serves (fun _ _ => hit.deinit) (fun o ho => hothers o ?_) hup hdeinit
      rcases List.mem_append.mp ho with ho | ho
      · exact List.mem_append_left _ ho
      · exact List.mem_append_right _ (hlater.subset ho)
  · rename_i hr
    cases hrun
    rw [if_pos (not_not.mp hr)]
    rcases hloop with ⟨hne, -⟩ | ⟨hup, -⟩
    · exact absurd (not_not.mp hr) hne
    · exact hup

/-- **A notification** moves it on, if the offload's own handler does. -/
theorem pmOls_serves {st : OlPmSt} {Up' : S → Prop}
    (hit : ∀ s s', Up s → it.pm olInfo st s = some s' → Up' s')
    (hbefore : ∀ o ∈ before, o.Keeps olInfo Up) (hafter : ∀ o ∈ after, o.Keeps olInfo Up')
    (hs : Up s) (hrun : pmOls olInfo st (before ++ it :: after) s = some s') : Up' s' := by
  have happend : pmOls olInfo st (before ++ it :: after) s =
      (pmOls olInfo st before s).bind fun s =>
        (it.pm olInfo st s).bind (pmOls olInfo st after) := by
    simp only [pmOls, List.foldlM_append, List.foldlM_cons]
    rfl
  rw [happend] at hrun
  obtain ⟨s₁, h₁, hrun⟩ := Option.bind_eq_some_iff.mp hrun
  obtain ⟨s₂, h₂, h₃⟩ := Option.bind_eq_some_iff.mp hrun
  exact pmOls_keeps hafter (hit s₁ s₂ (pmOls_keeps hbefore hs h₁) h₂) h₃

end Serves

/-! ### The packet filter among the others -/

/-- The filters in the firmware, if there were none at first. -/
def OlContexts.pfTable (s : OlContexts) : PfTable := PfTable.after (fun _ => none) s.pfStatics.2

/-- There are no filters in the firmware. -/
def OlContexts.Unfiltered (s : OlContexts) : Prop := ∀ id, s.pfTable id = none

/-- The packet filter is up, after the notifications `ns`. -/
structure OlContexts.Filtered (ol : Handle) (cfg : List CyPfOlCfg) (ns : List OlPmSt)
    (s : OlContexts) : Prop where
  ctxt : ∃ whd, s.pf ol = ⟨some cfg, some whd⟩
  table : AsConfigured cfg (fun _ => none) (powerState ns) s.pfTable

namespace BuiltinDesc

/-- The packet filter. -/
def isPf : BuiltinDesc → Bool
  | .pf _ _ => true
  | _ => false

variable {answer : ℤ} {olInfo : OlInfo} {it : BuiltinDesc}

/-- **The other offloads** have no part in filtering. -/
theorem keeps_pf (hit : it.isPf = false) {I : (Handle → PfOl) × PfBufs × List PfCall → Prop} :
    (it.offload answer).Keeps olInfo fun s => I (s.pf, s.pfStatics) := by
  have htrue : ∀ {C : Type} (it : Offload C), it.Keeps olInfo fun _ => True :=
    fun _ => ⟨fun _ _ => trivial, fun _ _ => trivial, fun _ _ => trivial⟩
  cases it <;> rw [offload]
  case pf => cases hit
  all_goals exact (htrue _).on (fun _ _ => trivial) fun _ _ hs _ => hs

theorem keeps_unfiltered (hit : it.isPf = false) :
    (it.offload answer).Keeps olInfo OlContexts.Unfiltered :=
  keeps_pf (I := fun p => ∀ id, PfTable.after (fun _ => none) p.2.2 id = none) hit

theorem keeps_filtered (hit : it.isPf = false) (ol : Handle) (cfg : List CyPfOlCfg)
    (ns : List OlPmSt) : (it.offload answer).Keeps olInfo (OlContexts.Filtered ol cfg ns) := by
  have h : (it.offload answer).Keeps olInfo fun s =>
      (∃ whd, s.pf ol = ⟨some cfg, some whd⟩) ∧
        AsConfigured cfg (fun _ => none) (powerState ns) s.pfTable :=
    keeps_pf (I := fun p => (∃ whd, p.1 ol = ⟨some cfg, some whd⟩) ∧
      AsConfigured cfg (fun _ => none) (powerState ns) (PfTable.after (fun _ => none) p.2.2)) hit
  exact ⟨fun hs hrun => (h.init ⟨hs.1, hs.2⟩ hrun).elim fun a b => ⟨a, b⟩,
    fun hs hrun => (h.deinit ⟨hs.1, hs.2⟩ hrun).elim fun a b => ⟨a, b⟩,
    fun hs hrun => (h.pm ⟨hs.1, hs.2⟩ hrun).elim fun a b => ⟨a, b⟩⟩

/-! ### The packet filter itself -/

section Pf

variable {ol : Handle} {cfg : Option (List CyPfOlCfg)} {s s' : OlContexts} {result : ℤ}

theorem pf_init {entries : List CyPfOlCfg}
    (h : ((pf ol (some entries)).offload answer).init olInfo s = some (result, s')) :
    result = resultOk ∧ s'.pf ol = ⟨some entries, olInfo.whd⟩ ∧
      s'.pfStatics.2 = s.pfStatics.2 ++ (cylpaPfOlInit s.pfStatics.1 olInfo entries).calls := by
  cases h
  exact ⟨rfl, Function.update_self .., rfl⟩

theorem pf_deinit (h : ((pf ol cfg).offload answer).deinit olInfo s = some s') :
    s'.pf ol = s.pf ol ∧
      s'.pfStatics.2 = s.pfStatics.2 ++ cylpaPfOlDeinit (some (s.pf ol)) := by
  cases h
  exact ⟨Function.update_self .., rfl⟩

theorem pf_pm {st : OlPmSt} (h : ((pf ol cfg).offload answer).pm olInfo st s = some s') :
    s'.pf ol = s.pf ol ∧
      s'.pfStatics.2 = s.pfStatics.2 ++ cylpaPfOlPm (some (s.pf ol)) st := by
  cases h
  exact ⟨Function.update_self .., rfl⟩

/-- The table after some calls more. -/
theorem pfTable_append {calls : List PfCall} (h : s'.pfStatics.2 = s.pfStatics.2 ++ calls) :
    s'.pfTable = s.pfTable.after calls := by
  rw [OlContexts.pfTable, h, PfTable.after_append]
  rfl

/-- Where no filter is added there are still none. -/
theorem unfiltered_after {calls : List PfCall} (hs : s.Unfiltered)
    (hcalls : ∀ c ∈ calls, c.effect none = none)
    (h : s'.pfStatics.2 = s.pfStatics.2 ++ calls) : s'.Unfiltered := by
  intro id
  have heffects : ∀ cs : List PfCall, (∀ c ∈ cs, c.effect none = none) →
      Keyed.effects PfCall.effect none cs = none := by
    intro cs hcs
    induction cs with
    | nil => rfl
    | cons c cs ih =>
        have hc : PfCall.effect c none = none := hcs c List.mem_cons_self
        rw [Keyed.effects, List.foldl_cons, hc]
        exact ih fun c' hc' => hcs c' (List.mem_cons_of_mem _ hc')
  rw [pfTable_append h, PfTable.after, Keyed.run_apply, hs id]
  exact heffects _ fun c hc => hcalls c (List.mem_of_mem_filter hc)

theorem effect_none_of_mem_pmEntry {st : OlPmSt} {e : CyPfOlCfg} {c : PfCall}
    (hc : c ∈ pmEntry st e) : c.effect none = none := by
  unfold pmEntry at hc
  split at hc
  · cases hc
  · cases st with
    | max => cases hc
    | goingToSleep =>
        dsimp only at hc
        split at hc <;> rw [List.mem_singleton.mp hc] <;> rfl
    | awake =>
        dsimp only at hc
        split at hc <;> rw [List.mem_singleton.mp hc] <;> rfl

/-- **No offload** puts a filter where there is none, but when it is initialised. -/
theorem deinit_unfiltered (it : BuiltinDesc) (hs : s.Unfiltered)
    (h : (it.offload answer).deinit olInfo s = some s') : s'.Unfiltered := by
  cases it with
  | pf ol cfg =>
      refine unfiltered_after hs (fun c hc => ?_) (pf_deinit h).2
      unfold cylpaPfOlDeinit at hc
      split at hc
      · obtain ⟨e, -, hc⟩ := List.mem_flatMap.mp hc
        rw [List.mem_singleton.mp hc]
        rfl
      · cases hc
  | _ => exact (keeps_unfiltered rfl).deinit hs h

theorem pm_unfiltered {st : OlPmSt} (it : BuiltinDesc) (hs : s.Unfiltered)
    (h : (it.offload answer).pm olInfo st s = some s') : s'.Unfiltered := by
  cases it with
  | pf ol cfg =>
      refine unfiltered_after hs (fun c hc => ?_) (pf_pm h).2
      unfold cylpaPfOlPm at hc
      split at hc
      · obtain ⟨e, -, hc⟩ := List.mem_flatMap.mp hc
        exact effect_none_of_mem_pmEntry hc
      · cases hc
  | _ => exact (keeps_unfiltered rfl).pm hs h

end Pf

section Filtered

variable {ol : Handle} {cfg : List CyPfOlCfg} {s s' : OlContexts} {ns : List OlPmSt}

/-- **Deinitialisation** removes the filters, whatever the power state. -/
theorem filtered_deinit (hids : (cfg.map (·.id)).Nodup) (hs : s.Filtered ol cfg ns)
    (h : ((pf ol (some cfg)).offload answer).deinit olInfo s = some s') : s'.Unfiltered := by
  obtain ⟨⟨whd, hctxt⟩, hcfg, hother⟩ := hs
  have hcalls : cylpaPfOlDeinit (some (s.pf ol)) = cfg.flatMap fun e => [.remove e.id] := by
    rw [hctxt, cylpaPfOlDeinit]
  have hkey : ∀ e : CyPfOlCfg, ∀ c ∈ [PfCall.remove e.id], PfCall.id c = e.id := by
    intro e c hc
    rw [List.mem_singleton.mp hc, PfCall.id]
  intro id
  rw [pfTable_append ((pf_deinit h).2.trans (by rw [hcalls])), PfTable.after]
  by_cases hid : id ∈ cfg.map (·.id)
  · obtain ⟨e, he, rfl⟩ := List.mem_map.mp hid
    rw [Keyed.run_flatMap _ hkey hids he]
    rfl
  · rw [Keyed.run_flatMap_of_notMem _ hkey hid, hother id hid]

/-- **The packet filter** goes up and down. -/
theorem pf_serves (hids : (cfg.map (·.id)).Nodup) (hknown : ∀ e ∈ cfg, e.feature.known)
    (hwhd : olInfo.whd ≠ none) :
    ((pf ol (some cfg)).offload answer).Serves olInfo OlContexts.Unfiltered
      (OlContexts.Filtered ol cfg []) where
  init {s s' result} hs h := by
    obtain ⟨hr, hctxt, hcalls⟩ := pf_init h
    obtain ⟨whd, hwhd⟩ := Option.ne_none_iff_exists'.mp hwhd
    rw [if_pos hr]
    refine ⟨⟨whd, hwhd ▸ hctxt⟩, ?_⟩
    rw [pfTable_append hcalls, show s.pfTable = fun _ => none from funext hs]
    exact asConfigured_init _ _ hids hknown _
  deinit hs h := filtered_deinit hids hs h

/-- **A notification** moves the filters on. -/
theorem filtered_pm {st : OlPmSt} (hids : (cfg.map (·.id)).Nodup) (hs : s.Filtered ol cfg ns)
    (h : ((pf ol (some cfg)).offload answer).pm olInfo st s = some s') :
    s'.Filtered ol cfg (ns ++ [st]) := by
  obtain ⟨⟨whd, hctxt⟩, htable⟩ := hs
  obtain ⟨hsame, hcalls⟩ := pf_pm h
  have hpm : cylpaPfOlPm (some (s.pf ol)) st = cfg.flatMap (pmEntry st) := by
    rw [hctxt, cylpaPfOlPm]
  refine ⟨⟨whd, hsame.trans hctxt⟩, ?_⟩
  rw [pfTable_append hcalls, hpm, powerState_append]
  exact htable.pass hids (id_of_mem_pmEntry st) fun e =>
    effects_pmEntry e (powerState_ne_max ns) st

end Filtered

end BuiltinDesc

/-! ### Lists with one packet filter -/

/-- At most one packet filter, its entries with distinct ids and features it knows. -/
structure PfFits (its : List BuiltinDesc) : Prop where
  one : its.countP BuiltinDesc.isPf ≤ 1
  ids : ∀ ol cfg, .pf ol (some cfg) ∈ its → (cfg.map (·.id)).Nodup
  known : ∀ ol cfg, .pf ol (some cfg) ∈ its → ∀ e ∈ cfg, e.feature.known

/-- The offloads of the list are up, the packet filter after the notifications `ns`. -/
def Running (its : List BuiltinDesc) (ns : List OlPmSt) (s : OlContexts) : Prop :=
  ((∀ it ∈ its, it.isPf = false) ∧ s.Unfiltered) ∨
    ∃ ol cfg, .pf ol (some cfg) ∈ its ∧ s.Filtered ol cfg ns

section Lists

variable {its : List BuiltinDesc} {items : List (BuiltinDesc × ℤ)} {olInfo : OlInfo}
variable {s s' : OlContexts} {ns : List OlPmSt}

/-- The packet filter of the list is its only one. -/
theorem PfFits.split (hfits : PfFits its) (hitems : items.map Prod.fst = its)
    {it : BuiltinDesc × ℤ} (hmem : it ∈ items) (hpf : it.1.isPf = true) :
    ∃ before after, items = before ++ it :: after ∧ ∀ o ∈ before ++ after, o.1.isPf = false := by
  obtain ⟨before, after, rfl⟩ := List.append_of_mem hmem
  have hone := hfits.one
  rw [← hitems, List.countP_map, List.countP_append, List.countP_cons_of_pos (by simpa using hpf)]
    at hone
  refine ⟨before, after, rfl, fun o ho => ?_⟩
  have hnone : (before ++ after).countP (BuiltinDesc.isPf ∘ Prod.fst) = 0 := by
    rw [List.countP_append]
    omega
  simpa using List.countP_eq_zero.mp hnone o ho

theorem olFns_append (before after : List (BuiltinDesc × ℤ)) (it : BuiltinDesc × ℤ) :
    olFns (before ++ it :: after) = olFns before ++ it.1.offload it.2 :: olFns after := by
  rw [olFns, List.map_append, List.map_cons]
  rfl

/-- Entries that are not the packet filter. -/
theorem leaveAlone_olFns (hothers : ∀ o ∈ items, o.1.isPf = false) (ol : Handle)
    (cfg : List CyPfOlCfg) (ns : List OlPmSt) :
    LeaveAlone olInfo (olFns items) OlContexts.Unfiltered (OlContexts.Filtered ol cfg ns) := by
  intro o ho
  obtain ⟨it, hit, rfl⟩ := List.mem_map.mp ho
  exact ⟨BuiltinDesc.keeps_unfiltered (hothers it hit),
    BuiltinDesc.keeps_filtered (hothers it hit) ol cfg ns⟩

/-- **Deinitialisation** leaves no filter, whether the offloads are up or not. -/
theorem deinitOls_unfiltered (hs : s.Unfiltered)
    (hrun : deinitOls olInfo (olFns items) s = some s') : s'.Unfiltered := by
  refine Runs.foldlM_keeps (fun o ho s s' hs h => ?_) hs hrun
  obtain ⟨it, -, rfl⟩ := List.mem_map.mp ho
  exact BuiltinDesc.deinit_unfiltered it.1 hs h

theorem pmOls_unfiltered {st : OlPmSt} (hs : s.Unfiltered)
    (hrun : pmOls olInfo st (olFns items) s = some s') : s'.Unfiltered := by
  refine Runs.foldlM_keeps (fun o ho s s' hs h => ?_) hs hrun
  obtain ⟨it, -, rfl⟩ := List.mem_map.mp ho
  exact BuiltinDesc.pm_unfiltered it.1 hs h

theorem Running.deinit (hfits : PfFits its) (hitems : items.map Prod.fst = its)
    (hs : Running its ns s) (hrun : deinitOls olInfo (olFns items) s = some s') :
    s'.Unfiltered := by
  rcases hs with ⟨-, hs⟩ | ⟨ol, cfg, hmem, hs⟩
  · exact deinitOls_unfiltered hs hrun
  · obtain ⟨it, hit, hfst⟩ := List.mem_map.mp (hitems ▸ hmem)
    obtain ⟨before, after, rfl, hothers⟩ := hfits.split hitems hit (by rw [hfst]; rfl)
    obtain ⟨desc, answer⟩ := it
    subst hfst
    rw [olFns_append] at hrun
    refine deinitOls_serves (fun s s' => BuiltinDesc.filtered_deinit (hfits.ids ol cfg hmem)) ?_
      hs hrun
    rw [olFns, olFns, ← List.map_append]
    exact leaveAlone_olFns hothers ol cfg ns

theorem Running.pm {st : OlPmSt} (hfits : PfFits its) (hitems : items.map Prod.fst = its)
    (hs : Running its ns s) (hrun : pmOls olInfo st (olFns items) s = some s') :
    Running its (ns ++ [st]) s' := by
  rcases hs with ⟨hnone, hs⟩ | ⟨ol, cfg, hmem, hs⟩
  · exact .inl ⟨hnone, pmOls_unfiltered hs hrun⟩
  · obtain ⟨it, hit, hfst⟩ := List.mem_map.mp (hitems ▸ hmem)
    obtain ⟨before, after, rfl, hothers⟩ := hfits.split hitems hit (by rw [hfst]; rfl)
    obtain ⟨desc, answer⟩ := it
    subst hfst
    rw [olFns_append] at hrun
    refine .inr ⟨ol, cfg, hmem, pmOls_serves
      (fun s s' => BuiltinDesc.filtered_pm (hfits.ids ol cfg hmem)) (fun o ho => ?_)
      (fun o ho => ?_) hs hrun⟩
    · exact (leaveAlone_olFns (fun o ho => hothers o (List.mem_append_left _ ho)) ol cfg ns o
        ho).2
    · exact (leaveAlone_olFns (fun o ho => hothers o (List.mem_append_right _ ho)) ol cfg
        (ns ++ [st]) o ho).2

/-- **Initialisation** brings the packet filter up, or leaves no filter. -/
theorem initOls_running {olm olm' : Manager OlContexts} {whd : Handle} {ip : Option Handle}
    {result : ℤ} (hfits : PfFits its) (hitems : items.map Prod.fst = its)
    (hlist : olm.olList = some (olFns items)) (hs : s.Unfiltered)
    (hrun : cylpaOlmInitOls olm (some whd) ip s = some (result, olm', s')) :
    if result = resultOk then Running its [] s' else s'.Unfiltered := by
  by_cases hpf : ∃ it ∈ items, it.1.isPf = true
  · obtain ⟨⟨desc, answer⟩, hit, hpf⟩ := hpf
    obtain ⟨before, after, rfl, hothers⟩ := hfits.split hitems hit hpf
    rw [olFns_append] at hlist
    cases desc with
    | pf ol cfg =>
        have hmem : .pf ol cfg ∈ its := hitems ▸ List.mem_map_of_mem hit
        have halone : ∀ cfg, LeaveAlone { olm.olInfo with whd := some whd, ip := ip }
            (olFns before ++ olFns after) OlContexts.Unfiltered
              (OlContexts.Filtered ol cfg []) := by
          intro cfg
          rw [olFns, olFns, ← List.map_append]
          exact leaveAlone_olFns hothers ol cfg []
        cases cfg with
        | none =>
            -- it would have no result
            have hserves : ((BuiltinDesc.pf ol none).offload answer).Serves
                { olm.olInfo with whd := some whd, ip := ip } OlContexts.Unfiltered
                  fun _ => False :=
              ⟨fun _ h => (by cases h), fun h _ => h.elim⟩
            have hserved := cylpaOlmInitOls_serves hlist hserves
              (fun o ho => ⟨(halone [] o ho).1, fun h _ => h.elim, fun h _ => h.elim,
                fun h _ => h.elim⟩) hs hrun
            split at hserved
            · exact hserved.elim
            · rename_i hr
              rw [if_neg hr]
              exact hserved
        | some cfg =>
            have hserved := cylpaOlmInitOls_serves hlist
              (BuiltinDesc.pf_serves (hfits.ids ol cfg hmem) (hfits.known ol cfg hmem)
                (Option.some_ne_none whd)) (halone cfg) hs hrun
            split at hserved
            · rename_i hr
              rw [if_pos hr]
              exact .inr ⟨ol, cfg, hmem, hserved⟩
            · rename_i hr
              rw [if_neg hr]
              exact hserved
    | _ => cases hpf
  · have hnone : ∀ it ∈ items, it.1.isPf = false := fun it hit =>
      Bool.eq_false_iff.mpr fun h => hpf ⟨it, hit, h⟩
    have hs' : s'.Unfiltered := by
      refine cylpaOlmInitOls_keeps (fun its hits o ho => ?_) hs hrun
      obtain rfl := Option.some.inj (hlist.symm.trans hits)
      exact (leaveAlone_olFns hnone 0 [] [] o ho).1
    split
    · refine .inl ⟨fun it hit => ?_, hs'⟩
      obtain ⟨item, hitem, rfl⟩ := List.mem_map.mp (hitems ▸ hit)
      exact hnone item hitem
    · exact hs'

end Lists

/-! ### Sessions -/

/-- **What the program can get to**, and the notifications since the offloads went up, if they are
up.  The list is set, and the offloads are initialised, only while they are down; they are
deinitialised and notified at any time.  No pointer that is `NULL` has been followed. -/
inductive OlmSession : OlmRun → Option (List OlPmSt) → Prop where
  | boot (olInfo : OlInfo) : OlmSession ⟨⟨none, olInfo⟩, .boot⟩ none
  | init {s s' : OlmRun} (olList : Option (List BuiltinDesc)) (fwcap : Option Bool)
      (hlist : ∀ its, olList = some its → PfFits its) (hs : OlmSession s none)
      (hstep : s.step (.init olList fwcap) = some s') : OlmSession s' none
  | initOls {s : OlmRun} (whd ip : Handle) (answers : ℕ → ℤ) {result : ℤ}
      {olm' : Manager OlContexts} {contexts' : OlContexts} (hs : OlmSession s none)
      (hstep : cylpaOlmInitOls (s.manager answers) (some whd) (some ip) s.contexts =
        some (result, olm', contexts')) :
      OlmSession ⟨{ s.olm with olInfo := olm'.olInfo }, contexts'⟩
        (if result = resultOk then some [] else none)
  | deinitOls {s s' : OlmRun} {up : Option (List OlPmSt)} (hs : OlmSession s up)
      (hstep : s.step .deinitOls = some s') : OlmSession s' none
  | notify {s s' : OlmRun} {up : Option (List OlPmSt)} {st : OlPmSt} (hs : OlmSession s up)
      (hstep : s.step (.notify st) = some s') : OlmSession s' (up.map (· ++ [st]))

/-- What holds of a session. -/
structure SessionInv (s : OlmRun) (up : Option (List OlPmSt)) : Prop where
  fits : ∀ its, s.olm.olList = some its → PfFits its
  down : up = none → s.contexts.Unfiltered
  running : ∀ ns, up = some ns → s.olm.olInfo.whd ≠ none ∧
    ∃ its, s.olm.olList = some its ∧ Running its ns s.contexts

section Session

variable {s s' : OlmRun} {up : Option (List OlPmSt)} {its : List BuiltinDesc}

theorem pfFits_nil : PfFits [] :=
  ⟨Nat.zero_le 1, fun _ _ h => (by cases h), fun _ _ h => (by cases h)⟩

theorem manager_olList (hlist : s.olm.olList = some its) (answers : ℕ → ℤ) :
    ∃ items, items.map Prod.fst = its ∧ (s.manager answers).olList = some (olFns items) := by
  refine ⟨its.mapIdx fun i it => (it, answers i), ?_, ?_⟩
  · refine List.ext_getElem? fun i => ?_
    rw [List.getElem?_map, List.getElem?_mapIdx, Option.map_map]
    exact Option.map_id'
  · rw [OlmRun.manager, OlmRun.items, hlist, Option.map_some, Option.map_some]

theorem SessionInv.init {olList : Option (List BuiltinDesc)} {fwcap : Option Bool}
    (hlist : ∀ its, olList = some its → PfFits its) (hs : SessionInv s none)
    (hstep : s.step (.init olList fwcap) = some s') : SessionInv s' none := by
  cases hstep
  refine ⟨fun its hits => ?_, hs.down, fun _ h => nomatch h⟩
  have holm : (cylpaOlmInit s.olm olList fwcap).olList = some (olList.getD []) := by
    unfold cylpaOlmInit
    cases fwcap <;> dsimp only <;> split <;> rfl
  obtain rfl := Option.some.inj (holm.symm.trans hits)
  cases olList with
  | none => exact pfFits_nil
  | some its => exact hlist its rfl

theorem SessionInv.initOls {whd ip : Handle} {answers : ℕ → ℤ} {result : ℤ}
    {olm' : Manager OlContexts} {contexts' : OlContexts} (hs : SessionInv s none)
    (hstep : cylpaOlmInitOls (s.manager answers) (some whd) (some ip) s.contexts =
      some (result, olm', contexts')) :
    SessionInv ⟨{ s.olm with olInfo := olm'.olInfo }, contexts'⟩
      (if result = resultOk then some [] else none) := by
  have holm := cylpaOlmInitOls_olm hstep
  have hwhd : olm'.olInfo.whd ≠ none := by
    rw [holm]
    exact Option.some_ne_none whd
  cases hlist : s.olm.olList with
  | none =>
      -- without a list nothing is done
      have hnone : (s.manager answers).olList = none := by
        rw [OlmRun.manager, OlmRun.items, hlist, Option.map_none, Option.map_none]
      unfold cylpaOlmInitOls at hstep
      simp only [hnone] at hstep
      cases hstep
      rw [if_neg (by decide)]
      exact ⟨fun its h => absurd (hlist.symm.trans h) nofun, hs.down, fun _ h => nomatch h⟩
  | some its =>
      obtain ⟨items, hitems, hfns⟩ := manager_olList hlist answers
      have hrunning := initOls_running (hs.fits its hlist) hitems hfns (hs.down rfl) hstep
      split
      · rename_i hr
        rw [if_pos hr] at hrunning
        refine ⟨hs.fits, fun h => (nomatch h), fun ns h => ?_⟩
        obtain rfl := Option.some.inj h
        exact ⟨hwhd, its, hlist, hrunning⟩
      · rename_i hr
        rw [if_neg hr] at hrunning
        exact ⟨hs.fits, fun _ => hrunning, fun _ h => nomatch h⟩

theorem SessionInv.deinitOls (hs : SessionInv s up) (hstep : s.step .deinitOls = some s') :
    SessionInv s' none := by
  obtain ⟨contexts', hdeinit, rfl⟩ := Option.map_eq_some_iff.mp hstep
  refine ⟨hs.fits, fun _ => ?_, fun _ h => nomatch h⟩
  unfold cylpaOlmDeinitOls at hdeinit
  cases hlist : s.olm.olList with
  | none =>
      have hnone : (s.manager fun _ => whdSuccess).olList = none := by
        rw [OlmRun.manager, OlmRun.items, hlist, Option.map_none, Option.map_none]
      simp only [hnone] at hdeinit
      cases hdeinit
      refine hs.down ?_
      cases up with
      | none => rfl
      | some ns =>
          obtain ⟨-, its, hits, -⟩ := hs.running ns rfl
          exact absurd (hlist.symm.trans hits) nofun
  | some its =>
      obtain ⟨items, hitems, hfns⟩ := manager_olList hlist fun _ => whdSuccess
      simp only [hfns] at hdeinit
      cases up with
      | none => exact deinitOls_unfiltered (hs.down rfl) hdeinit
      | some ns =>
          obtain ⟨-, its', hits, hrunning⟩ := hs.running ns rfl
          obtain rfl := Option.some.inj (hlist.symm.trans hits)
          exact hrunning.deinit (hs.fits its hlist) hitems hdeinit

theorem SessionInv.notify {st : OlPmSt} (hs : SessionInv s up)
    (hstep : s.step (.notify st) = some s') : SessionInv s' (up.map (· ++ [st])) := by
  obtain ⟨contexts', hdispatch, rfl⟩ := Option.map_eq_some_iff.mp hstep
  unfold Manager.dispatch at hdispatch
  cases up with
  | none =>
      refine ⟨hs.fits, fun _ => ?_, fun _ h => nomatch h⟩
      cases hlist : s.olm.olList with
      | none =>
          have hnone : (s.manager fun _ => whdSuccess).olList = none := by
            rw [OlmRun.manager, OlmRun.items, hlist, Option.map_none, Option.map_none]
          simp only [hnone] at hdispatch
          cases hdispatch
          exact hs.down rfl
      | some its =>
          obtain ⟨items, hitems, hfns⟩ := manager_olList hlist fun _ => whdSuccess
          simp only [hfns] at hdispatch
          split at hdispatch
          · rename_i hits _
            obtain rfl := Option.some.inj hits
            exact pmOls_unfiltered (hs.down rfl) hdispatch
          · cases hdispatch
            exact hs.down rfl
  | some ns =>
      obtain ⟨hwhd, its, hlist, hrunning⟩ := hs.running ns rfl
      obtain ⟨items, hitems, hfns⟩ := manager_olList hlist fun _ => whdSuccess
      obtain ⟨whd, hwhd'⟩ := Option.ne_none_iff_exists'.mp hwhd
      have hinfo : (s.manager fun _ => whdSuccess).olInfo.whd = some whd := hwhd'
      simp only [hfns, hinfo] at hdispatch
      refine ⟨hs.fits, fun h => (nomatch h), fun ns' h => ?_⟩
      obtain rfl := Option.some.inj h
      exact ⟨hwhd, its, hlist, hrunning.pm (hs.fits its hlist) hitems hdispatch⟩

theorem OlmSession.inv (h : OlmSession s up) : SessionInv s up := by
  induction h with
  | boot olInfo => exact ⟨fun _ h => (nomatch h), fun _ _ => rfl, fun _ h => nomatch h⟩
  | init _ _ hlist _ hstep ih => exact ih.init hlist hstep
  | initOls _ _ _ _ hstep ih => exact ih.initOls hstep
  | deinitOls _ hstep ih => exact ih.deinitOls hstep
  | notify _ hstep ih => exact ih.notify hstep

/-- A table as configured is the one there should be. -/
theorem AsConfigured.eq {cfg : List CyPfOlCfg} {st : OlPmSt} {t : PfTable}
    (h : AsConfigured cfg (fun _ => none) st t) (id : UInt8) :
    t id = (cfg.find? (·.id = id)).map (·.activeIn st) := by
  cases hfind : cfg.find? (·.id = id) with
  | none =>
      refine h.2 id fun hid => ?_
      obtain ⟨e, he, rfl⟩ := List.mem_map.mp hid
      have := List.find?_eq_none.mp hfind e he
      simp at this
  | some e =>
      have hid : e.id = id := by simpa using List.find?_some hfind
      rw [← hid, h.1 e (List.mem_of_find?_eq_some hfind), Option.map_some]

end Session

end Lpa
