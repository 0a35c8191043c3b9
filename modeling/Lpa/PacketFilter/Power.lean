import Lpa.PacketFilter.Filter
import Lpa.Support.Keyed

/-!
# Packet filter — filters over power-mode notifications

`cylpa_pf_ol_init` adds every configured filter and enables those active while awake; each
notification then enables or disables the filters of the power state it announces, one by one,
leaving alone those active in both.  The offload keeps no record of what it has enabled: what is
in force is the firmware's own table, and the code only ever tells it the next difference.

The calls are the model's output and the table their fold (`PfCall`, `PfTable`); as every call
acts on one id, each filter is followed on its own (`Keyed`).

* `pfOlPm_keeps`: a filter in force as the power state asks for is so after a notification.
* `pf_enabled_exactly`: hence, over any run, the enabled filters are those the power state asks for.
-/

namespace Lpa

/-- A call into the packet-filter interface of the driver. -/
inductive PfCall where
  | add (filter : WhdPacketFilter)
  | enable (id : UInt8)
  | disable (id : UInt8)
  | remove (id : UInt8)
  | getStats (id : UInt8)
deriving DecidableEq, Repr

/-- `pf_ol_t`. -/
structure PfOl where
  cfg : Option (List CyPfOlCfg)
  whd : Option Handle
deriving DecidableEq, Repr

/-- What `cylpa_pf_ol_init` leaves behind: its result, the context, the buffers, its calls. -/
structure PfInit where
  result : ℤ
  ctxt : PfOl
  bufs : PfBufs
  calls : List PfCall

/-- The second loop of `cylpa_pf_ol_init`: filters active while awake. -/
def enableWake (e : CyPfOlCfg) : List PfCall :=
  if e.bits &&& cyPfActiveWake ≠ 0 then [.enable e.id] else []

/-- `cylpa_dump_filters_stats`. -/
def cylpaDumpFiltersStats (cfg : List CyPfOlCfg) : List PfCall :=
  cfg.flatMap fun e => [.getStats e.id]

def cylpaPfOlInit (bufs : PfBufs) (info : OlInfo) (cfg : List CyPfOlCfg) : PfInit :=
  let (bufs, filters) := createFilters bufs cfg
  { result := resultOk, ctxt := { cfg := some cfg, whd := info.whd }, bufs := bufs,
    calls := filters.map .add ++ cfg.flatMap enableWake ++ cylpaDumpFiltersStats cfg }

/-- What `cylpa_pf_ol_pm` does with one entry. -/
def pmEntry (st : OlPmSt) (e : CyPfOlCfg) : List PfCall :=
  if e.bits &&& (cyPfActiveSleep ||| cyPfActiveWake) = cyPfActiveSleep ||| cyPfActiveWake then []
  else
    match st with
    | .goingToSleep =>
      if e.bits &&& cyPfActiveSleep ≠ 0 then [.enable e.id] else [.disable e.id]
    | .awake =>
      if e.bits &&& cyPfActiveWake ≠ 0 then [.enable e.id] else [.disable e.id]
    | .max => []

/-- `cylpa_pf_ol_pm`: its calls. -/
def cylpaPfOlPm (ctxt : Option PfOl) (st : OlPmSt) : List PfCall :=
  match ctxt with
  | some { cfg := some cfg, whd := some _ } => cfg.flatMap (pmEntry st)
  | _ => []

/-- `cylpa_pf_ol_deinit`: its calls. -/
def cylpaPfOlDeinit (ctxt : Option PfOl) : List PfCall :=
  match ctxt with
  | some { cfg := some cfg, whd := some _ } => cfg.flatMap fun e => [.remove e.id]
  | _ => []

/-! ### The firmware's table -/

/-- The filters in the firmware and whether they are enabled. -/
abbrev PfTable := UInt8 → Option Bool

/-- The filter a call is about. -/
def PfCall.id : PfCall → UInt8
  | .add filter => filter.id
  | .enable id => id
  | .disable id => id
  | .remove id => id
  | .getStats id => id

/-- What a call makes of its filter. -/
def PfCall.effect : PfCall → Option Bool → Option Bool
  | .add _, _ => some false
  | .enable _, v => v.map fun _ => true
  | .disable _, v => v.map fun _ => false
  | .remove _, _ => none
  | .getStats _, v => v

/-- The table after some calls. -/
def PfTable.after (t : PfTable) (calls : List PfCall) : PfTable :=
  Keyed.run PfCall.id PfCall.effect t calls

/-- The filters that are enabled. -/
def PfTable.enabled (t : PfTable) : Set UInt8 := { id | t id = some true }

theorem PfTable.after_append (t : PfTable) (xs ys : List PfCall) :
    t.after (xs ++ ys) = (t.after xs).after ys :=
  Keyed.run_append _ _ t xs ys

/-- The filter is meant to be active in the power state. -/
def CyPfOlCfg.activeIn (e : CyPfOlCfg) : OlPmSt → Bool
  | .goingToSleep => e.bits &&& cyPfActiveSleep ≠ 0
  | _ => e.bits &&& cyPfActiveWake ≠ 0

/-! ### The calls on one filter -/

theorem both_active_iff (bits : UInt32) :
    bits &&& (cyPfActiveSleep ||| cyPfActiveWake) = cyPfActiveSleep ||| cyPfActiveWake ↔
      bits &&& cyPfActiveSleep ≠ 0 ∧ bits &&& cyPfActiveWake ≠ 0 := by
  have hor : (bits &&& (cyPfActiveSleep ||| cyPfActiveWake)).toNat = bits.toNat % 4 := by
    rw [UInt32.toNat_and]
    exact Nat.and_two_pow_sub_one_eq_mod bits.toNat 2
  have hsleep : (bits &&& cyPfActiveSleep).toNat = bits.toNat % 2 := by
    rw [UInt32.toNat_and]
    exact Nat.and_two_pow_sub_one_eq_mod bits.toNat 1
  have hwake : (bits &&& cyPfActiveWake).toNat = 2 * (bits.toNat / 2 % 2) := by
    rw [UInt32.toNat_and]
    refine (Nat.and_two_pow bits.toNat 1).trans ?_
    rw [Nat.testBit_succ, Nat.testBit_zero]
    rcases Nat.mod_two_eq_zero_or_one (bits.toNat / 2) with h | h <;> simp [h]
  have h3 : (cyPfActiveSleep ||| cyPfActiveWake).toNat = 3 := rfl
  rw [Ne, Ne, ← UInt32.toNat_inj, ← UInt32.toNat_inj, ← UInt32.toNat_inj, hor, hsleep, hwake, h3,
    UInt32.toNat_zero]
  omega

theorem id_of_mem_enableWake : ∀ e, ∀ c ∈ enableWake e, PfCall.id c = e.id := by
  intro e c hc
  unfold enableWake at hc
  split at hc <;> simp only [List.mem_singleton, List.not_mem_nil] at hc
  rw [hc, PfCall.id]

theorem id_of_mem_pmEntry (st : OlPmSt) : ∀ e, ∀ c ∈ pmEntry st e, PfCall.id c = e.id := by
  intro e c hc
  unfold pmEntry at hc
  split at hc
  · simp at hc
  · cases st with
    | max => simp at hc
    | goingToSleep =>
        dsimp only at hc
        split at hc <;> rw [List.mem_singleton.mp hc, PfCall.id]
    | awake =>
        dsimp only at hc
        split at hc <;> rw [List.mem_singleton.mp hc, PfCall.id]

/-- A filter active in both power states gets no calls. -/
theorem pmEntry_of_both {e : CyPfOlCfg} (st : OlPmSt)
    (h : e.activeIn .goingToSleep ∧ e.activeIn .awake) : pmEntry st e = [] := by
  unfold CyPfOlCfg.activeIn at h
  unfold pmEntry
  rw [if_pos ((both_active_iff e.bits).mpr (by simpa using h))]

/-- **A notification** leaves a filter as the power state asks for. -/
theorem effects_pmEntry (e : CyPfOlCfg) {s : OlPmSt} (hs : s ≠ .max) (st : OlPmSt) :
    Keyed.effects PfCall.effect (some (e.activeIn s)) (pmEntry st e) =
      some (e.activeIn (s.next st)) := by
  by_cases h : e.activeIn .goingToSleep ∧ e.activeIn .awake
  · have hall : ∀ s, s ≠ .max → e.activeIn s = true := by
      intro s hs
      cases s with
      | max => exact absurd rfl hs
      | goingToSleep => exact h.1
      | awake => exact h.2
    have hnext : s.next st ≠ .max := by cases st <;> simp [OlPmSt.next, hs]
    rw [pmEntry_of_both st h, hall _ hs, hall _ hnext]
    rfl
  · have hb := (both_active_iff e.bits).not.mpr (by simpa [CyPfOlCfg.activeIn] using h)
    unfold pmEntry
    rw [if_neg hb]
    cases st with
    | max => rfl
    | goingToSleep =>
        by_cases ha : e.bits &&& cyPfActiveSleep ≠ 0
        · simp [ha, Keyed.effects, PfCall.effect, OlPmSt.next, CyPfOlCfg.activeIn]
        · simp [ha, Keyed.effects, PfCall.effect, OlPmSt.next, CyPfOlCfg.activeIn]
    | awake =>
        by_cases ha : e.bits &&& cyPfActiveWake ≠ 0
        · simp [ha, Keyed.effects, PfCall.effect, OlPmSt.next, CyPfOlCfg.activeIn]
        · simp [ha, Keyed.effects, PfCall.effect, OlPmSt.next, CyPfOlCfg.activeIn]

/-! ### Runs -/

/-- The filters of the configuration as the power state `s` asks for, all others as in `t₀`. -/
def AsConfigured (cfg : List CyPfOlCfg) (t₀ : PfTable) (s : OlPmSt) (t : PfTable) : Prop :=
  (∀ e ∈ cfg, t e.id = some (e.activeIn s)) ∧ ∀ id, id ∉ cfg.map (·.id) → t id = t₀ id

/-- The whole run: initialisation and the notifications `ns`. -/
def pfRun (bufs : PfBufs) (info : OlInfo) (cfg : List CyPfOlCfg) (ns : List OlPmSt) :
    List PfCall :=
  (cylpaPfOlInit bufs info cfg).calls ++
    ns.flatMap (cylpaPfOlPm (some (cylpaPfOlInit bufs info cfg).ctxt))

section Run

variable (bufs : PfBufs) (info : OlInfo) {cfg : List CyPfOlCfg}
variable (hids : (cfg.map (·.id)).Nodup) (hknown : ∀ e ∈ cfg, e.feature.known)
variable (hwhd : info.whd ≠ none)

include hids in
/-- A pass over the entries that treats each as the power state asks for. -/
theorem AsConfigured.pass {f : CyPfOlCfg → List PfCall} {t t₀ : PfTable} {s s' : OlPmSt}
    (h : AsConfigured cfg t₀ s t) (hf : ∀ e, ∀ c ∈ f e, PfCall.id c = e.id)
    (heff : ∀ e, Keyed.effects PfCall.effect (some (e.activeIn s)) (f e) =
      some (e.activeIn s')) : AsConfigured cfg t₀ s' (t.after (cfg.flatMap f)) := by
  refine ⟨fun e he => ?_, fun id hid => ?_⟩
  · rw [PfTable.after, Keyed.run_flatMap _ hf hids he, h.1 e he, heff]
  · rw [PfTable.after, Keyed.run_flatMap_of_notMem _ hf hid, h.2 id hid]

include hids hknown in
/-- The filters just added are disabled. -/
theorem after_adds (t₀ : PfTable) :
    (∀ e ∈ cfg, t₀.after ((createFilters bufs cfg).2.map .add) e.id = some false) ∧
      ∀ id, id ∉ cfg.map (·.id) →
        t₀.after ((createFilters bufs cfg).2.map .add) id = t₀ id := by
  have hmap := createFilters_ids hknown bufs
  set filters := (createFilters bufs cfg).2
  have hf : ∀ filter : WhdPacketFilter, ∀ c ∈ [PfCall.add filter], PfCall.id c = filter.id := by
    intro filter c hc
    rw [List.mem_singleton.mp hc, PfCall.id]
  rw [List.map_eq_flatMap]
  refine ⟨fun e he => ?_, fun id hid => ?_⟩
  · have hmem : e.id ∈ filters.map (·.id) := hmap ▸ List.mem_map_of_mem he
    obtain ⟨filter, hfilter, heq⟩ := List.mem_map.mp hmem
    rw [← heq, PfTable.after, Keyed.run_flatMap _ hf (hmap ▸ hids) hfilter]
    rfl
  · rw [PfTable.after, Keyed.run_flatMap_of_notMem _ hf (hmap ▸ hid)]

include hids hknown in
/-- **Initialisation** leaves the filters as while awake. -/
theorem asConfigured_init (t₀ : PfTable) :
    AsConfigured cfg t₀ .awake (t₀.after (cylpaPfOlInit bufs info cfg).calls) := by
  obtain ⟨hadd, hother⟩ := after_adds bufs hids hknown t₀
  have hcalls : (cylpaPfOlInit bufs info cfg).calls = (createFilters bufs cfg).2.map .add ++
      cfg.flatMap enableWake ++ cylpaDumpFiltersStats cfg := rfl
  rw [hcalls, PfTable.after_append, PfTable.after_append]
  have hen : AsConfigured cfg t₀ .awake
      ((t₀.after ((createFilters bufs cfg).2.map .add)).after (cfg.flatMap enableWake)) := by
    refine ⟨fun e he => ?_, fun id hid => ?_⟩
    · rw [PfTable.after, Keyed.run_flatMap _ id_of_mem_enableWake hids he, hadd e he]
      by_cases ha : e.bits &&& cyPfActiveWake ≠ 0 <;>
        simp [enableWake, ha, Keyed.effects, PfCall.effect, CyPfOlCfg.activeIn]
    · rw [PfTable.after, Keyed.run_flatMap_of_notMem _ id_of_mem_enableWake hid, hother id hid]
  refine hen.pass hids (fun e c hc => ?_) fun e => rfl
  rw [List.mem_singleton.mp hc, PfCall.id]

include hwhd in
theorem cylpaPfOlPm_init (st : OlPmSt) :
    cylpaPfOlPm (some (cylpaPfOlInit bufs info cfg).ctxt) st = cfg.flatMap (pmEntry st) := by
  obtain ⟨w, hw⟩ := Option.ne_none_iff_exists'.mp hwhd
  simp only [cylpaPfOlInit, cylpaPfOlPm, hw]

include hids hwhd in
/-- **A notification keeps** the filters as the power state asks for. -/
theorem pfOlPm_keeps {t t₀ : PfTable} {s : OlPmSt} (hs : s ≠ .max)
    (h : AsConfigured cfg t₀ s t) (st : OlPmSt) :
    AsConfigured cfg t₀ (s.next st)
      (t.after (cylpaPfOlPm (some (cylpaPfOlInit bufs info cfg).ctxt) st)) := by
  rw [cylpaPfOlPm_init bufs info hwhd]
  exact h.pass hids (id_of_mem_pmEntry st) fun e => effects_pmEntry e hs st

include hids hknown hwhd in
/-- Every run leaves the filters as the power state asks for. -/
theorem asConfigured_run (t₀ : PfTable) (ns : List OlPmSt) :
    AsConfigured cfg t₀ (powerState ns) (t₀.after (pfRun bufs info cfg ns)) := by
  induction ns using List.reverseRecOn with
  | nil => simpa [pfRun] using asConfigured_init bufs info hids hknown t₀
  | append_singleton ns st ih =>
      have h := pfOlPm_keeps bufs info hids hwhd (powerState_ne_max ns) ih st
      rw [powerState_append, pfRun, List.flatMap_append, List.flatMap_singleton,
        ← List.append_assoc, PfTable.after_append]
      exact h

/-- A filter active in both power states is in none of the calls of a notification. -/
theorem on_pm_of_both {e : CyPfOlCfg} (he : e ∈ cfg) (hids : (cfg.map (·.id)).Nodup)
    (h : e.activeIn .goingToSleep ∧ e.activeIn .awake) (ctxt : PfOl) (hctxt : ctxt.cfg = some cfg)
    (ns : List OlPmSt) : Keyed.on PfCall.id e.id (ns.flatMap (cylpaPfOlPm (some ctxt))) = [] := by
  induction ns with
  | nil => rfl
  | cons st ns ih =>
      rw [List.flatMap_cons, Keyed.on_append, ih, List.append_nil]
      obtain ⟨c, w⟩ := ctxt
      subst hctxt
      cases w with
      | none => rfl
      | some w =>
          simp only [cylpaPfOlPm]
          rw [Keyed.on_flatMap (id_of_mem_pmEntry st) hids he, pmEntry_of_both st h]

end Run

/-- **Filters are enabled exactly in the power states they were configured for.**  Over any
notifications the enabled filters are those of the configuration that the power state asks for,
besides what the firmware held before under other ids; a filter active in both power states is
enabled at every point from the end of initialisation on; after deinitialisation none of the
configuration is left. -/
theorem pf_enabled_exactly (bufs : PfBufs) (info : OlInfo) (cfg : List CyPfOlCfg) (t₀ : PfTable)
    (ns : List OlPmSt) (hids : (cfg.map (·.id)).Nodup) (hknown : ∀ e ∈ cfg, e.feature.known)
    (hwhd : info.whd ≠ none) :
    (t₀.after (pfRun bufs info cfg ns)).enabled =
        { id | ∃ e ∈ cfg, e.id = id ∧ e.activeIn (powerState ns) } ∪
          { id | id ∉ cfg.map (·.id) ∧ id ∈ t₀.enabled } ∧
      (∀ e ∈ cfg, e.activeIn .goingToSleep ∧ e.activeIn .awake →
        ∀ calls, calls <+: ns.flatMap (cylpaPfOlPm (some (cylpaPfOlInit bufs info cfg).ctxt)) →
          e.id ∈ (t₀.after ((cylpaPfOlInit bufs info cfg).calls ++ calls)).enabled) ∧
      ∀ e ∈ cfg, ((t₀.after (pfRun bufs info cfg ns)).after
        (cylpaPfOlDeinit (some (cylpaPfOlInit bufs info cfg).ctxt))) e.id = none := by
  obtain ⟨hcfg, hother⟩ := asConfigured_run bufs info hids hknown hwhd t₀ ns
  refine ⟨?_, fun e he hboth calls hpre => ?_, fun e he => ?_⟩
  · ext id
    by_cases hid : id ∈ cfg.map (·.id)
    · obtain ⟨e, he, rfl⟩ := List.mem_map.mp hid
      -- ids are distinct, so the filter's own entry decides
      have huniq : ∀ e' ∈ cfg, e'.id = e.id → e' = e := fun e' he' h =>
        List.inj_on_of_nodup_map hids he' he h
      simp only [PfTable.enabled, Set.mem_union, Set.mem_ofPred_eq, hcfg e he, hid,
        not_true_eq_false, false_and, or_false, Option.some.injEq]
      refine ⟨fun h => ⟨e, he, rfl, h⟩, ?_⟩
      rintro ⟨e', he', hid', h⟩
      rwa [← huniq e' he' hid']
    · have hnone : ¬ ∃ e ∈ cfg, e.id = id ∧ e.activeIn (powerState ns) := by
        rintro ⟨e, he, rfl, -⟩
        exact hid (List.mem_map_of_mem he)
      simp only [PfTable.enabled, Set.mem_union, Set.mem_ofPred_eq, hother id hid, hnone, hid,
        not_false_eq_true, true_and, false_or]
  · -- none of the calls after initialisation is about this filter
    have hon := on_pm_of_both he hids hboth (cylpaPfOlInit bufs info cfg).ctxt rfl ns
    obtain ⟨rest, hrest⟩ := hpre
    rw [← hrest, Keyed.on_append, List.append_eq_nil_iff] at hon
    have hinit := (asConfigured_init bufs info hids hknown t₀).1 e he
    rw [hboth.2] at hinit
    rw [PfTable.enabled, Set.mem_ofPred_eq, PfTable.after_append, PfTable.after, Keyed.run_apply,
      hon.1, hinit]
    rfl
  · obtain ⟨w, hw⟩ := Option.ne_none_iff_exists'.mp hwhd
    have hdeinit : cylpaPfOlDeinit (some (cylpaPfOlInit bufs info cfg).ctxt) =
        cfg.flatMap fun e => [.remove e.id] := by
      simp only [cylpaPfOlInit, cylpaPfOlDeinit, hw]
    have hkey : ∀ e : CyPfOlCfg, ∀ c ∈ [PfCall.remove e.id], PfCall.id c = e.id := by
      intro e c hc
      rw [List.mem_singleton.mp hc, PfCall.id]
    rw [hdeinit, PfTable.after, Keyed.run_flatMap _ hkey hids he]
    rfl

/-- One filter for each power state and one for both. -/
def threeFilters : List CyPfOlCfg :=
  [⟨.ethtype 0x0806, cyPfActiveWake, 1⟩, ⟨.iptype 1, cyPfActiveSleep, 2⟩,
    ⟨.portnum ⟨⟨68, 0, .dest⟩, .udp⟩, cyPfActiveSleep ||| cyPfActiveWake, 3⟩]

theorem pf_enabled_exactly_threeFilters :
    let enabled := (PfTable.after (fun _ => none) (pfRun .boot ⟨some 0, none, none, 0⟩
      threeFilters [.goingToSleep, .max])).enabled
    2 ∈ enabled ∧ 3 ∈ enabled ∧ 1 ∉ enabled := by
  have h := (pf_enabled_exactly .boot ⟨some 0, none, none, 0⟩ threeFilters (fun _ => none)
    [.goingToSleep, .max] (by decide) (by decide) (by decide)).1
  have hasleep : powerState [.goingToSleep, .max] = .goingToSleep := rfl
  rw [hasleep] at h
  dsimp only
  rw [h]
  refine ⟨.inl ⟨threeFilters[1], by decide⟩, .inl ⟨threeFilters[2], by decide⟩, ?_⟩
  rintro (⟨e, he, hid, ha⟩ | ⟨-, hnone⟩)
  · revert e
    decide
  · cases hnone

end Lpa
