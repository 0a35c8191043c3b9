import Lpa.NetActivity.Protocol
import Lpa.Olm.Dispatch
import Lpa.PacketFilter.Power

/-!
# Network activity — the offloads of a sleeping host

`wait_net_suspend` and the offload manager together.  The manager is a function of the
notifications, and `wait_net_suspend` gives them in turns (`waitNetSuspends_notifications`), so
what a notification can spoil elsewhere, a second sleep in a row or a wake-up before the first
sleep, does not happen here.

* `olmAfter_component`: a component of the world that one offload acts on alone.
* `waitNetSuspends_offloads`: while the host waits for the network to wake it up, the firmware has
  the low-power return-to-sleep time and the packet filters for sleep; when the last call has
  returned, it has the user's time and the filters for a host that is awake.
-/

namespace Lpa

/-! ### One offload among others -/

section Component

variable {W C : Type} {π : W → C} {act : OlPmSt → C → C}

/-- The offload leaves the component `π` of the world alone. -/
def OlDesc.Leaves (π : W → C) (d : OlDesc W) : Prop :=
  ∀ pm ∈ d.pm, ∀ st w, π (pm st w) = π w

/-- The offload acts on the component by `act`. -/
def OlDesc.ActsOn (π : W → C) (act : OlPmSt → C → C) (d : OlDesc W) : Prop :=
  ∃ pm, d.pm = some pm ∧ ∀ st w, π (pm st w) = act st (π w)

theorem dispatchPm_cons (st : OlPmSt) (d : OlDesc W) (ds : List (OlDesc W)) (w : W) :
    dispatchPm st (d :: ds) w = dispatchPm st ds (d.pm.elim w fun pm => pm st w) := by
  rw [dispatchPm]
  cases d.pm <;> rfl

theorem OlDesc.Leaves.elim {d : OlDesc W} (hd : d.Leaves π) (st : OlPmSt) (w : W) :
    π (d.pm.elim w fun pm => pm st w) = π w := by
  cases hpm : d.pm with
  | none => rfl
  | some pm => exact hd pm hpm st w

theorem dispatchPm_leaves {ds : List (OlDesc W)} (hds : ∀ d ∈ ds, d.Leaves π) (st : OlPmSt)
    (w : W) : π (dispatchPm st ds w) = π w := by
  induction ds generalizing w with
  | nil => rfl
  | cons d ds ih =>
      obtain ⟨hd, hds⟩ := List.forall_mem_cons.mp hds
      rw [dispatchPm_cons, ih hds, hd.elim]

theorem dispatchPm_component {pre post : List (OlDesc W)} {d : OlDesc W} (hd : d.ActsOn π act)
    (hothers : ∀ d' ∈ pre ++ post, d'.Leaves π) (st : OlPmSt) (w : W) :
    π (dispatchPm st (pre ++ d :: post) w) = act st (π w) := by
  induction pre generalizing w with
  | nil =>
      obtain ⟨pm, hpm, hact⟩ := hd
      rw [List.nil_append] at hothers
      rw [List.nil_append, dispatchPm_cons, dispatchPm_leaves hothers, hpm]
      exact hact st w
  | cons d' pre ih =>
      obtain ⟨hd', hothers⟩ := List.forall_mem_cons.mp hothers
      rw [List.cons_append, dispatchPm_cons, ih hothers, hd'.elim]

/-- **A component of one offload** after some notifications: what the offload makes of it. -/
theorem olmAfter_component {olm : Olm W} {pre post : List (OlDesc W)} {d : OlDesc W}
    (hlist : olm.olList = some (pre ++ d :: post)) (hwhd : olm.olInfo.whd ≠ none)
    (hd : d.ActsOn π act) (hothers : ∀ d' ∈ pre ++ post, d'.Leaves π) (w : OlmWorld W)
    (ns : List OlPmSt) :
    π (olmAfter olm w ns).rest = ns.foldl (fun c st => act st c) (π w.rest) := by
  obtain ⟨whd, hw⟩ := Option.ne_none_iff_exists'.mp hwhd
  induction ns using List.reverseRecOn with
  | nil => rfl
  | append_singleton ns st ih =>
      rw [olmAfter_append, List.foldl_append, ← ih]
      simp only [cylpaOlmDispatchPmNotification, hlist, hw]
      refine (dispatchPm_component hd hothers st _).trans ?_
      split <;> rfl

/-- The return-to-sleep time and its slot after some notifications. -/
theorem olmAfter_pm2 {olm : Olm W} (hlist : olm.olList ≠ none) (hwhd : olm.olInfo.whd ≠ none)
    (w : OlmWorld W) (ns : List OlPmSt) :
    ((olmAfter olm w ns).pm2SleepRet, (olmAfter olm w ns).cyPm2SleepRetValue) =
      ns.foldl pm2Next (w.pm2SleepRet, w.cyPm2SleepRetValue) := by
  induction ns using List.reverseRecOn with
  | nil => rfl
  | append_singleton ns st ih =>
      rw [olmAfter_append, List.foldl_append, ← ih]
      exact dispatch_pm2 hlist hwhd st _

end Component

namespace NetActivity

open Prog (Reach)

/-! ### Sleep and wake-up in turns -/

theorem powerState_sleepCycles (n : ℕ) : powerState (sleepCycles n) = .awake := by
  cases n with
  | zero => rfl
  | succ n =>
      rw [sleepCycles_succ, List.append_cons, powerState_append]
      rfl

/-- Asleep and awake again, the time is as before the first sleep. -/
theorem pm2_sleepCycles (d s : UInt32) (n : ℕ) :
    ((sleepCycles n).foldl pm2Next (d, s)).1 = d := by
  have hslot : ∀ n, ∃ s', (sleepCycles n).foldl pm2Next (d, s) = (d, s') := by
    intro n
    induction n with
    | zero => exact ⟨s, rfl⟩
    | succ n ih =>
        obtain ⟨s', hs'⟩ := ih
        refine ⟨d, ?_⟩
        rw [sleepCycles_succ, List.foldl_append, hs']
        rfl
  obtain ⟨s', hs'⟩ := hslot n
  rw [hs']

theorem pm2_asleep (p : UInt32 × UInt32) (ns : List OlPmSt) :
    ((ns ++ [OlPmSt.goingToSleep]).foldl pm2Next p).1 = lpaPm2SleepRetTime := by
  rw [List.foldl_append]
  rfl

/-! ### The offloads of the run -/

section Run

variable {W : Type} {olm : Olm W} {pre post : List (OlDesc W)} {d : OlDesc W} {π : W → PfTable}
variable {cfg : List CyPfOlCfg} {t₀ : PfTable} {w : OlmWorld W}

/-- What `cylpa_pf_ol_pm` makes of the firmware's filters. -/
def pfAct (bufs : PfBufs) (info : OlInfo) (cfg : List CyPfOlCfg) (st : OlPmSt) (t : PfTable) :
    PfTable :=
  t.after (cylpaPfOlPm (some (cylpaPfOlInit bufs info cfg).ctxt) st)

theorem foldl_pfAct (bufs : PfBufs) (info : OlInfo) (t : PfTable) (ns : List OlPmSt) :
    ns.foldl (fun t st => pfAct bufs info cfg st t) t =
      t.after (ns.flatMap (cylpaPfOlPm (some (cylpaPfOlInit bufs info cfg).ctxt))) := by
  induction ns generalizing t with
  | nil => rfl
  | cons st ns ih => rw [List.foldl_cons, ih, List.flatMap_cons, PfTable.after_append, pfAct]

/-- The filters after some notifications are as the power state asks for. -/
theorem asConfigured_olmAfter (bufs : PfBufs) (hlist : olm.olList = some (pre ++ d :: post))
    (hwhd : olm.olInfo.whd ≠ none) (hd : d.ActsOn π (pfAct bufs olm.olInfo cfg))
    (hothers : ∀ d' ∈ pre ++ post, d'.Leaves π) (hids : (cfg.map (·.id)).Nodup)
    (hknown : ∀ e ∈ cfg, e.feature.known)
    (hinit : π w.rest = t₀.after (cylpaPfOlInit bufs olm.olInfo cfg).calls) (ns : List OlPmSt) :
    AsConfigured cfg t₀ (powerState ns) (π (olmAfter olm w ns).rest) := by
  rw [olmAfter_component hlist hwhd hd hothers, foldl_pfAct, hinit, ← PfTable.after_append]
  exact asConfigured_run bufs olm.olInfo hids hknown hwhd t₀ ns

/-- **The offloads of a sleeping host.**  In any number of calls of `wait_net_suspend`, with the
packet filters anywhere in the list of the offload manager: whenever the host waits for the network
to wake it up, the firmware's return-to-sleep time is the low-power one and the filters are as
configured for sleep; and after the last call the time is the user's and the filters are as
configured for a host that is awake.  The driver takes each call, as neither result is looked at. -/
theorem waitNetSuspends_offloads (b : NaBuild) (calls : List WaitArgs) (v₀ : NaVars)
    (hv₀ : b.stack = .lwip → v₀.cylpaSNsSuspended = false) (bufs : PfBufs)
    (hlist : olm.olList = some (pre ++ d :: post)) (hwhd : olm.olInfo.whd ≠ none)
    (hd : d.ActsOn π (pfAct bufs olm.olInfo cfg)) (hothers : ∀ d' ∈ pre ++ post, d'.Leaves π)
    (hids : (cfg.map (·.id)).Nodup) (hknown : ∀ e ∈ cfg, e.feature.known)
    (hinit : π w.rest = t₀.after (cylpaPfOlInit bufs olm.olInfo cfg).calls) (c : PowerRun)
    (hrun : Reach anyAnswer registers ⟨waitNetSuspends b calls, [], v₀⟩ c) :
    let w' := olmAfter olm w (notifications c.hist)
    (∀ flags timeout k, c.prog = .call (.cyRtosWaitbitsEvent .wakeUp flags timeout) k →
      w'.pm2SleepRet = lpaPm2SleepRetTime ∧
        AsConfigured cfg t₀ .goingToSleep (π w'.rest)) ∧
    ∀ states, c.prog = .ret states →
      w'.pm2SleepRet = w.pm2SleepRet ∧ AsConfigured cfg t₀ .awake (π w'.rest) := by
  intro w'
  have hnone : olm.olList ≠ none := by simp [hlist]
  have hpm2 : w'.pm2SleepRet =
      ((notifications c.hist).foldl pm2Next (w.pm2SleepRet, w.cyPm2SleepRetValue)).1 :=
    congrArg Prod.fst (olmAfter_pm2 hnone hwhd w _)
  have hpf : AsConfigured cfg t₀ (powerState (notifications c.hist)) (π w'.rest) :=
    asConfigured_olmAfter bufs hlist hwhd hd hothers hids hknown hinit _
  obtain ⟨hcall, -⟩ := waitNetSuspends_follows b calls v₀ hv₀ c hrun
  have hacc : (powerProtocol b).Accepts c.hist :=
    (waitNetSuspends_obeys b calls (n := 0) hv₀ ⟨rfl, rfl⟩).accepts Monitor.accepts_nil hrun
  refine ⟨fun flags timeout k e => ?_, fun states e => ?_⟩
  · -- the protocol allows this wait only with the host told to be asleep
    have hasleep : (hostState b c.hist).told = .goingToSleep := (hcall _ k e).1.2.1
    obtain ⟨n, hn⟩ : ∃ n, notifications c.hist = sleepCycles n ++ [.goingToSleep] := by
      have htold := told_of_accepts hacc
      generalize notifications c.hist = ns at htold ⊢
      cases htold with
      | awake h => exact absurd (h.symm.trans hasleep) (by decide)
      | @asleep n h hn => exact ⟨n, rfl⟩
    rw [hn] at hpm2 hpf
    rw [powerState_append] at hpf
    exact ⟨hpm2.trans (pm2_asleep _ _), hpf⟩
  · have hn := (waitNetSuspends_notifications b calls v₀ hv₀ c hrun).2 states e
    rw [hn] at hpm2 hpf
    rw [powerState_sleepCycles] at hpf
    exact ⟨hpm2.trans (pm2_sleepCycles _ _ _), hpf⟩

/-- An offload manager whose only offload is the packet filter, which is all of its world. -/
def pfOnly (cfg : List CyPfOlCfg) : Olm PfTable :=
  ⟨some [⟨none, none, some (pfAct .boot ⟨some 0, none, none, 0⟩ cfg)⟩], ⟨some 0, none, none, 0⟩⟩

/-- Two calls: afterwards the filters are as for a host that is awake, and the time is 200. -/
theorem waitNetSuspends_offloads_threeFilters :
    let w' := olmAfter (pfOnly threeFilters)
      ⟨200, 0, PfTable.after (fun _ => none)
        (cylpaPfOlInit .boot ⟨some 0, none, none, 0⟩ threeFilters).calls⟩
      (notifications (registeredRun ⟨.lwip, none⟩).hist)
    w'.pm2SleepRet = 200 ∧ AsConfigured threeFilters (fun _ => none) .awake w'.rest := by
  have hlist : (pfOnly threeFilters).olList = some ([] ++ _ :: []) := rfl
  exact (waitNetSuspends_offloads (π := id) _ _ .boot (fun _ => rfl) .boot hlist (by decide)
    ⟨_, rfl, fun _ _ => rfl⟩ (by simp) (by decide) (by decide) rfl _
    (reach_registeredRun _)).2 [.waitTimeoutExpired, .waitTimeoutExpired] rfl

end Run

end NetActivity

end Lpa
