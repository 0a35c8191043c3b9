import Lpa.Arp.Power
import Lpa.Olm.Lifecycle
import Lpa.Support.Runs

/-!
# ARP — off after de-initialisation

`cylpa_arp_ol_deinit` puts the context back to `ARP_OL_STATE_UNINITIALIZED`, which is where a
power-mode notification does the most: it registers the IP-change callback and turns ARP offload
on.  The manager keeps its WHD interface, so notifications still reach the offload.

* `arp_staysOff_iff`: between a `cylpa_olm_deinit_ols` and the next `cylpa_olm_init_ols` nothing is
  turned on exactly if no notification reaches the offload there.

The list holds the ARP offload and any others; these work on the rest of the world, which the ARP
offload's context, the IP-change callback and the DHCP timer are no part of.
-/

namespace Lpa

/-- An offload of the list: ARP, or another one. -/
inductive OlmEntry (R : Type) where
  | arp (cfg : Option ArpOlCfg)
  | other (d : OlDesc R)

/-- `arp_ol_fns`. -/
def arpOlFns (cfg : Option ArpOlCfg) : Offload ArpWorld where
  init olInfo := cylpaArpOlInit (some olInfo) cfg
  deinit := cylpaArpOlDeinit
  pm olInfo st w := cylpaArpOlPm olInfo w st

section Entries

variable {R : Type}

/-- Another offload. -/
def otherOffload (d : OlDesc R) : Offload (ArpWorld × R) where
  init olInfo s :=
    match d.init with
    | none => some (resultOk, s)
    | some init => some ((init olInfo s.2).1, s.1, (init olInfo s.2).2)
  deinit _ s :=
    match d.deinit with
    | none => some s
    | some deinit => some (s.1, deinit s.2)
  pm _ st s :=
    match d.pm with
    | none => some s
    | some pm => some (s.1, pm st s.2)

def OlmEntry.offload : OlmEntry R → Offload (ArpWorld × R)
  | .arp cfg => (arpOlFns cfg).on Prod.fst fun w s => (w, s.2)
  | .other d => otherOffload d

/-! ### Runs -/

/-- The manager's `ol_info`, the ARP offload with what is around it, and the rest. -/
structure OlmState (R : Type) where
  olInfo : OlInfo
  arp : ArpWorld
  rest : R

/-- A step of a run. -/
inductive OlmEvent where
  | initOls (whd ip : Option Handle)
  | deinitOls
  | notify (st : OlPmSt)
  | ipChanged
deriving DecidableEq

/-- An IPv4 address has changed: the connection manager calls what is registered with it. -/
def ArpWorld.ipChanged (olInfo : OlInfo) (w : ArpWorld) : ArpWorld :=
  if w.nw.isWcmCallbackRegistered then
    (cyWcmEventCallbackFunc .ipChanged (some .v4) w.nw).foldl (fun w cb =>
      if cb.cbFunc = .arpOlNwIpChange then cylpaArpOlNwIpChangeCallback olInfo cb.arg w else w) w
  else w

def manager (its : List (OlmEntry R)) (olInfo : OlInfo) : Manager (ArpWorld × R) where
  olList := some (its.map OlmEntry.offload)
  olInfo := olInfo

def olmStep (its : List (OlmEntry R)) (s : OlmState R) : OlmEvent → Option (OlmState R)
  | .initOls whd ip =>
      (cylpaOlmInitOls (manager its s.olInfo) whd ip (s.arp, s.rest)).map fun r =>
        ⟨r.2.1.olInfo, r.2.2.1, r.2.2.2⟩
  | .deinitOls =>
      (cylpaOlmDeinitOls (manager its s.olInfo) (s.arp, s.rest)).map fun r =>
        { s with arp := r.1, rest := r.2 }
  | .notify st =>
      ((manager its s.olInfo).dispatch st (s.arp, s.rest)).map fun r =>
        { s with arp := r.1, rest := r.2 }
  | .ipChanged => some { s with arp := s.arp.ipChanged s.olInfo }

/-- The state after some steps; there is none if a pointer that is `NULL` has been followed. -/
def olmRun (its : List (OlmEntry R)) (s₀ : OlmState R) (run : List OlmEvent) :
    Option (OlmState R) :=
  run.foldlM (olmStep its) s₀

/-- The run is past a `cylpa_olm_deinit_ols` and before the next `cylpa_olm_init_ols`. -/
def olsOff (run : List OlmEvent) : Bool :=
  run.foldl (fun off e => match e with
    | .initOls _ _ => false
    | .deinitOls => true
    | _ => off) false

/-- The call turns ARP offload on, or what it would be set up by. -/
def ArpCall.turnsOn : ArpCall → Bool
  | .arpoeSet enable => enable = 1
  | .wcm .registerEventCallback => true
  | .startTimer _ => true
  | _ => false

/-- The calls made between two worlds. -/
def ArpWorld.since (w w' : ArpWorld) : List ArpCall := w'.calls.drop w.calls.length

theorem ArpWorld.since_eq {w w' : ArpWorld} {cs : List ArpCall} (h : w'.calls = w.calls ++ cs) :
    w.since w' = cs := by
  rw [since, h, List.drop_left]

end Entries

/-! ### The offload -/

namespace ArpWorld

/-- The offload is initialised, and in the state `s`. -/
def RunsIn (w : ArpWorld) (s : ArpOlConfigState) : Prop := ∃ cfg, w.ol = some (.running cfg s)

/-- The context is one there can be: never initialised, or running. -/
def Sound (w : ArpWorld) : Prop := w.ol = some .cleared ∨ ∃ s, w.RunsIn s

/-- De-initialised. -/
structure Off (w : ArpWorld) : Prop where
  runs : w.RunsIn .uninitialized
  nw : w.nw.isWcmCallbackRegistered = false

/-- Nothing is turned on between the two worlds. -/
def Quiet (w w' : ArpWorld) : Prop :=
  ∃ cs, w'.calls = w.calls ++ cs ∧ ∀ c ∈ cs, ¬ c.turnsOn

theorem Quiet.refl (w : ArpWorld) : w.Quiet w := ⟨[], by simp, by simp⟩

theorem Quiet.trans {w w₁ w₂ : ArpWorld} (h₁ : w.Quiet w₁) (h₂ : w₁.Quiet w₂) : w.Quiet w₂ := by
  obtain ⟨cs, hcs, hoff⟩ := h₁
  obtain ⟨ds, hds, hoff'⟩ := h₂
  refine ⟨cs ++ ds, by rw [hds, hcs, List.append_assoc], fun c hc => ?_⟩
  rcases List.mem_append.mp hc with hc | hc
  · exact hoff c hc
  · exact hoff' c hc

theorem Quiet.since {w w' : ArpWorld} (h : w.Quiet w') : ∀ c ∈ w.since w', ¬ c.turnsOn := by
  obtain ⟨cs, hcs, hoff⟩ := h
  rwa [since_eq hcs]

theorem Off.sound {w : ArpWorld} (h : w.Off) : w.Sound := .inr ⟨_, h.runs⟩

end ArpWorld

section Arp

variable {olInfo : OlInfo} {w w' : ArpWorld} (hinfra : olInfo.fwNewInfra = 0)

include hinfra in
/-- **De-initialisation** turns the offload off. -/
theorem cylpaArpOlDeinit_off (hs : w.Sound) (h : cylpaArpOlDeinit olInfo w = some w') :
    w'.Off ∧ w.Quiet w' := by
  have hinfra' : ¬ olInfo.fwNewInfra ≠ 0 := not_not.mpr hinfra
  unfold cylpaArpOlDeinit at h
  rcases hs with hol | ⟨s, cfg, hol⟩
  · -- a context never initialised has no `ol_info` to follow
    simp only [hol, ArpOl.cleared, if_true, reduceCtorEq] at h
  · simp only [hol, ArpOl.running, Bool.true_eq_false, if_false, if_neg hinfra',
      Option.some.injEq] at h
    subst h
    unfold ArpWorld.unregister NwIpHelper.unregister ArpWorld.emit
    cases hnw : w.nw.isWcmCallbackRegistered with
    | false =>
        refine ⟨⟨⟨cfg, by simp [ArpOl.running]⟩, by simp [hnw]⟩,
          [.deinitTimer, .arpoeSet 0], by simp, by decide⟩
    | true =>
        refine ⟨⟨⟨cfg, by simp [ArpOl.running]⟩, by simp⟩,
          [.wcm .deregisterEventCallback, .deinitTimer, .arpoeSet 0], by simp, by decide⟩

include hinfra in
/-- **A notification** finds the offload running and leaves it so; one that is de-initialised it
turns on. -/
theorem cylpaArpOlPm_runs {s : ArpOlConfigState} (hs : w.RunsIn s) (st : OlPmSt) :
    ∃ w' cs, cylpaArpOlPm olInfo w st = some w' ∧ (∃ s', w'.RunsIn s') ∧
      w'.calls = w.calls ++ cs ∧
      (olInfo.whd ≠ none → s = .uninitialized → .arpoeSet 1 ∈ cs) := by
  obtain ⟨cfg, hol⟩ := hs
  have hinfra' : ¬ olInfo.fwNewInfra ≠ 0 := not_not.mpr hinfra
  unfold cylpaArpOlPm
  simp only [hol, ArpOl.running, Bool.true_eq_false, if_false, if_neg hinfra']
  by_cases hwhd : olInfo.whd = none
  · rw [if_pos hwhd]
    exact ⟨w, [], rfl, ⟨s, cfg, hol⟩, by simp, fun h => absurd hwhd h⟩
  rw [if_neg hwhd]
  by_cases hst : (if st = .awake then ArpOlConfigState.awake else .goingToSleep) = s
  · -- announced again, so not the first state
    rw [if_pos hst]
    refine ⟨w, [], rfl, ⟨s, cfg, hol⟩, by simp, fun _ hs => ?_⟩
    rw [hs] at hst
    split at hst <;> cases hst
  rw [if_neg hst]
  by_cases hon : s = .uninitialized ∨ cfg.awakeEnableMask ≠ cfg.sleepEnableMask
  · simp only [if_pos hon]
    exact ⟨_, _, rfl, ⟨_, cfg, rfl⟩, List.append_assoc _ _ _, fun _ _ => by simp⟩
  · simp only [if_neg hon]
    exact ⟨_, _, rfl, ⟨_, cfg, rfl⟩, rfl, fun _ hs => absurd (.inl hs) hon⟩

include hinfra in
theorem cylpaArpOlPm_keeps {s : ArpOlConfigState} {st : OlPmSt} (hs : w.RunsIn s)
    (h : cylpaArpOlPm olInfo w st = some w') : ∃ s', w'.RunsIn s' := by
  obtain ⟨w₁, cs, h₁, hruns, -⟩ := cylpaArpOlPm_runs hinfra hs st
  rw [← Option.some.inj (h₁.symm.trans h)]
  exact hruns

include hinfra in
theorem cylpaArpOlInit_sound {cfg : Option ArpOlCfg} {result : ℤ} (hs : w.Sound)
    (h : cylpaArpOlInit (some olInfo) cfg w = some (result, w')) : w'.Sound := by
  have hinfra' : ¬ olInfo.fwNewInfra ≠ 0 := not_not.mpr hinfra
  obtain ⟨arpOl, hol⟩ : ∃ arpOl, w.ol = some arpOl := by
    rcases hs with hol | ⟨s, cfg, hol⟩ <;> exact ⟨_, hol⟩
  unfold cylpaArpOlInit at h
  cases cfg with
  | none =>
      -- refused before the context is cleared
      simp only [hol, Option.some.injEq, Prod.mk.injEq] at h
      rw [← h.2]
      exact hs
  | some cfg =>
      simp only [hol, if_neg hinfra', Option.map_eq_some_iff, Prod.mk.injEq] at h
      obtain ⟨w₁, hpm, -, rfl⟩ := h
      refine .inr (cylpaArpOlPm_keeps (s := .uninitialized) hinfra ?_ hpm)
      exact ⟨cfg, rfl⟩

end Arp

/-! ### The list -/

section List

variable {R : Type} {its : List (OlmEntry R)} {olInfo : OlInfo} {s s' : ArpWorld × R}

/-- **Another offload** leaves the ARP offload alone. -/
theorem otherOffload_init {d : OlDesc R} {result : ℤ}
    (h : (otherOffload d).init olInfo s = some (result, s')) : s'.1 = s.1 := by
  cases hd : d.init with
  | none => simp only [otherOffload, hd] at h; cases h; rfl
  | some init => simp only [otherOffload, hd] at h; cases h; rfl

theorem otherOffload_deinit {d : OlDesc R} (h : (otherOffload d).deinit olInfo s = some s') :
    s'.1 = s.1 := by
  cases hd : d.deinit with
  | none => simp only [otherOffload, hd] at h; cases h; rfl
  | some deinit => simp only [otherOffload, hd] at h; cases h; rfl

theorem otherOffload_pm (d : OlDesc R) (olInfo : OlInfo) (st : OlPmSt) (s : ArpWorld × R) :
    ∃ r, (otherOffload d).pm olInfo st s = some (s.1, r) := by
  cases hd : d.pm with
  | none => exact ⟨s.2, by simp only [otherOffload, hd]⟩
  | some pm => exact ⟨pm st s.2, by simp only [otherOffload, hd]⟩

theorem otherOffload_keeps (d : OlDesc R) (I : ArpWorld → Prop) :
    (otherOffload d).Keeps olInfo fun s => I s.1 where
  init hs h := by rw [otherOffload_init h]; exact hs
  deinit hs h := by rw [otherOffload_deinit h]; exact hs
  pm {s _ st} hs h := by
    obtain ⟨r, hr⟩ := otherOffload_pm d olInfo st s
    rw [← Option.some.inj (hr.symm.trans h)]
    exact hs

/-- A list without the ARP offload leaves it alone. -/
theorem keeps_of_noArp (hno : ∀ cfg, .arp cfg ∉ its) (I : ArpWorld → Prop) :
    ∀ it ∈ its.map OlmEntry.offload, it.Keeps olInfo fun s => I s.1 := by
  intro it hit
  obtain ⟨e, he, rfl⟩ := List.mem_map.mp hit
  cases e with
  | arp cfg => exact absurd he (hno cfg)
  | other d => exact otherOffload_keeps d I

section Infra

variable (hinfra : olInfo.fwNewInfra = 0)

include hinfra in
/-- The context stays one there can be. -/
theorem keeps_sound : ∀ it ∈ its.map OlmEntry.offload, it.Keeps olInfo fun s => s.1.Sound := by
  intro it hit
  obtain ⟨e, -, rfl⟩ := List.mem_map.mp hit
  cases e with
  | other d => exact otherOffload_keeps d _
  | arp cfg =>
      refine ⟨fun {s s' result} hs h => ?_, fun {s s'} hs h => ?_, fun {s s' st} hs h => ?_⟩
      · obtain ⟨⟨r, w⟩, hw, heq⟩ := Option.map_eq_some_iff.mp h
        cases heq
        exact cylpaArpOlInit_sound hinfra hs hw
      · obtain ⟨w, hw, rfl⟩ := Option.map_eq_some_iff.mp h
        exact (cylpaArpOlDeinit_off hinfra hs hw).1.sound
      · obtain ⟨w, hw, rfl⟩ := Option.map_eq_some_iff.mp h
        replace hw : cylpaArpOlPm olInfo s.1 st = some w := hw
        rcases hs with hol | ⟨s₁, hruns⟩
        · simp only [cylpaArpOlPm, hol, ArpOl.cleared, if_true, reduceCtorEq] at hw
        · exact .inr (cylpaArpOlPm_keeps hinfra hruns hw)

include hinfra in
/-- **De-initialising the list** turns nothing on, and the ARP offload off if it is there. -/
theorem deinitOls_off (hs : s.1.Sound)
    (h : deinitOls olInfo (its.map OlmEntry.offload) s = some s') :
    s.1.Quiet s'.1 ∧ ((∃ cfg, .arp cfg ∈ its) ∨ s.1.Off → s'.1.Off) := by
  induction its generalizing s with
  | nil =>
      cases h
      exact ⟨.refl _, fun h => h.elim (fun ⟨_, hc⟩ => absurd hc List.not_mem_nil) id⟩
  | cons it its ih =>
      obtain ⟨s₁, h₁, hrest⟩ := Option.bind_eq_some_iff.mp h
      cases it with
      | arp cfg =>
          obtain ⟨w, hw, rfl⟩ := Option.map_eq_some_iff.mp h₁
          obtain ⟨hoff, hquiet⟩ := cylpaArpOlDeinit_off hinfra hs hw
          obtain ⟨hquiet', hoff'⟩ := ih hoff.sound hrest
          exact ⟨hquiet.trans hquiet', fun _ => hoff' (.inr hoff)⟩
      | other d =>
          have hw := otherOffload_deinit h₁
          obtain ⟨hquiet, hoff⟩ := ih (s := s₁) (by rw [hw]; exact hs) hrest
          rw [hw] at hquiet hoff
          refine ⟨hquiet, fun hor => hoff (hor.imp_left fun ⟨cfg, hm⟩ => ⟨cfg, ?_⟩)⟩
          exact (List.mem_cons.mp hm).resolve_left (by simp)

variable (its) in
include hinfra in
/-- **A notification to the list** is handled, and one that finds the ARP offload there and
de-initialised turns it on. -/
theorem pmOls_runs {st₀ : ArpOlConfigState} (hs : s.1.RunsIn st₀) (st : OlPmSt) :
    ∃ s' cs, pmOls olInfo st (its.map OlmEntry.offload) s = some s' ∧
      s'.1.calls = s.1.calls ++ cs ∧
      (olInfo.whd ≠ none → st₀ = .uninitialized → (∃ cfg, .arp cfg ∈ its) →
        .arpoeSet 1 ∈ cs) := by
  induction its generalizing s st₀ with
  | nil => exact ⟨s, [], rfl, by simp, fun _ _ ⟨_, hc⟩ => absurd hc List.not_mem_nil⟩
  | cons it its ih =>
      cases it with
      | arp cfg =>
          obtain ⟨w, cs, hw, ⟨st₁, hruns⟩, hcs, hon⟩ := cylpaArpOlPm_runs hinfra hs st
          obtain ⟨s', ds, hs', hds, -⟩ := ih (s := (w, s.2)) hruns
          refine ⟨s', cs ++ ds, ?_, by rw [hds, hcs, List.append_assoc], fun hwhd hst₀ _ =>
            List.mem_append_left _ (hon hwhd hst₀)⟩
          refine (Option.bind_eq_some_iff.mpr ⟨(w, s.2), ?_, hs'⟩)
          exact Option.map_eq_some_iff.mpr ⟨w, hw, rfl⟩
      | other d =>
          obtain ⟨r, hr⟩ := otherOffload_pm d olInfo st s
          obtain ⟨s', cs, hs', hcs, hon⟩ := ih (s := (s.1, r)) hs
          refine ⟨s', cs, Option.bind_eq_some_iff.mpr ⟨(s.1, r), hr, hs'⟩, hcs,
            fun hwhd hst₀ ⟨cfg, hm⟩ => hon hwhd hst₀ ⟨cfg, ?_⟩⟩
          exact (List.mem_cons.mp hm).resolve_left (by simp)

end Infra

end List

/-! ### Runs -/

section Run

variable {R : Type} {its : List (OlmEntry R)} {s₀ s s' : OlmState R} {e : OlmEvent}

theorem ArpWorld.ipChanged_ol (olInfo : OlInfo) (w : ArpWorld) :
    (w.ipChanged olInfo).ol = w.ol := by
  have hcb : ∀ (arg : Option Handle) (w : ArpWorld),
      (cylpaArpOlNwIpChangeCallback olInfo arg w).ol = w.ol := by
    intro arg w
    unfold cylpaArpOlNwIpChangeCallback
    split
    · split <;> rfl
    · rfl
  unfold ArpWorld.ipChanged
  split
  · refine List.foldlRecOn (motive := fun w' : ArpWorld => w'.ol = w.ol) _ _ rfl
      fun w' hw' cb _ => ?_
    split
    · exact (hcb cb.arg w').trans hw'
    · exact hw'
  · rfl

theorem ArpWorld.ipChanged_of_not_registered {olInfo : OlInfo} {w : ArpWorld}
    (h : w.nw.isWcmCallbackRegistered = false) : w.ipChanged olInfo = w := by
  simp [ArpWorld.ipChanged, h]

theorem olmRun_append (xs : List OlmEvent) (e : OlmEvent) :
    olmRun its s₀ (xs ++ [e]) = (olmRun its s₀ xs).bind fun s => olmStep its s e := by
  simp [olmRun, List.foldlM_append]

@[simp] theorem olsOff_append (xs : List OlmEvent) (e : OlmEvent) :
    olsOff (xs ++ [e]) = match e with
      | .initOls _ _ => false
      | .deinitOls => true
      | _ => olsOff xs := by
  simp only [olsOff, List.foldl_append, List.foldl_cons, List.foldl_nil]

/-- **A step** keeps the infrastructure, and what the offloads and an event keep. -/
theorem olmStep_keeps {I : ArpWorld → Prop}
    (hkeeps : ∀ olInfo : OlInfo, olInfo.fwNewInfra = s.olInfo.fwNewInfra →
      ∀ it ∈ its.map OlmEntry.offload, it.Keeps olInfo fun s => I s.1)
    (hip : I s.arp → I (s.arp.ipChanged s.olInfo)) (hs : I s.arp)
    (h : olmStep its s e = some s') :
    s'.olInfo.fwNewInfra = s.olInfo.fwNewInfra ∧ I s'.arp := by
  cases e with
  | initOls whd ip =>
      obtain ⟨⟨result, olm, r⟩, hr, rfl⟩ := Option.map_eq_some_iff.mp h
      rw [cylpaOlmInitOls_olm hr]
      refine ⟨rfl, cylpaOlmInitOls_keeps (I := fun s => I s.1) ?_ hs hr⟩
      rintro _ ⟨rfl⟩
      exact hkeeps _ rfl
  | deinitOls =>
      obtain ⟨r, hr, rfl⟩ := Option.map_eq_some_iff.mp h
      refine ⟨rfl, cylpaOlmDeinitOls_keeps (I := fun s => I s.1) ?_ hs hr⟩
      rintro _ ⟨rfl⟩
      exact hkeeps _ rfl
  | notify st =>
      obtain ⟨r, hr, rfl⟩ := Option.map_eq_some_iff.mp h
      refine ⟨rfl, dispatch_keeps (I := fun s => I s.1) ?_ hs hr⟩
      rintro _ ⟨rfl⟩
      exact hkeeps _ rfl
  | ipChanged =>
      cases h
      exact ⟨rfl, hip hs⟩

theorem olmStep_sound (hinfra : s.olInfo.fwNewInfra = 0) (hs : s.arp.Sound)
    (h : olmStep its s e = some s') : s'.olInfo.fwNewInfra = 0 ∧ s'.arp.Sound := by
  rw [← hinfra]
  refine olmStep_keeps (fun olInfo hi => keeps_sound (hi.trans hinfra)) (fun hs => ?_) hs h
  simpa only [ArpWorld.Sound, ArpWorld.RunsIn, ArpWorld.ipChanged_ol] using hs

/-- Without the ARP offload in the list, what is before anything has run is there throughout. -/
theorem olmStep_noArp (hno : ∀ cfg, .arp cfg ∉ its) (hs : s.arp = .boot)
    (h : olmStep its s e = some s') : s'.arp = .boot := by
  refine (olmStep_keeps (I := fun w => w = .boot) (fun _ _ => keeps_of_noArp hno fun w => w = .boot)
    (fun hs => ?_) hs h).2
  rw [hs]
  exact ArpWorld.ipChanged_of_not_registered rfl

theorem olmRun_noArp (hno : ∀ cfg, .arp cfg ∉ its) (hboot : s₀.arp = .boot) {xs : List OlmEvent}
    (h : olmRun its s₀ xs = some s) : s.arp = .boot :=
  Runs.foldlM_keeps (J := fun s : OlmState R => s.arp = .boot)
    (fun _ _ _ _ => olmStep_noArp hno) hboot h

/-- The state after a run: the offload is off where the run is past a de-initialisation. -/
structure OlmInv (xs : List OlmEvent) (s : OlmState R) : Prop where
  infra : s.olInfo.fwNewInfra = 0
  sound : s.arp.Sound
  off : olsOff xs → s.arp.Off

/-- Nothing is turned on in the last step, if it is past a de-initialisation. -/
def StaysOff (its : List (OlmEntry R)) (s₀ : OlmState R) (xs : List OlmEvent) : Prop :=
  olsOff xs → ∀ ys e, xs = ys ++ [e] → ∀ s s', olmRun its s₀ ys = some s →
    olmStep its s e = some s' → ∀ c ∈ s.arp.since s'.arp, ¬ c.turnsOn

/-- The last step is no notification past a de-initialisation, unless the manager has no WHD
interface or the list no ARP offload. -/
def Undisturbed (its : List (OlmEntry R)) (s₀ : OlmState R) (xs : List OlmEvent) : Prop :=
  olsOff xs → ∀ ys st, xs = ys ++ [.notify st] → ∀ s, olmRun its s₀ ys = some s →
    s.olInfo.whd = none ∨ ∀ cfg, .arp cfg ∉ its

theorem staysOff_concat {xs : List OlmEvent} : StaysOff its s₀ (xs ++ [e]) ↔
    (olsOff (xs ++ [e]) → ∀ s s', olmRun its s₀ xs = some s → olmStep its s e = some s' →
      ∀ c ∈ s.arp.since s'.arp, ¬ c.turnsOn) := by
  refine imp_congr_right fun _ => ⟨fun h => h xs e rfl, fun h ys e' heq => ?_⟩
  obtain ⟨rfl, rfl⟩ := List.append_singleton_inj.mp heq
  exact h

theorem undisturbed_concat {xs : List OlmEvent} : Undisturbed its s₀ (xs ++ [e]) ↔
    (olsOff (xs ++ [e]) → ∀ st, e = .notify st → ∀ s, olmRun its s₀ xs = some s →
      s.olInfo.whd = none ∨ ∀ cfg, .arp cfg ∉ its) := by
  refine imp_congr_right fun _ => ⟨fun h st heq => h xs st (by rw [heq]), fun h ys st heq => ?_⟩
  obtain ⟨rfl, rfl⟩ := List.append_singleton_inj.mp heq
  exact h st rfl

/-- **A notification** to the ARP offload when it is off leaves it off exactly if it does not
reach it. -/
theorem notify_quiet_iff (hhas : ∃ cfg, .arp cfg ∈ its) (hinfra : s.olInfo.fwNewInfra = 0)
    (hoff : s.arp.Off) (st : OlPmSt) :
    (∀ s', olmStep its s (.notify st) = some s' → ∀ c ∈ s.arp.since s'.arp, ¬ c.turnsOn) ↔
      s.olInfo.whd = none := by
  refine ⟨fun h => ?_, fun hwhd s' h => ?_⟩
  · by_contra hwhd
    obtain ⟨whd, hw⟩ := Option.ne_none_iff_exists'.mp hwhd
    have hruns : ((s.arp, s.rest) : ArpWorld × R).1.RunsIn .uninitialized := hoff.runs
    obtain ⟨r, cs, hr, hcs, hon⟩ := pmOls_runs its hinfra hruns st
    have hstep : olmStep its s (.notify st) = some { s with arp := r.1, rest := r.2 } := by
      simp only [olmStep, Manager.dispatch, manager, hw, hr, Option.map_some]
    refine h _ hstep (.arpoeSet 1) ?_ rfl
    rw [ArpWorld.since_eq hcs]
    exact hon hwhd rfl hhas
  · simp only [olmStep, Manager.dispatch, manager, hwhd, Option.map_some, Option.some.injEq] at h
    subst h
    exact (ArpWorld.Quiet.refl s.arp).since

theorem OlmInv.staysOff_iff (hhas : ∃ cfg, .arp cfg ∈ its) {xs : List OlmEvent}
    (hinv : ∀ s, olmRun its s₀ xs = some s → OlmInv xs s) (e : OlmEvent) :
    StaysOff its s₀ (xs ++ [e]) ↔ Undisturbed its s₀ (xs ++ [e]) := by
  obtain ⟨cfg, hcfg⟩ := hhas
  rw [staysOff_concat, undisturbed_concat, olsOff_append]
  cases e with
  | initOls whd ip => simp
  | deinitOls =>
      refine iff_of_true (fun _ s s' hs h => ?_) fun _ st heq => by cases heq
      obtain ⟨r, hr, rfl⟩ := Option.map_eq_some_iff.mp h
      exact (deinitOls_off (hinv s hs).infra (hinv s hs).sound hr).1.since
  | ipChanged =>
      refine iff_of_true (fun hoff s s' hs h => ?_) fun _ st heq => by cases heq
      cases h
      rw [ArpWorld.ipChanged_of_not_registered ((hinv s hs).off hoff).nw]
      exact (ArpWorld.Quiet.refl s.arp).since
  | notify st =>
      refine imp_congr_right fun hoff => ⟨fun h st' _ s hs => .inl ?_, fun h s s' hs => ?_⟩
      · exact (notify_quiet_iff ⟨cfg, hcfg⟩ (hinv s hs).infra ((hinv s hs).off hoff) st).mp
          fun s' => h s s' hs
      · refine (notify_quiet_iff ⟨cfg, hcfg⟩ (hinv s hs).infra ((hinv s hs).off hoff) st).mpr ?_ s'
        exact (h st rfl s hs).resolve_right fun hno => hno cfg hcfg

/-- **A step** keeps the invariant, where no notification disturbs. -/
theorem OlmInv.step (hhas : ∃ cfg, .arp cfg ∈ its) {xs : List OlmEvent}
    (hrun : olmRun its s₀ xs = some s) (hinv : OlmInv xs s) (h : olmStep its s e = some s')
    (hundisturbed : Undisturbed its s₀ (xs ++ [e])) : OlmInv (xs ++ [e]) s' := by
  obtain ⟨cfg, hcfg⟩ := hhas
  obtain ⟨hinfra, hsound⟩ := olmStep_sound hinv.infra hinv.sound h
  refine ⟨hinfra, hsound, fun hoff => ?_⟩
  have hund := undisturbed_concat.mp hundisturbed hoff
  rw [olsOff_append] at hoff
  cases e with
  | initOls whd ip => cases hoff
  | deinitOls =>
      obtain ⟨r, hr, rfl⟩ := Option.map_eq_some_iff.mp h
      exact (deinitOls_off hinv.infra hinv.sound hr).2 (.inl ⟨cfg, hcfg⟩)
  | ipChanged =>
      cases h
      rw [ArpWorld.ipChanged_of_not_registered (hinv.off hoff).nw]
      exact hinv.off hoff
  | notify st =>
      have hwhd := (hund st rfl s hrun).resolve_right fun hno => hno cfg hcfg
      simp only [olmStep, Manager.dispatch, manager, hwhd, Option.map_some,
        Option.some.injEq] at h
      subst h
      exact hinv.off hoff

/-- **The ARP offload stays off after de-initialisation exactly when** no notification reaches it
there: between a `cylpa_olm_deinit_ols` and the next `cylpa_olm_init_ols` none is given, or the
manager has no WHD interface, or the list no ARP offload. -/
theorem arp_staysOff_iff (its : List (OlmEntry R)) (s₀ : OlmState R) (run : List OlmEvent)
    (hinfra : s₀.olInfo.fwNewInfra = 0) (hboot : s₀.arp = .boot) :
    (∀ xs, xs <+: run → StaysOff its s₀ xs) ↔ ∀ xs, xs <+: run → Undisturbed its s₀ xs := by
  by_cases hhas : ∃ cfg, .arp cfg ∈ its
  · refine Runs.throughout_iff_of_invariant (A := fun _ => True)
      (I := fun xs => ∀ s, olmRun its s₀ xs = some s → OlmInv xs s) (fun _ _ => trivial) ?_ ?_
      (fun xs e hinv _ => OlmInv.staysOff_iff hhas hinv e) fun xs e hinv _ hund s' h => ?_
    · rintro s ⟨rfl⟩
      exact ⟨hinfra, .inl (by rw [hboot]; rfl), fun hoff => by cases hoff⟩
    · exact iff_of_true (fun hoff => by cases hoff) fun hoff => by cases hoff
    · rw [olmRun_append, Option.bind_eq_some_iff] at h
      obtain ⟨s, hs, h⟩ := h
      exact (hinv s hs).step hhas hs h hund
  · have hno : ∀ cfg, .arp cfg ∉ its := fun cfg hm => hhas ⟨cfg, hm⟩
    refine iff_of_true (fun xs _ _ ys e _ s s' hs h => ?_) fun _ _ _ _ _ _ _ _ => .inr hno
    rw [olmRun_noArp hno hboot hs, olmStep_noArp hno (olmRun_noArp hno hboot hs) h]
    exact (ArpWorld.Quiet.refl .boot).since

/-- A disconnect while the host sleeps, and a wake-up: ARP offload is on again. -/
theorem arp_not_staysOff :
    ¬ ∀ (its : List (OlmEntry Unit)) (s₀ : OlmState Unit) (run : List OlmEvent),
      s₀.olInfo.fwNewInfra = 0 → s₀.arp = .boot →
      ∀ xs, xs <+: run → StaysOff its s₀ xs := by
  intro h
  have hoff := h [.arp (some ⟨1, 8, 1200⟩)] ⟨⟨none, none, some 0, 0⟩, .boot, ()⟩
    [.initOls (some 1) (some 2), .notify .goingToSleep, .deinitOls, .notify .awake] rfl rfl _
    (List.prefix_refl _) rfl [.initOls (some 1) (some 2), .notify .goingToSleep, .deinitOls]
    (.notify .awake) rfl _ _ rfl rfl (.arpoeSet 1) (by decide)
  exact hoff rfl

/-- A run that connects, sleeps, disconnects and connects again. -/
theorem arp_staysOff_iff_twice :
    let its : List (OlmEntry Unit) := [.arp (some ⟨1, 8, 1200⟩)]
    let s₀ : OlmState Unit := ⟨⟨none, none, some 0, 0⟩, .boot, ()⟩
    let run : List OlmEvent := [.initOls (some 1) (some 2), .notify .goingToSleep, .deinitOls,
      .ipChanged, .initOls (some 1) (some 2)]
    (∀ xs, xs <+: run → StaysOff its s₀ xs) ↔ ∀ xs, xs <+: run → Undisturbed its s₀ xs :=
  arp_staysOff_iff _ _ _ rfl rfl

end Run

end Lpa
