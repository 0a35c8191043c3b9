import Lpa.Olm.Builtin

/-!
# Offload manager — pointers of the built-in offloads

Each offload guards its pointers in its own way.  Two do not: the packet filter goes through its
configuration without a test, and ARP follows the `ol_info_ptr` of a context that has never been
initialised.  The others set `ol_info_ptr` whenever they set `whd`, and test that.

* `builtin_sound`: what the functions of every offload keep.
* `init_spec`, `needs_deinit`, `needs_pm`: when a function of one offload follows no pointer that is
  `NULL`.
* `builtin_defined_iff`: when no call to the manager does, over any run.
-/

namespace Lpa

/-! ### Offloads that guard their pointers -/

/-- The pointer the functions follow is set where the one they test is. -/
def OlCtxt.Sound {Cfg : Type} (ctxt : OlCtxt Cfg) : Prop := ctxt.whd ≠ none → ctxt.olInfoPtr = true

def WowlpfOl.Sound (ctxt : WowlpfOl) : Prop :=
  ctxt.whd ≠ none → ctxt.olInfoPtr ≠ none ∧ ctxt.cfg ≠ none

/-- Initialisation leaves a context of which `K` holds; the other functions find nothing `NULL` in
it that they follow, and leave it as it is. -/
structure Offload.Guarded {C : Type} (it : Offload C) (olInfo : OlInfo) (K : C → Prop) : Prop where
  init (c : C) : ∃ result c', it.init olInfo c = some (result, c') ∧ K c'
  deinit {c : C} : K c → it.deinit olInfo c = some c
  pm {c : C} (st : OlPmSt) : K c → it.pm olInfo st c = some c

theorem Offload.Guarded.keeps {C : Type} {it : Offload C} {olInfo : OlInfo} {K : C → Prop}
    (h : it.Guarded olInfo K) : it.Keeps olInfo K where
  init {c c' result} _ hc := by
    obtain ⟨result₁, c₁, h₁, hK⟩ := h.init c
    cases h₁.symm.trans hc
    exact hK
  deinit hK hc := by
    rw [← Option.some.inj ((h.deinit hK).symm.trans hc)]
    exact hK
  pm {c c' st} hK hc := by
    rw [← Option.some.inj ((h.pm st hK).symm.trans hc)]
    exact hK

section On

variable {S C : Type} {it : Offload C} {olInfo : OlInfo} {K : C → Prop} {get : S → C}
  {put : C → S → S} {s : S}

theorem Offload.Guarded.on_deinit (h : it.Guarded olInfo K) (hK : K (get s)) :
    (it.on get put).deinit olInfo s = some (put (get s) s) :=
  Option.map_eq_some_iff.mpr ⟨get s, h.deinit hK, rfl⟩

theorem Offload.Guarded.on_pm (h : it.Guarded olInfo K) (st : OlPmSt) (hK : K (get s)) :
    (it.on get put).pm olInfo st s = some (put (get s) s) :=
  Option.map_eq_some_iff.mpr ⟨get s, h.pm st hK, rfl⟩

end On

section Guarded

variable (olInfo : OlInfo)

theorem tkoOlFns_guarded (cfg : Option Handle) : (tkoOlFns cfg).Guarded olInfo OlCtxt.Sound where
  init _ := by
    cases cfg with
    | none => exact ⟨_, _, rfl, fun h => absurd rfl h⟩
    | some cfg => exact ⟨_, _, rfl, fun _ => rfl⟩
  deinit _ := rfl
  pm {c} st hK := by
    have hptr : c.whd ≠ none → ¬ c.olInfoPtr = false := fun h => by rw [hK h]; decide
    simp only [tkoOlFns]
    split
    · rfl
    · rename_i hwhd
      rw [if_neg (hptr hwhd), ite_self]

theorem nullkoOlFns_guarded (answer : ℤ) (cfg : Option Handle) :
    (nullkoOlFns answer cfg).Guarded olInfo OlCtxt.Sound where
  init _ := by
    cases cfg with
    | none => exact ⟨_, _, rfl, fun h => absurd rfl h⟩
    | some cfg =>
        have hctxt : (cylpaNullkoOlInit answer (some olInfo) (some cfg)).2.olInfoPtr = true := by
          simp only [cylpaNullkoOlInit]
          split
          · rfl
          · split <;> rfl
        exact ⟨_, _, rfl, fun _ => hctxt⟩
  deinit {c} hK := by
    have hptr : c.whd ≠ none → ¬ c.olInfoPtr = false := fun h => by rw [hK h]; decide
    simp only [nullkoOlFns, cylpaNullkoOlDeinit]
    split
    · rfl
    · rename_i hwhd
      rw [if_neg (hptr hwhd)]
  pm _ _ := rfl

theorem wowlpfOlFns_guarded (cfg : Option (List CyWowlpfOlCfg)) :
    (wowlpfOlFns cfg).Guarded olInfo WowlpfOl.Sound where
  init _ := by
    cases cfg with
    | none => exact ⟨_, _, rfl, fun h => absurd rfl h⟩
    | some cfg => exact ⟨_, _, rfl, fun _ => ⟨Option.some_ne_none _, Option.some_ne_none _⟩⟩
  deinit {c} hK := by
    simp only [wowlpfOlFns, cylpaWowlpfOlDeinit]
    split
    · rfl
    · rename_i hwhd
      rw [if_neg (hK hwhd).1]
  pm {c} st hK := by
    simp only [wowlpfOlFns]
    split
    · rfl
    · rename_i hwhd
      rw [if_neg (hK hwhd).1, if_neg (hK hwhd).2, ite_self]

end Guarded

/-- What is modelled of `cylpa_wowlpf_ol_pm` here follows a pointer that is `NULL` exactly if
`cylpaWowlpfOlPm` does, the entries being marked at their end. -/
theorem wowlpfPm_isSome_iff (bits : WowlBits) (magic : UInt32) (cfg : Option (List CyWowlpfOlCfg))
    (olInfo : OlInfo) (st : OlPmSt) (ctxt : WowlpfOl) (ans : WowlAnswers) (w : WowlWorld)
    (hlast : ∀ es, ctxt.cfg = some es → ∃ e ∈ es, e.feature = .last) :
    ((wowlpfOlFns cfg).pm olInfo st ctxt).isSome ↔
      (cylpaWowlpfOlPm bits magic
        (some { ctxt with olInfoPtr := ctxt.olInfoPtr.map fun _ => olInfo }) st ans w).isSome := by
  obtain ⟨ctxtCfg, whd, olInfoPtr⟩ := ctxt
  simp only [wowlpfOlFns, cylpaWowlpfOlPm]
  cases whd with
  | none => simp
  | some whd =>
      cases olInfoPtr with
      | none => simp
      | some info =>
          by_cases hinfra : olInfo.fwNewInfra = 0
          · simp [hinfra]
          · cases ctxtCfg with
            | none => simp [hinfra]
            | some es =>
                have hes := isSome_wowlpfLoop bits true (hlast es rfl)
                have hes' := isSome_wowlpfLoop bits false (hlast es rfl)
                by_cases hst : st = .goingToSleep <;> simp [hinfra, hst, hes, hes']

/-! ### ARP -/

/-- There is a context, and its pointer is set. -/
def ArpWorld.Pointed (w : ArpWorld) : Prop := ∃ arpOl, w.ol = some arpOl ∧ arpOl.olInfoPtr = true

section Arp

variable {olInfo : OlInfo} {w : ArpWorld}

theorem cylpaArpOlPm_pointed (hw : w.Pointed) (st : OlPmSt) :
    ∃ w', cylpaArpOlPm olInfo w st = some w' ∧ w'.Pointed := by
  obtain ⟨arpOl, hol, hptr⟩ := hw
  unfold cylpaArpOlPm
  simp only [hol, hptr, Bool.true_eq_false, if_false]
  by_cases hwhd : olInfo.whd = none
  · rw [if_pos hwhd]
    exact ⟨w, rfl, arpOl, hol, hptr⟩
  rw [if_neg hwhd]
  by_cases hinfra : olInfo.fwNewInfra ≠ 0
  · rw [if_pos hinfra]
    exact ⟨w, rfl, arpOl, hol, hptr⟩
  rw [if_neg hinfra]
  cases hcfg : arpOl.config with
  | none => exact ⟨w, rfl, arpOl, hol, hptr⟩
  | some config =>
      by_cases hst : (if st = .awake then ArpOlConfigState.awake else .goingToSleep) = arpOl.state
      · simp only [if_pos hst]
        exact ⟨w, rfl, arpOl, hol, hptr⟩
      · simp only [if_neg hst]
        exact ⟨_, rfl, _, rfl, rfl⟩

theorem cylpaArpOlDeinit_pointed (hw : w.Pointed) :
    ∃ w', cylpaArpOlDeinit olInfo w = some w' ∧ w'.Pointed := by
  obtain ⟨arpOl, hol, hptr⟩ := hw
  unfold cylpaArpOlDeinit
  simp only [hol, hptr, Bool.true_eq_false, if_false]
  split
  · exact ⟨w, rfl, arpOl, hol, hptr⟩
  · exact ⟨_, rfl, _, rfl, rfl⟩

variable (olInfo) in
theorem cylpaArpOlInit_pointed (cfg : ArpOlCfg) (hw : w.ol ≠ none) :
    ∃ w', cylpaArpOlInit (some olInfo) (some cfg) w = some (resultOk, w') ∧ w'.Pointed := by
  obtain ⟨arpOl, hol⟩ := Option.ne_none_iff_exists'.mp hw
  -- the handler runs on a context whose pointer has just been set
  have hpm : ∀ w : ArpWorld, w.Pointed → ∃ w', (cylpaArpOlPm olInfo w .awake).map
      (fun w => (resultOk, w)) = some (resultOk, w') ∧ w'.Pointed := by
    intro w hw
    obtain ⟨w', hw', hptr⟩ := cylpaArpOlPm_pointed hw .awake
    exact ⟨w', by rw [hw', Option.map_some], hptr⟩
  unfold cylpaArpOlInit
  simp only [hol]
  split
  · exact ⟨_, rfl, _, rfl, rfl⟩
  · refine hpm _ ?_
    exact ⟨_, rfl, rfl⟩

end Arp

/-! ### Entries of the list -/

/-- What holds of the contexts throughout. -/
structure OlContexts.Sound (s : OlContexts) : Prop where
  tko : ∀ ol, (s.tko ol).Sound
  wowlpf : ∀ ol, (s.wowlpf ol).Sound
  nullko : ∀ ol, (s.nullko ol).Sound

theorem OlContexts.sound_boot : OlContexts.boot.Sound :=
  ⟨fun _ h => absurd rfl h, fun _ h => absurd rfl h, fun _ h => absurd rfl h⟩

namespace BuiltinDesc

/-- Initialisation refuses: the configuration is missing or not valid, or the driver does not take
the keep-alive. -/
def Refuses (olInfo : OlInfo) (answer : ℤ) : BuiltinDesc → Prop
  | .arp _ cfg => cfg = none
  | .tlsoe _ cfg => cfg = none
  | .wowlpf _ cfg => cfg = none
  | .nko _ cfg => olInfo.fwNewInfra ≠ 0 ∧ ∃ c, cfg = some c ∧ ¬ (c.dPort > 0 ∧ c.sPort > 0)
  | .nullko _ cfg => olInfo.fwNewInfra ≠ 0 ∧ cfg ≠ none ∧ answer ≠ whdSuccess
  | _ => False

/-- The context's pointer is set, where it is followed without a test. -/
def Ready (s : OlContexts) : BuiltinDesc → Prop
  | .arp ol _ => (s.arp ol).olInfoPtr = true
  | _ => True

variable {olInfo : OlInfo} {answer : ℤ} {s s' : OlContexts} {it : BuiltinDesc}

/-- **The functions of every offload** keep the contexts sound. -/
theorem builtin_sound (it : BuiltinDesc) : (it.offload answer).Keeps olInfo OlContexts.Sound := by
  have htrue : ∀ {C : Type} (it : Offload C), it.Keeps olInfo fun _ => True :=
    fun _ => ⟨fun _ _ => trivial, fun _ _ => trivial, fun _ _ => trivial⟩
  have hupdate : ∀ {C : Type} {K : C → Prop} {f : Handle → C} {ol : Handle} {c : C},
      (∀ ol, K (f ol)) → K c → ∀ ol', K (Function.update f ol c ol') := by
    intro C K f ol c hf hc ol'
    rcases eq_or_ne ol' ol with rfl | hne
    · rwa [Function.update_self]
    · rw [Function.update_of_ne hne]
      exact hf ol'
  cases it <;> rw [offload]
  case pf => exact (htrue _).on (fun _ _ => trivial) fun _ _ hs _ => ⟨hs.1, hs.2, hs.3⟩
  case arp => exact (htrue _).on (fun _ _ => trivial) fun _ _ hs _ => ⟨hs.1, hs.2, hs.3⟩
  case tlsoe => exact (htrue _).on (fun _ _ => trivial) fun _ _ hs _ => ⟨hs.1, hs.2, hs.3⟩
  case nko => exact (htrue _).on (fun _ _ => trivial) fun _ _ hs _ => ⟨hs.1, hs.2, hs.3⟩
  case tko ol cfg =>
      exact (tkoOlFns_guarded olInfo cfg).keeps.on (fun _ hs => hs.tko ol)
        fun _ _ hs hc => ⟨hupdate hs.tko hc, hs.wowlpf, hs.nullko⟩
  case wowlpf ol cfg =>
      exact (wowlpfOlFns_guarded olInfo cfg).keeps.on (fun _ hs => hs.wowlpf ol)
        fun _ _ hs hc => ⟨hs.tko, hupdate hs.wowlpf hc, hs.nullko⟩
  case nullko ol cfg =>
      exact (nullkoOlFns_guarded olInfo answer cfg).keeps.on (fun _ hs => hs.nullko ol)
        fun _ _ hs hc => ⟨hs.tko, hs.wowlpf, hupdate hs.nullko hc⟩

/-- What a function that needs the entry ready does: nothing to the pointers ARP follows. -/
def Needs (it : BuiltinDesc) (f : OlContexts → Option OlContexts) (s : OlContexts) : Prop :=
  (it.Ready s ∧ ∃ s', f s = some s' ∧ ∀ ol, (s'.arp ol).olInfoPtr = (s.arp ol).olInfoPtr) ∨
    (¬ it.Ready s ∧ f s = none)

theorem needs_of_eq {f : OlContexts → Option OlContexts} (hready : it.Ready s)
    (h : f s = some s') (harp : s'.arp = s.arp) : it.Needs f s :=
  .inl ⟨hready, s', h, fun ol => by rw [harp]⟩

theorem Needs.isSome_iff {f : OlContexts → Option OlContexts} (h : it.Needs f s) :
    (f s).isSome ↔ it.Ready s := by
  rcases h with ⟨hready, s', hs', -⟩ | ⟨hready, hs'⟩
  · simp [hs', hready]
  · simp [hs', hready]

theorem Needs.ready_iff {f : OlContexts → Option OlContexts} (h : it.Needs f s)
    (hs' : f s = some s') (it' : BuiltinDesc) : it'.Ready s' ↔ it'.Ready s := by
  rcases h with ⟨-, s₁, hs₁, hsame⟩ | ⟨-, hnone⟩
  · cases hs₁.symm.trans hs'
    cases it' with
    | arp ol cfg => rw [Ready, Ready, hsame]
    | _ => exact Iff.rfl
  · rw [hnone] at hs'
    cases hs'

/-- A function of the ARP offload that keeps a context pointed at, and needs one. -/
theorem needs_arp {ol : Handle} {cfg : Option ArpOlCfg} {f : ArpWorld → Option ArpWorld}
    (hpointed : ∀ {w : ArpWorld}, w.Pointed → ∃ w', f w = some w' ∧ w'.Pointed)
    (hnone : ∀ {w : ArpWorld} {arpOl : ArpOl}, w.ol = some arpOl → arpOl.olInfoPtr = false →
      f w = none) (s : OlContexts) :
    (BuiltinDesc.arp ol cfg).Needs (fun s => (f { s.ip with ol := some (s.arp ol) }).map
      fun w => { s with arp := Function.update s.arp ol (w.ol.getD .cleared), ip := w }) s := by
  cases hptr : (s.arp ol).olInfoPtr with
  | false =>
      refine .inr ⟨by rw [Ready, hptr]; decide, ?_⟩
      simp only
      rw [hnone rfl hptr, Option.map_none]
  | true =>
      obtain ⟨w', hw', arpOl, hol, hptr'⟩ :=
        hpointed (w := { s.ip with ol := some (s.arp ol) }) ⟨_, rfl, hptr⟩
      refine .inl ⟨hptr, _, by simp only; rw [hw', Option.map_some], fun ol' => ?_⟩
      simp only [hol, Option.getD_some]
      rcases eq_or_ne ol' ol with rfl | hne
      · rw [Function.update_self, hptr', hptr]
      · rw [Function.update_of_ne hne]

/-- **De-initialisation** of an entry. -/
theorem needs_deinit (hs : s.Sound) (it : BuiltinDesc) :
    it.Needs ((it.offload answer).deinit olInfo) s := by
  cases it with
  | arp ol cfg =>
      refine needs_arp cylpaArpOlDeinit_pointed (fun {w arpOl} hol hptr => ?_) s
      simp only [cylpaArpOlDeinit, hol, hptr, if_true]
  | pf ol cfg => exact needs_of_eq trivial rfl rfl
  | tlsoe ol cfg => exact needs_of_eq trivial rfl rfl
  | tko ol cfg => exact needs_of_eq trivial rfl rfl
  | nko ol cfg =>
      -- what is supported has its pointer set
      obtain ⟨ip, hip⟩ : ∃ ip, cylpaNkoOlDeinit olInfo (s.nko ol) s.ip = some ip := by
        unfold cylpaNkoOlDeinit cyNkoSupported
        cases hptr : (s.nko ol).olInfoPtr with
        | false => exact ⟨s.ip, by simp⟩
        | true =>
            split
            · exact ⟨s.ip, rfl⟩
            · split
              · exact ⟨s.ip, rfl⟩
              · exact ⟨s.ip.unregister, by simp⟩
      have hdeinit : ((BuiltinDesc.nko ol cfg).offload answer).deinit olInfo s =
          some { s with nko := Function.update s.nko ol (s.nko ol), ip := ip } := by
        simp only [offload, Offload.on, nkoOlFns, hip, Option.map_some]
      exact needs_of_eq trivial hdeinit rfl
  | wowlpf ol cfg =>
      rw [offload]
      refine needs_of_eq trivial ((wowlpfOlFns_guarded olInfo cfg).on_deinit ?_) rfl
      exact hs.wowlpf ol
  | nullko ol cfg =>
      rw [offload]
      refine needs_of_eq trivial ((nullkoOlFns_guarded olInfo answer cfg).on_deinit ?_) rfl
      exact hs.nullko ol

/-- **A notification** to an entry. -/
theorem needs_pm (hs : s.Sound) (it : BuiltinDesc) (st : OlPmSt) :
    it.Needs ((it.offload answer).pm olInfo st) s := by
  cases it with
  | arp ol cfg =>
      refine needs_arp (cylpaArpOlPm_pointed · st) (fun {w arpOl} hol hptr => ?_) s
      simp only [cylpaArpOlPm, hol, hptr, if_true]
  | pf ol cfg => exact needs_of_eq trivial rfl rfl
  | tlsoe ol cfg => exact needs_of_eq trivial rfl rfl
  | nko ol cfg => exact needs_of_eq trivial rfl rfl
  | nullko ol cfg => exact needs_of_eq trivial rfl rfl
  | tko ol cfg =>
      rw [offload]
      refine needs_of_eq trivial ((tkoOlFns_guarded olInfo cfg).on_pm st ?_) rfl
      exact hs.tko ol
  | wowlpf ol cfg =>
      rw [offload]
      refine needs_of_eq trivial ((wowlpfOlFns_guarded olInfo cfg).on_pm st ?_) rfl
      exact hs.wowlpf ol

theorem resultBadargs_ne : resultBadargs ≠ resultOk := by decide

theorem nkoOlInit_refuses (ol : Handle) (info : OlInfo) (cfg : Option NkoOlCfg) (w : ArpWorld) :
    (cylpaNkoOlInit ol info cfg w).1 ≠ resultOk ↔
      info.fwNewInfra ≠ 0 ∧ ∃ c, cfg = some c ∧ ¬ (c.dPort > 0 ∧ c.sPort > 0) := by
  cases cfg with
  | none => simp [cylpaNkoOlInit]
  | some cfg =>
      by_cases hinfra : info.fwNewInfra = 0
      · simp [cylpaNkoOlInit, cyNkoSupported, hinfra]
      · have hres : resultError ≠ resultOk := by decide
        by_cases hports : cfg.dPort > 0 ∧ cfg.sPort > 0
        · have hvalid : cylpaNkoIsValidConfig (some cfg) = resultOk := if_pos hports
          refine iff_of_false (not_not.mpr ?_) fun ⟨_, c, hc, hno⟩ => hno ?_
          · simp [cylpaNkoOlInit, cyNkoSupported, hinfra, hvalid]
          · rwa [← Option.some.inj hc]
        · have hvalid : cylpaNkoIsValidConfig (some cfg) = resultError := if_neg hports
          refine iff_of_true ?_ ⟨hinfra, cfg, rfl, hports⟩
          simp [cylpaNkoOlInit, cyNkoSupported, hinfra, hvalid, hres]

theorem nullkoOlInit_refuses (answer : ℤ) (info : OlInfo) (cfg : Option Handle) :
    (cylpaNullkoOlInit answer (some info) cfg).1 ≠ resultOk ↔
      info.fwNewInfra ≠ 0 ∧ cfg ≠ none ∧ answer ≠ whdSuccess := by
  cases cfg with
  | none => simp [cylpaNullkoOlInit]
  | some cfg =>
      by_cases hinfra : info.fwNewInfra = 0
      · simp [cylpaNullkoOlInit, hinfra]
      · by_cases hanswer : answer = whdSuccess
        · simp [cylpaNullkoOlInit, hinfra, hanswer]
        · have hres : answer ≠ resultOk := hanswer
          simp [cylpaNullkoOlInit, hinfra, hanswer, hres]

/-- **Initialisation** of an entry: it has a result unless it goes through a configuration that is
missing, the result is bad where it refuses, and else the entry is ready. -/
theorem init_spec (olInfo : OlInfo) (answer : ℤ) (s : OlContexts) (h : ∀ ol, it ≠ .pf ol none) :
    ∃ result s', (it.offload answer).init olInfo s = some (result, s') ∧
      (result ≠ resultOk ↔ it.Refuses olInfo answer) ∧
      (¬ it.Refuses olInfo answer → it.Ready s') := by
  cases it with
  | pf ol cfg =>
      cases cfg with
      | none => exact absurd rfl (h ol)
      | some cfg => exact ⟨_, _, rfl, iff_of_false (fun h => h rfl) id, fun _ => trivial⟩
  | arp ol cfg =>
      cases cfg with
      | none => exact ⟨_, _, rfl, iff_of_true resultBadargs_ne rfl, fun h => absurd rfl h⟩
      | some cfg =>
          obtain ⟨w', hw', arpOl, hol, hptr⟩ := cylpaArpOlInit_pointed olInfo cfg
            (w := { s.ip with ol := some (s.arp ol) }) (Option.some_ne_none _)
          refine ⟨resultOk,
            { s with arp := Function.update s.arp ol (w'.ol.getD .cleared), ip := w' },
            ?_, iff_of_false (fun h => h rfl) (Option.some_ne_none _), fun _ => ?_⟩
          · simp only [offload, Offload.on, arpOlFns, hw', Option.map_some]
          · simp only [Ready, hol, Option.getD_some, Function.update_self, hptr]
  | tko ol cfg =>
      cases cfg with
      | none => exact ⟨_, _, rfl, iff_of_false (fun h => h rfl) id, fun _ => trivial⟩
      | some cfg => exact ⟨_, _, rfl, iff_of_false (fun h => h rfl) id, fun _ => trivial⟩
  | tlsoe ol cfg =>
      cases cfg with
      | none => exact ⟨_, _, rfl, iff_of_true resultBadargs_ne rfl, fun _ => trivial⟩
      | some cfg =>
          exact ⟨_, _, rfl, iff_of_false (fun h => h rfl) (Option.some_ne_none _), fun _ => trivial⟩
  | wowlpf ol cfg =>
      cases cfg with
      | none => exact ⟨_, _, rfl, iff_of_true resultBadargs_ne rfl, fun _ => trivial⟩
      | some cfg =>
          exact ⟨_, _, rfl, iff_of_false (fun h => h rfl) (Option.some_ne_none _), fun _ => trivial⟩
  | nko ol cfg =>
      exact ⟨_, _, rfl, nkoOlInit_refuses ol olInfo cfg _, fun _ => trivial⟩
  | nullko ol cfg =>
      exact ⟨_, _, rfl, nullkoOlInit_refuses answer olInfo cfg, fun _ => trivial⟩

/-- An entry once ready stays so when another is initialised. -/
theorem init_ready {result : ℤ} (it : BuiltinDesc)
    (hinit : (it.offload answer).init olInfo s = some (result, s')) {it' : BuiltinDesc}
    (h : it'.Ready s) : it'.Ready s' := by
  have harp : ∀ ol, (s.arp ol).olInfoPtr = true → (s'.arp ol).olInfoPtr = true := by
    intro ol' hptr
    cases it with
    | arp ol cfg =>
        obtain ⟨⟨result₁, w'⟩, hw', heq⟩ := Option.map_eq_some_iff.mp hinit
        cases heq
        simp only
        rcases eq_or_ne ol' ol with rfl | hne
        · rw [Function.update_self]
          cases cfg with
          | none =>
              cases hw'
              exact hptr
          | some cfg =>
              obtain ⟨w₁, hw₁, arpOl, hol, hptr'⟩ := cylpaArpOlInit_pointed olInfo cfg
                (w := { s.ip with ol := some (s.arp ol') }) (Option.some_ne_none _)
              cases hw₁.symm.trans hw'
              rw [hol, Option.getD_some, hptr']
        · rw [Function.update_of_ne hne]
          exact hptr
    | pf ol cfg =>
        obtain ⟨_, -, heq⟩ := Option.map_eq_some_iff.mp hinit
        cases heq
        exact hptr
    | tko ol cfg => cases hinit; exact hptr
    | tlsoe ol cfg => cases hinit; exact hptr
    | wowlpf ol cfg => cases hinit; exact hptr
    | nko ol cfg => cases hinit; exact hptr
    | nullko ol cfg => cases hinit; exact hptr
  cases it' with
  | arp ol cfg => exact harp ol h
  | _ => exact h

theorem builtin_ready (it it' : BuiltinDesc) :
    (it.offload answer).Keeps olInfo fun s => s.Sound ∧ it'.Ready s where
  init hs h := ⟨it.builtin_sound.init hs.1 h, it.init_ready h hs.2⟩
  deinit hs h := ⟨it.builtin_sound.deinit hs.1 h, ((needs_deinit hs.1 it).ready_iff h it').mpr hs.2⟩
  pm hs h := ⟨it.builtin_sound.pm hs.1 h, ((needs_pm hs.1 it _).ready_iff h it').mpr hs.2⟩

end BuiltinDesc

/-! ### The list -/

/-- **No entry goes through a configuration that is missing**: before each packet filter without
one there is an entry that refuses, at which `cylpa_olm_init_ols` stops. -/
def PfStopped (olInfo : OlInfo) (its : List (BuiltinDesc × ℤ)) : Prop :=
  ∀ pre ol answer post, its = pre ++ (.pf ol none, answer) :: post →
    ∃ it ∈ pre, it.1.Refuses olInfo it.2

section List

variable {olInfo : OlInfo} {s s' : OlContexts} {its : List (BuiltinDesc × ℤ)}

theorem pfStopped_cons {it : BuiltinDesc × ℤ} : PfStopped olInfo (it :: its) ↔
    (∀ ol, it.1 ≠ .pf ol none) ∧ (it.1.Refuses olInfo it.2 ∨ PfStopped olInfo its) := by
  constructor
  · intro h
    refine ⟨fun ol hit => ?_, ?_⟩
    · obtain ⟨it', hmem, -⟩ := h [] ol it.2 its (by rw [← hit]; rfl)
      cases hmem
    · rw [or_iff_not_imp_left]
      rintro hno pre ol answer post rfl
      obtain ⟨it', hmem, hrefuses⟩ := h (it :: pre) ol answer post rfl
      refine ⟨it', (List.mem_cons.mp hmem).resolve_left ?_, hrefuses⟩
      rintro rfl
      exact hno hrefuses
  · rintro ⟨hit, hor⟩ pre ol answer post heq
    cases pre with
    | nil => cases heq; exact absurd rfl (hit ol)
    | cons it' pre =>
        cases heq
        rcases hor with hrefuses | hstopped
        · exact ⟨_, List.mem_cons_self, hrefuses⟩
        · obtain ⟨it₁, hmem, hrefuses⟩ := hstopped pre ol answer post rfl
          exact ⟨it₁, List.mem_cons_of_mem _ hmem, hrefuses⟩

theorem olFns_cons (it : BuiltinDesc × ℤ) (its : List (BuiltinDesc × ℤ)) :
    olFns (it :: its) = it.1.offload it.2 :: olFns its := rfl

theorem olFns_sound : ∀ it ∈ olFns its, it.Keeps olInfo OlContexts.Sound := by
  intro it hit
  obtain ⟨it', -, rfl⟩ := List.mem_map.mp hit
  exact it'.1.builtin_sound

theorem olFns_ready (it' : BuiltinDesc) :
    ∀ it ∈ olFns its, it.Keeps olInfo fun s => s.Sound ∧ it'.Ready s := by
  intro it hit
  obtain ⟨it₁, -, rfl⟩ := List.mem_map.mp hit
  exact it₁.1.builtin_ready it'

/-- **The first loop** of `cylpa_olm_init_ols`. -/
theorem initOls_isSome_iff :
    (initOls olInfo (olFns its) s).isSome ↔ PfStopped olInfo its := by
  induction its generalizing s with
  | nil =>
      refine iff_of_true rfl fun pre ol answer post heq => ?_
      cases pre <;> cases heq
  | cons it its ih =>
      rw [pfStopped_cons, olFns_cons]
      by_cases hpf : ∃ ol, it.1 = .pf ol none
      · obtain ⟨ol, hol⟩ := hpf
        refine iff_of_false ?_ fun h => h.1 ol hol
        have hnone : (it.1.offload it.2).init olInfo s = none := by rw [hol]; rfl
        simp [initOls, hnone]
      · rw [not_exists] at hpf
        obtain ⟨result, s₁, hinit, hrefuses, -⟩ :=
          BuiltinDesc.init_spec olInfo it.2 s hpf
        rw [and_iff_right hpf, ← hrefuses]
        simp only [initOls, hinit, Option.bind_eq_bind, Option.bind_some]
        by_cases hresult : result ≠ resultOk
        · simp [hresult]
        · rw [if_neg hresult, or_iff_right hresult, ← ih (s := s₁)]
          cases initOls olInfo (olFns its) s₁ <;> simp

/-- What the first loop leaves to be undone is ready for it. -/
theorem initOls_ready {result : ℤ} {before : List (Offload OlContexts)} (hs : s.Sound)
    (h : initOls olInfo (olFns its) s = some (result, before, s')) :
    ∃ pre, before = olFns pre ∧ ∀ it ∈ pre, it.1.Ready s' := by
  induction its generalizing s before with
  | nil => cases h; exact ⟨[], rfl, fun _ hmem => absurd hmem List.not_mem_nil⟩
  | cons it its ih =>
      obtain ⟨⟨result₁, s₁⟩, h₁, h⟩ := Option.bind_eq_some_iff.mp h
      replace h₁ : (it.1.offload it.2).init olInfo s = some (result₁, s₁) := h₁
      have hs₁ : s₁.Sound := it.1.builtin_sound.init hs h₁
      simp only at h
      split at h
      · cases h; exact ⟨[], rfl, fun _ hmem => absurd hmem List.not_mem_nil⟩
      · rename_i hresult
        obtain ⟨⟨result₂, before₂, s₂⟩, h₂, h⟩ := Option.bind_eq_some_iff.mp h
        cases h
        have hready : it.1.Ready s₁ := by
          have hpf : ∀ ol, it.1 ≠ .pf ol none := by
            intro ol hol
            rw [hol] at h₁
            cases h₁
          obtain ⟨result, s', hinit, hrefuses, hready⟩ :=
            BuiltinDesc.init_spec olInfo it.2 s hpf
          cases hinit.symm.trans h₁
          exact hready fun hno => hresult (hrefuses.mpr hno)
        obtain ⟨pre, rfl, hpre⟩ := ih hs₁ h₂
        refine ⟨it :: pre, rfl, List.forall_mem_cons.mpr ⟨?_, hpre⟩⟩
        exact (initOls_keeps (olFns_ready it.1) ⟨hs₁, hready⟩ h₂).1.2

/-- **The second loop**, and that of `cylpa_olm_deinit_ols`. -/
theorem deinitOls_isSome_iff (hs : s.Sound) :
    (deinitOls olInfo (olFns its) s).isSome ↔ ∀ it ∈ its, it.1.Ready s := by
  rw [deinitOls, olFns, List.foldlM_map]
  exact Runs.isSome_foldlM_iff_forall (J := OlContexts.Sound)
    (D := fun s (it : BuiltinDesc × ℤ) => it.1.Ready s)
    (fun s it s' hs h => it.1.builtin_sound.deinit hs h)
    (fun s it hs => (BuiltinDesc.needs_deinit hs it.1).isSome_iff)
    (fun s it s' it' hs h => (BuiltinDesc.needs_deinit hs it.1).ready_iff h it'.1) hs

theorem pmOls_isSome_iff (hs : s.Sound) (st : OlPmSt) :
    (pmOls olInfo st (olFns its) s).isSome ↔ ∀ it ∈ its, it.1.Ready s := by
  rw [pmOls, olFns, List.foldlM_map]
  exact Runs.isSome_foldlM_iff_forall (J := OlContexts.Sound)
    (D := fun s (it : BuiltinDesc × ℤ) => it.1.Ready s)
    (fun s it s' hs h => it.1.builtin_sound.pm hs h)
    (fun s it hs => (BuiltinDesc.needs_pm hs it.1 st).isSome_iff)
    (fun s it s' it' hs h => (BuiltinDesc.needs_pm hs it.1 st).ready_iff h it'.1) hs

/-- **Initialisation** of the list: what is undone is ready to be. -/
theorem cylpaOlmInitOls_isSome_iff {olm : Manager OlContexts} {whd ip : Option Handle}
    (hs : s.Sound) (hl : olm.olList = some (olFns its)) :
    (cylpaOlmInitOls olm whd ip s).isSome ↔
      PfStopped { olm.olInfo with whd := whd, ip := ip } its := by
  rw [← initOls_isSome_iff (s := s)]
  unfold cylpaOlmInitOls
  simp only [hl]
  cases hinit : initOls { olm.olInfo with whd := whd, ip := ip } (olFns its) s with
  | none => simp
  | some r =>
      obtain ⟨result, before, s₁⟩ := r
      obtain ⟨pre, rfl, hpre⟩ := initOls_ready hs hinit
      have hs₁ : s₁.Sound := (initOls_keeps olFns_sound hs hinit).1
      have hundo : (deinitOls { olm.olInfo with whd := whd, ip := ip } (olFns pre) s₁).isSome :=
        (deinitOls_isSome_iff hs₁).mpr hpre
      obtain ⟨s₂, hs₂⟩ := Option.isSome_iff_exists.mp hundo
      simp only [Option.bind_eq_bind, Option.bind_some, hs₂]
      split <;> simp

end List

/-! ### Runs -/

namespace OlmRun

variable {s s' : OlmRun} {e : OlmCall}

/-- Every entry of the list is ready. -/
def AllReady (s : OlmRun) : Prop :=
  ∀ its, s.olm.olList = some its → ∀ it ∈ its, it.Ready s.contexts

/-- **What a call needs** for no pointer that is `NULL` to be followed: at `cylpa_olm_init_ols`,
that no packet filter without configuration is reached; at the others, that the ARP contexts of
the list have been initialised. -/
def Prepared (s : OlmRun) : OlmCall → Prop
  | .init _ _ => True
  | .initOls whd ip answers => ∀ its, s.items answers = some its →
      PfStopped { s.olm.olInfo with whd := some whd, ip := some ip } its
  | .deinitOls => s.AllReady
  | .notify _ => s.olm.olInfo.whd ≠ none → s.AllReady

theorem allReady_iff (answers : ℕ → ℤ) :
    s.AllReady ↔ ∀ its, s.items answers = some its → ∀ it ∈ its, it.1.Ready s.contexts := by
  unfold AllReady items
  cases s.olm.olList with
  | none => simp
  | some its =>
      simp only [Option.map_some, Option.some.injEq, forall_eq']
      constructor
      · intro h it hit
        obtain ⟨i, hi, rfl⟩ := List.mem_mapIdx.mp hit
        exact h _ (List.getElem_mem hi)
      · intro h it hit
        obtain ⟨i, hi, rfl⟩ := List.mem_iff_getElem.mp hit
        exact h _ (List.mem_mapIdx.mpr ⟨i, hi, rfl⟩)

/-- **A call** keeps the contexts sound. -/
theorem step_sound (hs : s.contexts.Sound) (h : s.step e = some s') : s'.contexts.Sound := by
  have hlist : ∀ (answers : ℕ → ℤ) (olInfo : OlInfo) (its : List (Offload OlContexts)),
      (s.manager answers).olList = some its →
        ∀ it ∈ its, it.Keeps olInfo OlContexts.Sound := by
    intro answers olInfo its hl
    obtain ⟨its', -, rfl⟩ := Option.map_eq_some_iff.mp hl
    exact olFns_sound
  cases e with
  | init olList fwcap => cases h; exact hs
  | initOls whd ip answers =>
      obtain ⟨⟨result, olm, c⟩, hc, rfl⟩ := Option.map_eq_some_iff.mp h
      exact cylpaOlmInitOls_keeps (hlist answers _) hs hc
  | deinitOls =>
      obtain ⟨c, hc, rfl⟩ := Option.map_eq_some_iff.mp h
      exact cylpaOlmDeinitOls_keeps (hlist _ _) hs hc
  | notify st =>
      obtain ⟨c, hc, rfl⟩ := Option.map_eq_some_iff.mp h
      exact dispatch_keeps (hlist _ _) hs hc

/-- **A call** follows no pointer that is `NULL` exactly if what it needs is there. -/
theorem step_isSome_iff (hs : s.contexts.Sound) (e : OlmCall) :
    (s.step e).isSome ↔ s.Prepared e := by
  cases e with
  | init olList fwcap => exact iff_of_true rfl trivial
  | initOls whd ip answers =>
      rw [step, Option.isSome_map, Prepared]
      cases hits : s.items answers with
      | none =>
          refine iff_of_true ?_ fun its h => by cases h
          simp [cylpaOlmInitOls, manager, hits]
      | some its =>
          rw [cylpaOlmInitOls_isSome_iff hs (by rw [manager, hits, Option.map_some])]
          simp [manager]
  | deinitOls =>
      rw [step, Option.isSome_map, Prepared, allReady_iff fun _ => whdSuccess]
      cases hits : s.items fun _ => whdSuccess with
      | none => simp [cylpaOlmDeinitOls, manager, hits]
      | some its =>
          simp only [cylpaOlmDeinitOls, manager, hits, Option.map_some, Option.some.injEq,
            forall_eq']
          exact deinitOls_isSome_iff hs
  | notify st =>
      rw [step, Option.isSome_map, Prepared, allReady_iff fun _ => whdSuccess]
      cases hits : s.items fun _ => whdSuccess with
      | none => simp [Manager.dispatch, manager, hits]
      | some its =>
          cases hwhd : s.olm.olInfo.whd with
          | none => simp [Manager.dispatch, manager, hits, hwhd]
          | some whd =>
              simp only [Manager.dispatch, manager, hits, hwhd, Option.map_some,
                Option.some.injEq, forall_eq', ne_eq, reduceCtorEq, not_false_eq_true, true_imp_iff]
              exact pmOls_isSome_iff hs st

end OlmRun

/-- **No function of the built-in offloads follows a pointer that is `NULL`**, over a run from
zero-initialised contexts, exactly if each call finds what it needs. -/
theorem builtin_defined_iff (olm : OlmOf BuiltinDesc) (run : List OlmCall) :
    (run.foldlM OlmRun.step ⟨olm, .boot⟩).isSome ↔
      ∀ xs, xs <+: run → ∀ ys e, xs = ys ++ [e] →
        ∀ s, ys.foldlM OlmRun.step ⟨olm, .boot⟩ = some s → s.Prepared e :=
  Runs.isSome_foldlM_iff (J := fun s : OlmRun => s.contexts.Sound)
    (fun _ _ _ hs h => OlmRun.step_sound hs h) (fun _ e hs => OlmRun.step_isSome_iff hs e)
    OlContexts.sound_boot

/-- TLS refuses its configuration, so ARP after it is never initialised; a notification follows its
`ol_info_ptr`. -/
theorem builtin_not_defined :
    ¬ ∀ (olm : OlmOf BuiltinDesc) (run : List OlmCall),
      (run.foldlM OlmRun.step ⟨olm, .boot⟩).isSome := by
  intro h
  have hrun := h ⟨none, none, none, none, 0⟩
    [.init (some [.tlsoe 0 none, .arp 0 (some ⟨1, 8, 1200⟩)]) (some false),
      .initOls 1 2 fun _ => whdSuccess, .notify .goingToSleep]
  exact absurd hrun (by decide)

end Lpa
