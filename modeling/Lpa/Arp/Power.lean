import Lpa.Arp.Model

/-!
# ARP — the feature word over power-mode notifications

Each power state has its own mask of ARP features.  The handler writes the mask of the state it
enters, unless the two masks are equal: it then takes the firmware to be set up already and clears
everything instead, on the first notification that changes the state.

* `cylpaArpOlPm_eq`: what one notification does.
* `arpInv_run`: what the firmware was last told after any notifications.
* `arp_follows_iff`: it is what the configuration asks for exactly when the masks differ, or ask
  for nothing, or the host has never gone to sleep.
-/

namespace Lpa

/-- The mask configured for a power state. -/
def ArpOlCfg.mask (cfg : ArpOlCfg) : OlPmSt → UInt32
  | .goingToSleep => cfg.sleepEnableMask
  | _ => cfg.awakeEnableMask

/-- The feature word for a mask: the automatic replies need the agent. -/
def withAgent (m : UInt32) : UInt32 :=
  if m &&& (cyArpOlHostAutoReplyEnable ||| cyArpOlPeerAutoReplyEnable) ≠ 0 then
    m ||| cyArpOlAgentEnable
  else m

/-- The offload's own name for a power state. -/
def OlPmSt.arpState : OlPmSt → ArpOlConfigState
  | .awake => .awake
  | _ => .goingToSleep

/-- **The firmware follows the mask `m`**: its feature word is `m` with the agent it needs, and
ARP offload is on if `m` asks for anything. -/
def ArpFollows (m : UInt32) (calls : List ArpCall) : Prop :=
  lastFeatures calls = some (withAgent m) ∧ (m ≠ 0 → lastArpoe calls = some 1)

theorem withAgent_eq_zero_iff {m : UInt32} : withAgent m = 0 ↔ m = 0 := by
  unfold withAgent
  split
  · rename_i h
    refine iff_of_false (fun h0 => ?_) fun h0 => h (by rw [h0]; rfl)
    rw [← UInt32.toNat_inj, UInt32.toNat_or, UInt32.toNat_zero, Nat.or_eq_zero_iff] at h0
    exact absurd h0.2 (by decide)
  · rfl

/-! ### One notification -/

/-- The context of an initialised offload. -/
def ArpOl.running (cfg : ArpOlCfg) (s : ArpOlConfigState) : ArpOl := ⟨some cfg, true, 0, s⟩

/-- The calls made on entering a power state. -/
def ArpWorld.enter (cfg : ArpOlCfg) (s : ArpOlConfigState) (st : OlPmSt) (w : ArpWorld) :
    ArpWorld :=
  if s = .uninitialized ∨ cfg.awakeEnableMask ≠ cfg.sleepEnableMask then
    w.register.emit [.arpoeSet 1, .featuresSet (withAgent (cfg.mask st))]
  else w.emit [.featuresSet 0, .arpoeSet 0]

theorem lastFeatures_enter (cfg : ArpOlCfg) (s : ArpOlConfigState) (st : OlPmSt)
    (w : ArpWorld) : lastFeatures (w.enter cfg s st).calls =
      if s = .uninitialized ∨ cfg.awakeEnableMask ≠ cfg.sleepEnableMask then
        some (withAgent (cfg.mask st))
      else some 0 := by
  unfold ArpWorld.enter
  split <;> rw [ArpWorld.emit, lastFeatures_append] <;> rfl

theorem lastArpoe_enter (cfg : ArpOlCfg) (s : ArpOlConfigState) (st : OlPmSt) (w : ArpWorld) :
    lastArpoe (w.enter cfg s st).calls =
      if s = .uninitialized ∨ cfg.awakeEnableMask ≠ cfg.sleepEnableMask then some 1
      else some 0 := by
  unfold ArpWorld.enter
  split <;> rw [ArpWorld.emit, lastArpoe_append] <;> rfl

section Run

variable {olInfo : OlInfo} {cfg : ArpOlCfg}
variable (hwhd : olInfo.whd ≠ none) (hinfra : olInfo.fwNewInfra = 0)

include hwhd hinfra in
/-- **What one notification does**: nothing in the state already announced, else the calls on
entering the new one. -/
theorem cylpaArpOlPm_eq {s : ArpOlConfigState} {w : ArpWorld} {st : OlPmSt}
    (hol : w.ol = some (.running cfg s)) (hst : st ≠ .max) :
    cylpaArpOlPm olInfo w st = some (if st.arpState = s then w else
      { w.enter cfg s st with ol := some (.running cfg st.arpState) }) := by
  have hinfra' : ¬ olInfo.fwNewInfra ≠ 0 := not_not.mpr hinfra
  unfold cylpaArpOlPm
  simp only [hol, ArpOl.running, Bool.true_eq_false, if_false, if_neg hwhd, if_neg hinfra']
  have hmask : ∀ m : UInt32, (if m ≠ 0 then m else 0) = m := fun m => by
    by_cases hm : m = 0 <;> simp [hm]
  cases st with
  | max => exact absurd rfl hst
  | awake =>
      simp only [true_and, false_and, if_true, if_false, hmask, reduceCtorEq]
      by_cases h : ArpOlConfigState.awake = s
      · rw [if_pos h, if_pos (show OlPmSt.awake.arpState = s from h)]
      · rw [if_neg h, if_neg (show ¬ OlPmSt.awake.arpState = s from h)]
        rfl
  | goingToSleep =>
      simp only [true_and, false_and, if_false, hmask, reduceCtorEq]
      by_cases h : ArpOlConfigState.goingToSleep = s
      · rw [if_pos h, if_pos (show OlPmSt.goingToSleep.arpState = s from h)]
      · rw [if_neg h, if_neg (show ¬ OlPmSt.goingToSleep.arpState = s from h)]
        rfl

/-! ### Runs -/

/-- What the firmware was last told, features and on or off: with equal masks, nothing any more
once the host has slept. -/
def arpShown (cfg : ArpOlCfg) (ns : List OlPmSt) : UInt32 × UInt32 :=
  if cfg.awakeEnableMask = cfg.sleepEnableMask ∧ .goingToSleep ∈ ns then (0, 0)
  else (withAgent (cfg.mask (powerState ns)), 1)

theorem arpShown_nil (cfg : ArpOlCfg) : arpShown cfg [] = (withAgent (cfg.mask .awake), 1) := by
  simp [arpShown]

/-- The offload and the firmware after the notifications `ns`. -/
structure ArpInv (cfg : ArpOlCfg) (ns : List OlPmSt) (w : ArpWorld) : Prop where
  ol : w.ol = some (.running cfg (powerState ns).arpState)
  features : lastFeatures w.calls = some (arpShown cfg ns).1
  arpoe : lastArpoe w.calls = some (arpShown cfg ns).2

variable (cfg) in
include hwhd hinfra in
theorem arpInv_init {w : ArpWorld} (hol : w.ol ≠ none) :
    ∃ w', cylpaArpOlInit (some olInfo) (some cfg) w = some (resultOk, w') ∧
      ArpInv cfg [] w' := by
  obtain ⟨arpOl, harp⟩ := Option.ne_none_iff_exists'.mp hol
  have hinfra' : ¬ olInfo.fwNewInfra ≠ 0 := not_not.mpr hinfra
  simp only [cylpaArpOlInit, harp, if_neg hinfra']
  -- the context is cleared before the handler runs, so the masks are not compared
  rw [cylpaArpOlPm_eq hwhd hinfra (show _ = some (ArpOl.running cfg .uninitialized) from rfl)
    (by decide), if_neg (by decide)]
  refine ⟨_, rfl, rfl, ?_, ?_⟩
  · rw [arpShown_nil]
    exact (lastFeatures_enter cfg .uninitialized .awake _).trans (if_pos (Or.inl rfl))
  · rw [arpShown_nil]
    exact (lastArpoe_enter cfg .uninitialized .awake _).trans (if_pos (Or.inl rfl))

include hwhd hinfra in
/-- **A notification** keeps the invariant. -/
theorem ArpInv.step {ns : List OlPmSt} {w : ArpWorld} {st : OlPmSt} (h : ArpInv cfg ns w)
    (hst : st ≠ .max) :
    ∃ w', cylpaArpOlPm olInfo w st = some w' ∧ ArpInv cfg (ns ++ [st]) w' := by
  have hps : powerState (ns ++ [st]) = st := by rw [powerState_append, next_of_ne_max hst]
  have hmax := powerState_ne_max ns
  refine ⟨_, cylpaArpOlPm_eq hwhd hinfra h.ol hst, ?_⟩
  split
  · -- the state is announced again
    rename_i hsame
    have hst' : powerState ns = st := by
      cases hp : powerState ns <;> cases hs : st <;> simp_all [OlPmSt.arpState]
    have hshown : arpShown cfg (ns ++ [st]) = arpShown cfg ns := by
      have hmem : OlPmSt.goingToSleep ∈ ns ++ [st] ↔ .goingToSleep ∈ ns := by
        rw [List.mem_append, List.mem_singleton, or_iff_left_of_imp]
        exact fun hs => mem_of_powerState_eq (hst'.trans hs.symm)
      simp only [arpShown, hps, hst', hmem]
    exact ⟨by rw [hps, ← hst']; exact h.ol, hshown ▸ h.features, hshown ▸ h.arpoe⟩
  · -- the state changes, so one of the two is the sleeping one
    rename_i hnew
    have hmem : OlPmSt.goingToSleep ∈ ns ++ [st] := by
      rw [List.mem_append, List.mem_singleton]
      cases hs : st with
      | max => exact absurd hs hst
      | goingToSleep => exact .inr rfl
      | awake =>
          refine .inl (mem_of_powerState_eq ?_)
          cases hp : powerState ns with
          | max => exact absurd hp hmax
          | goingToSleep => rfl
          | awake => rw [hs, hp] at hnew; exact absurd rfl hnew
    have hne : (powerState ns).arpState ≠ .uninitialized := by
      cases powerState ns <;> decide
    refine ⟨by rw [hps], ?_, ?_⟩
    · refine (lastFeatures_enter cfg _ st w).trans ?_
      by_cases hm : cfg.awakeEnableMask = cfg.sleepEnableMask <;>
        simp [arpShown, hm, hmem, hne, hps]
    · refine (lastArpoe_enter cfg _ st w).trans ?_
      by_cases hm : cfg.awakeEnableMask = cfg.sleepEnableMask <;>
        simp [arpShown, hm, hmem, hne]

include hwhd hinfra in
theorem arpInv_run {w : ArpWorld} (h : ArpInv cfg [] w) {ns : List OlPmSt}
    (hns : OlPmSt.max ∉ ns) :
    ∃ w', ns.foldlM (cylpaArpOlPm olInfo) w = some w' ∧ ArpInv cfg ns w' := by
  induction ns using List.reverseRecOn with
  | nil => exact ⟨w, rfl, h⟩
  | append_singleton ns st ih =>
      rw [List.mem_append, not_or, List.mem_singleton] at hns
      obtain ⟨w₁, hw₁, h₁⟩ := ih hns.1
      obtain ⟨w₂, hw₂, h₂⟩ := h₁.step hwhd hinfra (Ne.symm hns.2)
      refine ⟨w₂, ?_, h₂⟩
      rw [List.foldlM_append, hw₁]
      simpa using hw₂

end Run

/-- What the firmware was last told is what the mask of the power state asks for, but that equal
masks are cleared once the host has slept. -/
theorem ArpInv.follows_iff {cfg : ArpOlCfg} {ns : List OlPmSt} {w : ArpWorld}
    (h : ArpInv cfg ns w) : ArpFollows (cfg.mask (powerState ns)) w.calls ↔
      cfg.awakeEnableMask ≠ cfg.sleepEnableMask ∨ cfg.awakeEnableMask = 0 ∨
        .goingToSleep ∉ ns := by
  rw [ArpFollows, h.features, h.arpoe, arpShown]
  split
  · rename_i hc
    obtain ⟨hm, hmem⟩ := hc
    have hmask : cfg.mask (powerState ns) = cfg.awakeEnableMask := by
      cases powerState ns <;> simp [ArpOlCfg.mask, hm]
    rw [hmask, Option.some.injEq, eq_comm, withAgent_eq_zero_iff]
    simp [hm, hmem]
  · rename_i hc
    refine iff_of_true ⟨rfl, fun _ => rfl⟩ ?_
    by_contra hno
    simp only [not_or, ne_eq, not_not] at hno
    exact hc ⟨hno.1, hno.2.2⟩

/-- **ARP offload follows the configured mask exactly when** the masks differ, or ask for
nothing, or the host has not gone to sleep. -/
theorem arp_follows_iff (cfg : ArpOlCfg) (olInfo : OlInfo) (w : ArpWorld) (ns : List OlPmSt)
    (hol : w.ol ≠ none) (hwhd : olInfo.whd ≠ none) (hinfra : olInfo.fwNewInfra = 0)
    (hns : OlPmSt.max ∉ ns) :
    ∃ w₁ w₂, cylpaArpOlInit (some olInfo) (some cfg) w = some (resultOk, w₁) ∧
      ns.foldlM (cylpaArpOlPm olInfo) w₁ = some w₂ ∧
      (ArpFollows (cfg.mask (powerState ns)) w₂.calls ↔
        cfg.awakeEnableMask ≠ cfg.sleepEnableMask ∨ cfg.awakeEnableMask = 0 ∨
          .goingToSleep ∉ ns) := by
  obtain ⟨w₁, hw₁, h₁⟩ := arpInv_init cfg hwhd hinfra hol
  obtain ⟨w₂, hw₂, h₂⟩ := arpInv_run hwhd hinfra h₁ hns
  exact ⟨w₁, w₂, hw₁, hw₂, h₂.follows_iff⟩

/-- Equal masks with the peer's automatic reply: the first sleep turns ARP offload off. -/
theorem arp_not_follows :
    ¬ ∀ (cfg : ArpOlCfg) (olInfo : OlInfo) (w w₁ w₂ : ArpWorld) (ns : List OlPmSt),
      olInfo.whd ≠ none → olInfo.fwNewInfra = 0 → OlPmSt.max ∉ ns →
      cylpaArpOlInit (some olInfo) (some cfg) w = some (resultOk, w₁) →
      ns.foldlM (cylpaArpOlPm olInfo) w₁ = some w₂ →
      ArpFollows (cfg.mask (powerState ns)) w₂.calls := by
  intro h
  have hf := h ⟨8, 8, 1200⟩ ⟨some 0, none, none, 0⟩ ⟨some .cleared, ⟨none, none, false⟩, 25, []⟩ _ _
    [.goingToSleep] (by decide) rfl (by decide) rfl rfl
  exact absurd hf.1 (by decide)

theorem arp_follows_iff_asleep :
    ∃ w₁ w₂, cylpaArpOlInit (some ⟨some 0, none, none, 0⟩) (some ⟨1, 8, 1200⟩)
        ⟨some .cleared, ⟨none, none, false⟩, 25, []⟩ = some (resultOk, w₁) ∧
      [OlPmSt.goingToSleep].foldlM (cylpaArpOlPm ⟨some 0, none, none, 0⟩) w₁ = some w₂ ∧
      ArpFollows 8 w₂.calls := by
  obtain ⟨w₁, w₂, h₁, h₂, hiff⟩ := arp_follows_iff ⟨1, 8, 1200⟩ ⟨some 0, none, none, 0⟩
    ⟨some .cleared, ⟨none, none, false⟩, 25, []⟩ [.goingToSleep] (by decide) (by decide) rfl
    (by decide)
  exact ⟨w₁, w₂, h₁, h₂, hiff.mpr (.inl (by decide))⟩

end Lpa
