import Lpa.Offload.Info
import Lpa.Support.Runs
import Mathlib.Order.Basic

/-!
# Offload manager — power-mode notifications

`cylpa_olm_dispatch_pm_notification` first sets the firmware's PM2 return-to-sleep time, then
hands the notification to every offload of the list.  Going to sleep it saves the value in force
in `cy_pm2_sleep_ret_value` and sets its own; otherwise it sets the value saved.  Nothing tells
whether the slot holds a value of the user's: a wake-up before any sleep sets what the slot held,
and a second sleep in a row saves the low-power value over the user's.

* `dispatch_pm2`: what one notification does to the value and the slot.
* `pm2_restored_iff`: awake, the value is the one before the first notification exactly when
  neither has happened, or the values happen to agree.

The offloads are functions on the rest of the world, which the value and the slot are no part of.
-/

namespace Lpa

/-- `LPA_PM2_SLEEP_RET_TIME`. -/
def lpaPm2SleepRetTime : UInt32 := 10

/-- `ol_desc_t`, its functions closed over their context and configuration; they act on the rest
of the world, `W`. -/
structure OlDesc (W : Type) where
  init : Option (OlInfo → W → ℤ × W)
  deinit : Option (W → W)
  pm : Option (OlPmSt → W → W)

/-- `olm_t`; the list is the descriptors before the one without functions. -/
structure Olm (W : Type) where
  olList : Option (List (OlDesc W))
  olInfo : OlInfo

/-- The firmware's `pm2_sleep_ret`, `cy_pm2_sleep_ret_value`, and the rest of the world. -/
structure OlmWorld (W : Type) where
  pm2SleepRet : UInt32
  cyPm2SleepRetValue : UInt32
  rest : W

section Dispatch

variable {W : Type}

/-- `cylpa_olm_configure_wlan_pmode`. -/
def cylpaOlmConfigureWlanPmode (whd : Option Handle) (value : UInt32) (minPower : Bool)
    (w : OlmWorld W) : OlmWorld W :=
  match whd with
  | none => w
  | some _ =>
    if minPower then
      -- the slot takes what is in force, the user's value or not
      let w := { w with cyPm2SleepRetValue := w.pm2SleepRet }
      { w with pm2SleepRet := value }
    else { w with pm2SleepRet := value }

/-- The loop over the list of `cylpa_olm_dispatch_pm_notification`. -/
def dispatchPm (st : OlPmSt) : List (OlDesc W) → W → W
  | [], w => w
  | it :: its, w =>
    match it.pm with
    | some pm => dispatchPm st its (pm st w)
    | none => dispatchPm st its w

/-- `cylpa_olm_dispatch_pm_notification`. -/
def cylpaOlmDispatchPmNotification (olm : Option (Olm W)) (st : OlPmSt) (w : OlmWorld W) :
    OlmWorld W :=
  match olm with
  | none => w
  | some olm =>
    match olm.olList, olm.olInfo.whd with
    | some olList, some whd =>
      let w :=
        if st = .goingToSleep then
          cylpaOlmConfigureWlanPmode (some whd) lpaPm2SleepRetTime true w
        else cylpaOlmConfigureWlanPmode (some whd) w.cyPm2SleepRetValue false w
      { w with rest := dispatchPm st olList w.rest }
    | _, _ => w

/-- The world after some notifications. -/
def olmAfter (olm : Olm W) (w : OlmWorld W) (ns : List OlPmSt) : OlmWorld W :=
  ns.foldl (fun w st => cylpaOlmDispatchPmNotification (some olm) st w) w

/-! ### One notification -/

/-- **What a notification does** to the firmware's value and the slot, in this order. -/
def pm2Next (p : UInt32 × UInt32) (st : OlPmSt) : UInt32 × UInt32 :=
  if st = .goingToSleep then (lpaPm2SleepRetTime, p.1) else (p.2, p.2)

theorem dispatch_pm2 {olm : Olm W} (hlist : olm.olList ≠ none) (hwhd : olm.olInfo.whd ≠ none)
    (st : OlPmSt) (w : OlmWorld W) :
    let w' := cylpaOlmDispatchPmNotification (some olm) st w
    (w'.pm2SleepRet, w'.cyPm2SleepRetValue) =
      pm2Next (w.pm2SleepRet, w.cyPm2SleepRetValue) st := by
  obtain ⟨olList, hl⟩ := Option.ne_none_iff_exists'.mp hlist
  obtain ⟨whd, hw⟩ := Option.ne_none_iff_exists'.mp hwhd
  simp only [cylpaOlmDispatchPmNotification, hl, hw, pm2Next]
  split <;> rfl

end Dispatch

/-! ### Phases -/

/-- Where the notifications stand: none so far, awake, asleep, or asleep twice over. -/
inductive Pm2Phase where
  | fresh
  | awake
  | asleep
  | overslept
deriving DecidableEq, Repr

def Pm2Phase.next : Pm2Phase → OlPmSt → Pm2Phase
  | .asleep, .goingToSleep => .overslept
  | .overslept, .goingToSleep => .overslept
  | _, .goingToSleep => .asleep
  | _, _ => .awake

def pm2Phase (ns : List OlPmSt) : Pm2Phase := ns.foldl Pm2Phase.next .fresh

/-- What the firmware's value and the slot hold in a phase, as long as nothing has gone wrong:
`d` the value at the start, `s` what the slot held then. -/
def Pm2Phase.holds (d s : UInt32) : Pm2Phase → UInt32 × UInt32
  | .fresh => (d, s)
  | .awake => (d, d)
  | .asleep => (lpaPm2SleepRetTime, d)
  | .overslept => (lpaPm2SleepRetTime, lpaPm2SleepRetTime)

/-- Waking up in a phase restores `d`. -/
def Pm2Phase.restores (d s : UInt32) : Pm2Phase → Prop
  | .fresh => s = d
  | .overslept => lpaPm2SleepRetTime = d
  | _ => True

/-- **Waking up** sets `d` exactly where the phase restores it. -/
theorem awake_iff_restores (d s : UInt32) (p : Pm2Phase) :
    (pm2Next (p.holds d s) .awake).1 = d ↔ p.restores d s := by
  cases p with
  | fresh => rfl
  | awake => exact iff_of_true rfl trivial
  | asleep => exact iff_of_true rfl trivial
  | overslept => rfl

theorem holds_awake {d s : UInt32} {p : Pm2Phase} (h : p.restores d s) :
    pm2Next (p.holds d s) .awake = Pm2Phase.holds d s .awake := by
  have hd := (awake_iff_restores d s p).mpr h
  have hboth : (pm2Next (p.holds d s) .awake).2 = (pm2Next (p.holds d s) .awake).1 := rfl
  exact Prod.ext hd (hboth.trans hd)

/-- Going to sleep never goes wrong by itself. -/
theorem holds_sleep (d s : UInt32) (p : Pm2Phase) :
    pm2Next (p.holds d s) .goingToSleep = (p.next .goingToSleep).holds d s := by
  cases p <;> rfl

/-! ### Runs -/

section Run

variable {W : Type} {olm : Olm W} {w : OlmWorld W}

@[simp] theorem olmAfter_nil : olmAfter olm w [] = w := rfl

@[simp] theorem olmAfter_append (ns : List OlPmSt) (st : OlPmSt) :
    olmAfter olm w (ns ++ [st]) =
      cylpaOlmDispatchPmNotification (some olm) st (olmAfter olm w ns) := by
  simp [olmAfter]

@[simp] theorem pm2Phase_nil : pm2Phase [] = .fresh := rfl

@[simp] theorem pm2Phase_append (ns : List OlPmSt) (st : OlPmSt) :
    pm2Phase (ns ++ [st]) = (pm2Phase ns).next st := by
  simp [pm2Phase]

/-- The value and the slot after `ns` are what the phase says: nothing has gone wrong. -/
def Pm2Inv (olm : Olm W) (w : OlmWorld W) (ns : List OlPmSt) : Prop :=
  ((olmAfter olm w ns).pm2SleepRet, (olmAfter olm w ns).cyPm2SleepRetValue) =
    (pm2Phase ns).holds w.pm2SleepRet w.cyPm2SleepRetValue

/-- After an invariant run, one notification is `pm2Next` of what the phase says. -/
theorem Pm2Inv.dispatch (hlist : olm.olList ≠ none) (hwhd : olm.olInfo.whd ≠ none)
    {ns : List OlPmSt} (h : Pm2Inv olm w ns) (st : OlPmSt) :
    ((olmAfter olm w (ns ++ [st])).pm2SleepRet,
        (olmAfter olm w (ns ++ [st])).cyPm2SleepRetValue) =
      pm2Next ((pm2Phase ns).holds w.pm2SleepRet w.cyPm2SleepRetValue) st := by
  rw [olmAfter_append, ← h]
  exact dispatch_pm2 hlist hwhd st _

/-- Whenever the last notification is a wake-up, the value is the one at the start. -/
def Pm2Restored (olm : Olm W) (w : OlmWorld W) (ns : List OlPmSt) : Prop :=
  ∀ ys, ns = ys ++ [.awake] → (olmAfter olm w ns).pm2SleepRet = w.pm2SleepRet

/-- Whenever the last notification is a wake-up, the phase before it restores the value. -/
def Pm2Restorable (w : OlmWorld W) (ns : List OlPmSt) : Prop :=
  ∀ ys, ns = ys ++ [.awake] → (pm2Phase ys).restores w.pm2SleepRet w.cyPm2SleepRetValue

/-- **A wake-up** after an invariant run is right exactly if the phase restores the value. -/
theorem pm2Restored_concat (hlist : olm.olList ≠ none) (hwhd : olm.olInfo.whd ≠ none)
    {ns : List OlPmSt} (h : Pm2Inv olm w ns) (st : OlPmSt) :
    Pm2Restored olm w (ns ++ [st]) ↔ Pm2Restorable w (ns ++ [st]) := by
  refine forall_congr' fun ys => imp_congr_right fun e => ?_
  obtain ⟨rfl, rfl⟩ := List.append_singleton_inj.mp e
  rw [← awake_iff_restores, ← h.dispatch hlist hwhd]

theorem Pm2Inv.step (hlist : olm.olList ≠ none) (hwhd : olm.olInfo.whd ≠ none)
    {ns : List OlPmSt} (h : Pm2Inv olm w ns) {st : OlPmSt} (hst : st ≠ .max)
    (hc : Pm2Restorable w (ns ++ [st])) : Pm2Inv olm w (ns ++ [st]) := by
  refine (h.dispatch hlist hwhd st).trans ?_
  rw [pm2Phase_append]
  cases st with
  | max => exact absurd rfl hst
  | goingToSleep => exact holds_sleep _ _ _
  | awake =>
      rw [holds_awake (hc ns rfl)]
      cases pm2Phase ns <;> rfl

/-- **Sleep and wake preserve the user's return-to-sleep time exactly when** no wake-up comes
before the first sleep and none after two sleeps in a row, unless the slot held the time already
or the time is the low-power one. -/
theorem pm2_restored_iff (olm : Olm W) (w : OlmWorld W) (ns : List OlPmSt)
    (hlist : olm.olList ≠ none) (hwhd : olm.olInfo.whd ≠ none) (hns : OlPmSt.max ∉ ns) :
    (∀ xs, xs <+: ns → ∀ ys, xs = ys ++ [.awake] →
      (olmAfter olm w xs).pm2SleepRet = w.pm2SleepRet) ↔
    ∀ xs, xs <+: ns → ∀ ys, xs = ys ++ [.awake] →
      (pm2Phase ys).restores w.pm2SleepRet w.cyPm2SleepRetValue := by
  have hA : Runs.Throughout (fun xs => OlPmSt.max ∉ xs) ns :=
    fun xs hxs hmax => hns (hxs.subset hmax)
  have hend : ∀ {xs st}, OlPmSt.max ∉ xs ++ [st] → st ≠ .max := fun h e => h (by simp [e])
  refine Runs.throughout_iff_of_invariant (P := Pm2Restored olm w) (C := Pm2Restorable w)
    (I := Pm2Inv olm w) hA rfl ?_ (fun xs st h _ => pm2Restored_concat hlist hwhd h st)
    fun xs st h hmax hc => h.step hlist hwhd (hend hmax) hc
  exact iff_of_true (fun ys e => by simp at e) fun ys e => by simp at e

/-- Two sleeps in a row lose the time: the firmware is left at the low-power value. -/
theorem pm2_not_restored :
    ¬ ∀ (olm : Olm Unit) (w : OlmWorld Unit) (ns : List OlPmSt), olm.olList ≠ none →
      olm.olInfo.whd ≠ none → OlPmSt.max ∉ ns → ns.getLast? = some .awake →
      (olmAfter olm w ns).pm2SleepRet = w.pm2SleepRet := by
  intro h
  have := h ⟨some [], ⟨some 1, none, none, 0⟩⟩ ⟨200, 0, ()⟩
    [.goingToSleep, .goingToSleep, .awake] (by decide) (by decide) (by decide) rfl
  exact absurd this (by decide)

/-- A run that sleeps and wakes twice. -/
theorem pm2_restored_iff_twice :
    (∀ xs, xs <+: [.goingToSleep, .awake, .goingToSleep, .awake] → ∀ ys, xs = ys ++ [.awake] →
      (olmAfter (W := Unit) ⟨some [], ⟨some 1, none, none, 0⟩⟩ ⟨200, 0, ()⟩ xs).pm2SleepRet =
        200) ↔
    ∀ xs, xs <+: [.goingToSleep, .awake, .goingToSleep, .awake] → ∀ ys, xs = ys ++ [.awake] →
      (pm2Phase ys).restores 200 0 :=
  pm2_restored_iff (W := Unit) ⟨some [], ⟨some 1, none, none, 0⟩⟩ ⟨200, 0, ()⟩
    [.goingToSleep, .awake, .goingToSleep, .awake] (by decide) (by decide) (by decide)

end Run

end Lpa
