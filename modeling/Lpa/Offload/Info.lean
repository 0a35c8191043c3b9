import Mathlib.Data.Int.Notation
import Mathlib.Data.List.Induction

/-!
# Offload — what every offload shares

The result codes, the power-mode notifications of `cy_lpa_wifi_ol_priv.h` and `ol_info_t`.  A
pointer the offloads only pass on or test for `NULL` is an `Option` of a `Handle`.

`powerState ns` is the power state after the notifications `ns`: the last valid one, and awake
before any.
-/

namespace Lpa

/-- `RESULT_OK`. -/
def resultOk : ℤ := 0

/-- `RESULT_UNSUPPORTED`. -/
def resultUnsupported : ℤ := -1

/-- `RESULT_NOT_IMPLEMENTED`. -/
def resultNotImplemented : ℤ := -2

/-- `RESULT_BADARGS`. -/
def resultBadargs : ℤ := -3

/-- `RESULT_ERROR`. -/
def resultError : ℤ := -4

/-- What a pointer that is never followed points to. -/
abbrev Handle := ℕ

/-- `ol_info_t`. -/
structure OlInfo where
  whd : Option Handle
  ip : Option Handle
  worker : Option Handle
  fwNewInfra : UInt32
deriving DecidableEq, Repr

/-- `ol_pm_st_t`. -/
inductive OlPmSt where
  | goingToSleep
  | awake
  | max
deriving DecidableEq, Repr

/-- The power state after one more notification. -/
def OlPmSt.next (s : OlPmSt) : OlPmSt → OlPmSt
  | .max => s
  | n => n

/-- The power state after the notifications `ns`. -/
def powerState (ns : List OlPmSt) : OlPmSt := ns.foldl OlPmSt.next .awake

@[simp] theorem powerState_nil : powerState [] = .awake := rfl

@[simp] theorem powerState_append (ns : List OlPmSt) (n : OlPmSt) :
    powerState (ns ++ [n]) = (powerState ns).next n := by
  simp [powerState]

theorem powerState_ne_max (ns : List OlPmSt) : powerState ns ≠ .max := by
  induction ns using List.reverseRecOn with
  | nil => decide
  | append_singleton ns n ih =>
      rw [powerState_append]
      cases n with
      | max => exact ih
      | goingToSleep => simp [OlPmSt.next]
      | awake => simp [OlPmSt.next]

theorem next_of_ne_max {s st : OlPmSt} (h : st ≠ .max) : s.next st = st := by
  cases st with
  | max => exact absurd rfl h
  | goingToSleep => rfl
  | awake => rfl

/-- The host sleeps only after a notification that it does. -/
theorem mem_of_powerState_eq {ns : List OlPmSt} (h : powerState ns = .goingToSleep) :
    .goingToSleep ∈ ns := by
  induction ns using List.reverseRecOn with
  | nil => simp at h
  | append_singleton ns st ih =>
      rw [powerState_append] at h
      cases st with
      | max => exact List.mem_append_left _ (ih h)
      | goingToSleep => simp
      | awake => simp [OlPmSt.next] at h

end Lpa
