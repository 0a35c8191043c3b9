import Lpa.Offload.Info
import Lpa.Support.Runs
import Mathlib.Data.List.Chain
import Mathlib.Data.Set.Subsingleton
import Mathlib.Logic.Function.Basic
import Mathlib.Order.BooleanAlgebra.Set

/-!
# Keepalive — the TKO event handler

Going to sleep with a connection to keep alive, `cylpa_tko_ol_pm` turns TCP keepalive offload on
in the firmware and registers a handler for its events; waking up it turns it off and takes the
handler away again.  Whether there is a handler to take away is read off `tko_state_enabled`, and
the handler itself clears that flag when an event arrives (`whdCallbackHandler`): the flag stands
both for the firmware's state and for the registration.

A run is a list of notifications and events in any order, the notifications alternating.  Where
the event found the flag set, the next wake-up leaves the handler behind, and the sleep after that
registers a second one.

* `TkoInv.step`: what each step keeps, as long as no wake-up follows such an event.
* `tko_handlers_iff`: the handlers are as they should be throughout exactly when none does.
-/

namespace Lpa

/-- A handler in the driver's event table: that of the offload, or another client's. -/
inductive EventHandler where
  | whdCallbackHandler
  | other (h : Handle)
deriving DecidableEq, Repr

/-- `tko_state_enabled`, `tko_offload_update_entry` and the driver's event table. -/
structure TkoWorld where
  tkoStateEnabled : Bool
  tkoOffloadUpdateEntry : UInt16
  handlers : UInt16 → Option EventHandler

/-- The state of a program just started. -/
def TkoWorld.boot : TkoWorld := ⟨false, 0xff, fun _ => none⟩

/-- `tko_ol_t`; the configured connections are only passed on to `whd_tko_activate`. -/
structure TkoOl where
  whd : Option Handle
deriving DecidableEq, Repr

/-- What the driver answers during one notification: the result of `whd_tko_activate` for each
connection and of `whd_tko_toggle`, and the entry it registers a handler at. -/
structure TkoAnswers where
  activate : ℕ → ℤ
  toggle : ℤ
  entry : UInt16

/-- `WHD_SUCCESS`. -/
def whdSuccess : ℤ := 0

/-- `whd_tko_enable`. -/
def whdTkoEnable (ans : TkoAnswers) (w : TkoWorld) : ℤ × TkoWorld :=
  let ret := ans.toggle
  let w := { w with
    handlers := Function.update w.handlers ans.entry (some .whdCallbackHandler)
    tkoOffloadUpdateEntry := ans.entry }
  let w := { w with tkoStateEnabled := true }
  (ret, w)

/-- `whd_tko_disable`. -/
def whdTkoDisable (ans : TkoAnswers) (w : TkoWorld) : ℤ × TkoWorld :=
  let w := if w.tkoStateEnabled then
      { w with
        tkoStateEnabled := false
        handlers := Function.update w.handlers w.tkoOffloadUpdateEntry none }
    else w
  (ans.toggle, w)

/-- The connections `cylpa_tko_ol_pm` finds to enable, `maxTko` of them configured. -/
def tkoFound (maxTko : ℕ) (olInfo : OlInfo) (ans : TkoAnswers) : ℕ :=
  if olInfo.fwNewInfra = 0 then
    ((List.range maxTko).filter fun i => ans.activate i = whdSuccess).length
  else 1

/-- `cylpa_tko_ol_pm`. -/
def cylpaTkoOlPm (maxTko : ℕ) (olInfo : OlInfo) (ctxt : Option TkoOl) (ans : TkoAnswers)
    (st : OlPmSt) (w : TkoWorld) : TkoWorld :=
  match ctxt with
  | some { whd := some _ } =>
    if st = .goingToSleep then
      if tkoFound maxTko olInfo ans = 0 then w else (whdTkoEnable ans w).2
    else (whdTkoDisable ans w).2
  | _ => w

/-- The events of the firmware, as far as they are told apart. -/
inductive WhdEvent where
  | wlcETko
  | other
deriving DecidableEq, Repr

/-- `whd_callback_handler`: `eventData` tells whether there is data. -/
def whdCallbackHandler (eventHeader : Option WhdEvent) (eventData : Bool) (w : TkoWorld) :
    TkoWorld :=
  match eventHeader with
  | some .wlcETko => if eventData then { w with tkoStateEnabled := false } else w
  | _ => w

/-! ### Runs -/

/-- A step of a run. -/
inductive TkoStep where
  | sleep (ans : TkoAnswers)
  | awake (ans : TkoAnswers)
  | event

/-- The notification a step is, if it is one. -/
def TkoStep.note : TkoStep → Option OlPmSt
  | .sleep _ => some .goingToSleep
  | .awake _ => some .awake
  | .event => none

/-- The notifications of a run alternate. -/
def Alternating (run : List TkoStep) : Prop := (run.filterMap TkoStep.note).IsChain (· ≠ ·)

/-- The entries at which the offload's handler is registered. -/
def TkoWorld.registered (w : TkoWorld) : Set UInt16 :=
  { i | w.handlers i = some .whdCallbackHandler }

/-- Where a run stands: nothing offloaded, offloaded, or offloaded with an event since. -/
inductive TkoPhase where
  | idle
  | offloaded
  | hit
deriving DecidableEq, Repr

section Run

variable (maxTko : ℕ) (olInfo : OlInfo) (ctxt : Option TkoOl)

def TkoStep.exec (w : TkoWorld) : TkoStep → TkoWorld
  | .sleep ans => cylpaTkoOlPm maxTko olInfo ctxt ans .goingToSleep w
  | .awake ans => cylpaTkoOlPm maxTko olInfo ctxt ans .awake w
  | .event => whdCallbackHandler (some .wlcETko) true w

/-- The world after a run. -/
def tkoAfter (w : TkoWorld) (run : List TkoStep) : TkoWorld :=
  run.foldl (TkoStep.exec maxTko olInfo ctxt) w

/-- A sleep with these answers turns the offload on. -/
def offloads (ans : TkoAnswers) : Bool :=
  match ctxt with
  | some { whd := some _ } => tkoFound maxTko olInfo ans ≠ 0
  | _ => false

def TkoPhase.next (p : TkoPhase) : TkoStep → TkoPhase
  | .sleep ans => if offloads maxTko olInfo ctxt ans then .offloaded else p
  | .awake _ => .idle
  | .event => if p = .offloaded then .hit else p

/-- Where a run stands at its end. -/
def tkoPhase (run : List TkoStep) : TkoPhase :=
  run.foldl (TkoPhase.next maxTko olInfo ctxt) .idle

end Run

/-! ### The table of handlers -/

theorem registered_register (w : TkoWorld) (i : UInt16) (e : UInt16) (b : Bool) :
    TkoWorld.registered ⟨b, e, Function.update w.handlers i (some .whdCallbackHandler)⟩ =
      insert i w.registered := by
  ext j
  by_cases h : j = i
  · simp [TkoWorld.registered, h]
  · simp [TkoWorld.registered, h]

theorem registered_deregister (w : TkoWorld) (i : UInt16) (e : UInt16) (b : Bool) :
    TkoWorld.registered ⟨b, e, Function.update w.handlers i none⟩ = w.registered \ {i} := by
  ext j
  by_cases h : j = i
  · simp [TkoWorld.registered, h]
  · simp [TkoWorld.registered, h]

/-! ### Steps -/

section Steps

variable {maxTko : ℕ} {olInfo : OlInfo} {ctxt : Option TkoOl} {w : TkoWorld} {ans : TkoAnswers}

theorem offloads_iff : offloads maxTko olInfo ctxt ans ↔
    (∃ whd, ctxt = some ⟨some whd⟩) ∧ tkoFound maxTko olInfo ans ≠ 0 := by
  rcases ctxt with _ | ⟨_ | whd⟩ <;> simp [offloads]

/-- A sleep that offloads registers a handler and sets the flag; any other does nothing. -/
theorem exec_sleep (w : TkoWorld) (ans : TkoAnswers) :
    TkoStep.exec maxTko olInfo ctxt w (.sleep ans) =
      if offloads maxTko olInfo ctxt ans then (whdTkoEnable ans w).2 else w := by
  rcases ctxt with _ | ⟨_ | whd⟩
  · rfl
  · rfl
  · by_cases h : tkoFound maxTko olInfo ans = 0 <;> simp [TkoStep.exec, cylpaTkoOlPm, offloads, h]

/-- A wake-up takes the handler away if the flag says there is one. -/
theorem exec_awake {whd : Handle} (w : TkoWorld) (ans : TkoAnswers) :
    TkoStep.exec maxTko olInfo (some ⟨some whd⟩) w (.awake ans) = (whdTkoDisable ans w).2 := rfl

end Steps

/-- What a run leaves, by where it stands. -/
def TkoShape (w : TkoWorld) : TkoPhase → Prop
  | .idle => w.tkoStateEnabled = false ∧ w.registered = ∅
  | .offloaded => w.tkoStateEnabled = true ∧ w.registered = {w.tkoOffloadUpdateEntry}
  | .hit => w.tkoStateEnabled = false ∧ ∃ i, w.registered = {i}

section Event

variable {maxTko : ℕ} {olInfo : OlInfo} {ctxt : Option TkoOl} {w : TkoWorld} {p : TkoPhase}

/-- An event clears the flag and leaves the handlers. -/
theorem TkoShape.event (h : TkoShape w p) :
    TkoShape (TkoStep.exec maxTko olInfo ctxt w .event)
      (TkoPhase.next maxTko olInfo ctxt p .event) := by
  cases p with
  | idle => exact ⟨rfl, h.2⟩
  -- the entry found when the offload began is the one handler of `hit`
  | offloaded => exact ⟨rfl, w.tkoOffloadUpdateEntry, h.2⟩
  | hit => exact ⟨rfl, h.2⟩

theorem next_event_idle_iff : TkoPhase.next maxTko olInfo ctxt p .event = .idle ↔ p = .idle := by
  cases p <;> simp [TkoPhase.next]

end Event

section Invariant

variable (maxTko : ℕ) (olInfo : OlInfo) (ctxt : Option TkoOl) (w : TkoWorld)

/-- The world has the shape of the phase; out of `idle` the last notification was a sleep, under a
context that is set. -/
structure TkoInv (run : List TkoStep) : Prop where
  shape : TkoShape (tkoAfter maxTko olInfo ctxt w run) (tkoPhase maxTko olInfo ctxt run)
  asleep : tkoPhase maxTko olInfo ctxt run ≠ .idle →
    (run.filterMap TkoStep.note).getLast? = some .goingToSleep
  set : tkoPhase maxTko olInfo ctxt run ≠ .idle → ∃ whd, ctxt = some ⟨some whd⟩

/-- **The handlers are as they should be**: never two, and none after a wake-up. -/
def TkoHandlersOk (run : List TkoStep) : Prop :=
  (tkoAfter maxTko olInfo ctxt w run).registered.Subsingleton ∧
    ∀ ys ans, run = ys ++ [.awake ans] → (tkoAfter maxTko olInfo ctxt w run).registered = ∅

/-- The last step is not a wake-up after an event that found the offload on. -/
def NoLostHandler (run : List TkoStep) : Prop :=
  ∀ ys ans, run = ys ++ [.awake ans] → tkoPhase maxTko olInfo ctxt ys ≠ .hit

variable {maxTko olInfo ctxt w} {run : List TkoStep} {ans : TkoAnswers}

theorem tkoAfter_concat (s : TkoStep) : tkoAfter maxTko olInfo ctxt w (run ++ [s]) =
    TkoStep.exec maxTko olInfo ctxt (tkoAfter maxTko olInfo ctxt w run) s := by
  simp [tkoAfter]

theorem tkoPhase_concat (s : TkoStep) : tkoPhase maxTko olInfo ctxt (run ++ [s]) =
    TkoPhase.next maxTko olInfo ctxt (tkoPhase maxTko olInfo ctxt run) s := by
  simp [tkoPhase]

/-- Between two sleeps there is a wake-up, so a sleep starts out idle. -/
theorem TkoInv.idle_of_sleep (h : TkoInv maxTko olInfo ctxt w run)
    (halt : Alternating (run ++ [.sleep ans])) : tkoPhase maxTko olInfo ctxt run = .idle := by
  by_contra hne
  -- the last notification would be a sleep as well
  have hlast := h.asleep hne
  rw [Alternating, List.filterMap_append, List.isChain_append] at halt
  exact halt.2.2 _ hlast .goingToSleep rfl rfl

/-- **A sleep**: at most the handler it registers. -/
theorem TkoInv.sleep (h : TkoInv maxTko olInfo ctxt w run)
    (halt : Alternating (run ++ [.sleep ans])) :
    TkoInv maxTko olInfo ctxt w (run ++ [.sleep ans]) := by
  have hidle := h.idle_of_sleep halt
  obtain ⟨hflag, hreg⟩ : TkoShape _ .idle := hidle ▸ h.shape
  by_cases hoff : offloads maxTko olInfo ctxt ans
  · have hphase : tkoPhase maxTko olInfo ctxt (run ++ [.sleep ans]) = .offloaded := by
      rw [tkoPhase_concat, TkoPhase.next, if_pos hoff]
    refine ⟨?_, fun _ => by simp [TkoStep.note], fun _ => (offloads_iff.mp hoff).1⟩
    rw [hphase, tkoAfter_concat, exec_sleep, if_pos hoff]
    refine ⟨rfl, ?_⟩
    rw [whdTkoEnable, registered_register, hreg]
    exact insert_empty_eq _
  · have hphase : tkoPhase maxTko olInfo ctxt (run ++ [.sleep ans]) = .idle := by
      rw [tkoPhase_concat, TkoPhase.next, if_neg hoff, hidle]
    refine ⟨?_, fun hne => absurd hphase hne, fun hne => absurd hphase hne⟩
    rw [hphase, tkoAfter_concat, exec_sleep, if_neg hoff]
    exact ⟨hflag, hreg⟩

/-- **An event** is no notification, and leaves `idle` as it is. -/
theorem TkoInv.event (h : TkoInv maxTko olInfo ctxt w run) :
    TkoInv maxTko olInfo ctxt w (run ++ [.event]) := by
  have hnotes : (run ++ [TkoStep.event]).filterMap TkoStep.note = run.filterMap TkoStep.note := by
    rw [List.filterMap_append]
    exact List.append_nil _
  have hidle : tkoPhase maxTko olInfo ctxt (run ++ [.event]) = .idle ↔
      tkoPhase maxTko olInfo ctxt run = .idle := by
    rw [tkoPhase_concat, next_event_idle_iff]
  refine ⟨?_, fun hne => ?_, fun hne => h.set (hidle.not.mp hne)⟩
  · rw [tkoPhase_concat, tkoAfter_concat]
    exact h.shape.event
  · rw [hnotes]
    exact h.asleep (hidle.not.mp hne)

/-- **A wake-up** takes the handler away unless an event has cleared the flag. -/
theorem TkoInv.awake (h : TkoInv maxTko olInfo ctxt w run) (ans : TkoAnswers) :
    (tkoPhase maxTko olInfo ctxt run ≠ .hit →
      TkoInv maxTko olInfo ctxt w (run ++ [.awake ans])) ∧
    ((tkoAfter maxTko olInfo ctxt w (run ++ [.awake ans])).registered = ∅ ↔
      tkoPhase maxTko olInfo ctxt run ≠ .hit) := by
  have hshape := h.shape
  have hphase : tkoPhase maxTko olInfo ctxt (run ++ [.awake ans]) = .idle := tkoPhase_concat _
  have hinv : TkoShape (tkoAfter maxTko olInfo ctxt w (run ++ [.awake ans])) .idle →
      TkoInv maxTko olInfo ctxt w (run ++ [.awake ans]) := fun hs =>
    ⟨hphase ▸ hs, fun hne => absurd hphase hne, fun hne => absurd hphase hne⟩
  rw [tkoAfter_concat] at hinv ⊢
  generalize tkoAfter maxTko olInfo ctxt w run = v at hshape hinv ⊢
  cases hp : tkoPhase maxTko olInfo ctxt run with
  | idle =>
      rw [hp] at hshape
      have hv : TkoStep.exec maxTko olInfo ctxt v (.awake ans) = v := by
        rcases ctxt with _ | ⟨_ | whd⟩
        · rfl
        · rfl
        · rw [exec_awake, whdTkoDisable, if_neg (by simp [hshape.1])]
      rw [hv] at hinv ⊢
      exact ⟨fun _ => hinv hshape, iff_of_true hshape.2 (by decide)⟩
  | offloaded =>
      obtain ⟨whd, rfl⟩ := h.set (by rw [hp]; decide)
      rw [hp] at hshape
      have hreg : (TkoStep.exec maxTko olInfo (some ⟨some whd⟩) v (.awake ans)).registered = ∅ := by
        rw [exec_awake, whdTkoDisable, if_pos hshape.1, registered_deregister, hshape.2]
        exact Set.sdiff_self
      have hflag : (TkoStep.exec maxTko olInfo (some ⟨some whd⟩) v
          (.awake ans)).tkoStateEnabled = false := by
        rw [exec_awake, whdTkoDisable, if_pos hshape.1]
      exact ⟨fun _ => hinv ⟨hflag, hreg⟩, iff_of_true hreg (by decide)⟩
  | hit =>
      -- the flag is clear already, so the handler is left where it is
      obtain ⟨whd, rfl⟩ := h.set (by rw [hp]; decide)
      rw [hp] at hshape
      obtain ⟨hflag, i, hi⟩ := hshape
      refine ⟨fun hne => absurd rfl hne, iff_of_false ?_ (by decide)⟩
      rw [exec_awake, whdTkoDisable, if_neg (by simp [hflag]), hi]
      exact Set.singleton_ne_empty i

/-- What holds of the handlers wherever a run stands. -/
theorem TkoInv.subsingleton (h : TkoInv maxTko olInfo ctxt w run) :
    (tkoAfter maxTko olInfo ctxt w run).registered.Subsingleton := by
  have hshape := h.shape
  cases hp : tkoPhase maxTko olInfo ctxt run with
  | idle =>
      rw [hp] at hshape
      rw [hshape.2]
      exact Set.subsingleton_empty
  | offloaded =>
      rw [hp] at hshape
      rw [hshape.2]
      exact Set.subsingleton_singleton
  | hit =>
      rw [hp] at hshape
      obtain ⟨-, i, hi⟩ := hshape
      rw [hi]
      exact Set.subsingleton_singleton

/-- After a step that is no wake-up the handlers are as the invariant has them. -/
theorem TkoInv.quiet {s : TkoStep} (h : TkoInv maxTko olInfo ctxt w (run ++ [s]))
    (hs : ∀ ans, s ≠ .awake ans) :
    TkoHandlersOk maxTko olInfo ctxt w (run ++ [s]) ∧
      NoLostHandler maxTko olInfo ctxt (run ++ [s]) := by
  have hno : ∀ ys ans, run ++ [s] ≠ ys ++ [.awake ans] := fun ys ans he =>
    hs ans (List.append_singleton_inj.mp he).2
  exact ⟨⟨h.subsingleton, fun ys ans he => absurd he (hno ys ans)⟩,
    fun ys ans he => absurd he (hno ys ans)⟩

/-- **After one more step** the handlers are as they should be exactly if it lost none, and then
the invariant goes on. -/
theorem TkoInv.step (h : TkoInv maxTko olInfo ctxt w run) {s : TkoStep}
    (halt : Alternating (run ++ [s])) :
    (TkoHandlersOk maxTko olInfo ctxt w (run ++ [s]) ↔
      NoLostHandler maxTko olInfo ctxt (run ++ [s])) ∧
    (NoLostHandler maxTko olInfo ctxt (run ++ [s]) →
      TkoInv maxTko olInfo ctxt w (run ++ [s])) := by
  cases s with
  | sleep ans =>
      have hinv := h.sleep halt
      obtain ⟨hok, hno⟩ := hinv.quiet fun _ => by simp
      exact ⟨iff_of_true hok hno, fun _ => hinv⟩
  | event =>
      have hinv := h.event
      obtain ⟨hok, hno⟩ := hinv.quiet fun _ => by simp
      exact ⟨iff_of_true hok hno, fun _ => hinv⟩
  | awake ans =>
      obtain ⟨hinv, hempty⟩ := h.awake ans
      have hlost : NoLostHandler maxTko olInfo ctxt (run ++ [.awake ans]) ↔
          tkoPhase maxTko olInfo ctxt run ≠ .hit := by
        refine ⟨fun hn => hn run ans rfl, fun hn ys ans' he => ?_⟩
        rw [← (List.append_singleton_inj.mp he).1]
        exact hn
      refine ⟨?_, fun hn => hinv (hlost.mp hn)⟩
      rw [hlost, ← hempty]
      refine ⟨fun hok => hok.2 run ans rfl, fun he => ⟨?_, fun _ _ _ => he⟩⟩
      rw [he]
      exact Set.subsingleton_empty

end Invariant

/-- **The TKO event handler is registered as it should be throughout a run exactly when** no
wake-up follows an event that found the offload on. -/
theorem tko_handlers_iff (maxTko : ℕ) (olInfo : OlInfo) (ctxt : Option TkoOl) (w : TkoWorld)
    (run : List TkoStep) (hflag : w.tkoStateEnabled = false) (hreg : w.registered = ∅)
    (halt : Alternating run) :
    (∀ xs, xs <+: run → (tkoAfter maxTko olInfo ctxt w xs).registered.Subsingleton ∧
      ∀ ys ans, xs = ys ++ [.awake ans] → (tkoAfter maxTko olInfo ctxt w xs).registered = ∅) ↔
    ∀ xs, xs <+: run →
      ∀ ys ans, xs = ys ++ [.awake ans] → tkoPhase maxTko olInfo ctxt ys ≠ .hit := by
  have h0 : TkoInv maxTko olInfo ctxt w [] :=
    ⟨⟨hflag, hreg⟩, fun hne => absurd rfl hne, fun hne => absurd rfl hne⟩
  have hnil : TkoHandlersOk maxTko olInfo ctxt w [] ↔ NoLostHandler maxTko olInfo ctxt [] :=
    iff_of_true ⟨h0.subsingleton, fun ys ans he => by simp at he⟩ fun ys ans he => by simp at he
  refine Runs.throughout_iff_of_invariant (A := Alternating) (fun xs hxs => ?_) h0 hnil
    (fun xs s h hA => (h.step hA).1) fun xs s h hA => (h.step hA).2
  exact halt.prefix (hxs.filterMap _)

/-- Answers of a driver that registers at entry `i`. -/
def answersAt (i : UInt16) : TkoAnswers := ⟨fun _ => 0, 0, i⟩

/-- One sleep with an event in it, and a wake-up: the handler stays registered. -/
theorem tko_handlers_lost :
    ¬ ∀ (maxTko : ℕ) (olInfo : OlInfo) (ctxt : Option TkoOl) (run : List TkoStep),
      Alternating run → ∀ xs, xs <+: run →
        (tkoAfter maxTko olInfo ctxt .boot xs).registered.Subsingleton ∧
        ∀ ys ans, xs = ys ++ [.awake ans] →
          (tkoAfter maxTko olInfo ctxt .boot xs).registered = ∅ := by
  intro h
  have halt : Alternating [.sleep (answersAt 1), .event, .awake (answersAt 2)] :=
    (by decide : List.IsChain (· ≠ ·) [OlPmSt.goingToSleep, .awake])
  have hempty := (h 4 ⟨some 0, none, none, 1⟩ (some ⟨some 0⟩) _ halt _ (List.prefix_refl _)).2
    [.sleep (answersAt 1), .event] (answersAt 2) rfl
  have hmem : (1 : UInt16) ∈ (tkoAfter 4 ⟨some 0, none, none, 1⟩ (some ⟨some 0⟩) .boot
      [.sleep (answersAt 1), .event, .awake (answersAt 2)]).registered := rfl
  rw [hempty] at hmem
  exact hmem

/-- A cycle, an event while awake, and another sleep. -/
def quietRun : List TkoStep :=
  [.sleep (answersAt 1), .awake (answersAt 0), .event, .sleep (answersAt 1)]

theorem tko_handlers_iff_quietRun :
    (∀ xs, xs <+: quietRun →
      (tkoAfter 4 ⟨some 0, none, none, 1⟩ (some ⟨some 0⟩) .boot xs).registered.Subsingleton ∧
      ∀ ys ans, xs = ys ++ [.awake ans] →
        (tkoAfter 4 ⟨some 0, none, none, 1⟩ (some ⟨some 0⟩) .boot xs).registered = ∅) ↔
    ∀ xs, xs <+: quietRun → ∀ ys ans, xs = ys ++ [.awake ans] →
      tkoPhase 4 ⟨some 0, none, none, 1⟩ (some ⟨some 0⟩) ys ≠ .hit :=
  tko_handlers_iff 4 ⟨some 0, none, none, 1⟩ (some ⟨some 0⟩) .boot quietRun rfl
    (Set.eq_empty_of_forall_notMem fun _ => by simp [TkoWorld.registered, TkoWorld.boot])
    (by decide : List.IsChain (· ≠ ·) [OlPmSt.goingToSleep, .awake, .goingToSleep])

end Lpa
