import Lpa.NetActivity.Handler
import Lpa.Support.Interference
import Mathlib.Algebra.Group.Nat.Defs

/-!
# Network activity — how long the stack was suspended

`wait_net_suspend` reads a 32-bit millisecond tick before and after the wait for the wake-up.  It
subtracts the smaller reading from the larger, adds the result to `cy_dsleep_nw_suspend_time`, and
reports a timeout where it exceeds `wait_ms`.

* `suspendDuration_eq_iff`: the difference is the time elapsed exactly if the tick did not wrap in
  between, or half its range went by.
* `waitNetSuspend_tells`: what every run adds and reports, in terms of that difference.
* `measuresSuspension_iff`: so the time is accounted for and the wake-up reported rightly exactly
  there.

Here every call may take any time, and other threads may change any of the file's variables but
the total.
-/

namespace Lpa.NetActivity

open Prog (Label Safe Reach Stable)

/-! ### The difference of two readings -/

/-- What `wait_net_suspend` takes for the time between the readings. -/
def suspendDuration (lpStartTime lpEndTime : UInt32) : UInt32 :=
  if lpEndTime > lpStartTime then lpEndTime - lpStartTime else lpStartTime - lpEndTime

theorem toNat_add_ofNat (start : UInt32) {d : ℕ} (hd : d < 2 ^ 32) :
    (start + UInt32.ofNat d).toNat = (start.toNat + d) % 2 ^ 32 := by
  rw [UInt32.toNat_add, UInt32.toNat_ofNat_of_lt' hd]

/-- Without a wrap it is the time elapsed. -/
theorem toNat_suspendDuration_of_lt {start : UInt32} {d : ℕ} (h : start.toNat + d < 2 ^ 32) :
    (suspendDuration start (start + UInt32.ofNat d)).toNat = d := by
  have hstop := toNat_add_ofNat start (show d < 2 ^ 32 by omega)
  rw [Nat.mod_eq_of_lt h] at hstop
  unfold suspendDuration
  split
  · rename_i hlt
    rw [UInt32.toNat_sub_of_le _ _ (UInt32.le_of_lt hlt), hstop]
    omega
  · rename_i hle
    rw [UInt32.toNat_sub_of_le _ _ (UInt32.not_lt.mp hle), hstop]
    have := UInt32.le_iff_toNat_le.mp (UInt32.not_lt.mp hle)
    omega

/-- After a wrap it is what is left of the tick's range. -/
theorem toNat_suspendDuration_of_le {start : UInt32} {d : ℕ} (hd : d < 2 ^ 32)
    (h : 2 ^ 32 ≤ start.toNat + d) :
    (suspendDuration start (start + UInt32.ofNat d)).toNat = 2 ^ 32 - d := by
  have hlt := start.toNat_lt
  have hstop := toNat_add_ofNat start hd
  have hle : ¬ start + UInt32.ofNat d > start := by
    rw [gt_iff_lt, UInt32.lt_iff_toNat_lt, hstop]
    omega
  rw [suspendDuration, if_neg hle, UInt32.toNat_sub_of_le _ _ (UInt32.not_lt.mp hle), hstop]
  omega

/-- **The difference is the time elapsed** exactly if the tick has not wrapped, or if what is left
of its range happens to be as much. -/
theorem suspendDuration_eq_iff {start : UInt32} {d : ℕ} (hd : d < 2 ^ 32) :
    suspendDuration start (start + UInt32.ofNat d) = UInt32.ofNat d ↔
      start.toNat + d < 2 ^ 32 ∨ d = 2 ^ 31 := by
  rw [← UInt32.toNat_inj, UInt32.toNat_ofNat_of_lt' hd]
  rcases Nat.lt_or_ge (start.toNat + d) (2 ^ 32) with h | h
  · exact ⟨fun _ => .inl h, fun _ => toNat_suspendDuration_of_lt h⟩
  · rw [toNat_suspendDuration_of_le hd h]
    omega

/-! ### The world -/

/-- The file's variables, the time in ms, the times at which the clock was read, and the answer of
the wait for the wake-up. -/
structure TickWorld where
  vars : NaVars
  now : ℕ
  readings : List ℕ
  wakeUp : Option CyRslt

/-- What a call does, but for the time it takes. -/
def TickWorld.act (s : TickWorld) : (o : NaOp) → NaRes o → TickWorld
  | .store f, _ => { s with vars := f s.vars }
  | .cyRtosGetTime, _ => { s with readings := s.readings ++ [s.now] }
  | .cyRtosWaitbitsEvent .wakeUp _ _, (r : CyRslt) => { s with wakeUp := some r }
  | _, _ => s

/-- What a call may answer: the variables, the low 32 bits of the time, anything else. -/
def tickAnswer (s : TickWorld) : (o : NaOp) → NaRes o → Prop
  | .load, r => r = s.vars
  | .cyRtosGetTime, (r : UInt32) => r = UInt32.ofNat s.now
  | _, _ => True

/-- **What a call does**, in any time. -/
def tickSem (o : NaOp) (s : TickWorld) (r : NaRes o) (s' : TickWorld) : Prop :=
  tickAnswer s o r ∧ ∃ t, s.now ≤ t ∧ s' = { s.act o r with now := t }

/-- The other threads: time goes by, and any variable may change but the total. -/
def tickEnv (_ : Unit) (s s' : TickWorld) : Prop :=
  ∃ vars t, vars.cyDsleepNwSuspendTime = s.vars.cyDsleepNwSuspendTime ∧ s.now ≤ t ∧
    s' = { s with vars := vars, now := t }

/-- What is followed of a run: the total, the readings of the clock, and the wake-up. -/
structure Told where
  total : UInt32
  readings : List ℕ
  wakeUp : Option CyRslt

def TickWorld.told (s : TickWorld) : Told :=
  ⟨s.vars.cyDsleepNwSuspendTime, s.readings, s.wakeUp⟩

/-- The other threads have no part in it. -/
theorem stable_told {R : Told → Prop} :
    Stable tickEnv fun (_ : List (Label NaOp NaRes Unit)) s => R s.told := by
  rintro _ _ s _ hR ⟨vars, t, htotal, -, rfl⟩
  have : TickWorld.told { s with vars := vars, now := t } = s.told := by
    rw [TickWorld.told, htotal]
    rfl
  exact this ▸ hR

/-- A call that has no part in it, unless the clock is read. -/
def Untimed (clock : Bool) : NaOp → Prop
  | .store f => ∀ v, (f v).cyDsleepNwSuspendTime = v.cyDsleepNwSuspendTime
  | .cyRtosGetTime => clock = true
  | .cyRtosWaitbitsEvent wait _ _ => wait ≠ .wakeUp
  | _ => True

theorem Untimed.mono {o : NaOp} {clock : Bool} (ho : Untimed false o) : Untimed clock o := by
  cases o with
  | cyRtosGetTime => cases ho
  | _ => exact ho

theorem Untimed.told_eq {o : NaOp} (ho : Untimed false o) {s s' : TickWorld} {r : NaRes o}
    (hs : tickSem o s r s') : s'.told = s.told := by
  obtain ⟨-, t, -, rfl⟩ := hs
  cases o with
  | store f => exact congrArg (fun v => Told.mk v s.readings s.wakeUp) (ho s.vars)
  | cyRtosGetTime => cases ho
  | cyRtosWaitbitsEvent wait flags timeout =>
      cases wait with
      | inactivity => rfl
      | wakeUp => exact absurd rfl ho
  | _ => rfl

/-- Reading the clock leaves the rest as it was. -/
theorem Untimed.total_wakeUp_eq {o : NaOp} (ho : Untimed true o) {s s' : TickWorld} {r : NaRes o}
    (hs : tickSem o s r s') :
    s'.told.total = s.told.total ∧ s'.told.wakeUp = s.told.wakeUp := by
  by_cases ho' : Untimed false o
  · rw [Untimed.told_eq ho' hs]
    exact ⟨rfl, rfl⟩
  · obtain ⟨-, t, -, rfl⟩ := hs
    cases o with
    | cyRtosGetTime => exact ⟨rfl, rfl⟩
    | _ => exact absurd ho ho'

/-! ### Rules -/

/-- Every run of the program that returns leaves what is told of it in `Q`. -/
def Tells {α : Type} (Q : α → Told → Prop) (p : Na α) (h : List (Label NaOp NaRes Unit))
    (s : TickWorld) : Prop :=
  Safe tickSem tickEnv (fun _ _ _ => True) (fun x _ s => Q x s.told) p h s

section Rules

variable {α β : Type} {R : Told → Prop} {h : List (Label NaOp NaRes Unit)} {s : TickWorld}

theorem Tells.ret {Q : α → Told → Prop} {x : α} (hQ : Q x s.told) : Tells Q (.ret x) h s :=
  Safe.ret stable_told hQ

theorem Tells.bind {Q : β → Told → Prop} {p : Na α} {g : α → Na β} (R : α → Told → Prop)
    (hp : Tells R p h s) (hg : ∀ x h s, R x s.told → Tells Q (g x) h s) :
    Tells Q (p.bind g) h s :=
  Safe.bind _ hp hg

theorem Tells.call {Q : α → Told → Prop} {o : NaOp} {g : NaRes o → Na α} (hR : R s.told)
    (hg : ∀ h s r s', R s.told → tickSem o s r s' → Tells Q (g r) h s') :
    Tells Q ((op o).bind g) h s :=
  Safe.call (fun _ s => R s.told) stable_told hR (fun _ _ _ => trivial)
    fun _ s r s' hR hs => hg _ s r s' hR hs

theorem Tells.untimed {p : Na α} (hp : p.Calls (Untimed false)) (hR : R s.told) :
    Tells (fun _ => R) p h s :=
  Safe.frame hp stable_told (fun _ _ _ _ _ => trivial)
    (fun _ _ _ _ _ ho hR hs => Untimed.told_eq ho hs ▸ hR) hR

/-- A program that has no part in it, and what follows it. -/
theorem Tells.untimed_bind {Q : β → Told → Prop} {p : Na α} {g : α → Na β}
    (hp : p.Calls (Untimed false)) (hR : R s.told)
    (hg : ∀ x h s, R s.told → Tells Q (g x) h s) : Tells Q (p.bind g) h s :=
  (Tells.untimed hp hR).bind _ hg

/-- Not woken up yet, and nothing added. -/
def Told.Awake (total : UInt32) (d : Told) : Prop := d.total = total ∧ d.wakeUp = none

theorem Tells.awake {p : Na α} {total : UInt32} (hp : p.Calls (Untimed true))
    (ha : s.told.Awake total) : Tells (fun _ => Told.Awake total) p h s := by
  refine Safe.frame hp stable_told (fun _ _ _ _ _ => trivial) (fun o h s r s' ho ha hs => ?_) ha
  obtain ⟨htotal, hwake⟩ := Untimed.total_wakeUp_eq ho hs
  exact ⟨htotal.trans ha.1, hwake.trans ha.2⟩

theorem Tells.awake_bind {Q : β → Told → Prop} {p : Na α} {g : α → Na β} {total : UInt32}
    (hp : p.Calls (Untimed true)) (ha : s.told.Awake total)
    (hg : ∀ x h s, s.told.Awake total → Tells Q (g x) h s) : Tells Q (p.bind g) h s :=
  (Tells.awake hp ha).bind _ hg

end Rules

/-! ### The parts that have no part in it -/

section Untimed

variable {clock : Bool}

theorem connectedInterface_untimed (b : NaBuild) :
    (connectedInterface b).Calls (Untimed clock) := by
  cases h : b.stack <;> simp [connectedInterface, Option.forall, h, Untimed]

theorem initHandlerOnce_untimed : initHandlerOnce.Calls (Untimed clock) := by
  simp [initHandlerOnce, cylpaNetworkActHandlerInit, cylpaRegisterNetworkActivityCallback, Untimed]

theorem initRxPktQueueOnce_untimed (b : NaBuild) :
    (initRxPktQueueOnce b).Calls (Untimed clock) := by
  simp [initRxPktQueueOnce, Untimed]

theorem monitorInactivity_untimed {cfg : Na Unit} (hcfg : cfg.Calls (Untimed true))
    (i w : UInt32) : (monitorInactivity cfg i w).Calls (Untimed true) := by
  have hround : ∀ t, (inactivityRound cfg t i w).Calls (Untimed true) := fun t =>
    hcfg.bind fun _ => by simp [Untimed]
  unfold monitorInactivity
  simp [Untimed, hround]

theorem cylpaWaitNetInactivity_untimed (b : NaBuild) (i w : UInt32) :
    (cylpaWaitNetInactivity b i w).Calls (Untimed true) := by
  unfold cylpaWaitNetInactivity
  cases b.ulp with
  | none => exact monitorInactivity_untimed (Prog.calls_ret ()) i w
  | some ulp =>
      refine ⟨trivial, fun ifp => ?_⟩
      cases ifp with
      | none => trivial
      | some ifp => exact monitorInactivity_untimed (by simp [configUlpOnce, Untimed]) i w

theorem cylpaSuspendNs_untimed (b : NaBuild) : (cylpaSuspendNs b).Calls (Untimed clock) := by
  cases h : b.stack <;>
    simp [cylpaSuspendNs, suspendStack, suspendDhcp, deactivateIfActive, Option.forall, h, Untimed]

theorem queueRxPackets_untimed (b : NaBuild) : (queueRxPackets b).Calls (Untimed clock) := by
  simp [queueRxPackets, Untimed]

theorem notifyApplication_untimed (t : CylpaNotifyEventType) :
    (notifyApplication t).Calls (Untimed clock) := by
  refine ⟨trivial, fun v => ?_⟩
  cases h : v.suspendNotifyCb <;> simp [h, Untimed]

theorem printBusStats_untimed (b : NaBuild) (wifi : Handle) :
    (printBusStats b wifi).Calls (Untimed clock) := by
  cases h : b.stack <;>
    simp [printBusStats, cylpaPrintWhdBusStats, interfaceIsUp, h, Option.forall, Untimed]

theorem takeRxPackets_untimed (b : NaBuild) : (takeRxPackets b).Calls (Untimed clock) := by
  simp [takeRxPackets, cylpaRxQueuePktInput, rxQueueRound, rxQueuePkt, Option.forall, Untimed]

theorem cylpaResumeNs_untimed (b : NaBuild) : (cylpaResumeNs b).Calls (Untimed clock) := by
  cases h : b.stack <;>
    simp [cylpaResumeNs, resumeStack, resumeDhcp, resumeIp, retakeDhcp, activateIfInactive,
      Option.forall, h, Untimed]

end Untimed

/-! ### The runs -/

/-- What the wait for the wake-up is reported as. -/
def wakeUpState (result : CyRslt) : NetworkStackState :=
  if result = .rtosTimeout then .waitTimeoutExpired else .netActivity

/-- Woken up with the answer `result`, the clock read at `t₁` before and at `t₂` after. -/
def Told.Woken (total : UInt32) (result : CyRslt) (t₁ t₂ : ℕ) (d : Told) : Prop :=
  d.total = total ∧ d.wakeUp = some result ∧ ∃ ts, d.readings = ts ++ [t₁, t₂]

section Runs

variable {h : List (Label NaOp NaRes Unit)} {s : TickWorld} {total : UInt32}

/-- **The wait for the wake-up** yields its answer and the difference of the two readings. -/
theorem waitNetActivity_tells (waitMs : UInt32) (ha : s.told.Awake total) :
    Tells (fun x d => ∃ result t₁ t₂, d.Woken total result t₁ t₂ ∧ x.1 = wakeUpState result ∧
        x.2 = suspendDuration (UInt32.ofNat t₁) (UInt32.ofNat t₂))
      (waitNetActivity waitMs) h s := by
  refine Tells.awake_bind (notifyApplication_untimed _) ha fun _ h s ha => ?_
  refine Tells.awake_bind ((Prog.calls_op _).mpr trivial) ha fun _ h s ha => ?_
  refine Tells.awake_bind ((Prog.calls_op _).mpr trivial) ha fun _ h s ha => ?_
  refine Tells.awake_bind ((Prog.calls_op _).mpr trivial) ha fun _ h s ha => ?_
  -- the first reading, the wait, the second reading
  refine Tells.call ha fun h s r s₁ ha hs => ?_
  obtain ⟨hr, t, -, rfl⟩ := hs
  refine Tells.call (R := fun d => d.total = total ∧ ∃ ts t₁, d.readings = ts ++ [t₁] ∧
    r = UInt32.ofNat t₁) ⟨ha.1, _, _, rfl, hr⟩ fun h s result s₂ hd hs => ?_
  obtain ⟨-, t, -, rfl⟩ := hs
  refine Tells.call (R := fun d => d.total = total ∧ d.wakeUp = some result ∧
    ∃ ts t₁, d.readings = ts ++ [t₁] ∧ r = UInt32.ofNat t₁) ⟨hd.1, rfl, hd.2⟩
      fun h s e s₃ hd hs => ?_
  obtain ⟨he, t, -, rfl⟩ := hs
  obtain ⟨htotal, hwake, ts, t₁, hts, hr⟩ := hd
  refine Tells.ret ⟨result, t₁, s.now, ⟨htotal, hwake, ts, ?_⟩, rfl, ?_⟩
  · have : s.readings = ts ++ [t₁] := hts
    simp [TickWorld.told, TickWorld.act, this]
  · dsimp only
    rw [suspendDuration, hr, show e = UInt32.ofNat s.now from he]

/-- **The resume section** adds the difference to the total. -/
theorem resumeSection_tells (b : NaBuild) (wifi : Handle) (waitMs : UInt32)
    (state : NetworkStackState) (lpTime : UInt32) {result : CyRslt} {t₁ t₂ : ℕ}
    (hw : s.told.Woken total result t₁ t₂) :
    Tells (fun x d => d.Woken (total + lpTime) result t₁ t₂ ∧
        x = if lpTime > waitMs then .waitTimeoutExpired else state)
      (resumeSection b wifi waitMs state lpTime) h s := by
  refine Tells.untimed_bind ((Prog.calls_op _).mpr trivial) hw fun _ h s hw => ?_
  refine Tells.untimed_bind ((Prog.calls_op _).mpr trivial) hw fun _ h s hw => ?_
  refine Tells.call hw fun h s _ s₁ hw hs => ?_
  obtain ⟨-, t, -, rfl⟩ := hs
  obtain ⟨htotal, hwake, hts⟩ := hw
  have hw : Told.Woken (total + lpTime) result t₁ t₂
      (TickWorld.told ⟨{ s.vars with
        cyDsleepNwSuspendTime := s.vars.cyDsleepNwSuspendTime + lpTime }, t, s.readings,
          s.wakeUp⟩) :=
    ⟨congrArg (· + lpTime) htotal, hwake, hts⟩
  refine Tells.untimed_bind (printBusStats_untimed b wifi) hw fun _ h s hw => ?_
  refine Tells.untimed_bind (notifyApplication_untimed _) hw fun _ h s hw => ?_
  refine Tells.untimed_bind ((Prog.calls_op _).mpr trivial) hw fun _ h s hw => ?_
  refine Tells.untimed_bind (takeRxPackets_untimed b) hw fun _ h s hw => ?_
  refine Tells.untimed_bind (cylpaResumeNs_untimed b) hw fun _ h s hw => ?_
  refine Tells.untimed_bind ((Prog.calls_op _).mpr trivial) hw fun _ h s hw => ?_
  exact Tells.ret ⟨hw, rfl⟩

/-- What `wait_net_suspend` adds to the total and reports: nothing is added where it was not
suspended. -/
def Told.Suspended (total waitMs : UInt32) (state : NetworkStackState) (d : Told) : Prop :=
  d.Awake total ∨ ∃ result t₁ t₂,
    d.Woken (total + suspendDuration (UInt32.ofNat t₁) (UInt32.ofNat t₂)) result t₁ t₂ ∧
      state = if suspendDuration (UInt32.ofNat t₁) (UInt32.ofNat t₂) > waitMs
        then .waitTimeoutExpired else wakeUpState result

theorem suspendUntilActivity_tells (b : NaBuild) (wifi : Handle) (waitMs : UInt32)
    (ha : s.told.Awake total) :
    Tells (fun state => Told.Suspended total waitMs state) (suspendUntilActivity b wifi waitMs)
      h s := by
  refine Tells.awake_bind (cylpaSuspendNs_untimed b) ha fun state h s ha => ?_
  refine Tells.awake_bind (queueRxPackets_untimed b) ha fun _ h s ha => ?_
  split
  · refine Tells.bind _ (waitNetActivity_tells waitMs ha) fun x h s hx => ?_
    obtain ⟨result, t₁, t₂, hw, hstate, hdur⟩ := hx
    refine Safe.mono (resumeSection_tells b wifi waitMs x.1 x.2 hw) (fun _ _ _ h => h)
      fun state _ s hs => .inr ⟨result, t₁, t₂, ?_⟩
    rw [← hdur, ← hstate]
    exact hs
  · exact Tells.ret (.inl ha)

/-- **Every run of `wait_net_suspend`** adds the difference of the readings around the wake-up, and
reports a timeout where it exceeds `wait_ms`. -/
theorem waitNetSuspend_tells (b : NaBuild) (waitMs interval window : UInt32)
    (ha : s.told.Awake total) :
    Tells (fun state => Told.Suspended total waitMs state)
      (waitNetSuspend b waitMs interval window) h s := by
  refine Tells.awake_bind (connectedInterface_untimed b) ha fun wifi h s ha => ?_
  cases wifi with
  | none => exact Tells.ret (.inl ha)
  | some wifi =>
      refine Tells.awake_bind initHandlerOnce_untimed ha fun _ h s ha => ?_
      refine Tells.awake_bind (initRxPktQueueOnce_untimed b) ha fun _ h s ha => ?_
      refine Tells.awake_bind ((Prog.calls_op _).mpr trivial) ha fun _ h s ha => ?_
      refine Tells.bind (fun state => Told.Suspended total waitMs state) ?_
        fun state h s hs => ?_
      · refine Tells.awake_bind (cylpaWaitNetInactivity_untimed b interval window) ha
          fun state h s ha => ?_
        split
        · exact suspendUntilActivity_tells b wifi waitMs ha
        · exact Tells.ret (.inl ha)
      · exact Tells.untimed_bind ((Prog.calls_op _).mpr trivial) hs fun _ h s hs => Tells.ret hs

end Runs

/-! ### Measuring the suspension -/

/-- **The suspension is measured rightly** in every run in which the clock reads `start` before the
wait for the wake-up and is read again `d` ms later: the duration is `d`, the total grows by it,
activity within `wait_ms` is reported as such and a timed-out wait as a timeout. -/
structure MeasuresSuspension (b : NaBuild) (start : UInt32) (d : ℕ) : Prop where
  duration : ∀ waitMs s c x t₁, s.wakeUp = none →
    Reach tickSem tickEnv ⟨waitNetActivity waitMs, [], s⟩ c → c.prog = .ret x →
    (∃ ts, c.st.readings = ts ++ [t₁, t₁ + d]) → UInt32.ofNat t₁ = start → x.2 = UInt32.ofNat d
  reported : ∀ waitMs interval window s c state result t₁, s.wakeUp = none →
    Reach tickSem tickEnv ⟨waitNetSuspend b waitMs interval window, [], s⟩ c →
    c.prog = .ret state → c.st.wakeUp = some result →
    (∃ ts, c.st.readings = ts ++ [t₁, t₁ + d]) → UInt32.ofNat t₁ = start →
    c.st.vars.cyDsleepNwSuspendTime = s.vars.cyDsleepNwSuspendTime + UInt32.ofNat d ∧
      (result ≠ .rtosTimeout → d ≤ waitMs.toNat → state = .netActivity) ∧
      (result = .rtosTimeout → state = .waitTimeoutExpired)

/-- The last two readings are the ones around the wake-up. -/
theorem readings_inj {ts ts' : List ℕ} {t₁ t₂ t₁' t₂' : ℕ}
    (h : ts ++ [t₁, t₂] = ts' ++ [t₁', t₂']) : t₁ = t₁' ∧ t₂ = t₂' := by
  have := List.append_inj_right' h rfl
  simpa using this

theorem suspendDuration_readings {start : UInt32} {d t₁ : ℕ} (ht : UInt32.ofNat t₁ = start)
    (hdur : suspendDuration start (start + UInt32.ofNat d) = UInt32.ofNat d) :
    suspendDuration (UInt32.ofNat t₁) (UInt32.ofNat (t₁ + d)) = UInt32.ofNat d := by
  rw [UInt32.ofNat_add, ht, hdur]

theorem measuresSuspension_of_eq (b : NaBuild) {start : UInt32} {d : ℕ} (hd : d < 2 ^ 32)
    (hdur : suspendDuration start (start + UInt32.ofNat d) = UInt32.ofNat d) :
    MeasuresSuspension b start d where
  duration waitMs s c x t₁ hs hr hx hts ht := by
    obtain ⟨ts, hts⟩ := hts
    obtain ⟨result, t₁', t₂', hw, -, hdur'⟩ :=
      (waitNetActivity_tells waitMs ⟨rfl, hs⟩ c hr).2 x hx
    obtain ⟨ts', hts'⟩ := hw.2.2
    obtain ⟨rfl, rfl⟩ := readings_inj (hts'.symm.trans hts)
    rw [hdur', suspendDuration_readings ht hdur]
  reported waitMs interval window s c state result t₁ hs hr hx hwake hts ht := by
    obtain ⟨ts, hts⟩ := hts
    rcases (waitNetSuspend_tells b waitMs interval window ⟨rfl, hs⟩ c hr).2 state hx with
      ha | ⟨result', t₁', t₂', hw, hstate⟩
    · exact absurd (ha.2.symm.trans hwake) (by simp)
    obtain ⟨htotal, hwake', ts', hts'⟩ := hw
    obtain ⟨rfl, rfl⟩ := readings_inj (hts'.symm.trans hts)
    obtain rfl : result' = result := Option.some.inj (hwake'.symm.trans hwake)
    rw [suspendDuration_readings ht hdur] at htotal hstate
    refine ⟨htotal, fun hne hle => ?_, fun he => ?_⟩
    · have hnot : ¬ UInt32.ofNat d > waitMs := by
        rw [gt_iff_lt, UInt32.lt_iff_toNat_lt, UInt32.toNat_ofNat_of_lt' hd]
        omega
      rw [hstate, if_neg hnot, wakeUpState, if_neg hne]
    · rw [hstate, wakeUpState, if_pos he, ite_self]

/-! ### A run -/

/-- The usual answers, a network that is quiet at once, and a wake-up by activity after `d` ms. -/
def tickUsual (d : ℕ) : (o : NaOp) → List (Label NaOp NaRes Unit) → TickWorld →
    NaRes o × TickWorld
  | .load, _, s => (s.vars, s)
  | .store f, _, s => ((), { s with vars := f s.vars })
  | .cyRtosGetTime, _, s => (UInt32.ofNat s.now, { s with readings := s.readings ++ [s.now] })
  | .cyRtosWaitbitsEvent .wakeUp _ _, _, s =>
      (.success, { s with wakeUp := some .success, now := s.now + d })
  | o, _, s => (o.usual, s)

theorem tickUsual_answers (d : ℕ) (o : NaOp) (h : List (Label NaOp NaRes Unit)) (s : TickWorld) :
    tickSem o s (tickUsual d o h s).1 (tickUsual d o h s).2 := by
  cases o with
  | load => exact ⟨rfl, s.now, Nat.le_refl _, rfl⟩
  | cyRtosGetTime => exact ⟨rfl, s.now, Nat.le_refl _, rfl⟩
  | cyRtosWaitbitsEvent wait flags timeout =>
      cases wait with
      | inactivity => exact ⟨trivial, s.now, Nat.le_refl _, rfl⟩
      | wakeUp => exact ⟨trivial, s.now + d, Nat.le_add_right _ _, rfl⟩
  | _ => exact ⟨trivial, s.now, Nat.le_refl _, rfl⟩

/-- The world at the tick `start`. -/
def TickWorld.startAt (start : UInt32) : TickWorld := ⟨.boot, start.toNat, [], none⟩

/-- **The suspension is measured rightly** exactly if the tick does not wrap between the two
readings, or half its range goes by. -/
theorem measuresSuspension_iff (b : NaBuild) (start : UInt32) {d : ℕ} (hd : d < 2 ^ 32) :
    MeasuresSuspension b start d ↔ start.toNat + d < 2 ^ 32 ∨ d = 2 ^ 31 := by
  refine ⟨fun h => ?_, fun h => measuresSuspension_of_eq b hd ((suspendDuration_eq_iff hd).mpr h)⟩
  have hstart : UInt32.ofNat start.toNat = start := UInt32.ofNat_toNat
  have hx := h.duration 0 (.startAt start) _ _ start.toNat rfl
    (Prog.reach_exec (tickUsual_answers d) 7 ⟨waitNetActivity 0, [], .startAt start⟩) rfl
    ⟨[], rfl⟩ hstart
  refine (suspendDuration_eq_iff hd).mp ?_
  change suspendDuration (UInt32.ofNat start.toNat) (UInt32.ofNat (start.toNat + d)) =
    UInt32.ofNat d at hx
  rwa [UInt32.ofNat_add, hstart] at hx

/-- Sixteen ms before the tick wraps, a suspension of 15 ms is measured rightly and one of 16 is
not. -/
theorem measuresSuspension_wrap :
    (MeasuresSuspension ⟨.lwip, none⟩ 0xfffffff0 15 ↔
      (0xfffffff0 : UInt32).toNat + 15 < 2 ^ 32 ∨ 15 = 2 ^ 31) ∧
    (MeasuresSuspension ⟨.netxduo, none⟩ 0xfffffff0 16 ↔
      (0xfffffff0 : UInt32).toNat + 16 < 2 ^ 32 ∨ 16 = 2 ^ 31) :=
  ⟨measuresSuspension_iff _ _ (by decide), measuresSuspension_iff _ _ (by decide)⟩

/-- Sixteen ms before the tick wraps, the network wakes the stack up after 32 ms: the wait of a
minute is reported as timed out, and the total grows by all but 32 ms of the tick's range. -/
theorem waitNetSuspend_wrapped :
    (∃ c, Reach tickSem tickEnv
        ⟨waitNetSuspend ⟨.lwip, none⟩ 60000 20 10, [], .startAt 0xfffffff0⟩ c ∧
      c.prog = .ret .waitTimeoutExpired ∧ c.st.wakeUp = some .success ∧
      c.st.readings = [0xfffffff0] ++ [0xfffffff0, 0xfffffff0 + 32] ∧
      c.st.vars.cyDsleepNwSuspendTime = 0xffffffe0) ∧
    ¬ ∀ b start d, d < 2 ^ 32 → MeasuresSuspension b start d := by
  have hr : Reach tickSem tickEnv
      ⟨waitNetSuspend ⟨.lwip, none⟩ 60000 20 10, [], .startAt 0xfffffff0⟩ _ :=
    Prog.reach_exec (tickUsual_answers 32) 60 _
  refine ⟨⟨_, hr, rfl, rfl, rfl, rfl⟩, fun h => ?_⟩
  have hm := (h ⟨.lwip, none⟩ 0xfffffff0 32 (by decide)).reported 60000 20 10 _ _
    .waitTimeoutExpired .success 0xfffffff0 rfl hr rfl rfl ⟨[0xfffffff0], rfl⟩ rfl
  exact absurd (hm.2.1 (by decide) (by decide)) (by decide)

end Lpa.NetActivity
