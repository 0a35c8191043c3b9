import Lpa.NetActivity.Handler
import Lpa.Support.Total
import Mathlib.Data.ENat.Lattice
import Mathlib.Data.Set.Finite.Lattice

/-!
# Network activity — waiting for the network to fall quiet

`cylpa_wait_net_inactivity` against a timeline of activity.  The wait on the event returns at the
next activity if that comes before its window ends, at once if one is already pending, and times
out otherwise; all other steps take no time.

* `cylpaWaitNetInactivity_law`: it succeeds exactly if some activity before the interval is over
  is followed by a quiet window, and returns at the end of the first such window; otherwise it
  gives up, before the interval and one window are over.

A search for the window that is still going on (`Searching`) has met no quiet window so far; a
pass of the loop ends the search or has seen more of the timeline.
-/

namespace Lpa.NetActivity

open Prog (Label Safe Reach Stable Total lowerPost)

/-! ### The timeline -/

/-- When there is activity, in ms after the start: `time 1` is the first.  Where there is no more
activity, `time` is `⊤`. -/
structure Timeline where
  time : ℕ → ℕ∞
  time_zero : time 0 = 0
  mono : Monotone time

/-- Activity `k` comes before the interval is over, and no other comes in the window after it. -/
def Timeline.Quiet (t : Timeline) (interval window k : ℕ) : Prop :=
  (∀ j, 1 ≤ j → j ≤ k → t.time j < interval) ∧ ∀ j, k < j → t.time k + window ≤ t.time j

/-- What is asked of the state `cylpa_wait_net_inactivity` returns at the time `now`. -/
structure InactivityLaw (t : Timeline) (interval window : ℕ) (state : NetworkStackState)
    (now : ℕ) : Prop where
  success_iff : state = .success ↔ ∃ k, t.Quiet interval window k
  quiet : state = .success → ∀ j, 1 ≤ j → t.time j + window ≤ now ∨ now ≤ t.time j
  atEnd : state = .success → ∃ k, t.Quiet interval window k ∧ (now : ℕ∞) = t.time k + window
  otherwise : state ≠ .success → state = .waitInactivityTimeoutExpired
  onTime : now ≤ interval + window

/-! ### The world -/

/-- The file's variables, the time since the start in ms, and the activities that have been
taken notice of. -/
structure QuietWorld where
  vars : NaVars
  now : ℕ
  seen : ℕ

/-- **What a call does.**  A wait that returns at an activity takes notice of it, and of any
others of the same instant it likes. -/
def quietSem (t : Timeline) (startTick : UInt32) (whd : Option Handle) :
    (o : NaOp) → QuietWorld → NaRes o → QuietWorld → Prop
  | .load, s, r, s' => r = s.vars ∧ s' = s
  | .store f, s, _, s' => s' = { s with vars := f s.vars }
  | .cyOlmGetWhdInterface, s, (r : Option Handle), s' => r = whd ∧ s' = s
  | .cyRtosGetTime, s, (r : UInt32), s' => r = startTick + UInt32.ofNat s.now ∧ s' = s
  | .cyRtosWaitbitsEvent _ _ timeout, s, (r : CyRslt), s' =>
      (r = .success ∧ t.time (s.seen + 1) < (s.now + timeout.toNat : ℕ) ∧ s.seen < s'.seen ∧
        s'.vars = s.vars ∧ (s'.now : ℕ∞) = max (s.now : ℕ∞) (t.time (s.seen + 1)) ∧
        t.time s'.seen ≤ s'.now) ∨
      (r = .rtosTimeout ∧ (s.now + timeout.toNat : ℕ) ≤ t.time (s.seen + 1) ∧
        s' = { s with now := s.now + timeout.toNat })
  | _, s, _, s' => s' = s

/-- There is no environment: the timeline says all there is to activity. -/
def quietEnv (e : Empty) : QuietWorld → QuietWorld → Prop := e.elim

section Search

variable {t : Timeline} {startTick : UInt32} {whd : Option Handle} {s s' : QuietWorld}
variable {interval window : ℕ}

/-- The wait returns, one way or the other. -/
theorem quietSem_waitbits_exists (wait : EventWait) (flags timeout : UInt32) :
    ∃ r s', quietSem t startTick whd (.cyRtosWaitbitsEvent wait flags timeout) s r s' := by
  rcases lt_or_ge (t.time (s.seen + 1)) ↑(s.now + timeout.toNat) with h | h
  · obtain ⟨n, hn⟩ := ENat.ne_top_iff_exists.mp h.ne_top
    have hmax : ((max s.now n : ℕ) : ℕ∞) = max (s.now : ℕ∞) (t.time (s.seen + 1)) := by
      rw [← hn]
      exact Nat.mono_cast.map_max
    exact ⟨.success, ⟨s.vars, max s.now n, s.seen + 1⟩,
      .inl ⟨rfl, h, Nat.lt_succ_self _, rfl, hmax, hmax ▸ le_max_right _ _⟩⟩
  · exact ⟨.rtosTimeout, _, .inr ⟨rfl, h, rfl⟩⟩

/-! ### The search -/

/-- No window has been quiet so far, and the interval is not over. -/
structure Searching (t : Timeline) (interval window : ℕ) (s : QuietWorld) : Prop where
  now : (s.now : ℕ∞) = t.time s.seen
  early : t.time s.seen < interval
  busy : ∀ j < s.seen, t.time (j + 1) < t.time j + window

/-- How the search ends: at the end of the first quiet window, or past the interval with none. -/
inductive Found (t : Timeline) (interval window : ℕ) : NetworkStackState → QuietWorld → Prop where
  | quiet {k : ℕ} {s : QuietWorld} (hk : t.Quiet interval window k)
      (hnow : (s.now : ℕ∞) = t.time k + window) : Found t interval window .success s
  | busy {s : QuietWorld} (hk : ∀ k, ¬ t.Quiet interval window k)
      (hnow : s.now < interval + window) :
      Found t interval window .waitInactivityTimeoutExpired s

/-- A window seen to be busy is not the one looked for. -/
theorem not_quiet_of_busy {n k : ℕ} (hbusy : ∀ j < n, t.time (j + 1) < t.time j + window)
    (hk : k < n) : ¬ t.Quiet interval window k :=
  fun h => absurd (h.2 (k + 1) (Nat.lt_succ_self k)) (not_le.mpr (hbusy k hk))

theorem Searching.init (h : 0 < interval) (vars : NaVars) :
    Searching t interval window ⟨vars, 0, 0⟩ where
  now := t.time_zero.symm
  early := by rw [t.time_zero]; exact_mod_cast h
  busy := fun j hj => absurd hj (Nat.not_lt_zero j)

/-- A timed-out wait ends the search with a quiet window. -/
theorem Searching.timeout (h : Searching t interval window s)
    (hw : (s.now + window : ℕ) ≤ t.time (s.seen + 1)) :
    Found t interval window .success { s with now := s.now + window } := by
  have hnow : ((s.now + window : ℕ) : ℕ∞) = t.time s.seen + window := by
    rw [← h.now]
    push_cast
    rfl
  refine .quiet (k := s.seen) ⟨fun j _ hj => ?_, fun j hj => ?_⟩ hnow
  · exact lt_of_le_of_lt (t.mono hj) h.early
  · rw [← hnow]
    exact hw.trans (t.mono hj)

/-- What a wait that returns at an activity leaves: the time of that activity, and no quiet
window so far. -/
theorem Searching.activity (h : Searching t interval window s) (hpos : 0 < window)
    (hw : t.time (s.seen + 1) < (s.now + window : ℕ)) (hseen : s.seen < s'.seen)
    (hnow : (s'.now : ℕ∞) = max (s.now : ℕ∞) (t.time (s.seen + 1)))
    (hle : t.time s'.seen ≤ s'.now) :
    (s'.now : ℕ∞) = t.time s'.seen ∧ s'.now < interval + window ∧
      ∀ j < s'.seen, t.time (j + 1) < t.time j + window := by
  have hnext : (s'.now : ℕ∞) = t.time (s.seen + 1) := by
    rw [hnow, h.now, max_eq_right (t.mono (Nat.le_succ _))]
  have hsame : ∀ j, s.seen < j → j ≤ s'.seen → t.time j = s'.now := fun j hj hj' =>
    le_antisymm ((t.mono hj').trans hle) (hnext ▸ t.mono hj)
  have hearly : (s.now : ℕ∞) < interval := h.now ▸ h.early
  refine ⟨(hsame s'.seen hseen le_rfl).symm, ?_, fun j hj => ?_⟩
  · rw [← hnext] at hw
    have h₁ : s'.now < s.now + window := by exact_mod_cast hw
    have h₂ : s.now < interval := by exact_mod_cast hearly
    omega
  · rcases Nat.lt_trichotomy j s.seen with hlt | rfl | hgt
    · exact h.busy j hlt
    · rw [← h.now]
      exact_mod_cast hw
    · -- activities of the same instant
      rw [hsame (j + 1) (by omega) hj, hsame j hgt (by omega)]
      exact_mod_cast Nat.lt_add_of_pos_right hpos

/-- The interval is over, and no window was quiet. -/
theorem Found.of_late {n : ℕ} (hlate : (interval : ℕ∞) ≤ t.time n)
    (hbusy : ∀ j < n, t.time (j + 1) < t.time j + window) (hpos : 0 < n)
    (hnow : s.now < interval + window) :
    Found t interval window .waitInactivityTimeoutExpired s := by
  refine .busy (fun k hk => ?_) hnow
  rcases Nat.lt_or_ge k n with h | h
  · exact not_quiet_of_busy hbusy h hk
  · exact absurd (hk.1 n hpos h) (not_lt.mpr hlate)

theorem Found.law {state : NetworkStackState} (h : Found t interval window state s) :
    InactivityLaw t interval window state s.now := by
  cases h with
  | @quiet k _ hk hnow =>
      have hzero : t.time 0 + window ≤ interval + window := by
        rw [t.time_zero]
        gcongr
        exact bot_le
      refine ⟨⟨fun _ => ⟨k, hk⟩, fun _ => rfl⟩, fun _ j hj => ?_, fun _ => ?_,
        fun h => absurd rfl h, ?_⟩
      · rcases Nat.lt_or_ge k j with hlt | hge
        · exact .inr (hnow ▸ hk.2 j hlt)
        · exact .inl (hnow ▸ by gcongr; exact t.mono hge)
      · exact ⟨k, hk, hnow⟩
      · have hle : t.time k + window ≤ interval + window := by
          rcases Nat.eq_zero_or_pos k with rfl | hk0
          · exact hzero
          · gcongr
            exact (hk.1 k hk0 le_rfl).le
        rw [← hnow] at hle
        exact_mod_cast hle
  | busy hk hnow =>
      exact ⟨⟨fun h => (by cases h), fun ⟨k, h⟩ => absurd h (hk k)⟩, fun h => (by cases h),
        fun h => (by cases h), fun _ => rfl, hnow.le⟩

/-- Where a search stands after a pass that started with `n` activities seen. -/
def roundPost (t : Timeline) (interval window n : ℕ) :
    Option NetworkStackState → QuietWorld → Prop
  | none, s => Searching t interval window s ∧ n < s.seen
  | some state, s => Found t interval window state s

end Search

/-! ### The loop -/

/-- The state's time and what it has seen are as they were. -/
def Still (s : QuietWorld) : Unit → QuietWorld → Prop :=
  fun _ s' => s'.now = s.now ∧ s'.seen = s.seen

section Loop

variable {t : Timeline} {startTick : UInt32} {whd : Option Handle} {s : QuietWorld}
variable {inactiveIntervalMs inactiveWindowMs : UInt32}

/-- Configuring the ULP mode takes no time. -/
theorem configUlpOnce_total (ulp : UlpConfig) (ifp : Handle) (w : UInt32) (s : QuietWorld) :
    Total (quietSem t startTick whd) (Still s) (configUlpOnce ulp ifp w) s := by
  refine Total.op ⟨0, s, rfl⟩ fun connected s₁ hs => ?_
  obtain rfl : s₁ = s := hs
  unfold Prog.when
  split
  · refine Total.op ⟨_, _, rfl, rfl⟩ fun v s₂ hs => ?_
    obtain ⟨-, rfl⟩ := hs
    split
    · refine Total.op ⟨.success, _, rfl⟩ fun _ s₃ hs => ?_
      obtain rfl : s₃ = _ := hs
      refine .call ⟨(), _, rfl⟩ fun _ s₄ hs => ?_
      obtain rfl : s₄ = _ := hs
      exact .ret ⟨rfl, rfl⟩
    · exact .ret ⟨rfl, rfl⟩
  · exact .ret ⟨rfl, rfl⟩

/-- The elapsed time, of a clock that may have wrapped. -/
theorem toNat_elapsed {n : ℕ} (hn : n < 2 ^ 32) :
    (startTick + UInt32.ofNat n - startTick).toNat = n := by
  rw [UInt32.add_comm, UInt32.add_sub_cancel, UInt32.toNat_ofNat_of_lt' hn]

variable {configUlp : Na Unit} (hcfg : ∀ s, Total (quietSem t startTick whd) (Still s) configUlp s)
variable (hpos : 0 < inactiveWindowMs.toNat)
variable (hsum : inactiveIntervalMs.toNat + inactiveWindowMs.toNat < 2 ^ 32)

include hcfg hpos hsum in
/-- **A pass of the loop** ends the search, or goes on with it having seen more. -/
theorem inactivityRound_total
    (h : Searching t inactiveIntervalMs.toNat inactiveWindowMs.toNat s) :
    Total (quietSem t startTick whd)
      (roundPost t inactiveIntervalMs.toNat inactiveWindowMs.toNat s.seen)
      (inactivityRound configUlp startTick inactiveIntervalMs inactiveWindowMs) s := by
  refine (hcfg s).bind _ fun _ s₁ hs₁ => ?_
  obtain ⟨hnow₁, hseen₁⟩ := hs₁
  have h₁ : Searching t inactiveIntervalMs.toNat inactiveWindowMs.toNat s₁ := by
    refine ⟨?_, ?_, ?_⟩
    · rw [hnow₁, hseen₁]; exact h.now
    · rw [hseen₁]; exact h.early
    · rw [hseen₁]; exact h.busy
  rw [← hseen₁]
  refine Total.op (quietSem_waitbits_exists _ _ _) fun r s₂ hs₂ => ?_
  rcases hs₂ with ⟨hr, hw, hlt, -, hnow, hle⟩ | ⟨hr, hw, rfl⟩
  · -- an activity: the search goes on unless the interval is over
    obtain ⟨hnow₂, hearly, hbusy⟩ := h₁.activity hpos hw hlt hnow hle
    obtain rfl : r = .success := hr
    rw [if_neg (by simp)]
    refine Total.op ⟨_, _, rfl, rfl⟩ fun e s₃ hs₃ => ?_
    obtain ⟨he, rfl⟩ := hs₃
    have helapsed : (e - startTick).toNat = s₃.now := by rw [he]; exact toNat_elapsed (by omega)
    dsimp only
    split
    · rename_i hover
      refine .ret (Found.of_late ?_ hbusy (by omega) hearly)
      rw [← hnow₂, ← helapsed]
      exact_mod_cast UInt32.le_iff_toNat_le.mp hover
    · rename_i hover
      refine .ret ⟨⟨hnow₂, ?_, hbusy⟩, hlt⟩
      rw [← hnow₂, ← helapsed]
      exact_mod_cast UInt32.lt_iff_toNat_lt.mp (UInt32.not_le.mp hover)
  · -- a timeout: the window was quiet
    obtain rfl : r = .rtosTimeout := hr
    rw [if_pos rfl]
    exact .ret (h₁.timeout hw)

include hcfg hpos hsum in
/-- The loop, however long it takes: where it returns, the search has ended. -/
theorem search_safe {h : List (Label NaOp NaRes Empty)}
    (hs : Searching t inactiveIntervalMs.toNat inactiveWindowMs.toNat s) :
    Safe (quietSem t startTick whd) quietEnv (fun _ _ _ => True)
      (fun state _ => Found t inactiveIntervalMs.toNat inactiveWindowMs.toNat state)
      (Prog.loop (inactivityRound configUlp startTick inactiveIntervalMs inactiveWindowMs)) h s := by
  refine .iter (fun _ => Searching t inactiveIntervalMs.toNat inactiveWindowMs.toNat)
    (fun state _ => Found t inactiveIntervalMs.toNat inactiveWindowMs.toNat state)
    (Prog.stable_alone _) hs (fun h s hs => ?_) fun state h s hf => .ret (Prog.stable_alone _) hf
  refine (inactivityRound_total hcfg hpos hsum hs).safe.mono (fun _ _ _ hJ => hJ)
    fun r h s hr => ?_
  cases r with
  | none => exact hr.1
  | some state => exact hr

include hcfg hpos hsum in
/-- The loop ends, if a search cannot see more than `n` activities. -/
theorem search_total {n : ℕ}
    (hn : ∀ s, Searching t inactiveIntervalMs.toNat inactiveWindowMs.toNat s → s.seen ≤ n)
    (hs : Searching t inactiveIntervalMs.toNat inactiveWindowMs.toNat s) :
    Total (quietSem t startTick whd)
      (Found t inactiveIntervalMs.toNat inactiveWindowMs.toNat)
      (Prog.loop (inactivityRound configUlp startTick inactiveIntervalMs inactiveWindowMs)) s := by
  refine .iter_of_measure (Searching t inactiveIntervalMs.toNat inactiveWindowMs.toNat)
    (fun s => n - s.seen) (Found t inactiveIntervalMs.toNat inactiveWindowMs.toNat) hs
    (fun s hs => ?_) fun state s hf => .ret hf
  refine (inactivityRound_total hcfg hpos hsum hs).mono fun r s' hr => ?_
  cases r with
  | none =>
      have hle := hn s' hr.1
      have hlt := hr.2
      exact ⟨hr.1, by dsimp only; omega⟩
  | some state => exact hr

/-- A search sees no activity past a quiet window. -/
theorem seen_le_of_quiet {interval window k : ℕ} (hk : t.Quiet interval window k)
    (hs : Searching t interval window s) : s.seen ≤ k :=
  not_lt.mp fun h => not_quiet_of_busy hs.busy h hk

/-- Where finitely many activities share any one instant, some activity is as late as one likes. -/
theorem Timeline.exists_late (hfin : ∀ n : ℕ, {j | t.time j = n}.Finite) (interval : ℕ) :
    ∃ n, (interval : ℕ∞) ≤ t.time n := by
  by_contra hnone
  have hearly : ∀ n, t.time n < interval := fun n => not_le.mp fun h => hnone ⟨n, h⟩
  have hcover : (Set.univ : Set ℕ) ⊆ ⋃ i ∈ Finset.range interval, {j | t.time j = (i : ℕ)} := by
    intro j _
    obtain ⟨i, hi⟩ := ENat.ne_top_iff_exists.mp (hearly j).ne_top
    have hlt : (i : ℕ∞) < interval := hi ▸ hearly j
    simp only [Set.mem_iUnion, Finset.mem_range, Set.mem_ofPred_eq]
    exact ⟨i, by exact_mod_cast hlt, hi.symm⟩
  exact Set.infinite_univ
    ((Set.Finite.biUnion (Finset.finite_toSet _) fun i _ => hfin i).subset hcover)

theorem seen_le_of_late {interval window n : ℕ} (hn : (interval : ℕ∞) ≤ t.time n)
    (hs : Searching t interval window s) : s.seen ≤ n :=
  not_lt.mp fun h => absurd hs.early (not_lt.mpr (hn.trans (t.mono h.le)))

/-! ### The whole wait -/

variable {vars : NaVars}

/-- The clock as the wait starts. -/
theorem startTick_read : startTick + UInt32.ofNat (QuietWorld.mk vars 0 0).now = startTick :=
  UInt32.add_zero startTick

include hcfg hpos hsum in
theorem monitorInactivity_safe
    (hlt : inactiveWindowMs < inactiveIntervalMs) {h : List (Label NaOp NaRes Empty)} :
    Safe (quietSem t startTick whd) quietEnv (fun _ _ _ => True)
      (fun state _ => Found t inactiveIntervalMs.toNat inactiveWindowMs.toNat state)
      (monitorInactivity configUlp inactiveIntervalMs inactiveWindowMs) h ⟨vars, 0, 0⟩ := by
  rw [monitorInactivity, if_pos hlt]
  refine .call (fun _ s => s = ⟨vars, 0, 0⟩) (Prog.stable_alone _) rfl (fun _ _ _ => trivial) ?_
  rintro h _ r _ rfl rfl
  refine .call (fun _ s => s = ⟨vars, 0, 0⟩) (Prog.stable_alone _) rfl (fun _ _ _ => trivial) ?_
  rintro h _ r _ rfl ⟨rfl, rfl⟩
  rw [startTick_read]
  exact search_safe hcfg hpos hsum (.init (by have := UInt32.lt_iff_toNat_lt.mp hlt; omega) vars)

include hcfg hpos hsum in
theorem monitorInactivity_total
    (hlt : inactiveWindowMs < inactiveIntervalMs) {n : ℕ}
    (hn : ∀ s, Searching t inactiveIntervalMs.toNat inactiveWindowMs.toNat s → s.seen ≤ n) :
    Total (quietSem t startTick whd)
      (Found t inactiveIntervalMs.toNat inactiveWindowMs.toNat)
      (monitorInactivity configUlp inactiveIntervalMs inactiveWindowMs) ⟨vars, 0, 0⟩ := by
  rw [monitorInactivity, if_pos hlt]
  refine Total.op ⟨.success, _, rfl⟩ fun _ s hs => ?_
  obtain rfl : s = _ := hs
  refine Total.op ⟨_, _, rfl, rfl⟩ fun _ s hs => ?_
  obtain ⟨rfl, rfl⟩ := hs
  rw [startTick_read]
  exact search_total hcfg hpos hsum hn
    (.init (by have := UInt32.lt_iff_toNat_lt.mp hlt; omega) vars)

variable (t startTick inactiveIntervalMs inactiveWindowMs) in
/-- Either build monitors the event, once it has its WHD interface. -/
theorem exists_monitorInactivity (b : NaBuild) (hwhd : b.ulp.isSome → whd.isSome) :
    ∃ configUlp : Na Unit, (∀ s, Total (quietSem t startTick whd) (Still s) configUlp s) ∧
      (∀ Q s, Total (quietSem t startTick whd) Q
          (monitorInactivity configUlp inactiveIntervalMs inactiveWindowMs) s →
        Total (quietSem t startTick whd) Q
          (cylpaWaitNetInactivity b inactiveIntervalMs inactiveWindowMs) s) ∧
      ∀ Q h s, (∀ h, Safe (quietSem t startTick whd) quietEnv (fun _ _ _ => True) Q
          (monitorInactivity configUlp inactiveIntervalMs inactiveWindowMs) h s) →
        Safe (quietSem t startTick whd) quietEnv (fun _ _ _ => True) Q
          (cylpaWaitNetInactivity b inactiveIntervalMs inactiveWindowMs) h s := by
  unfold cylpaWaitNetInactivity
  cases hb : b.ulp with
  | none => exact ⟨_, fun s => .ret ⟨rfl, rfl⟩, fun _ _ h => h, fun _ h _ hm => hm h⟩
  | some ulp =>
      obtain ⟨ifp, rfl⟩ := Option.isSome_iff_exists.mp (hwhd (by rw [hb]; rfl))
      refine ⟨_, configUlpOnce_total ulp ifp inactiveWindowMs, fun Q s hm => ?_,
        fun Q h s hm => ?_⟩
      · refine Total.op ⟨_, _, rfl, rfl⟩ fun _ s' hs => ?_
        obtain ⟨rfl, rfl⟩ := hs
        exact hm
      · refine .call (fun _ s' => s' = s) (Prog.stable_alone _) rfl (fun _ _ _ => trivial) ?_
        rintro h _ _ _ rfl ⟨rfl, rfl⟩
        exact hm _

/-- Where the interval is no longer than the window, nothing is waited for. -/
theorem monitorInactivity_badArgs (h : inactiveIntervalMs ≤ inactiveWindowMs) :
    Total (quietSem t startTick whd) (fun state s' => state = .badArgs ∧ s' = s)
      (monitorInactivity configUlp inactiveIntervalMs inactiveWindowMs) s := by
  rw [monitorInactivity, if_neg (UInt32.not_lt.mpr h)]
  exact .ret ⟨rfl, rfl⟩

end Loop

section Whole

variable (b : NaBuild) (t : Timeline) (startTick : UInt32) (whd : Option Handle) (vars : NaVars)
variable (interval window : UInt32)

/-- The wait returns as it should, if a search cannot see more than `n` activities. -/
theorem cylpaWaitNetInactivity_total (hwhd : b.ulp.isSome → whd.isSome)
    (hpos : 0 < window) (hlt : window < interval)
    (hsum : interval.toNat + window.toNat < 2 ^ 32) {n : ℕ}
    (hn : ∀ s, Searching t interval.toNat window.toNat s → s.seen ≤ n) :
    Total (quietSem t startTick whd)
      (fun state s => InactivityLaw t interval.toNat window.toNat state s.now)
      (cylpaWaitNetInactivity b interval window) ⟨vars, 0, 0⟩ := by
  obtain ⟨configUlp, hcfg, htotal, -⟩ :=
    exists_monitorInactivity t startTick interval window b hwhd
  exact htotal _ _ ((monitorInactivity_total hcfg hpos hsum hlt hn).mono fun _ _ hf => hf.law)

/-- Where finitely many activities share any one instant, the wait neither goes on for ever nor
gets stuck. -/
theorem cylpaWaitNetInactivity_terminates (hwhd : b.ulp.isSome → whd.isSome) (hpos : 0 < window)
    (hlt : window < interval) (hsum : interval.toNat + window.toNat < 2 ^ 32)
    (hfin : ∀ n : ℕ, {j | t.time j = n}.Finite) :
    Acc (fun c c' => Prog.Step (quietSem t startTick whd) quietEnv c' c)
        ⟨cylpaWaitNetInactivity b interval window, [], ⟨vars, 0, 0⟩⟩ ∧
      ∀ c, Reach (quietSem t startTick whd) quietEnv
          ⟨cylpaWaitNetInactivity b interval window, [], ⟨vars, 0, 0⟩⟩ c →
        (∃ state, c.prog = .ret state) ∨
          ∃ c', Prog.Step (quietSem t startTick whd) quietEnv c c' := by
  obtain ⟨n, hn⟩ := t.exists_late hfin interval.toNat
  have htotal := cylpaWaitNetInactivity_total b t startTick whd vars interval window hwhd hpos hlt
    hsum fun _ => seen_le_of_late hn
  exact ⟨htotal.acc, fun _ hr => htotal.progress hr⟩

/-- **Inactivity detection**: with `0 < window < interval` the wait returns only as `InactivityLaw`
says; it does return, successfully, if there is a quiet window, and in any case if finitely many
activities share any one instant.  With `interval ≤ window` it refuses its arguments. -/
def DetectsInactivity : Prop :=
  (0 < window → window < interval → interval.toNat + window.toNat < 2 ^ 32 →
    (∀ c state, Reach (quietSem t startTick whd) quietEnv
        ⟨cylpaWaitNetInactivity b interval window, [], ⟨vars, 0, 0⟩⟩ c → c.prog = .ret state →
      InactivityLaw t interval.toNat window.toNat state c.st.now) ∧
    ((∃ k, t.Quiet interval.toNat window.toNat k) →
      Total (quietSem t startTick whd) (fun state _ => state = .success)
        (cylpaWaitNetInactivity b interval window) ⟨vars, 0, 0⟩) ∧
    ((∀ n : ℕ, {j | t.time j = n}.Finite) →
      Total (quietSem t startTick whd)
        (fun state s => InactivityLaw t interval.toNat window.toNat state s.now)
        (cylpaWaitNetInactivity b interval window) ⟨vars, 0, 0⟩)) ∧
  (interval ≤ window →
    Total (quietSem t startTick whd) (fun state s => state = .badArgs ∧ s = ⟨vars, 0, 0⟩)
      (cylpaWaitNetInactivity b interval window) ⟨vars, 0, 0⟩)

/-- **The wait detects inactivity** for every timeline and start of the clock, in either build,
where the WHD interface is there if the build asks for it.  If it asks for it and there is none, the
wait returns `ST_BAD_STATE` at once. -/
theorem cylpaWaitNetInactivity_law :
    ((b.ulp.isSome → whd.isSome) → DetectsInactivity b t startTick whd vars interval window) ∧
    (b.ulp.isSome → whd = none →
      Total (quietSem t startTick whd) (fun state s => state = .badState ∧ s = ⟨vars, 0, 0⟩)
        (cylpaWaitNetInactivity b interval window) ⟨vars, 0, 0⟩) := by
  refine ⟨fun hwhd => ?_, fun hulp hnone => ?_⟩
  · obtain ⟨configUlp, hcfg, htotal, hsafe⟩ :=
      exists_monitorInactivity t startTick interval window b hwhd
    refine ⟨fun hpos hlt hsum => ⟨fun c state hr hret => ?_, fun ⟨k, hk⟩ => ?_, fun hfin => ?_⟩,
      fun hle => htotal _ _ (monitorInactivity_badArgs hle)⟩
    · exact ((hsafe _ _ _ (fun _ => monitorInactivity_safe hcfg hpos hsum hlt) c hr).2 state
        hret).law
    · exact (cylpaWaitNetInactivity_total b t startTick whd vars interval window hwhd hpos hlt hsum
        fun _ => seen_le_of_quiet hk).mono fun _ _ hlaw => hlaw.success_iff.mpr ⟨k, hk⟩
    · obtain ⟨n, hn⟩ := t.exists_late hfin interval.toNat
      exact cylpaWaitNetInactivity_total b t startTick whd vars interval window hwhd hpos hlt hsum
        fun _ => seen_le_of_late hn
  · obtain ⟨ulp, hulp⟩ := Option.isSome_iff_exists.mp hulp
    unfold cylpaWaitNetInactivity
    rw [hulp, hnone]
    refine Total.op ⟨_, _, rfl, rfl⟩ fun r s hs => ?_
    obtain ⟨rfl, rfl⟩ := hs
    exact .ret ⟨rfl, rfl⟩

end Whole

/-- A network without any activity. -/
def Timeline.silent : Timeline where
  time j := if j = 0 then 0 else ⊤
  time_zero := rfl
  mono := by
    intro i j hij
    rcases Nat.eq_zero_or_pos i with rfl | hi
    · simp
    · simp [Nat.ne_of_gt hi, Nat.ne_of_gt (hi.trans_le hij)]

/-- In the ULP build a silent network is not found quiet where there is no WHD interface. -/
theorem cylpaWaitNetInactivity_not_detects : ¬ ∀ b t startTick whd vars interval window,
    DetectsInactivity b t startTick whd vars interval window := by
  intro h
  have hquiet : Timeline.silent.Quiet 20 10 0 := by
    refine ⟨fun j h₁ h₀ => by omega, fun j hj => ?_⟩
    rw [Timeline.silent]
    simp [Nat.ne_of_gt hj]
  have htotal := ((h ⟨.lwip, some ⟨1, 10⟩⟩ .silent 0 none .boot 20 10).1 (by decide) (by decide)
    (by decide)).2.1 ⟨0, hquiet⟩
  cases htotal with
  | call _ hk =>
      cases hk none _ ⟨rfl, rfl⟩ with
      | ret hsuccess => exact absurd hsuccess (by decide)

/-- A network with activity 5, 12 and 500 ms after the start. -/
def Timeline.burst : Timeline where
  time
    | 0 => 0
    | 1 => 5
    | 2 => 12
    | 3 => 500
    | _ => ⊤
  time_zero := rfl
  mono := by
    refine monotone_nat_of_le_succ fun n => ?_
    match n with
    | 0 => exact bot_le
    | 1 => exact Nat.cast_le.mpr (by decide : 5 ≤ 12)
    | 2 => exact Nat.cast_le.mpr (by decide : 12 ≤ 500)
    | _ + 3 => exact le_top

/-- The activity of a burst is over at once. -/
theorem Timeline.burst_finite (n : ℕ) : {j | Timeline.burst.time j = n}.Finite := by
  refine (Set.finite_lt_nat 4).subset fun j hj => ?_
  match j with
  | 0 | 1 | 2 | 3 => exact by decide
  | _ + 4 => exact absurd hj (by simp [Timeline.burst])

/-- The window after the second activity of a burst is quiet, and no other before 20 ms are over. -/
theorem Timeline.burst_quiet_iff {k : ℕ} : Timeline.burst.Quiet 20 10 k ↔ k = 2 := by
  constructor
  · intro hk
    match k with
    | 0 => exact absurd (hk.2 1 (by decide)) (not_le.mpr (Nat.cast_lt.mpr (by decide : 5 < 10)))
    | 1 => exact absurd (hk.2 2 (by decide)) (not_le.mpr (Nat.cast_lt.mpr (by decide : 12 < 15)))
    | 2 => rfl
    | k + 3 =>
        exact absurd (hk.1 3 (by decide) (by omega))
          (not_lt.mpr (Nat.cast_le.mpr (by decide : 20 ≤ 500)))
  · rintro rfl
    refine ⟨fun j h₁ h₂ => ?_, fun j hj => ?_⟩
    · obtain rfl | rfl : j = 1 ∨ j = 2 := by omega
      · exact Nat.cast_lt.mpr (by decide : 5 < 20)
      · exact Nat.cast_lt.mpr (by decide : 12 < 20)
    · exact (Nat.cast_le.mpr (by decide : 12 + 10 ≤ 500)).trans (Timeline.burst.mono hj)

/-- A network that is busy at first is found quiet 10 ms after its second activity, the clock
wrapping meanwhile; without a WHD interface it is not waited for. -/
theorem cylpaWaitNetInactivity_burst :
    Total (quietSem .burst 0xfffffff0 (some 1)) (fun state s => state = .success ∧ s.now = 22)
      (cylpaWaitNetInactivity ⟨.lwip, some ⟨1, 10⟩⟩ 20 10) ⟨.boot, 0, 0⟩ ∧
    Total (quietSem .burst 0xfffffff0 none) (fun state s => state = .badState ∧ s.now = 0)
      (cylpaWaitNetInactivity ⟨.lwip, some ⟨1, 10⟩⟩ 20 10) ⟨.boot, 0, 0⟩ := by
  constructor
  · have hlaw := (((cylpaWaitNetInactivity_law ⟨.lwip, some ⟨1, 10⟩⟩ .burst 0xfffffff0 (some 1)
      .boot 20 10).1 fun _ => rfl).1 (by decide) (by decide) (by decide)).2.2 Timeline.burst_finite
    refine hlaw.mono fun state s h => ?_
    have hsuccess : state = .success := h.success_iff.mpr ⟨2, Timeline.burst_quiet_iff.mpr rfl⟩
    obtain ⟨k, hk, hnow⟩ := h.atEnd hsuccess
    obtain rfl := Timeline.burst_quiet_iff.mp hk
    exact ⟨hsuccess, Nat.cast_inj.mp hnow⟩
  · refine ((cylpaWaitNetInactivity_law ⟨.lwip, some ⟨1, 10⟩⟩ .burst 0xfffffff0 none
      .boot 20 10).2 rfl rfl).mono fun state s h => ?_
    exact ⟨h.1, congrArg QuietWorld.now h.2⟩

end Lpa.NetActivity
