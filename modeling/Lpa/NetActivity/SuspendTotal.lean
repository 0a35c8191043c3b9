import Lpa.NetActivity.Packets
import Lpa.NetActivity.SuspendTime
import Lpa.Support.Monitor
import Mathlib.Algebra.Ring.Nat
import Mathlib.Data.UInt

/-!
# Network activity — what the total adds up to

`cy_dsleep_nw_suspend_time` is what an application reads to learn how long its stack has been
suspended.  The runs here are those of any number of calls, with any arguments, answers and
durations, the other threads at work; a suspension is the two readings of the clock around a wait
for the wake-up.

* `SuspendMeter.Timed`: suspensions follow one another, as long as the tick does not wrap.
* `waitNetSuspends_total`: at every call the total is the sum of the suspensions' durations, the
  one just ended perhaps missing, and after the last call of all of them; so if the tick has not
  wrapped it never exceeds the time gone by, and ends as the time spent suspended.
-/

namespace Lpa.NetActivity

open Prog (Label Safe Reach Stable Config)

/-! ### The suspensions of a history -/

/-- The last reading of the clock, the one before the wait for the wake-up while its end has not
been read, and the suspensions so far. -/
structure SuspendMeter where
  reading : Option UInt32
  waiting : Option UInt32
  suspensions : List (UInt32 × UInt32)

namespace SuspendMeter

/-- The clock is read. -/
def read (m : SuspendMeter) (t : UInt32) : SuspendMeter where
  reading := some t
  waiting := none
  suspensions := m.suspensions ++ (m.waiting.map (·, t)).toList

/-- The wait for the wake-up ends. -/
def woken (m : SuspendMeter) : SuspendMeter := { m with waiting := m.reading }

/-- The suspensions' durations, as `wait_net_suspend` adds them. -/
def durations (suspensions : List (UInt32 × UInt32)) : UInt32 :=
  (suspensions.map fun p => suspendDuration p.1 p.2).sum

/-- The time spent suspended. -/
def spent (suspensions : List (UInt32 × UInt32)) : ℕ :=
  (suspensions.map fun p => p.2.toNat - p.1.toNat).sum

/-- What a call and its answer make of it. -/
def next (m : SuspendMeter) : (o : NaOp) → NaRes o → SuspendMeter
  | .cyRtosGetTime, (t : UInt32) => m.read t
  | .cyRtosWaitbitsEvent .wakeUp _ _, _ => m.woken
  | _, _ => m

/-- A call that neither reads the clock nor waits for the wake-up. -/
theorem next_untimed {o : NaOp} (ho : Untimed false o) (m : SuspendMeter) (r : NaRes o) :
    m.next o r = m := by
  cases o with
  | cyRtosGetTime => cases ho
  | cyRtosWaitbitsEvent wait flags timeout =>
      cases wait with
      | inactivity => rfl
      | wakeUp => exact absurd rfl ho
  | _ => rfl

end SuspendMeter

/-- The meter as a monitor that allows every call. -/
def suspendMonitor : Monitor NaOp NaRes where
  State := SuspendMeter
  start := ⟨none, none, []⟩
  allows _ _ := True
  next := SuspendMeter.next

/-- What a history leaves on the meter. -/
def meter (h : List (Label NaOp NaRes Unit)) : SuspendMeter := suspendMonitor.after h

theorem meter_call (h : List (Label NaOp NaRes Unit)) (o : NaOp) (r : NaRes o) :
    meter (h ++ [.call o r]) = (meter h).next o r := Monitor.after_call o r

theorem meter_env (h : List (Label NaOp NaRes Unit)) (e : Unit) :
    meter (h ++ [.env e]) = meter h := Monitor.after_env e

/-! ### Suspensions follow one another -/

namespace SuspendMeter

/-- Without a wrap, every suspension is in order, and what has been spent suspended by the last
reading fits between the start and it. -/
structure Timed (start now : ℕ) (m : SuspendMeter) : Prop where
  ordered : ∀ p ∈ m.suspensions, p.1 ≤ p.2
  spent_le : start + spent m.suspensions ≤ now
  reading : ∀ t ∈ m.reading, start + spent m.suspensions ≤ t.toNat ∧ t.toNat ≤ now
  waiting : ∀ t ∈ m.waiting, start + spent m.suspensions ≤ t.toNat ∧ t.toNat ≤ now

/-- A suspension in order lasted as long as the readings say. -/
theorem toNat_suspendDuration {p : UInt32 × UInt32} (hp : p.1 ≤ p.2) :
    (suspendDuration p.1 p.2).toNat = p.2.toNat - p.1.toNat := by
  unfold suspendDuration
  split
  · exact UInt32.toNat_sub_of_le _ _ hp
  · rename_i hle
    have := UInt32.le_iff_toNat_le.mp (UInt32.not_lt.mp hle)
    rw [UInt32.toNat_sub_of_le _ _ (UInt32.not_lt.mp hle)]
    have := UInt32.le_iff_toNat_le.mp hp
    omega

theorem toNat_durations {l : List (UInt32 × UInt32)} (hl : ∀ p ∈ l, p.1 ≤ p.2) :
    (durations l).toNat = spent l % 2 ^ 32 := by
  induction l with
  | nil => rfl
  | cons p l ih =>
      have hcons : durations (p :: l) = suspendDuration p.1 p.2 + durations l := by
        simp [durations]
      have hspent : spent (p :: l) = (p.2.toNat - p.1.toNat) + spent l := by simp [spent]
      rw [hcons, UInt32.toNat_add, ih fun q hq => hl q (List.mem_cons_of_mem p hq),
        toNat_suspendDuration (hl p List.mem_cons_self), hspent, Nat.add_mod_mod]

theorem Timed.later {start now now' : ℕ} {m : SuspendMeter} (hm : m.Timed start now)
    (hnow : now ≤ now') : m.Timed start now' where
  ordered := hm.ordered
  spent_le := Nat.le_trans hm.spent_le hnow
  reading t ht := (hm.reading t ht).imp_right (Nat.le_trans · hnow)
  waiting t ht := (hm.waiting t ht).imp_right (Nat.le_trans · hnow)

theorem Timed.woken {start now : ℕ} {m : SuspendMeter} (hm : m.Timed start now) :
    m.woken.Timed start now where
  ordered := hm.ordered
  spent_le := hm.spent_le
  reading := hm.reading
  waiting := hm.reading

theorem spent_append (l l' : List (UInt32 × UInt32)) : spent (l ++ l') = spent l + spent l' := by
  simp [spent]

theorem durations_concat (l : List (UInt32 × UInt32)) (p : UInt32 × UInt32) :
    durations (l ++ [p]) = durations l + suspendDuration p.1 p.2 := by
  simp [durations]

/-- A suspension that ends now fits between what came before it and now. -/
theorem Timed.read {start now : ℕ} {m : SuspendMeter} (hm : m.Timed start now)
    (hnow : now < 2 ^ 32) : (m.read (UInt32.ofNat now)).Timed start now := by
  have hread : (UInt32.ofNat now).toNat = now := UInt32.toNat_ofNat_of_lt' hnow
  have hspent : start + spent (m.read (UInt32.ofNat now)).suspensions ≤ now := by
    cases hw : m.waiting with
    | none => simpa [SuspendMeter.read, hw] using hm.spent_le
    | some t =>
        obtain ⟨hle, ht⟩ := hm.waiting t hw
        simp only [SuspendMeter.read, hw, Option.map_some, Option.toList_some, spent_append]
        simp only [spent, List.map_singleton, List.sum_singleton, hread] at hle ⊢
        omega
  refine ⟨fun p hp => ?_, hspent, fun t ht => ?_, nofun⟩
  · rcases List.mem_append.mp hp with hp | hp
    · exact hm.ordered p hp
    · obtain ⟨t, ht, rfl⟩ := Option.map_eq_some_iff.mp (Option.mem_toList.mp hp)
      rw [UInt32.le_iff_toNat_le, hread]
      exact (hm.waiting t ht).2
  · obtain rfl := Option.some.inj ht
    rw [hread]
    exact ⟨hspent, Nat.le_refl _⟩

end SuspendMeter

/-- A history that began at `start`, and where the clock is now. -/
def TimedHist (start : ℕ) (h : List (Label NaOp NaRes Unit)) (s : TickWorld) : Prop :=
  start ≤ s.now ∧ (s.now < 2 ^ 32 → (meter h).Timed start s.now)

theorem TimedHist.call {start : ℕ} {o : NaOp} {h : List (Label NaOp NaRes Unit)}
    {s s' : TickWorld} {r : NaRes o} (ht : TimedHist start h s) (hs : tickSem o s r s') :
    TimedHist start (h ++ [.call o r]) s' := by
  obtain ⟨hr, t, hle, rfl⟩ := hs
  refine ⟨Nat.le_trans ht.1 hle, fun ht' => ?_⟩
  have hm := ht.2 (Nat.lt_of_le_of_lt hle ht')
  rw [meter_call]
  cases o with
  | cyRtosGetTime =>
      rw [show r = UInt32.ofNat s.now from hr]
      exact (hm.read (Nat.lt_of_le_of_lt hle ht')).later hle
  | cyRtosWaitbitsEvent wait flags timeout =>
      cases wait with
      | inactivity => exact hm.later hle
      | wakeUp => exact hm.woken.later hle
  | _ => exact hm.later hle

theorem TimedHist.stable (start : ℕ) : Stable tickEnv (TimedHist start) := by
  rintro e h s _ ht ⟨vars, t, -, hle, rfl⟩
  refine ⟨Nat.le_trans ht.1 hle, fun ht' => ?_⟩
  rw [meter_env]
  exact (ht.2 (Nat.lt_of_le_of_lt hle ht')).later hle

/-- **In every run**, of any program, the suspensions are in order as long as the tick has not
wrapped. -/
theorem timed_of_reach {α : Type} {p : Na α} {s₀ : TickWorld}
    {c : Config NaOp NaRes Unit TickWorld α} (hr : Reach tickSem tickEnv ⟨p, [], s₀⟩ c)
    (hnow : c.st.now < 2 ^ 32) : (meter c.hist).Timed s₀.now c.st.now := by
  have hstart : TimedHist s₀.now [] s₀ :=
    ⟨Nat.le_refl _, fun _ => ⟨nofun, Nat.le_refl _, nofun, nofun⟩⟩
  exact (Reach.invariant (fun _ _ _ _ _ => TimedHist.call) (TimedHist.stable _) hr hstart).2 hnow

/-! ### The total -/

/-- The suspensions seen are those in the total, and those it is yet to be told of. -/
def Ledger (total : UInt32) (owed : List (UInt32 × UInt32)) (h : List (Label NaOp NaRes Unit))
    (s : TickWorld) : Prop :=
  ∃ counted, (meter h).suspensions = counted ++ owed ∧
    s.vars.cyDsleepNwSuspendTime = total + SuspendMeter.durations counted

/-- The meter in `R`. -/
def LedgerAt (R : SuspendMeter → Prop) (total : UInt32) (owed : List (UInt32 × UInt32))
    (h : List (Label NaOp NaRes Unit)) (s : TickWorld) : Prop :=
  R (meter h) ∧ Ledger total owed h s

/-- Not waiting for the wake-up. -/
abbrev Settled : UInt32 → List (UInt32 × UInt32) → List (Label NaOp NaRes Unit) → TickWorld →
    Prop :=
  LedgerAt fun m => m.waiting = none

/-- Every run that calls anything has at most the last suspension to tell the total of, and if it
returns it does so in `Q`. -/
def Counts {α : Type} (total : UInt32) (Q : α → List (Label NaOp NaRes Unit) → TickWorld → Prop)
    (p : Na α) (h : List (Label NaOp NaRes Unit)) (s : TickWorld) : Prop :=
  Safe tickSem tickEnv (fun _ h s => ∃ owed, owed.length ≤ 1 ∧ Ledger total owed h s) Q p h s

theorem LedgerAt.stable (R : SuspendMeter → Prop) (total : UInt32)
    (owed : List (UInt32 × UInt32)) : Stable tickEnv (LedgerAt R total owed) := by
  rintro e h s _ ⟨hR, counted, hseen, htotal⟩ ⟨vars, t, hvars, -, rfl⟩
  rw [LedgerAt, Ledger, meter_env]
  exact ⟨hR, counted, hseen, hvars.trans htotal⟩

section Counts

variable {α β : Type} {total : UInt32} {owed : List (UInt32 × UInt32)}
variable {h : List (Label NaOp NaRes Unit)} {s : TickWorld}

theorem Counts.bind {Q : β → List (Label NaOp NaRes Unit) → TickWorld → Prop} {p : Na α}
    {g : α → Na β} {R : α → List (Label NaOp NaRes Unit) → TickWorld → Prop}
    (hp : Counts total R p h s) (hg : ∀ x h s, R x h s → Counts total Q (g x) h s) :
    Counts total Q (p.bind g) h s :=
  Safe.bind _ hp hg

theorem Counts.ret {x : α} (hs : Settled total owed h s) :
    Counts total (fun _ => Settled total owed) (.ret x) h s :=
  Safe.ret (LedgerAt.stable _ total owed) hs

/-- **A call**, at a meter in `R`. -/
theorem Counts.call {Q : α → List (Label NaOp NaRes Unit) → TickWorld → Prop} {o : NaOp}
    {g : NaRes o → Na α} {R : SuspendMeter → Prop} (howed : owed.length ≤ 1)
    (hl : LedgerAt R total owed h s)
    (hg : ∀ h s r s', LedgerAt R total owed h s → tickSem o s r s' →
      Counts total Q (g r) (h ++ [.call o r]) s') : Counts total Q ((op o).bind g) h s :=
  Safe.call _ (LedgerAt.stable R total owed) hl (fun _ _ hl => ⟨owed, howed, hl.2⟩) hg

/-- A call that tells the total of nothing and neither starts nor ends a wait. -/
theorem LedgerAt.call {o : NaOp} {s' : TickWorld} {r : NaRes o} (hs : Settled total owed h s)
    (ho : Untimed true o) (hcall : tickSem o s r s') :
    Settled total owed (h ++ [.call o r]) s' := by
  obtain ⟨hwait, counted, hseen, htotal⟩ := hs
  have htotal' : s'.vars.cyDsleepNwSuspendTime = total + SuspendMeter.durations counted :=
    (Untimed.total_wakeUp_eq ho hcall).1.trans htotal
  rw [Settled, LedgerAt, Ledger, meter_call]
  by_cases ho' : Untimed false o
  · rw [SuspendMeter.next_untimed ho']
    exact ⟨hwait, counted, hseen, htotal'⟩
  · cases o with
    | cyRtosGetTime =>
        refine ⟨rfl, counted, ?_, htotal'⟩
        simpa [SuspendMeter.next, SuspendMeter.read, hwait] using hseen
    | _ => exact absurd ho ho'

theorem Counts.untimed {p : Na α} (hp : p.Calls (Untimed true)) (howed : owed.length ≤ 1)
    (hs : Settled total owed h s) : Counts total (fun _ => Settled total owed) p h s :=
  Safe.frame hp (LedgerAt.stable _ total owed) (fun _ _ _ _ hs => ⟨owed, howed, hs.2⟩)
    (fun _ _ _ _ _ ho hs hcall => hs.call ho hcall) hs

/-- A program that has no part in it, and what follows it. -/
theorem Counts.untimed_bind {Q : β → List (Label NaOp NaRes Unit) → TickWorld → Prop} {p : Na α}
    {g : α → Na β} (hp : p.Calls (Untimed true)) (howed : owed.length ≤ 1)
    (hs : Settled total owed h s)
    (hg : ∀ x h s, Settled total owed h s → Counts total Q (g x) h s) :
    Counts total Q (p.bind g) h s :=
  (Counts.untimed hp howed hs).bind hg

end Counts

/-! ### The calls -/

section Calls

variable {total : UInt32} {h : List (Label NaOp NaRes Unit)} {s : TickWorld}

/-- **The wait for the wake-up** yields the duration of a suspension the total is yet to be told
of. -/
theorem waitNetActivity_counts (waitMs : UInt32) (hs : Settled total [] h s) :
    Counts total (fun x h s => ∃ p : UInt32 × UInt32,
        x.2 = suspendDuration p.1 p.2 ∧ Settled total [p] h s) (waitNetActivity waitMs) h s := by
  refine Counts.untimed_bind (notifyApplication_untimed _) (Nat.zero_le _) hs fun _ h s hs => ?_
  refine Counts.untimed_bind ((Prog.calls_op _).mpr trivial) (Nat.zero_le _) hs
    fun _ h s hs => ?_
  refine Counts.untimed_bind ((Prog.calls_op _).mpr trivial) (Nat.zero_le _) hs
    fun _ h s hs => ?_
  refine Counts.untimed_bind ((Prog.calls_op _).mpr trivial) (Nat.zero_le _) hs
    fun _ h s hs => ?_
  -- the first reading, the wait, the second reading
  refine Counts.call (Nat.zero_le _) hs fun h s t₁ s' hs hcall => ?_
  have hread : LedgerAt (fun m => m.reading = some t₁) total [] (h ++ [.call .cyRtosGetTime t₁])
      s' := ⟨by rw [meter_call]; rfl, (hs.call (show Untimed true .cyRtosGetTime from rfl) hcall).2⟩
  refine Counts.call (Nat.zero_le _) hread fun h s r s' hread hcall => ?_
  have hwoken : LedgerAt (fun m => m.waiting = some t₁) total []
      (h ++ [.call (.cyRtosWaitbitsEvent .wakeUp _ _) r]) s' := by
    obtain ⟨ht₁, counted, hseen, htotal⟩ := hread
    obtain ⟨-, t, -, rfl⟩ := hcall
    rw [LedgerAt, Ledger, meter_call]
    exact ⟨ht₁, counted, hseen, htotal⟩
  refine Counts.call (Nat.zero_le _) hwoken fun h s t₂ s' hwoken hcall => ?_
  obtain ⟨ht₁, counted, hseen, htotal⟩ := hwoken
  obtain ⟨-, t, -, rfl⟩ := hcall
  refine Safe.ret ?_ ⟨(t₁, t₂), rfl, ?_⟩
  · rintro e h s s' ⟨p, hp, hs⟩ he
    exact ⟨p, hp, LedgerAt.stable _ total [p] e h s s' hs he⟩
  · rw [Settled, LedgerAt, Ledger, meter_call]
    refine ⟨rfl, counted, ?_, htotal⟩
    rw [List.append_nil] at hseen
    simp [SuspendMeter.next, SuspendMeter.read, ht₁, hseen]

/-- **The resume section** tells the total. -/
theorem resumeSection_counts (b : NaBuild) (wifi : Handle) (waitMs : UInt32)
    (state : NetworkStackState) {p : UInt32 × UInt32} (hs : Settled total [p] h s) :
    Counts total (fun _ => Settled total [])
      (resumeSection b wifi waitMs state (suspendDuration p.1 p.2)) h s := by
  have hone : [p].length ≤ 1 := Nat.le_refl 1
  have hnone : ([] : List (UInt32 × UInt32)).length ≤ 1 := Nat.zero_le 1
  refine Counts.untimed_bind ((Prog.calls_op _).mpr trivial) hone hs fun _ h s hs => ?_
  refine Counts.untimed_bind ((Prog.calls_op _).mpr trivial) hone hs fun _ h s hs => ?_
  refine Counts.call hone hs fun h s _ s' hs hcall => ?_
  refine Counts.untimed_bind (printBusStats_untimed b wifi) hnone ?_ fun _ h s hs => ?_
  · obtain ⟨hwait, counted, hseen, htotal⟩ := hs
    obtain ⟨-, t, -, rfl⟩ := hcall
    rw [Settled, LedgerAt, Ledger, meter_call]
    refine ⟨hwait, counted ++ [p], hseen.trans (List.append_nil _).symm, ?_⟩
    rw [SuspendMeter.durations_concat, ← UInt32.add_assoc, ← htotal]
    rfl
  refine Counts.untimed_bind (notifyApplication_untimed _) hnone hs fun _ h s hs => ?_
  refine Counts.untimed_bind ((Prog.calls_op _).mpr trivial) hnone hs fun _ h s hs => ?_
  refine Counts.untimed_bind (takeRxPackets_untimed b) hnone hs fun _ h s hs => ?_
  refine Counts.untimed_bind (cylpaResumeNs_untimed b) hnone hs fun _ h s hs => ?_
  refine Counts.untimed_bind ((Prog.calls_op _).mpr trivial) hnone hs fun _ h s hs => ?_
  exact Counts.ret hs

theorem suspendUntilActivity_counts (b : NaBuild) (wifi : Handle) (waitMs : UInt32)
    (hs : Settled total [] h s) :
    Counts total (fun _ => Settled total []) (suspendUntilActivity b wifi waitMs) h s := by
  refine Counts.untimed_bind (cylpaSuspendNs_untimed b) (Nat.zero_le _) hs fun state h s hs => ?_
  refine Counts.untimed_bind (queueRxPackets_untimed b) (Nat.zero_le _) hs fun _ h s hs => ?_
  split
  · refine Counts.bind (waitNetActivity_counts waitMs hs) fun x h s hx => ?_
    obtain ⟨state, lpTime⟩ := x
    obtain ⟨p, rfl, hs⟩ := hx
    exact resumeSection_counts b wifi waitMs state hs
  · exact Counts.ret hs

/-- **Every run of `wait_net_suspend`** tells the total of every suspension. -/
theorem waitNetSuspend_counts (b : NaBuild) (waitMs interval window : UInt32)
    (hs : Settled total [] h s) :
    Counts total (fun _ => Settled total []) (waitNetSuspend b waitMs interval window) h s := by
  refine Counts.untimed_bind (connectedInterface_untimed b) (Nat.zero_le _) hs
    fun wifi h s hs => ?_
  cases wifi with
  | none => exact Counts.ret hs
  | some wifi =>
      refine Counts.untimed_bind initHandlerOnce_untimed (Nat.zero_le _) hs fun _ h s hs => ?_
      refine Counts.untimed_bind (initRxPktQueueOnce_untimed b) (Nat.zero_le _) hs
        fun _ h s hs => ?_
      refine Counts.untimed_bind ((Prog.calls_op _).mpr trivial) (Nat.zero_le _) hs
        fun _ h s hs => ?_
      refine Counts.bind (R := fun _ => Settled total []) ?_ fun state h s hs => ?_
      · refine Counts.untimed_bind (cylpaWaitNetInactivity_untimed b interval window)
          (Nat.zero_le _) hs fun state h s hs => ?_
        split
        · exact suspendUntilActivity_counts b wifi waitMs hs
        · exact Counts.ret hs
      · exact Counts.untimed_bind ((Prog.calls_op _).mpr trivial) (Nat.zero_le _) hs
          fun _ h s hs => Counts.ret hs

theorem waitNetSuspends_counts (b : NaBuild) (calls : List WaitArgs)
    (hs : Settled total [] h s) :
    Counts total (fun _ => Settled total []) (waitNetSuspends b calls) h s := by
  induction calls generalizing h s with
  | nil => exact Counts.ret hs
  | cons a as ih =>
      refine Counts.bind (waitNetSuspend_counts b _ _ _ hs) fun _ h s hs => ?_
      exact Counts.bind (ih hs) fun _ h s hs => Counts.ret hs

end Calls

/-- What the total says, if it says `counted` and the tick has not wrapped. -/
theorem toNat_total {total : UInt32} {start now : ℕ} {m : SuspendMeter} {counted owed : List _}
    (hm : m.Timed start now) (hseen : m.suspensions = counted ++ owed)
    (hfits : total.toNat + (now - start) < 2 ^ 32) :
    (total + SuspendMeter.durations counted).toNat = total.toNat + SuspendMeter.spent counted ∧
      SuspendMeter.spent counted ≤ now - start := by
  have hle := hm.spent_le
  rw [hseen, SuspendMeter.spent_append] at hle
  have hordered : ∀ p ∈ counted, p.1 ≤ p.2 := fun p hp =>
    hm.ordered p (hseen ▸ List.mem_append_left owed hp)
  rw [UInt32.toNat_add, SuspendMeter.toNat_durations hordered]
  omega

/-- **The total adds up**, over any number of calls: wherever the run pauses it is the sum of the
suspensions' durations, the last one perhaps missing, and after the last call of all of them.  If
the tick has not wrapped, nor would the total, then it has not grown by more than the time gone by,
and in the end by the time spent suspended. -/
theorem waitNetSuspends_total (b : NaBuild) (calls : List WaitArgs) (s₀ : TickWorld)
    (c : Config NaOp NaRes Unit TickWorld (List NetworkStackState))
    (hrun : Reach tickSem tickEnv ⟨waitNetSuspends b calls, [], s₀⟩ c) (hc : c.Paused) :
    let total₀ := s₀.vars.cyDsleepNwSuspendTime
    let total := c.st.vars.cyDsleepNwSuspendTime
    (∃ owed, owed.length ≤ 1 ∧ Ledger total₀ owed c.hist c.st) ∧
      (∀ states, c.prog = .ret states → Ledger total₀ [] c.hist c.st) ∧
      (c.st.now < 2 ^ 32 → total₀.toNat + (c.st.now - s₀.now) < 2 ^ 32 →
        total₀.toNat ≤ total.toNat ∧ total.toNat ≤ total₀.toNat + (c.st.now - s₀.now) ∧
        ∀ states, c.prog = .ret states →
          total.toNat = total₀.toNat + SuspendMeter.spent (meter c.hist).suspensions) := by
  intro total₀ total
  have hstart : Settled total₀ [] [] s₀ := ⟨rfl, [], rfl, (UInt32.add_zero _).symm⟩
  obtain ⟨hcall, hret⟩ := waitNetSuspends_counts b calls hstart c hrun
  have hledger : ∃ owed, owed.length ≤ 1 ∧ Ledger total₀ owed c.hist c.st := by
    rcases hc with ⟨o, k, hk⟩ | ⟨states, hs⟩
    · exact hcall o k hk
    · exact ⟨[], Nat.zero_le 1, (hret states hs).2⟩
  refine ⟨hledger, fun states hs => (hret states hs).2, fun hnow hfits => ?_⟩
  have hm := timed_of_reach hrun hnow
  obtain ⟨owed, -, counted, hseen, htotal⟩ := hledger
  obtain ⟨htold, hspent⟩ := toNat_total hm hseen hfits
  have htotal' : total.toNat = total₀.toNat + SuspendMeter.spent counted :=
    (congrArg UInt32.toNat htotal).trans htold
  refine ⟨by omega, by omega, fun states hs => ?_⟩
  obtain ⟨counted, hseen, htotal⟩ := (hret states hs).2
  rw [hseen, List.append_nil]
  exact (congrArg UInt32.toNat htotal).trans (toNat_total hm hseen hfits).1

/-- Two calls, each suspended for 30 ms. -/
theorem waitNetSuspends_total_twice : ∃ c : Config NaOp NaRes Unit TickWorld _,
    Reach tickSem tickEnv
        ⟨waitNetSuspends ⟨.lwip, none⟩ [⟨1000, 20, 10⟩, ⟨1000, 20, 10⟩], [], .startAt 100⟩ c ∧
      (meter c.hist).suspensions = [(100, 130), (130, 160)] ∧
      c.st.vars.cyDsleepNwSuspendTime.toNat = 60 := by
  have hrun : Reach tickSem tickEnv
      ⟨waitNetSuspends ⟨.lwip, none⟩ [⟨1000, 20, 10⟩, ⟨1000, 20, 10⟩], [], .startAt 100⟩ _ :=
    Prog.reach_exec (tickUsual_answers 30) 120 _
  exact ⟨_, hrun, rfl, ((waitNetSuspends_total _ _ _ _ hrun (.inr ⟨_, rfl⟩)).2.2 (by decide)
    (by decide)).2.2 _ rfl⟩

end Lpa.NetActivity
