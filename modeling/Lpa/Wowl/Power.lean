import Lpa.Support.Runs
import Lpa.Wowl.Pattern
import Mathlib.Data.Finset.SDiff
import Mathlib.Data.Finset.Dedup
import Mathlib.Data.Finset.Lattice.Lemmas

/-!
# Wake on WLAN — patterns over power-mode notifications

Going to sleep, `cylpa_wowlpf_ol_pm` adds the configured patterns and activates wake on WLAN;
waking up it deletes them.  If the activation fails it deletes one pattern, that of the entry its
loop stopped at: the one marked `CY_WOWLPF_OL_FEAT_LAST`.

* `wowlpfLoop_eq`: what a loop over the entries does.
* `wowl_patterns_iff`: the patterns installed are the configured ones, or none, as each
  notification and its activation ask for, exactly if at each activation that fails the entry
  marked last is a pattern, and the only one configured.
-/

namespace Lpa

/-- `wowlpf_ol_t`; `cfg` points at the entries, and `olInfoPtr` at what is given here. -/
structure WowlpfOl where
  cfg : Option (List CyWowlpfOlCfg)
  whd : Option Handle
  olInfoPtr : Option OlInfo
deriving DecidableEq, Repr

/-- `cylpa_wowlpf_ol_init`: the result and the context. -/
def cylpaWowlpfOlInit (info : Option OlInfo) (cfg : Option (List CyWowlpfOlCfg)) : ℤ × WowlpfOl :=
  match cfg, info with
  | some cfg, some info => (resultOk, ⟨some cfg, info.whd, some info⟩)
  | _, _ => (resultBadargs, ⟨none, none, none⟩)

/-- What the driver answers during one notification: the wake reasons `whd_configure_wowl` leaves,
and the result of `whd_wowl_activate`. -/
structure WowlAnswers where
  configure : UInt32 → UInt32
  activate : UInt32

/-- `whd_configure_wowl`. -/
def whdConfigureWowl (ans : WowlAnswers) (setWowl : UInt32) (w : WowlWorld) :
    UInt32 × WowlWorld :=
  (whdResultSuccess, { w with cap := ans.configure setWowl })

@[simp] theorem whdConfigureWowl_result (ans : WowlAnswers) (setWowl : UInt32) (w : WowlWorld) :
    (whdConfigureWowl ans setWowl w).1 = whdResultSuccess := rfl

/-- The loops of `cylpa_wowlpf_ol_pm`, and the entry they stop at; there is none past the last. -/
def wowlpfLoop (bits : WowlBits) (mode : Bool) :
    List CyWowlpfOlCfg → WowlWorld → Option (CyWowlpfOlCfg × WowlWorld)
  | [], _ => none
  | e :: es, w =>
    if e.feature = .last then some (e, w)
    else wowlpfLoop bits mode es (cylpaSetWowlPattern bits mode (some e.pattern) e.offset e.mask w).2

/-- The wake reasons asked for at first; `magic` is those of `CYCFG_WOWL_MAGIC_PKT_ENABLED`. -/
def initialWowl (bits : WowlBits) (magic : UInt32) (cfg : List CyWowlpfOlCfg) : UInt32 :=
  if (cfg.head?.map (·.feature)) = some .wake then magic ||| bits.net else magic

/-- `cylpa_wowlpf_ol_pm`. -/
def cylpaWowlpfOlPm (bits : WowlBits) (magic : UInt32) (ctxt : Option WowlpfOl) (st : OlPmSt)
    (ans : WowlAnswers) (w : WowlWorld) : Option WowlWorld :=
  match ctxt with
  | none => some w
  | some ctxt =>
    if ctxt.whd = none then some w
    else
      match ctxt.olInfoPtr, ctxt.cfg with
      | none, _ => none
      | some olInfo, cfg =>
        if olInfo.fwNewInfra = 0 then some w
        else
          match cfg with
          | none => none
          | some cfg =>
            if st = .goingToSleep then
              let (result, w) := whdConfigureWowl ans (initialWowl bits magic cfg) w
              if result ≠ whdResultSuccess then some w
              else
                (wowlpfLoop bits true cfg w).map fun (e, w) =>
                  if ans.activate ≠ whdResultSuccess then
                    -- `e` is the entry after the configured ones
                    (cylpaSetWowlPattern bits false (some e.pattern) e.offset e.mask w).2
                  else w
            else (wowlpfLoop bits false cfg w).map (·.2)

/-! ### Entries -/

/-- The pattern an entry stands for. -/
def CyWowlpfOlCfg.wowl (e : CyWowlpfOlCfg) : WowlPattern := wowlPattern e.pattern e.offset e.mask

/-- The entry's strings fit the buffers, as far as they are looked at: a mask of odd length is
refused. -/
def CyWowlpfOlCfg.Fits (e : CyWowlpfOlCfg) : Prop :=
  (hexSize e.pattern).toNat ≤ maxPatternLen ∧
    (e.mask.length % 2 = 0 → (hexSize e.mask).toNat ≤ maxMaskLen)

/-- An entry that is a pattern: its strings fit the buffers and its mask is not refused. -/
structure CyWowlpfOlCfg.WellFormed (e : CyWowlpfOlCfg) : Prop where
  wake : e.feature = .wake
  fits : e.Fits
  even : e.mask.length % 2 = 0

/-- The patterns of some entries. -/
def wowlPatterns (es : List CyWowlpfOlCfg) : Finset WowlPattern :=
  (es.map CyWowlpfOlCfg.wowl).toFinset

@[simp] theorem requireWowlCap_patterns (bits : UInt32) (w : WowlWorld) :
    (requireWowlCap bits w).2.patterns = w.patterns := by
  unfold requireWowlCap
  dsimp only
  split <;> rfl

@[simp] theorem requireWowlCap_overrun (bits : UInt32) (w : WowlWorld) :
    (requireWowlCap bits w).2.overrun = w.overrun := by
  unfold requireWowlCap
  dsimp only
  split <;> rfl

section Entry

variable (bits : WowlBits) (e : CyWowlpfOlCfg) (mode : Bool) (w : WowlWorld)

/-- What setting an entry's pattern does. -/
abbrev CyWowlpfOlCfg.set : WowlWorld :=
  (cylpaSetWowlPattern bits mode (some e.pattern) e.offset e.mask w).2

/-- **Setting a pattern** overruns a buffer exactly if the entry does not fit. -/
theorem set_overrun : (e.set bits mode w).overrun = false ↔ w.overrun = false ∧ e.Fits := by
  unfold CyWowlpfOlCfg.set cylpaSetWowlPattern whdWowlSetPattern CyWowlpfOlCfg.Fits
  cases mode <;> by_cases heven : e.mask.length % 2 = 0 <;>
    simp [heven, whdSetWowlPattern, and_assoc]

/-- A pattern whose mask is not refused is added or deleted. -/
theorem set_patterns (heven : e.mask.length % 2 = 0) : (e.set bits mode w).patterns =
    if mode then insert e.wowl w.patterns else w.patterns.erase e.wowl := by
  unfold CyWowlpfOlCfg.set cylpaSetWowlPattern whdWowlSetPattern
  cases mode <;> simp [heven, whdSetWowlPattern, CyWowlpfOlCfg.wowl]

/-- One whose mask is refused changes nothing. -/
theorem set_patterns_of_odd (hodd : e.mask.length % 2 ≠ 0) :
    (e.set bits mode w).patterns = w.patterns := by
  unfold CyWowlpfOlCfg.set cylpaSetWowlPattern whdWowlSetPattern
  cases mode <;> simp [hodd]

end Entry

/-- The loop ends where an entry is marked last. -/
theorem isSome_wowlpfLoop (bits : WowlBits) (mode : Bool) {es : List CyWowlpfOlCfg}
    (h : ∃ e ∈ es, e.feature = .last) (w : WowlWorld) : (wowlpfLoop bits mode es w).isSome := by
  induction es generalizing w with
  | nil =>
      obtain ⟨e, hmem, -⟩ := h
      cases hmem
  | cons e es ih =>
      rw [wowlpfLoop]
      split
      · rfl
      · rename_i hne
        obtain ⟨e', hmem, he'⟩ := h
        refine ih ⟨e', (List.mem_cons.mp hmem).resolve_left ?_, he'⟩ _
        rintro rfl
        exact hne he'

/-- **A loop over the entries** stops at the one marked last, and has added or deleted the patterns
of those before it. -/
theorem wowlpfLoop_eq (bits : WowlBits) (mode : Bool) {es : List CyWowlpfOlCfg}
    {last : CyWowlpfOlCfg} (hes : ∀ e ∈ es, e.WellFormed) (hlast : last.feature = .last)
    (w : WowlWorld) : ∃ w', wowlpfLoop bits mode (es ++ [last]) w = some (last, w') ∧
      w'.overrun = w.overrun ∧
      w'.patterns = if mode then wowlPatterns es ∪ w.patterns else w.patterns \ wowlPatterns es := by
  induction es generalizing w with
  | nil =>
      refine ⟨w, by simp [wowlpfLoop, hlast], rfl, ?_⟩
      simp [wowlPatterns]
  | cons e es ih =>
      have he := hes e List.mem_cons_self
      obtain ⟨w', hloop, hover, hpat⟩ :=
        ih (fun e he => hes e (List.mem_cons_of_mem _ he)) (e.set bits mode w)
      have hover' : (e.set bits mode w).overrun = w.overrun := by
        have h := set_overrun bits e mode w
        rw [and_iff_left he.fits] at h
        exact Bool.eq_iff_iff.mpr (by simpa using not_congr h)
      refine ⟨w', ?_, hover.trans hover', hpat.trans ?_⟩
      · rw [List.cons_append, wowlpfLoop, if_neg (by rw [he.wake]; decide)]
        exact hloop
      · rw [set_patterns bits e mode w he.even]
        cases mode with
        | true =>
            simp [wowlPatterns]
        | false =>
            simp [wowlPatterns, Finset.sdiff_insert, Finset.erase_sdiff_comm]

/-! ### Notifications -/

/-- The patterns that should be installed after a notification. -/
def wowlExpected (es : List CyWowlpfOlCfg) (st : OlPmSt) (ans : WowlAnswers) : Finset WowlPattern :=
  if st = .goingToSleep ∧ ans.activate = whdResultSuccess then wowlPatterns es else ∅

/-- **The patterns follow** the notification and its activation. -/
def WowlFollows (es : List CyWowlpfOlCfg) (s : OlPmSt × WowlAnswers) (w : Option WowlWorld) : Prop :=
  ∃ w', w = some w' ∧ w'.overrun = false ∧ w'.patterns = wowlExpected es s.1 s.2

/-- Deleting the pattern of the entry marked last leaves none of the configured ones. -/
def LastUndoes (es : List CyWowlpfOlCfg) (last : CyWowlpfOlCfg) : Prop :=
  last.Fits ∧ ∀ e ∈ es, last.mask.length % 2 = 0 ∧ e.wowl = last.wowl

/-- If the activation fails, deleting the last entry's pattern is enough. -/
def UndoneIfRefused (es : List CyWowlpfOlCfg) (last : CyWowlpfOlCfg) (s : OlPmSt × WowlAnswers) :
    Prop :=
  s.1 = .goingToSleep → s.2.activate ≠ whdResultSuccess → LastUndoes es last

/-- What the runs start from and keep: no patterns but configured ones. -/
def WowlInv (es : List CyWowlpfOlCfg) (w : WowlWorld) : Prop :=
  w.overrun = false ∧ w.patterns ⊆ wowlPatterns es

theorem WowlFollows.inv {es : List CyWowlpfOlCfg} {s : OlPmSt × WowlAnswers} {w : Option WowlWorld}
    (h : WowlFollows es s w) : ∃ w', w = some w' ∧ WowlInv es w' := by
  obtain ⟨w', hw, hover, hpat⟩ := h
  refine ⟨w', hw, hover, ?_⟩
  rw [hpat, wowlExpected]
  split
  · exact Finset.Subset.refl _
  · exact Finset.empty_subset _

section Pm

variable {bits : WowlBits} {magic : UInt32} {info : OlInfo} {es : List CyWowlpfOlCfg}
variable {last : CyWowlpfOlCfg}

/-- The context after initialisation with the entries `es` and the one marked last. -/
def wowlpfCtxt (info : OlInfo) (es : List CyWowlpfOlCfg) (last : CyWowlpfOlCfg) : WowlpfOl :=
  (cylpaWowlpfOlInit (some info) (some (es ++ [last]))).2

/-- After the loop has added all patterns, deleting the last entry's undoes it all exactly under
`LastUndoes`. -/
theorem set_last_follows {w : WowlWorld} (hover : w.overrun = false)
    (hpat : w.patterns = wowlPatterns es) :
    ((last.set bits false w).overrun = false ∧ (last.set bits false w).patterns = ∅) ↔
      LastUndoes es last := by
  rw [set_overrun, and_iff_right hover]
  refine and_congr_right fun _ => ?_
  by_cases heven : last.mask.length % 2 = 0
  · rw [set_patterns _ _ _ _ heven, hpat]
    simp only [Finset.eq_empty_iff_forall_notMem, wowlPatterns, heven, true_and, Bool.false_eq_true,
      if_false, Finset.mem_erase, List.mem_toFinset, List.mem_map, not_and, not_exists]
    exact ⟨fun h e he => by_contra fun hne => h _ hne e he rfl,
      fun h p hp e he hep => hp (hep ▸ h e he)⟩
  · rw [set_patterns_of_odd _ _ _ _ heven, hpat]
    simp [Finset.eq_empty_iff_forall_notMem, wowlPatterns, heven]

/-- **One notification**: the patterns follow it exactly if, where its activation fails, deleting
the last entry's pattern is enough. -/
theorem cylpaWowlpfOlPm_follows_iff (hes : ∀ e ∈ es, e.WellFormed) (hlast : last.feature = .last)
    (hwhd : info.whd ≠ none) (hnew : info.fwNewInfra ≠ 0) (s : OlPmSt × WowlAnswers)
    {w : WowlWorld} (hw : WowlInv es w) :
    WowlFollows es s (cylpaWowlpfOlPm bits magic (some (wowlpfCtxt info es last)) s.1 s.2 w) ↔
      UndoneIfRefused es last s := by
  obtain ⟨hover, hpat⟩ := hw
  obtain ⟨st, ans⟩ := s
  simp only [cylpaWowlpfOlPm, wowlpfCtxt, cylpaWowlpfOlInit, if_neg hwhd, if_neg hnew,
    UndoneIfRefused]
  by_cases hst : st = .goingToSleep
  · -- all patterns are added, whatever was there before
    obtain ⟨w', hloop, hover', hpat'⟩ := wowlpfLoop_eq bits true hes hlast
      (whdConfigureWowl ans (initialWowl bits magic (es ++ [last])) w).2
    have hall : w'.patterns = wowlPatterns es := by
      rw [hpat', if_pos rfl]
      exact Finset.union_eq_left.mpr hpat
    rw [if_pos hst, hloop]
    by_cases hact : ans.activate = whdResultSuccess
    · refine iff_of_true ⟨w', by simp [hact], hover'.trans hover, ?_⟩ fun _ h => absurd hact h
      rw [hall, wowlExpected, if_pos ⟨hst, hact⟩]
    · have hexp : wowlExpected es st ans = ∅ := if_neg fun h => hact h.2
      rw [WowlFollows, hexp]
      simp [hact, hst, set_last_follows (hover'.trans hover) hall]
  · obtain ⟨w', hloop, hover', hpat'⟩ := wowlpfLoop_eq bits false hes hlast w
    rw [if_neg hst, hloop]
    refine iff_of_true ⟨w', rfl, hover'.trans hover, ?_⟩ fun h => absurd h hst
    have hexp : wowlExpected es st ans = ∅ := if_neg fun h => hst h.1
    rw [hpat', hexp]
    exact Finset.sdiff_eq_empty_iff_subset.mpr hpat

end Pm

/-! ### Runs -/

section Run

variable (bits : WowlBits) (magic : UInt32) (info : OlInfo) (es : List CyWowlpfOlCfg)
variable (last : CyWowlpfOlCfg) (cap : UInt32)

/-- The world after some notifications, from one with no patterns. -/
def wowlpfAfter (run : List (OlPmSt × WowlAnswers)) : Option WowlWorld :=
  run.foldl (fun w s =>
    w.bind (cylpaWowlpfOlPm bits magic (some (wowlpfCtxt info es last)) s.1 s.2))
    (some ⟨cap, ∅, false⟩)

theorem wowlpfAfter_concat (run : List (OlPmSt × WowlAnswers)) (s : OlPmSt × WowlAnswers) :
    wowlpfAfter bits magic info es last cap (run ++ [s]) =
      (wowlpfAfter bits magic info es last cap run).bind
        (cylpaWowlpfOlPm bits magic (some (wowlpfCtxt info es last)) s.1 s.2) := by
  simp [wowlpfAfter]

/-- **The patterns installed follow the power state**, failed activations included, exactly if at
every activation that fails the entry marked last is itself a pattern, and the only one
configured; or none is configured, and its strings fit the buffers. -/
theorem wowl_patterns_iff (run : List (OlPmSt × WowlAnswers)) (hes : ∀ e ∈ es, e.WellFormed)
    (hlast : last.feature = .last) (hwhd : info.whd ≠ none) (hnew : info.fwNewInfra ≠ 0) :
    (∀ xs, xs <+: run → ∀ ys s, xs = ys ++ [s] →
      WowlFollows es s (wowlpfAfter bits magic info es last cap xs)) ↔
    ∀ s ∈ run, s.1 = .goingToSleep → s.2.activate ≠ whdResultSuccess → LastUndoes es last := by
  have hstep : ∀ ys s, (∃ w', wowlpfAfter bits magic info es last cap ys = some w' ∧ WowlInv es w') →
      (WowlFollows es s (wowlpfAfter bits magic info es last cap (ys ++ [s])) ↔
        UndoneIfRefused es last s) := by
    rintro ys s ⟨w', hw', hinv⟩
    rw [wowlpfAfter_concat, hw', Option.bind_some]
    exact cylpaWowlpfOlPm_follows_iff hes hlast hwhd hnew s hinv
  refine Iff.trans ?_ (Runs.throughout_last_iff (Q := UndoneIfRefused es last))
  refine Runs.throughout_iff_of_invariant (A := fun _ => True)
    (I := fun xs => ∃ w', wowlpfAfter bits magic info es last cap xs = some w' ∧ WowlInv es w')
    (fun _ _ => trivial) ⟨_, rfl, rfl, Finset.empty_subset _⟩ ?_ ?_ ?_
  · exact iff_of_true (fun ys s e => by simp at e) fun ys s e => by simp at e
  · intro ys s hinv _
    refine forall₂_congr fun zs s' => imp_congr_right fun e => ?_
    obtain ⟨rfl, rfl⟩ := List.append_singleton_inj.mp e
    exact hstep ys s hinv
  · intro ys s hinv _ hc
    exact ((hstep ys s hinv).mpr (hc ys s rfl)).inv

/-- An entry with a pattern of one byte. -/
def wowlEntry : CyWowlpfOlCfg := ⟨.wake, [48, 120, 52, 49], [48, 120, 56, 48], 12⟩

theorem wowlEntry_wellFormed : ∀ e ∈ [wowlEntry], e.WellFormed := by
  intro e he
  obtain rfl := List.mem_singleton.mp he
  exact ⟨rfl, ⟨by decide, fun _ => by decide⟩, rfl⟩

/-- A refused activation, where the entry marked last repeats the only pattern. -/
theorem wowl_patterns_iff_repeated :
    WowlFollows [wowlEntry] (.goingToSleep, ⟨id, 1⟩) (wowlpfAfter ⟨2, 0x2000000⟩ 0
      ⟨some 1, none, none, 1⟩ [wowlEntry] { wowlEntry with feature := .last } 0
      [(.goingToSleep, ⟨id, 1⟩)]) := by
  refine (wowl_patterns_iff ⟨2, 0x2000000⟩ 0 ⟨some 1, none, none, 1⟩ [wowlEntry]
    { wowlEntry with feature := .last } 0 [(.goingToSleep, ⟨id, 1⟩), (.awake, ⟨id, 0⟩)]
    wowlEntry_wellFormed rfl (by decide) (by decide)).mpr ?_ _ ⟨[(.awake, ⟨id, 0⟩)], rfl⟩ [] _ rfl
  rintro s - - -
  exact ⟨⟨by decide, fun _ => by decide⟩, fun e he => ⟨rfl, by rw [List.mem_singleton.mp he]; rfl⟩⟩

/-- With an entry marked last that holds no bytes, a refused activation leaves the pattern. -/
theorem wowl_patterns_not_undone :
    ¬ ∀ (bits : WowlBits) (magic : UInt32) (info : OlInfo) (es : List CyWowlpfOlCfg)
      (last : CyWowlpfOlCfg) (cap : UInt32) (run : List (OlPmSt × WowlAnswers)),
      (∀ e ∈ es, e.WellFormed) → (es.map CyWowlpfOlCfg.wowl).Nodup → last.feature = .last →
      info.whd ≠ none → info.fwNewInfra ≠ 0 → (run.map Prod.fst).IsChain (· ≠ ·) →
      ∀ xs, xs <+: run → ∀ ys s, xs = ys ++ [s] →
        WowlFollows es s (wowlpfAfter bits magic info es last cap xs) := by
  intro h
  obtain ⟨w, hw, -, hpat⟩ := h ⟨2, 0x2000000⟩ 0 ⟨some 1, none, none, 1⟩ [wowlEntry]
    ⟨.last, [48, 120], [48, 120], 0⟩ 0 [(.goingToSleep, ⟨id, 1⟩)] wowlEntry_wellFormed
    (List.nodup_singleton _) rfl (by decide) (by decide) (by simp) _
    (List.prefix_refl _) [] _ rfl
  obtain rfl := Option.some.inj hw
  exact absurd hpat (by decide)

end Run

end Lpa
