import Lpa.Keepalive.TkoConfig
import Lpa.Keepalive.TkoEvents
import Lpa.Support.Leases

/-!
# Keepalive — the TKO offload over whole sessions

`TkoEvents.lean` follows alternating notifications.  Here the offload is initialised and
deinitialised, and notified, in any order; the firmware may refuse to turn TKO on or off, the
driver may refuse to register the handler, events arrive wherever a handler is registered, and
other users of the driver register handlers of their own in the same table.

The entry of a handler is a key that is taken and given back (`Leases`).  The offload knows one
entry, for as long as `tko_state_enabled` is set: an event that clears it, and an activation that
finds it set, leave a handler behind that is never taken away (`TkoAct.lost`).

* `TkoLedger`: what every step keeps.
* `tko_session`: in every session in which no registration is refused the handlers registered are
  those left behind and the one that is known; nothing is taken away that is not the offload's; and
  while TKO is on in the firmware there is a handler for its events, unless the offload has last
  been refused to turn it off.
* `not_tko_session_of_unheard`: what is refused is not noticed, and another user's handler is taken
  away.
-/

namespace Lpa

/-- `cylpa_tko_ol_deinit`. -/
def cylpaTkoOlDeinit (ctxt : Option TkoOl) (ans : TkoAnswers) (w : TkoWorld) : TkoWorld :=
  match ctxt with
  | some { whd := some _ } => (whdTkoDisable ans w).2
  | _ => w

/-- What the driver answers during an initialisation: `whd_tko_max_assoc`, and `whd_tko_param`. -/
structure TkoInitAnswers where
  maxAssoc : ℤ
  param : ℤ

/-- What has been done about the handlers and the firmware's TKO; `unheard` is TKO turned on with the
handler refused. -/
inductive TkoAct where
  | enabled (entry : UInt16) (ok : Bool)
  | unheard (ok : Bool)
  | disabled (entry : Option UInt16) (ok : Bool)
  | lost (entry : UInt16)
deriving DecidableEq

/-- The offload and what it works on: the manager's `ol_info`, the context, the event table, TKO in
the firmware, what other users have registered, and what has been done. -/
structure TkoHost where
  olInfo : OlInfo
  ctxt : TkoOl
  world : TkoWorld
  on : Bool
  param : Option (UInt16 × UInt16 × UInt16)
  others : UInt16 → Option Handle
  log : List TkoAct

namespace TkoHost

/-- Before anything has run; the context is cleared. -/
def boot (olInfo : OlInfo) : TkoHost := ⟨olInfo, ⟨none⟩, .boot, false, none, fun _ => none, []⟩

/-- The entry that is known. -/
def known (s : TkoHost) : Option UInt16 :=
  if s.world.tkoStateEnabled then some s.world.tkoOffloadUpdateEntry else none

/-- The handler that is known, if there is one, is left behind. -/
def losing (s : TkoHost) : List TkoAct := (s.known.map .lost).toList

/-- `whd_tko_enable`; `registered` tells whether the driver registers the handler, and where it does
not `ans.entry` is what it leaves in `tko_offload_update_entry`. -/
def enable (ans : TkoAnswers) (registered : Bool) (s : TkoHost) : TkoHost :=
  { s with
    world :=
      if registered then (whdTkoEnable ans s.world).2
      else { s.world with tkoOffloadUpdateEntry := ans.entry, tkoStateEnabled := true }
    on := s.on || decide (ans.toggle = whdSuccess)
    log := s.log ++ s.losing ++
      [if registered then .enabled ans.entry (decide (ans.toggle = whdSuccess))
        else .unheard (decide (ans.toggle = whdSuccess))] }

/-- `whd_tko_disable`. -/
def disable (ans : TkoAnswers) (s : TkoHost) : TkoHost :=
  { s with
    world := (whdTkoDisable ans s.world).2
    on := s.on && !decide (ans.toggle = whdSuccess)
    log := s.log ++ [.disabled s.known (decide (ans.toggle = whdSuccess))] }

/-- `cylpa_tko_ol_init`, but for the table of connections. -/
def init {max : ℕ} (cfg : Option (CyTkoOlCfg max)) (ans : TkoInitAnswers) (s : TkoHost) :
    TkoHost :=
  match cfg with
  | none => { s with ctxt := ⟨none⟩ }
  | some cfg =>
    { s with
      ctxt := ⟨s.olInfo.whd⟩
      param := if ans.maxAssoc = whdSuccess ∧ s.olInfo.fwNewInfra = 0 ∧ ans.param = whdSuccess then
        some cfg.params else s.param }

/-- `cylpa_tko_ol_deinit`. -/
def deinit (ans : TkoAnswers) (s : TkoHost) : TkoHost :=
  if s.ctxt.whd = none then s else s.disable ans

/-- `cylpa_tko_ol_pm`. -/
def pm (max : ℕ) (st : OlPmSt) (ans : TkoAnswers) (registered : Bool) (s : TkoHost) : TkoHost :=
  if s.ctxt.whd = none then s
  else if st = .goingToSleep then
    if tkoFound max s.olInfo ans = 0 then s else s.enable ans registered
  else s.disable ans

/-- `whd_callback_handler`. -/
def event (header : Option WhdEvent) (data : Bool) (s : TkoHost) : TkoHost :=
  { s with
    world := whdCallbackHandler header data s.world
    log := s.log ++ if header = some .wlcETko ∧ data then s.losing else [] }

/-- Another user registers a handler at `i`, or takes his own away. -/
def setOther (i : UInt16) (user : Option Handle) (s : TkoHost) : TkoHost :=
  { s with
    world := { s.world with handlers := Function.update s.world.handlers i (user.map .other) }
    others := Function.update s.others i user }

theorem pm_world (max : ℕ) (st : OlPmSt) (ans : TkoAnswers) (s : TkoHost) :
    (s.pm max st ans true).world = cylpaTkoOlPm max s.olInfo (some s.ctxt) ans st s.world := by
  obtain ⟨olInfo, ⟨whd⟩, world, on, param, others, log⟩ := s
  unfold pm cylpaTkoOlPm
  cases whd with
  | none => rfl
  | some whd =>
      dsimp only
      rw [if_neg (Option.some_ne_none whd)]
      split
      · split <;> rfl
      · rfl

theorem deinit_world (ans : TkoAnswers) (s : TkoHost) :
    (s.deinit ans).world = cylpaTkoOlDeinit (some s.ctxt) ans s.world := by
  obtain ⟨olInfo, ⟨whd⟩, world, on, param, others, log⟩ := s
  cases whd <;> rfl

end TkoHost

/-- **A session**: the driver registers at free entries, or refuses; a handler runs only where one is
registered, and other users take away their own handlers only. -/
inductive TkoSession (max : MaxTko) : TkoHost → Prop
  | boot (olInfo : OlInfo) : TkoSession max (.boot olInfo)
  | olInfo {s : TkoHost} (h : TkoSession max s) (olInfo : OlInfo) :
      TkoSession max { s with olInfo := olInfo }
  | init {s : TkoHost} (h : TkoSession max s) (cfg : Option (CyTkoOlCfg max.val))
      (ans : TkoInitAnswers) : TkoSession max (s.init cfg ans)
  | deinit {s : TkoHost} (h : TkoSession max s) (ans : TkoAnswers) : TkoSession max (s.deinit ans)
  | pm {s : TkoHost} (h : TkoSession max s) (st : OlPmSt) (ans : TkoAnswers) (registered : Bool)
      (hfree : st = .goingToSleep → registered = true → s.world.handlers ans.entry = none) :
      TkoSession max (s.pm max.val st ans registered)
  | event {s : TkoHost} (h : TkoSession max s) (header : Option WhdEvent) (data : Bool)
      (hreg : ∃ i, s.world.handlers i = some .whdCallbackHandler) :
      TkoSession max (s.event header data)
  | register {s : TkoHost} (h : TkoSession max s) (i : UInt16) (user : Handle)
      (hfree : s.world.handlers i = none) : TkoSession max (s.setOther i (some user))
  | deregister {s : TkoHost} (h : TkoSession max s) (i : UInt16) (user : Handle)
      (hown : s.world.handlers i = some (.other user)) : TkoSession max (s.setOther i none)

/-! ### The ledger -/

/-- A registration takes the entry, a deregistration gives it back. -/
def TkoAct.lease : TkoAct → Option (Leases.Act UInt16)
  | enabled entry _ => some (.take entry)
  | disabled entry _ => entry.map .give
  | unheard _ | lost _ => none

/-- The entry of a handler left behind. -/
def TkoAct.left : TkoAct → Option UInt16
  | lost entry => some entry
  | _ => none

namespace TkoHost

/-- What has been taken and given back. -/
def leases (s : TkoHost) : List (Leases.Act UInt16) := s.log.filterMap TkoAct.lease

/-- The entries of the handlers left behind. -/
def lost (s : TkoHost) : List UInt16 := s.log.filterMap TkoAct.left

/-- The firmware has last refused to turn TKO off. -/
def Refused (s : TkoHost) : Prop := ∃ entry, s.log.getLast? = some (.disabled entry false)

/-- The driver has registered the handler whenever it was asked to. -/
def Heard (s : TkoHost) : Prop := ∀ ok, .unheard ok ∉ s.log

end TkoHost

/-- **What every step keeps.** -/
structure TkoLedger (s : TkoHost) : Prop where
  inOrder : Leases.InOrder ∅ s.leases
  own : ∀ i, s.world.handlers i = some .whdCallbackHandler ↔ i ∈ Leases.after ∅ s.leases
  held : ∀ i, i ∈ Leases.after ∅ s.leases ↔ i ∈ s.lost ∨ s.known = some i
  nodup : s.lost.Nodup
  known : ∀ i, s.known = some i → i ∉ s.lost
  others : ∀ i h, s.world.handlers i = some (.other h) ↔ s.others i = some h
  heard : s.on = true → s.known ≠ none ∨ s.lost ≠ [] ∨ s.Refused

section Ledger

variable {s : TkoHost} {ans : TkoAnswers}

theorem filterMap_lease_losing (s : TkoHost) : s.losing.filterMap TkoAct.lease = [] := by
  unfold TkoHost.losing
  cases s.known <;> rfl

theorem filterMap_left_losing (s : TkoHost) :
    s.losing.filterMap TkoAct.left = s.known.toList := by
  unfold TkoHost.losing
  cases s.known <;> rfl

theorem TkoLedger.boot (olInfo : OlInfo) : TkoLedger (.boot olInfo) where
  inOrder := trivial
  own i := iff_of_false nofun (Finset.notMem_empty i)
  held i := iff_of_false (Finset.notMem_empty i) (by rintro (h | h) <;> cases h)
  nodup := List.nodup_nil
  known _ h := by cases h
  others i h := iff_of_false nofun nofun
  heard h := by cases h

/-- A free entry is not among those held. -/
theorem TkoLedger.notMem_of_free (h : TkoLedger s) {i : UInt16}
    (hfree : s.world.handlers i = none) : i ∉ Leases.after ∅ s.leases := by
  rw [← h.own, hfree]
  exact nofun

/-- What is known and what is lost differ. -/
theorem TkoLedger.nodup_append (h : TkoLedger s) : (s.lost ++ s.known.toList).Nodup := by
  refine List.nodup_append.mpr ⟨h.nodup, ?_, fun i hi j hj => ?_⟩
  · cases s.known with
    | none => exact List.nodup_nil
    | some i => exact List.nodup_singleton i
  · rintro rfl
    exact h.known i (Option.mem_toList.mp hj) hi

/-- **TKO is turned on**: the handler is registered at a free entry, and the one that was known is
left behind. -/
theorem TkoLedger.enable (h : TkoLedger s) (hfree : s.world.handlers ans.entry = none) :
    TkoLedger (s.enable ans true) := by
  have hleases : (s.enable ans true).leases = s.leases ++ [.take ans.entry] := by
    unfold TkoHost.leases TkoHost.enable
    dsimp only
    rw [List.filterMap_append, List.filterMap_append, filterMap_lease_losing, List.append_nil]
    rfl
  have hlost : (s.enable ans true).lost = s.lost ++ s.known.toList := by
    unfold TkoHost.lost TkoHost.enable
    dsimp only
    rw [List.filterMap_append, List.filterMap_append, filterMap_left_losing]
    exact List.append_nil _
  have hafter : Leases.after ∅ (s.enable ans true).leases =
      insert ans.entry (Leases.after ∅ s.leases) := by
    rw [hleases, Leases.after_append]
    rfl
  have hknown : (s.enable ans true).known = some ans.entry := rfl
  have hnot := h.notMem_of_free hfree
  have hheld : ∀ i, i ∈ s.lost ++ s.known.toList ↔ i ∈ Leases.after ∅ s.leases := by
    intro i
    rw [h.held, List.mem_append, Option.mem_toList]
  refine ⟨?_, fun i => ?_, fun i => ?_, ?_, fun i hi => ?_, fun i user => ?_, fun _ => ?_⟩
  · rw [hleases, Leases.inOrder_append]
    exact ⟨h.inOrder, hnot, trivial⟩
  · rw [hafter, Finset.mem_insert, ← h.own]
    change Function.update s.world.handlers ans.entry _ i = _ ↔ _
    by_cases hi : i = ans.entry
    · subst hi
      simp
    · rw [Function.update_of_ne hi]
      exact (or_iff_right hi).symm
  · rw [hafter, Finset.mem_insert, hlost, hheld, hknown, or_comm]
    exact or_congr_right ⟨fun hi => congrArg some hi.symm, fun hi => (Option.some.inj hi).symm⟩
  · rw [hlost]
    exact h.nodup_append
  · cases hi
    rwa [hlost, hheld]
  · change Function.update s.world.handlers ans.entry _ i = _ ↔ s.others i = _
    rw [← h.others]
    by_cases hi : i = ans.entry
    · subst hi
      simp [hfree]
    · rw [Function.update_of_ne hi]
  · rw [hknown]
    exact .inl nofun

theorem filterMap_lease_disabled (known : Option UInt16) (ok : Bool) :
    [TkoAct.disabled known ok].filterMap TkoAct.lease = (known.map .give).toList := by
  cases known <;> rfl

theorem disable_leases (s : TkoHost) (ans : TkoAnswers) :
    (s.disable ans).leases = s.leases ++ (s.known.map .give).toList := by
  unfold TkoHost.leases TkoHost.disable
  dsimp only
  rw [List.filterMap_append, filterMap_lease_disabled]

theorem disable_lost (s : TkoHost) (ans : TkoAnswers) : (s.disable ans).lost = s.lost := by
  unfold TkoHost.lost TkoHost.disable
  dsimp only
  rw [List.filterMap_append]
  exact List.append_nil _

/-- TKO is on still: that has been refused. -/
theorem refused_of_disable (hon : (s.disable ans).on = true) : (s.disable ans).Refused := by
  have hrefused : decide (ans.toggle = whdSuccess) = false := by
    simpa using (Bool.and_eq_true_iff.mp hon).2
  refine ⟨s.known, ?_⟩
  unfold TkoHost.disable
  dsimp only
  rw [hrefused, List.getLast?_concat]

/-- **TKO is turned off**, where a handler is known: that is taken away. -/
theorem TkoLedger.disable_known (h : TkoLedger s) (hflag : s.world.tkoStateEnabled = true) :
    TkoLedger (s.disable ans) := by
  have hsome : s.known = some s.world.tkoOffloadUpdateEntry := if_pos hflag
  have hworld : (s.disable ans).world = { s.world with
      tkoStateEnabled := false
      handlers := Function.update s.world.handlers s.world.tkoOffloadUpdateEntry none } :=
    if_pos hflag
  have hnone : (s.disable ans).known = none := by
    rw [TkoHost.known, hworld]
    rfl
  have hafter : Leases.after ∅ (s.disable ans).leases =
      (Leases.after ∅ s.leases).erase s.world.tkoOffloadUpdateEntry := by
    rw [disable_leases, hsome, Leases.after_append]
    rfl
  have hmem : s.world.tkoOffloadUpdateEntry ∈ Leases.after ∅ s.leases :=
    (h.held _).mpr (.inr hsome)
  refine ⟨?_, fun i => ?_, fun i => ?_, ?_, fun i hi => ?_, fun i user => ?_,
    fun hon => .inr (.inr (refused_of_disable hon))⟩
  · rw [disable_leases, hsome, Leases.inOrder_append]
    exact ⟨h.inOrder, hmem, trivial⟩
  · rw [hafter, Finset.mem_erase, ← h.own, hworld]
    dsimp only
    by_cases hi : i = s.world.tkoOffloadUpdateEntry
    · subst hi
      simp
    · rw [Function.update_of_ne hi]
      exact (and_iff_right hi).symm
  · rw [hafter, Finset.mem_erase, h.held, hsome, disable_lost, hnone]
    constructor
    · rintro ⟨hne, hi | hi⟩
      · exact .inl hi
      · exact absurd (Option.some.inj hi).symm hne
    · rintro (hi | hi)
      · exact ⟨fun he => h.known _ hsome (he ▸ hi), .inl hi⟩
      · cases hi
  · rw [disable_lost]
    exact h.nodup
  · rw [hnone] at hi
    cases hi
  · rw [hworld]
    change _ ↔ s.others i = some user
    rw [← h.others]
    dsimp only
    by_cases hi : i = s.world.tkoOffloadUpdateEntry
    · subst hi
      rw [Function.update_self, (h.own _).mpr hmem]
      exact iff_of_false nofun nofun
    · rw [Function.update_of_ne hi]

/-- **TKO is turned off**: the handler that is known is taken away, and no other. -/
theorem TkoLedger.disable (h : TkoLedger s) (ans : TkoAnswers) : TkoLedger (s.disable ans) := by
  by_cases hflag : s.world.tkoStateEnabled = true
  · exact h.disable_known hflag
  · have hnone : s.known = none := if_neg hflag
    have hworld : (s.disable ans).world = s.world := if_neg hflag
    have hnone' : (s.disable ans).known = none := by
      rw [TkoHost.known, hworld]
      exact hnone
    have hleases : (s.disable ans).leases = s.leases := by
      rw [disable_leases, hnone]
      exact List.append_nil _
    refine ⟨hleases ▸ h.inOrder, ?_, ?_, ?_, ?_, ?_,
      fun hon => .inr (.inr (refused_of_disable hon))⟩
    · rw [hleases, hworld]
      exact h.own
    · rw [hleases, disable_lost, hnone', ← hnone]
      exact h.held
    · rw [disable_lost]
      exact h.nodup
    · rw [disable_lost, hnone', ← hnone]
      exact h.known
    · rw [hworld]
      exact h.others

/-- **An event** makes the offload forget the handler. -/
theorem TkoLedger.event (h : TkoLedger s) (header : Option WhdEvent) (data : Bool) :
    TkoLedger (s.event header data) := by
  by_cases htko : header = some .wlcETko ∧ data = true
  · obtain ⟨rfl, rfl⟩ := htko
    have hlog : (s.event (some .wlcETko) true).log = s.log ++ s.losing := rfl
    have hleases : (s.event (some .wlcETko) true).leases = s.leases := by
      rw [TkoHost.leases, hlog, List.filterMap_append, filterMap_lease_losing]
      exact List.append_nil _
    have hlost : (s.event (some .wlcETko) true).lost = s.lost ++ s.known.toList := by
      rw [TkoHost.lost, hlog, List.filterMap_append, filterMap_left_losing]
      rfl
    have hnone : (s.event (some .wlcETko) true).known = none := rfl
    refine ⟨hleases ▸ h.inOrder, ?_, fun i => ?_, hlost ▸ h.nodup_append, ?_, h.others, ?_⟩
    · rw [hleases]
      exact h.own
    · rw [hleases, hlost, hnone, h.held, List.mem_append, Option.mem_toList]
      exact (or_iff_left nofun).symm
    · rw [hnone]
      exact nofun
    · intro hon
      rw [hlost]
      cases hk : s.known with
      | some i => exact .inr (.inl (List.append_ne_nil_of_right_ne_nil _ (List.cons_ne_nil _ _)))
      | none =>
          have hquiet : (s.event (some .wlcETko) true).log = s.log := by
            rw [hlog, TkoHost.losing, hk]
            exact List.append_nil _
          rcases h.heard hon with hknown | hlost | hrefused
          · exact absurd hk hknown
          · exact .inr (.inl (List.append_ne_nil_of_left_ne_nil hlost _))
          · refine .inr (.inr ?_)
            rw [TkoHost.Refused, hquiet]
            exact hrefused
  · have hworld : whdCallbackHandler header data s.world = s.world := by
      unfold whdCallbackHandler
      split
      · exact if_neg fun hdata => htko ⟨rfl, hdata⟩
      · rfl
    have hsame : s.event header data = s := by
      rw [TkoHost.event, hworld, if_neg htko, List.append_nil]
    rwa [hsame]

/-- What another user does where there is no handler of the offload. -/
theorem TkoLedger.setOther (h : TkoLedger s) {i : UInt16}
    (hi : s.world.handlers i ≠ some .whdCallbackHandler) (user : Option Handle) :
    TkoLedger (s.setOther i user) := by
  refine ⟨h.inOrder, fun j => ?_, h.held, h.nodup, h.known, fun j user' => ?_, h.heard⟩
  · refine Iff.trans ?_ (h.own j)
    change Function.update s.world.handlers i (user.map .other) j = _ ↔ _
    by_cases hj : j = i
    · subst hj
      rw [Function.update_self]
      exact iff_of_false (by cases user <;> exact nofun) hi
    · rw [Function.update_of_ne hj]
  · change Function.update s.world.handlers i (user.map .other) j = _ ↔
      Function.update s.others i user j = _
    by_cases hj : j = i
    · subst hj
      rw [Function.update_self, Function.update_self]
      cases user with
      | none => exact iff_of_false nofun nofun
      | some user => simp
    · rw [Function.update_of_ne hj, Function.update_of_ne hj]
      exact h.others j user'

end Ledger

/-! ### Sessions -/

section Session

variable {max : MaxTko} {s : TkoHost}

theorem TkoLedger.init (h : TkoLedger s) (cfg : Option (CyTkoOlCfg max.val))
    (ans : TkoInitAnswers) : TkoLedger (s.init cfg ans) := by
  cases cfg <;> exact ⟨h.inOrder, h.own, h.held, h.nodup, h.known, h.others, h.heard⟩

/-- What has been done stays done. -/
theorem TkoHost.log_pm (s : TkoHost) (st : OlPmSt) (ans : TkoAnswers) (registered : Bool) :
    s.log <+: (s.pm max.val st ans registered).log := by
  unfold TkoHost.pm
  split
  · exact List.prefix_refl _
  · split
    · split
      · exact List.prefix_refl _
      · exact (List.prefix_append _ _).trans (List.prefix_append _ _)
    · exact List.prefix_append _ _

theorem TkoHost.log_deinit (s : TkoHost) (ans : TkoAnswers) : s.log <+: (s.deinit ans).log := by
  unfold TkoHost.deinit
  split
  · exact List.prefix_refl _
  · exact List.prefix_append _ _

/-- A host that has been heard was heard before. -/
theorem TkoHost.Heard.of_log {s' : TkoHost} (h : s'.Heard) (hlog : s.log <+: s'.log) : s.Heard :=
  fun ok hok => h ok (hlog.mem hok)

theorem not_heard_enable {ans : TkoAnswers} : ¬ (s.enable ans false).Heard :=
  fun h => h _ (List.mem_append_right _ (List.mem_singleton_self _))

theorem TkoLedger.pm (h : TkoLedger s) {st : OlPmSt} {ans : TkoAnswers} {registered : Bool}
    (hfree : st = .goingToSleep → registered = true → s.world.handlers ans.entry = none)
    (hheard : (s.pm max.val st ans registered).Heard) :
    TkoLedger (s.pm max.val st ans registered) := by
  unfold TkoHost.pm at hheard ⊢
  split
  · exact h
  · rename_i hwhd
    rw [if_neg hwhd] at hheard
    split
    · rename_i hst
      rw [if_pos hst] at hheard
      split
      · exact h
      · rename_i hfound
        rw [if_neg hfound] at hheard
        cases registered with
        | false => exact absurd hheard not_heard_enable
        | true => exact h.enable (hfree hst rfl)
    · exact h.disable ans

/-- **In every session** in which no registration is refused the ledger is kept. -/
theorem TkoSession.ledger (h : TkoSession max s) (hheard : s.Heard) : TkoLedger s := by
  induction h with
  | boot olInfo => exact .boot olInfo
  | olInfo _ olInfo ih =>
      have hs := ih hheard
      exact ⟨hs.inOrder, hs.own, hs.held, hs.nodup, hs.known, hs.others, hs.heard⟩
  | @init s _ cfg ans ih =>
      have hlog : (s.init cfg ans).log = s.log := by cases cfg <;> rfl
      exact (ih (hheard.of_log (hlog ▸ List.prefix_refl _))).init cfg ans
  | @deinit s _ ans ih =>
      have hs := ih (hheard.of_log (s.log_deinit ans))
      unfold TkoHost.deinit
      split
      · exact hs
      · exact hs.disable ans
  | @pm s _ st ans registered hfree ih =>
      exact (ih (hheard.of_log (s.log_pm st ans registered))).pm hfree hheard
  | event _ header data _ ih =>
      exact (ih (hheard.of_log (List.prefix_append _ _))).event header data
  | register _ i user hfree ih => exact (ih hheard).setOther (hfree ▸ nofun) (some user)
  | deregister _ i user hown ih =>
      refine (ih hheard).setOther ?_ none
      rw [hown]
      exact nofun

/-- **The TKO offload in every session** in which the driver has refused no registration of the
handler: no handler is registered over another, and none is taken away that is not the offload's
own; those registered for it are the one it knows and, each once, those that an event or another
activation has made it forget; and while TKO is on in the firmware one of them is there to be
called, unless the offload has last been refused to turn it off. -/
theorem tko_session (h : TkoSession max s) (hheard : s.Heard) :
    Leases.InOrder ∅ s.leases ∧
    (∀ i, s.world.handlers i = some .whdCallbackHandler ↔ i ∈ s.lost ∨ s.known = some i) ∧
    (s.lost ++ s.known.toList).Nodup ∧
    (∀ i user, s.world.handlers i = some (.other user) ↔ s.others i = some user) ∧
    (s.on = true → (∃ i, s.world.handlers i = some .whdCallbackHandler) ∨ s.Refused) := by
  have hledger := h.ledger hheard
  have hown : ∀ i, s.world.handlers i = some .whdCallbackHandler ↔
      i ∈ s.lost ∨ s.known = some i := fun i => (hledger.own i).trans (hledger.held i)
  refine ⟨hledger.inOrder, hown, hledger.nodup_append, hledger.others, fun hon => ?_⟩
  rcases hledger.heard hon with hknown | hlost | hrefused
  · obtain ⟨i, hi⟩ := Option.ne_none_iff_exists'.mp hknown
    exact .inl ⟨i, (hown i).mpr (.inr hi)⟩
  · obtain ⟨i, hi⟩ := List.exists_mem_of_ne_nil _ hlost
    exact .inl ⟨i, (hown i).mpr (.inl hi)⟩
  · exact .inr hrefused

/-- Two sleeps, an event in the first; turning TKO off is refused at the end. -/
def twoSleeps (max : MaxTko) : TkoHost :=
  ((((((TkoHost.boot ⟨some 1, none, none, 1⟩).init (some (TkoTable.boot max).cfg) ⟨0, 0⟩).pm
    max.val .goingToSleep (answersAt 3) true).event (some .wlcETko) true).pm
    max.val .awake (answersAt 0) true).pm max.val .goingToSleep (answersAt 4) true).pm
    max.val .awake ⟨fun _ => 0, 1, 0⟩ true

theorem twoSleeps_session (max : MaxTko) : TkoSession max (twoSleeps max) := by
  have hsleep := ((TkoSession.boot ⟨some 1, none, none, 1⟩).init (some (TkoTable.boot max).cfg)
    ⟨0, 0⟩).pm .goingToSleep (answersAt 3) true fun _ _ => rfl
  have hawake := (hsleep.event (some .wlcETko) true ⟨3, rfl⟩).pm .awake (answersAt 0) true nofun
  exact (hawake.pm .goingToSleep (answersAt 4) true fun _ _ => rfl).pm .awake
    ⟨fun _ => 0, 1, 0⟩ true nofun

/-- The handler of the first sleep is left behind, that of the second is not, though TKO is on. -/
theorem tko_session_twoSleeps :
    let s := twoSleeps ⟨4, by decide, by decide⟩
    s.world.handlers 3 = some .whdCallbackHandler ∧
      s.world.handlers 4 ≠ some .whdCallbackHandler ∧ s.on = true := by
  intro s
  have hheard : s.Heard := by
    intro ok
    cases ok <;> decide
  obtain ⟨-, hown, -⟩ := tko_session (twoSleeps_session ⟨4, by decide, by decide⟩) hheard
  exact ⟨(hown 3).mpr (by decide), (hown 4).not.mpr (by decide), rfl⟩

/-- A sleep and a wake-up; another user's handler at the entry that has become free; and a sleep in
which the driver refuses the offload's, and leaves the entry as it is. -/
def refusedSleep (max : MaxTko) : TkoHost :=
  (((((TkoHost.boot ⟨some 1, none, none, 1⟩).init (some (TkoTable.boot max).cfg) ⟨0, 0⟩).pm
    max.val .goingToSleep (answersAt 3) true).pm max.val .awake (answersAt 0) true).setOther 3
    (some 7)).pm max.val .goingToSleep (answersAt 3) false

theorem refusedSleep_session (max : MaxTko) : TkoSession max (refusedSleep max) := by
  have hsleep := ((TkoSession.boot ⟨some 1, none, none, 1⟩).init (some (TkoTable.boot max).cfg)
    ⟨0, 0⟩).pm .goingToSleep (answersAt 3) true fun _ _ => rfl
  have hother := (hsleep.pm .awake (answersAt 0) true nofun).register 3 7 rfl
  exact hother.pm .goingToSleep (answersAt 3) false nofun

/-- **A registration refused** is not noticed: TKO is on with no handler for its events, and the
wake-up takes away the other user's. -/
theorem not_tko_session_of_unheard : ∃ s, TkoSession ⟨4, by decide, by decide⟩ s ∧
    (s.on = true ∧ ∀ i, s.world.handlers i ≠ some .whdCallbackHandler) ∧
    s.others 3 = some 7 ∧ (s.pm 4 .awake (answersAt 0) true).world.handlers 3 = none := by
  have hhandlers : (refusedSleep ⟨4, by decide, by decide⟩).world.handlers = Function.update
      (Function.update (Function.update (fun _ => none) 3 (some .whdCallbackHandler)) 3 none) 3
      (some (.other 7)) := rfl
  refine ⟨_, refusedSleep_session _, ⟨rfl, fun i => ?_⟩, rfl, rfl⟩
  rw [hhandlers]
  by_cases hi : i = 3
  · subst hi
    rw [Function.update_self]
    exact nofun
  · rw [Function.update_of_ne hi, Function.update_of_ne hi, Function.update_of_ne hi]
    exact nofun

end Session

end Lpa
