import Lpa.Arp.Model
import Lpa.Support.Runs
import Mathlib.Data.Finset.Basic

/-!
# ARP — the work on an IP change

`cylpa_arp_ol_nw_ip_change_work` looks the host's address up and tells the firmware which address
to answer ARP for.  `arp_ol->ip_address` is the record of what the firmware was told.  A call of
WHD that fails is logged and otherwise ignored: the record goes on as if it had succeeded.

* `cylpaArpOlNwIpChangeWork_some`, `cylpaArpOlNwIpChangeWork_none`: what one run does, with and
  without an address.
* `hostip_recorded_iff`: every address in the firmware's table has been the recorded one
  throughout exactly if no removal of an address the table held has failed; and then a run whose
  calls all succeed leaves the current address alone in the table.
-/

namespace Lpa

/-- `CY_ARPOL_DELAY_FOR_DHCP_MS`. -/
def cyArpolDelayForDhcpMs : UInt32 := 1000

/-- The codes `whd_wifi_is_ready_to_transceive` answers. -/
inductive WhdReady where
  | whdSuccess
  | whdInvalidJoinStatus
  | whdJoinInProgress
  | other
deriving DecidableEq, Repr

/-- What a run is answered: by `cy_nw_ip_get_ipv4_address`, by the two calls on the firmware's
table, should it make them, and by `whd_wifi_is_ready_to_transceive`. -/
structure IpChangeAnswers where
  ipv4 : Option UInt32
  clearId : Bool
  add : Bool
  whdRes : WhdReady
deriving DecidableEq, Repr

/-- The address found, if there is one. -/
def IpChangeAnswers.address (a : IpChangeAnswers) : Option UInt32 := a.ipv4.filter (· ≠ 0)

/-- Whether the WLAN is taken to be ready. -/
def IpChangeAnswers.Ready (a : IpChangeAnswers) : Prop :=
  a.whdRes = .whdSuccess ∨ a.whdRes = .whdInvalidJoinStatus ∨ a.whdRes = .whdJoinInProgress

instance (a : IpChangeAnswers) : Decidable a.Ready :=
  inferInstanceAs (Decidable (_ ∨ _ ∨ _))

/-- A call on the firmware's table, and whether it succeeds. -/
inductive HostipCall where
  | clearId (ip : UInt32) (ok : Bool)
  | add (ip : UInt32) (ok : Bool)
deriving DecidableEq, Repr

/-- `cylpa_arp_ol_nw_ip_change_work`: the world after a run, and its calls on the table. -/
def cylpaArpOlNwIpChangeWork (a : IpChangeAnswers) (w : ArpWorld) : ArpWorld × List HostipCall :=
  match w.ol with
  | none => (w, [])
  | some arpOl =>
    if arpOl.olInfoPtr = false then (w, [])
    else
      match a.address with
      | some addr =>
        let (arpOl, cleared) :=
          if addr ≠ arpOl.ipAddress then
            ({ arpOl with ipAddress := 0 }, [HostipCall.clearId arpOl.ipAddress a.clearId])
          else (arpOl, [])
        let arpOl := { arpOl with ipAddress := addr }
        ({ w with ol := some arpOl, dhcpRetryCount := cyArpolDhcpRetryCount },
          cleared ++ [.add addr a.add])
      | none =>
        let (arpOl, cleared) :=
          if arpOl.ipAddress ≠ 0 then
            ({ arpOl with ipAddress := 0 }, [HostipCall.clearId arpOl.ipAddress a.clearId])
          else (arpOl, [])
        let w := { w with ol := some arpOl }
        if a.Ready then
          if arpOl.ipAddress = 0 then
            let w := { w with dhcpRetryCount := w.dhcpRetryCount - 1 }
            if w.dhcpRetryCount > 0 then (w.emit [.startTimer cyArpolDelayForDhcpMs], cleared)
            else (w, cleared)
          else (w, cleared)
        else (w, cleared)

section Run

variable {a : IpChangeAnswers} {w : ArpWorld} {arpOl : ArpOl}

/-- The calls that remove the recorded address, where the one found is another. -/
def clearCalls (a : IpChangeAnswers) (old new : UInt32) : List HostipCall :=
  if new ≠ old then [.clearId old a.clearId] else []

/-- **With an address**: the recorded one is removed if it is another, the new one added and
recorded, and the retries start afresh. -/
theorem cylpaArpOlNwIpChangeWork_some {addr : UInt32} (hol : w.ol = some arpOl)
    (hptr : arpOl.olInfoPtr = true) (ha : a.address = some addr) :
    cylpaArpOlNwIpChangeWork a w =
      ({ w with ol := some { arpOl with ipAddress := addr },
                dhcpRetryCount := cyArpolDhcpRetryCount },
        clearCalls a arpOl.ipAddress addr ++ [.add addr a.add]) := by
  obtain ⟨config, olInfoPtr, ip, state⟩ := arpOl
  obtain rfl : olInfoPtr = true := hptr
  by_cases h : addr = ip
  · simp [cylpaArpOlNwIpChangeWork, hol, ha, clearCalls, h]
  · simp [cylpaArpOlNwIpChangeWork, hol, ha, clearCalls, h]

/-- **Without one**: the recorded address is removed, if there is one, and if the WLAN is ready
the timer is started for another try, unless the tries are used up. -/
theorem cylpaArpOlNwIpChangeWork_none (hol : w.ol = some arpOl) (hptr : arpOl.olInfoPtr = true)
    (ha : a.address = none) :
    cylpaArpOlNwIpChangeWork a w =
      ({ w with
          ol := some { arpOl with ipAddress := 0 }
          dhcpRetryCount := if a.Ready then w.dhcpRetryCount - 1 else w.dhcpRetryCount
          calls := w.calls ++ if a.Ready ∧ w.dhcpRetryCount - 1 > 0 then
            [.startTimer cyArpolDelayForDhcpMs] else [] },
        clearCalls a arpOl.ipAddress 0) := by
  obtain ⟨config, olInfoPtr, ip, state⟩ := arpOl
  obtain rfl : olInfoPtr = true := hptr
  have hzero : (if ip ≠ 0 then
      (ArpOl.mk config true 0 state, [HostipCall.clearId ip a.clearId])
      else (ArpOl.mk config true ip state, [])) =
        (ArpOl.mk config true 0 state, clearCalls a ip 0) := by
    unfold clearCalls
    by_cases h : ip = 0
    · rw [if_neg (not_not.mpr h), if_neg (not_not.mpr h.symm), h]
    · rw [if_pos h, if_pos (Ne.symm h)]
  simp only [cylpaArpOlNwIpChangeWork, hol, ha, Bool.true_eq_false, if_false, hzero, if_true]
  by_cases hr : a.Ready
  · by_cases hc : 1 < w.dhcpRetryCount
    · simp [hr, hc, ArpWorld.emit]
    · simp [hr, hc]
  · simp [hr]

/-- What is recorded after a run: the address found, or none. -/
theorem cylpaArpOlNwIpChangeWork_ol (hol : w.ol = some arpOl) (hptr : arpOl.olInfoPtr = true) :
    (cylpaArpOlNwIpChangeWork a w).1.ol = some { arpOl with ipAddress := a.address.getD 0 } := by
  cases ha : a.address with
  | some addr => rw [cylpaArpOlNwIpChangeWork_some hol hptr ha]; rfl
  | none => rw [cylpaArpOlNwIpChangeWork_none hol hptr ha]; rfl

/-- What a run asks of the firmware's table. -/
theorem cylpaArpOlNwIpChangeWork_calls (hol : w.ol = some arpOl)
    (hptr : arpOl.olInfoPtr = true) :
    (cylpaArpOlNwIpChangeWork a w).2 = clearCalls a arpOl.ipAddress (a.address.getD 0) ++
      a.address.toList.map (.add · a.add) := by
  cases ha : a.address with
  | some addr => rw [cylpaArpOlNwIpChangeWork_some hol hptr ha]; rfl
  | none => rw [cylpaArpOlNwIpChangeWork_none hol hptr ha]; exact (List.append_nil _).symm

theorem address_ne_zero {addr : UInt32} (ha : a.address = some addr) : addr ≠ 0 := by
  have := (Option.filter_eq_some_iff.mp ha).2
  simpa using this

end Run

/-! ### The firmware's table -/

/-- Whether the call succeeds. -/
def HostipCall.ok : HostipCall → Bool
  | .clearId _ ok => ok
  | .add _ ok => ok

/-- What a call makes of the table. -/
def HostipCall.apply (table : Finset UInt32) : HostipCall → Finset UInt32
  | .clearId ip true => table.erase ip
  | .add ip true => insert ip table
  | _ => table

/-- The offload and the firmware's table of host addresses. -/
structure ArpHost where
  arp : ArpWorld
  table : Finset UInt32

namespace ArpHost

/-- One run of the work. -/
def run (s : ArpHost) (a : IpChangeAnswers) : ArpHost where
  arp := (cylpaArpOlNwIpChangeWork a s.arp).1
  table := (cylpaArpOlNwIpChangeWork a s.arp).2.foldl HostipCall.apply s.table

/-- The state after some runs. -/
def after (s : ArpHost) (as : List IpChangeAnswers) : ArpHost := as.foldl run s

@[simp] theorem after_append (s : ArpHost) (as : List IpChangeAnswers) (a : IpChangeAnswers) :
    s.after (as ++ [a]) = (s.after as).run a := by
  simp [after]

/-- **Every address in the table is the recorded one.** -/
def Recorded (s : ArpHost) : Prop :=
  ∀ ip ∈ s.table, s.arp.ol.map ArpOl.ipAddress = some ip

/-- No removal of an address the table holds fails in the run. -/
def Clears (s : ArpHost) (a : IpChangeAnswers) : Prop :=
  ∀ ip, .clearId ip false ∈ (cylpaArpOlNwIpChangeWork a s.arp).2 → ip ∉ s.table

/-- The record after an initialisation, as long as it is right: the table holds the recorded
address at most. -/
structure Inv (s : ArpHost) (arpOl : ArpOl) : Prop where
  ol : s.arp.ol = some arpOl
  ptr : arpOl.olInfoPtr = true
  recorded : ∀ ip ∈ s.table, ip = arpOl.ipAddress
  notNull : 0 ∉ s.table

theorem Inv.table_eq {s : ArpHost} {arpOl : ArpOl} (h : s.Inv arpOl) :
    s.table = ∅ ∨ s.table = {arpOl.ipAddress} := by
  rw [← Finset.subset_singleton_iff]
  exact fun ip hip => Finset.mem_singleton.mpr (h.recorded ip hip)

section Run

variable {s : ArpHost} {a : IpChangeAnswers} {arpOl : ArpOl}

/-- What is left in the table before the address found is added: nothing, if the recorded one was
removed. -/
def cleared (s : ArpHost) (a : IpChangeAnswers) (old : UInt32) : Finset UInt32 :=
  if a.address.getD 0 ≠ old ∧ a.clearId = true then ∅ else s.table

theorem Inv.foldl_clearCalls (h : s.Inv arpOl) :
    (clearCalls a arpOl.ipAddress (a.address.getD 0)).foldl HostipCall.apply s.table =
      s.cleared a arpOl.ipAddress := by
  unfold clearCalls cleared
  by_cases hne : a.address.getD 0 ≠ arpOl.ipAddress
  · rw [if_pos hne]
    cases hc : a.clearId with
    | false => rw [if_neg (by simp)]; rfl
    | true =>
        rw [if_pos ⟨hne, rfl⟩]
        rcases h.table_eq with ht | ht <;> simp [HostipCall.apply, ht]
  · rw [if_neg hne, if_neg fun hc => hne hc.1]
    rfl

/-- **The table after a run.** -/
theorem Inv.run_table (h : s.Inv arpOl) : (s.run a).table =
    if a.add = true then a.address.toList.foldr insert (s.cleared a arpOl.ipAddress)
    else s.cleared a arpOl.ipAddress := by
  have htable : (s.run a).table =
      (a.address.toList.map fun ip => HostipCall.add ip a.add).foldl HostipCall.apply
        (s.cleared a arpOl.ipAddress) := by
    rw [run, cylpaArpOlNwIpChangeWork_calls h.ol h.ptr, List.foldl_append, h.foldl_clearCalls]
  rw [htable]
  cases a.address with
  | none => simp
  | some ip => cases a.add <;> rfl

theorem Inv.mem_run_table (h : s.Inv arpOl) {ip : UInt32} : ip ∈ (s.run a).table ↔
    (a.add = true ∧ a.address = some ip) ∨ ip ∈ s.cleared a arpOl.ipAddress := by
  rw [h.run_table]
  cases ha : a.address with
  | none => simp
  | some addr => cases a.add <;> simp [eq_comm]

theorem cleared_subset (old : UInt32) : s.cleared a old ⊆ s.table := by
  unfold cleared
  split
  · exact Finset.empty_subset _
  · exact Finset.Subset.refl _

/-- The record is right after a run exactly if what is left in the table is the address found. -/
theorem Inv.recorded_run_iff (h : s.Inv arpOl) :
    (s.run a).Recorded ↔ ∀ ip ∈ s.cleared a arpOl.ipAddress, ip = a.address.getD 0 := by
  have hol : (s.run a).arp.ol = some { arpOl with ipAddress := a.address.getD 0 } :=
    cylpaArpOlNwIpChangeWork_ol h.ol h.ptr
  unfold Recorded
  rw [hol]
  simp only [h.mem_run_table, Option.map_some, Option.some.injEq]
  refine ⟨fun hr ip hip => (hr ip (.inr hip)).symm, fun hc ip hip => ?_⟩
  rcases hip with ⟨-, ha⟩ | hip
  · simp [ha]
  · exact (hc ip hip).symm

/-- No removal fails exactly if so. -/
theorem Inv.clears_iff (h : s.Inv arpOl) :
    s.Clears a ↔ ∀ ip ∈ s.cleared a arpOl.ipAddress, ip = a.address.getD 0 := by
  unfold Clears cleared
  rw [cylpaArpOlNwIpChangeWork_calls h.ol h.ptr]
  unfold clearCalls
  by_cases hne : a.address.getD 0 ≠ arpOl.ipAddress
  · cases hc : a.clearId with
    | true => simp [hne]
    | false =>
        rcases h.table_eq with ht | ht <;> simp [ht, hne, Ne.symm hne]
  · rcases h.table_eq with ht | ht
    · simp [ht]
    · simp [ht, not_not.mp hne]

/-- **The record stays right** if no removal fails. -/
theorem Inv.run (h : s.Inv arpOl) (hc : s.Clears a) :
    (s.run a).Inv { arpOl with ipAddress := a.address.getD 0 } where
  ol := cylpaArpOlNwIpChangeWork_ol h.ol h.ptr
  ptr := h.ptr
  recorded ip hip := by
    rcases h.mem_run_table.mp hip with ⟨-, ha⟩ | hip
    · simp [ha]
    · exact h.clears_iff.mp hc ip hip
  notNull hzero := by
    rcases h.mem_run_table.mp hzero with ⟨-, ha⟩ | hzero
    · exact address_ne_zero ha rfl
    · exact h.notNull (cleared_subset _ hzero)

/-- **A run whose calls all succeed** leaves the current address alone in the table. -/
theorem Inv.run_table_of_ok (h : s.Inv arpOl)
    (hok : ∀ c ∈ (cylpaArpOlNwIpChangeWork a s.arp).2, c.ok = true) :
    (s.run a).table = a.address.toList.toFinset := by
  rw [cylpaArpOlNwIpChangeWork_calls h.ol h.ptr] at hok
  have hcleared : s.cleared a arpOl.ipAddress ⊆ a.address.toList.toFinset := by
    unfold cleared
    split
    · exact Finset.empty_subset _
    · rename_i hnot
      by_cases hne : a.address.getD 0 ≠ arpOl.ipAddress
      · have hclear : a.clearId = true :=
          hok (.clearId arpOl.ipAddress a.clearId)
            (List.mem_append_left _ (by simp [clearCalls, hne]))
        exact absurd ⟨hne, hclear⟩ hnot
      · intro ip hip
        have hip' : ip = a.address.getD 0 := (h.recorded ip hip).trans (not_not.mp hne).symm
        cases ha : a.address with
        | some addr => simpa [ha] using hip'
        | none =>
            rw [ha] at hip'
            exact absurd hip (hip' ▸ h.notNull)
  rw [h.run_table]
  cases ha : a.address with
  | none =>
      rw [ha] at hcleared
      have : s.cleared a arpOl.ipAddress = ∅ := Finset.subset_empty.mp (by simpa using hcleared)
      simp [this]
  | some addr =>
      rw [ha] at hcleared
      have hadd : a.add = true :=
        hok (.add addr a.add) (List.mem_append_right _ (by simp [ha]))
      rw [if_pos hadd]
      have hsub : s.cleared a arpOl.ipAddress ⊆ {addr} := by simpa using hcleared
      simp only [Option.toList_some, List.foldr_cons, List.foldr_nil, List.toFinset_cons,
        List.toFinset_nil, insert_empty_eq]
      exact Finset.Subset.antisymm
        (Finset.insert_subset (Finset.mem_singleton_self addr) hsub) (by simp)

end Run

end ArpHost

/-! ### After an initialisation -/

section Init

variable {olInfo : OlInfo} {w w' : ArpWorld} {arpOl : ArpOl}

/-- A power-mode notification changes the state of the context, not the record or the retries. -/
theorem cylpaArpOlPm_state {st : OlPmSt} (hol : w.ol = some arpOl)
    (hpm : cylpaArpOlPm olInfo w st = some w') :
    w'.dhcpRetryCount = w.dhcpRetryCount ∧
      ∃ state, w'.ol = some { arpOl with state := state } := by
  have same : ∀ {w' : ArpWorld}, some w = some w' → w'.dhcpRetryCount = w.dhcpRetryCount ∧
      ∃ state, w'.ol = some { arpOl with state := state } := by
    intro w' e
    cases e
    exact ⟨rfl, arpOl.state, hol⟩
  simp only [cylpaArpOlPm, hol] at hpm
  split at hpm
  · cases hpm
  split at hpm
  · exact same hpm
  split at hpm
  · exact same hpm
  split at hpm
  · exact same hpm
  by_cases hst : (if st = .awake then ArpOlConfigState.awake else .goingToSleep) = arpOl.state
  · rw [if_pos hst] at hpm
    exact same hpm
  · rw [if_neg hst] at hpm
    cases hpm
    refine ⟨?_, _, rfl⟩
    dsimp only
    split <;> rfl

/-- **Initialising** clears the context, not the retries. -/
theorem cylpaArpOlInit_state {cfg : ArpOlCfg} {r : ℤ} (hol : w.ol = some arpOl)
    (hinit : cylpaArpOlInit (some olInfo) (some cfg) w = some (r, w')) :
    w'.dhcpRetryCount = w.dhcpRetryCount ∧
      ∃ state, w'.ol = some ⟨some cfg, true, 0, state⟩ := by
  simp only [cylpaArpOlInit, hol] at hinit
  split at hinit
  · cases hinit
    exact ⟨rfl, _, rfl⟩
  · obtain ⟨w₁, hpm, he⟩ := Option.map_eq_some_iff.mp hinit
    cases he
    have hkeeps := cylpaArpOlPm_state rfl hpm
    exact hkeeps

/-- The record is right after an initialisation, which empties the table. -/
theorem ArpHost.inv_init {cfg : ArpOlCfg} {r : ℤ}
    (hinit : cylpaArpOlInit (some olInfo) (some cfg) w = some (r, w')) (hol : w.ol ≠ none) :
    ∃ arpOl, ArpHost.Inv ⟨w', ∅⟩ arpOl := by
  obtain ⟨arpOl, harp⟩ := Option.ne_none_iff_exists'.mp hol
  obtain ⟨-, state, hol'⟩ := cylpaArpOlInit_state harp hinit
  exact ⟨_, hol', rfl, by simp, by simp⟩

open ArpHost Runs in
/-- **The firmware answers for the recorded address alone**, after an initialisation and any runs
of the work: every address in its table has been the recorded one throughout exactly if no removal
of an address the table held has failed.  As long as none has, a run whose calls all succeed leaves
the current address alone in the table, or nothing if there is none. -/
theorem hostip_recorded_iff {cfg : ArpOlCfg} {r : ℤ} (hol : w.ol ≠ none)
    (hinit : cylpaArpOlInit (some olInfo) (some cfg) w = some (r, w'))
    (as : List IpChangeAnswers) :
    (Throughout (fun xs => (ArpHost.after ⟨w', ∅⟩ xs).Recorded) as ↔
      Throughout (fun xs => ∀ ys a, xs = ys ++ [a] → (ArpHost.after ⟨w', ∅⟩ ys).Clears a) as) ∧
    ∀ a, Throughout (fun xs => ∀ ys a, xs = ys ++ [a] → (ArpHost.after ⟨w', ∅⟩ ys).Clears a) as →
      (∀ c ∈ (cylpaArpOlNwIpChangeWork a (ArpHost.after ⟨w', ∅⟩ as).arp).2, c.ok = true) →
      (ArpHost.after ⟨w', ∅⟩ (as ++ [a])).table = a.address.toList.toFinset := by
  have hinv : ∀ xs a, (∃ arpOl, Inv (ArpHost.after ⟨w', ∅⟩ xs) arpOl) → True →
      (∀ ys a', xs ++ [a] = ys ++ [a'] → (ArpHost.after ⟨w', ∅⟩ ys).Clears a') →
      ∃ arpOl, Inv (ArpHost.after ⟨w', ∅⟩ (xs ++ [a])) arpOl := by
    rintro xs a ⟨arpOl, hI⟩ - hC
    rw [after_append]
    exact ⟨_, hI.run (forall_concat_iff.mp hC)⟩
  refine ⟨throughout_iff_of_invariant (A := fun _ => True) (fun _ _ => trivial)
    (inv_init hinit hol) ?_ (fun xs a hI _ => ?_) hinv, fun a hC hok => ?_⟩
  · exact ⟨fun _ ys a e => absurd e (by simp), fun _ ip hip => absurd hip (by simp [after])⟩
  · obtain ⟨arpOl, hI⟩ := hI
    rw [forall_concat_iff, after_append, hI.recorded_run_iff, hI.clears_iff]
  · obtain ⟨arpOl, hI⟩ := invariant_of_throughout (A := fun _ => True) (fun _ _ => trivial)
      (inv_init hinit hol) hinv hC
    rw [after_append]
    exact hI.run_table_of_ok hok

end Init

/-- A run that finds the address, and succeeds in everything. -/
def IpChangeAnswers.found (ip : UInt32) : IpChangeAnswers := ⟨some ip, true, true, .whdSuccess⟩

/-- A run that finds no address; `clearId` says whether the recorded one can be removed. -/
def IpChangeAnswers.lost (clearId : Bool) : IpChangeAnswers := ⟨none, clearId, true, .whdSuccess⟩

/-- An address that comes and goes. -/
theorem hostip_recorded_come_and_go :
    ∃ w', cylpaArpOlInit (some ⟨some 1, some 1, some 1, 0⟩) (some ⟨1, 1, 60⟩) .boot =
        some (resultOk, w') ∧
      (Runs.Throughout (fun xs => (ArpHost.after ⟨w', ∅⟩ xs).Recorded) [.found 7, .lost true] ↔
        Runs.Throughout
          (fun xs => ∀ ys a, xs = ys ++ [a] → (ArpHost.after ⟨w', ∅⟩ ys).Clears a)
          [.found 7, .lost true]) :=
  have hinit : ∃ w', cylpaArpOlInit (some ⟨some 1, some 1, some 1, 0⟩) (some ⟨1, 1, 60⟩) .boot =
      some (resultOk, w') := ⟨_, rfl⟩
  hinit.imp fun _ h => ⟨h, (hostip_recorded_iff (by decide) h _).1⟩

/-- The address is lost and cannot be removed: the firmware goes on answering for it, and no
record of it is left. -/
theorem hostip_forgotten :
    ∃ w', cylpaArpOlInit (some ⟨some 1, some 1, some 1, 0⟩) (some ⟨1, 1, 60⟩) .boot =
        some (resultOk, w') ∧
      7 ∈ (ArpHost.after ⟨w', ∅⟩ [.found 7, .lost false]).table ∧
      ¬ (ArpHost.after ⟨w', ∅⟩ [.found 7, .lost false]).Recorded :=
  ⟨_, rfl, by decide, fun h => absurd (h 7 (by decide)) (by decide)⟩

end Lpa
