import Lpa.Common.Bytes
import Lpa.Support.WriteRing
import Mathlib.Data.List.GetD

/-!
# Keepalive — the table of connections

`cy_tko_ol_cfg` holds the connections to keep alive.  `cylpa_tko_ol_init` copies a whole table into
it, and `cylpa_tko_ol_update_config` writes one connection into the slot `cy_tko_ol_cfg_index`,
which comes round when all are written.  The index is that of the updates: a table copied over
leaves it where it was.

* `tkoTableInv_step`: any call keeps the table so, whatever the index.
* `tkoTable_recent`: the table holds the connections updated last, since the latest copy.
-/

namespace Lpa

/-- `MAX_TKO`, which the driver defines; an index is a `uint8_t`. -/
structure MaxTko where
  val : ℕ
  pos : 0 < val
  lt : val < 256

/-- `cy_tko_ol_connect_t`. -/
structure CyTkoOlConnect where
  localPort : UInt16
  remotePort : UInt16
  remoteIp : Vector UInt8 16
deriving DecidableEq

/-- `cy_tko_ol_cfg_t`. -/
structure CyTkoOlCfg (max : ℕ) where
  interval : UInt16
  retryInterval : UInt16
  retryCount : UInt16
  ports : Vector CyTkoOlConnect max

/-- The intervals. -/
def CyTkoOlCfg.params {max : ℕ} (cfg : CyTkoOlCfg max) : UInt16 × UInt16 × UInt16 :=
  (cfg.interval, cfg.retryInterval, cfg.retryCount)

/-- The memory of a string: its characters, and `NUL` from there on. -/
def nulPadded (s : Bytes) : Vector UInt8 16 := Vector.ofFn fun i => s.getD i 0

/-- The string in some memory, if it ends there. -/
def cString (v : Vector UInt8 16) : Option Bytes :=
  if 0 ∈ v.toList then some (v.toList.takeWhile (· ≠ 0)) else none

/-- `cy_tko_ol_cfg` and `cy_tko_ol_cfg_index`. -/
structure TkoTable (max : MaxTko) where
  cfg : CyTkoOlCfg max.val
  index : UInt8

/-- An address as it is given: at most 15 characters. -/
structure IpString where
  chars : Bytes
  length_le : chars.length ≤ 15
  ne_nul : (0 : UInt8) ∉ chars

namespace TkoTable

variable {max : MaxTko}

/-- The globals of a program just started. -/
def boot (max : MaxTko) : TkoTable max where
  cfg :=
    { interval := 0
      retryInterval := 0
      retryCount := 0
      ports := (Vector.replicate max.val ⟨0, 0, nulPadded []⟩).set 0
        ⟨0, 0, nulPadded [0x30, 0x2e, 0x30, 0x2e, 0x30, 0x2e, 0x30]⟩ max.pos }
  index := 0

/-- What `cylpa_tko_ol_init` makes of the table, with a configuration. -/
def cylpaTkoOlInit (t : TkoTable max) (cfg : CyTkoOlCfg max.val) : TkoTable max :=
  { t with cfg := cfg }

/-- The slot that is written next, once the index has come round. -/
def nextIndex (t : TkoTable max) : UInt8 := if t.index.toNat = max.val then 0 else t.index

/-- `cylpa_tko_ol_update_config`; it has no result if it writes past the table, or past a slot's
address. -/
def cylpaTkoOlUpdateConfig (t : TkoTable max) (remoteIp : Option Bytes)
    (remotePort localPort : UInt16) (cfg : Option (CyTkoOlCfg max.val)) : Option (TkoTable max) :=
  match remoteIp, cfg with
  | some remoteIp, some cfg =>
    if remotePort = 0 ∨ localPort = 0 then some t
    else
      let index := t.nextIndex
      if h : index.toNat < max.val ∧ remoteIp.length ≤ 16 then some
        { cfg :=
            { interval := cfg.interval
              retryInterval := cfg.retryInterval
              retryCount := cfg.retryCount
              ports := t.cfg.ports.set index.toNat ⟨localPort, remotePort, nulPadded remoteIp⟩ h.1 }
          index := index + 1 }
      else none
  | _, _ => some t

end TkoTable

/-! ### Calls -/

/-- A call of one of the two functions. -/
inductive TkoCall (max : MaxTko) where
  | init (cfg : CyTkoOlCfg max.val)
  | updateConfig (remoteIp : Option IpString) (remotePort localPort : UInt16)
      (cfg : Option (CyTkoOlCfg max.val))

/-- A connection, as it is given. -/
structure TkoConnection where
  remoteIp : IpString
  remotePort : UInt16
  localPort : UInt16

namespace TkoCall

variable {max : MaxTko}

/-- The table after a call. -/
def step (t : TkoTable max) : TkoCall max → Option (TkoTable max)
  | init cfg => some (t.cylpaTkoOlInit cfg)
  | updateConfig remoteIp remotePort localPort cfg =>
    t.cylpaTkoOlUpdateConfig (remoteIp.map IpString.chars) remotePort localPort cfg

/-- The connections updated since the latest table was copied, the latest first, and the intervals
that came last. -/
structure History where
  recent : List TkoConnection
  params : UInt16 × UInt16 × UInt16

/-- One more call; an update is valid with both pointers and both ports. -/
def History.next (h : History) : TkoCall max → History
  | init cfg => ⟨[], cfg.params⟩
  | updateConfig (some remoteIp) remotePort localPort (some cfg) =>
    if remotePort = 0 ∨ localPort = 0 then h
    else ⟨⟨remoteIp, remotePort, localPort⟩ :: h.recent, cfg.params⟩
  | updateConfig _ _ _ _ => h

/-- What the calls amount to, from the start of the program on. -/
def history (calls : List (TkoCall max)) : History := calls.foldl History.next ⟨[], 0, 0, 0⟩

theorem history_concat (calls : List (TkoCall max)) (call : TkoCall max) :
    history (calls ++ [call]) = (history calls).next call := by
  simp [history]

end TkoCall

/-! ### What the table holds -/

section Recent

variable {max : MaxTko} {t t' : TkoTable max} {h : TkoCall.History}

/-- A slot holds a connection, the whole of its address included. -/
structure CyTkoOlConnect.Stores (port : CyTkoOlConnect) (c : TkoConnection) : Prop where
  localPort : port.localPort = c.localPort
  remotePort : port.remotePort = c.remotePort
  remoteIp : cString port.remoteIp = some c.remoteIp.chars

/-- What is written into a slot. -/
def TkoConnection.port (c : TkoConnection) : CyTkoOlConnect :=
  ⟨c.localPort, c.remotePort, nulPadded c.remoteIp.chars⟩

theorem toList_nulPadded {s : Bytes} (hs : s.length ≤ 16) :
    (nulPadded s).toList = s ++ List.replicate (16 - s.length) 0 := by
  refine List.ext_getElem (by simp; omega) fun i hi _ => ?_
  simp only [nulPadded, Vector.toList_ofFn, List.getElem_ofFn, List.getElem_append]
  split
  · rw [List.getD_eq_getElem _ _ ‹_›]
  · rw [List.getElem_replicate, List.getD_eq_default _ _ (by omega)]

/-- At most 15 characters end within the memory of a slot. -/
theorem cString_nulPadded (ip : IpString) : cString (nulPadded ip.chars) = some ip.chars := by
  have hlen := ip.length_le
  have hpos : 16 - ip.chars.length = (15 - ip.chars.length) + 1 := by omega
  have hne : ∀ x ∈ ip.chars, (decide (x ≠ 0)) = true := by
    intro x hx
    exact decide_eq_true fun h0 => ip.ne_nul (h0 ▸ hx)
  rw [cString, toList_nulPadded (by omega), hpos, List.replicate_succ, if_pos (by simp),
    List.takeWhile_append_of_pos hne]
  simp

theorem TkoConnection.stores_port (c : TkoConnection) : c.port.Stores c :=
  ⟨rfl, rfl, cString_nulPadded c.remoteIp⟩

/-- The table is written round and round. -/
structure TkoTableInv (t : TkoTable max) (h : TkoCall.History) : Prop where
  holds : WriteRing.Holds t.cfg.ports t.index.toNat (h.recent.map TkoConnection.port)
  params : t.cfg.params = h.params

theorem tkoTableInv_boot : TkoTableInv (.boot max) ⟨[], 0, 0, 0⟩ :=
  ⟨WriteRing.holds_nil (Nat.zero_le _), rfl⟩

theorem toNat_nextIndex (t : TkoTable max) :
    t.nextIndex.toNat = WriteRing.next max.val t.index.toNat := by
  unfold TkoTable.nextIndex WriteRing.next
  split <;> rfl

/-- **A valid update** writes the connection into the next slot. -/
theorem update_valid (hlt : t.nextIndex.toNat < max.val) {c : TkoConnection}
    {cfg : CyTkoOlCfg max.val} (hports : ¬ (c.remotePort = 0 ∨ c.localPort = 0)) :
    t.cylpaTkoOlUpdateConfig (some c.remoteIp.chars) c.remotePort c.localPort (some cfg) = some
      { cfg :=
          { interval := cfg.interval
            retryInterval := cfg.retryInterval
            retryCount := cfg.retryCount
            ports := t.cfg.ports.set t.nextIndex.toNat c.port hlt }
        index := t.nextIndex + 1 } := by
  have hlen := c.remoteIp.length_le
  rw [TkoTable.cylpaTkoOlUpdateConfig, if_neg hports, dif_pos ⟨hlt, by omega⟩]
  rfl

/-- The table after a valid update. -/
theorem tkoTableInv_update (hinv : TkoTableInv t h) {c : TkoConnection} {cfg : CyTkoOlCfg max.val}
    (hports : ¬ (c.remotePort = 0 ∨ c.localPort = 0)) :
    ∃ t', t.cylpaTkoOlUpdateConfig (some c.remoteIp.chars) c.remotePort c.localPort (some cfg) =
      some t' ∧ TkoTableInv t' ⟨c :: h.recent, cfg.params⟩ := by
  have hnext := WriteRing.next_lt max.pos hinv.holds.index_le
  have hlt : t.nextIndex.toNat < max.val := by rwa [toNat_nextIndex]
  refine ⟨_, update_valid hlt hports, ?_, rfl⟩
  have hindex : (t.nextIndex + 1).toNat = WriteRing.next max.val t.index.toNat + 1 := by
    have hmax := max.lt
    rw [UInt8.toNat_add, UInt8.toNat_one, Nat.mod_eq_of_lt (by omega), toNat_nextIndex]
  rw [hindex]
  simp only [toNat_nextIndex]
  exact WriteRing.holds_write hinv.holds c.port hnext

/-- **Any call** has a result, and keeps the table so. -/
theorem tkoTableInv_step (hinv : TkoTableInv t h) (call : TkoCall max) :
    ∃ t', call.step t = some t' ∧ TkoTableInv t' (h.next call) := by
  cases call with
  | init cfg => exact ⟨_, rfl, WriteRing.holds_nil hinv.holds.index_le, rfl⟩
  | updateConfig remoteIp remotePort localPort cfg =>
      cases remoteIp with
      | none => exact ⟨t, rfl, hinv⟩
      | some remoteIp =>
          cases cfg with
          | none => exact ⟨t, rfl, hinv⟩
          | some cfg =>
              by_cases hports : remotePort = 0 ∨ localPort = 0
              · refine ⟨t, if_pos hports, ?_⟩
                rwa [TkoCall.History.next, if_pos hports]
              · rw [TkoCall.History.next, if_neg hports]
                exact tkoTableInv_update (c := ⟨remoteIp, remotePort, localPort⟩) hinv hports

/-- **The table holds the most recent connections**, each in a slot of its own, and the latest
intervals. -/
structure TkoTable.Recent (t : TkoTable max) (h : TkoCall.History) : Prop where
  index_le : t.index.toNat ≤ max.val
  connections : ∃ slot : Fin (min max.val h.recent.length) → Fin max.val,
    Function.Injective slot ∧
      ∀ j, ∃ c, h.recent[j.val]? = some c ∧ t.cfg.ports[slot j].Stores c
  params : t.cfg.params = h.params

theorem TkoTableInv.recent (hinv : TkoTableInv t h) : t.Recent h := by
  obtain ⟨slot, hinj, hslot⟩ := hinv.holds.distinct
  have hlen : min max.val (h.recent.map TkoConnection.port).length =
      min max.val h.recent.length := by rw [List.length_map]
  refine ⟨hinv.holds.index_le, ⟨fun j => slot (j.cast hlen.symm), fun i j hij => ?_, fun j => ?_⟩,
    hinv.params⟩
  · exact Fin.cast_injective _ (hinj hij)
  · have hport := hslot (j.cast hlen.symm)
    rw [List.getElem?_map] at hport
    obtain ⟨c, hc, hcport⟩ := Option.map_eq_some_iff.mp hport
    exact ⟨c, hc, hcport ▸ c.stores_port⟩

/-- A run keeps the table so. -/
theorem tkoTableInv_run (hinv : TkoTableInv t h) (calls : List (TkoCall max)) :
    ∃ t', calls.foldlM TkoCall.step t = some t' ∧
      TkoTableInv t' (calls.foldl TkoCall.History.next h) := by
  induction calls generalizing t h with
  | nil => exact ⟨t, rfl, hinv⟩
  | cons call calls ih =>
      obtain ⟨t₁, hstep, hinv₁⟩ := tkoTableInv_step hinv call
      obtain ⟨t', hrun, hinv'⟩ := ih hinv₁
      refine ⟨t', ?_, hinv'⟩
      rw [List.foldlM_cons, hstep]
      exact hrun

/-- A call without both pointers and both ports changes nothing. -/
theorem update_invalid (t : TkoTable max) {remoteIp : Option IpString}
    {remotePort localPort : UInt16} {cfg : Option (CyTkoOlCfg max.val)}
    (hcall : remoteIp = none ∨ remotePort = 0 ∨ localPort = 0 ∨ cfg = none) :
    TkoCall.step t (.updateConfig remoteIp remotePort localPort cfg) = some t := by
  cases remoteIp with
  | none => rfl
  | some remoteIp =>
      cases cfg with
      | none => rfl
      | some cfg => exact if_pos (by simpa using hcall)

/-- **The table of every run** holds the most recent connections: no call of it writes outside a
slot, and one without both pointers and both ports changes nothing. -/
theorem tkoTable_recent (max : MaxTko) (calls : List (TkoCall max)) :
    ∃ t, calls.foldlM TkoCall.step (.boot max) = some t ∧ t.Recent (TkoCall.history calls) ∧
      ∀ remoteIp remotePort localPort cfg,
        remoteIp = none ∨ remotePort = 0 ∨ localPort = 0 ∨ cfg = none →
          TkoCall.step t (.updateConfig remoteIp remotePort localPort cfg) = some t := by
  obtain ⟨t, hrun, hinv⟩ := tkoTableInv_run tkoTableInv_boot calls
  exact ⟨t, hrun, hinv.recent, fun _ _ _ _ hcall => update_invalid t hcall⟩

end Recent

end Lpa
