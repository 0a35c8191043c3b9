import Lpa.Keepalive.TkoConfig
import Lpa.Support.Keyed
import Lpa.Support.Memory

/-!
# Keepalive — the table of connections as memory

`cylpa_tko_ol_update_config` copies the address of a connection with the length of its string, into
the 16 bytes a slot has for it.  The connections are bytes here, slot after slot, and the copy goes
on into the next slot if the string is longer.

* `keepsToSlot_iff`: an update changes its own slot only, and leaves a string in it, exactly if the
  address has at most 15 characters.
* `update_refines`: then it is the update of `TkoConfig`.
* `slot_update`, `current_update`: the slots after one, and the slot the next one is for.
-/

namespace Lpa

/-- `sizeof(cy_tko_ol_connect_t)`. -/
def sizeofTkoConnect : ℕ := 20

/-- A connection in memory: `local_port`, `remote_port`, `remote_ip`. -/
def CyTkoOlConnect.toBytes (port : CyTkoOlConnect) : Bytes :=
  le16 port.localPort ++ le16 port.remotePort ++ port.remoteIp.toList

/-- `cy_tko_ol_cfg`, the connections as memory, and `cy_tko_ol_cfg_index`. -/
structure TkoMemory (max : MaxTko) where
  interval : UInt16
  retryInterval : UInt16
  retryCount : UInt16
  ports : Vector UInt8 (max.val * sizeofTkoConnect)
  index : UInt8
  index_le : index.toNat ≤ max.val

/-- The slot at `off` is cleared, and the connection is written into it. -/
def writePort {n : ℕ} (ports : Vector UInt8 n) (off : ℕ) (remoteIp : Bytes)
    (remotePort localPort : UInt16) : Option (Vector UInt8 n) := do
  let ports ← Memory.memset ports off 0 sizeofTkoConnect
  let ports ← Memory.memcpy ports (off + 4) remoteIp
  let ports ← Memory.memcpy ports (off + 2) (le16 remotePort)
  Memory.memcpy ports off (le16 localPort)

namespace TkoMemory

variable {max : MaxTko}

/-- The slot that is written next, once the index has come round. -/
def nextIndex (t : TkoMemory max) : UInt8 := if t.index.toNat = max.val then 0 else t.index

theorem nextIndex_lt (t : TkoMemory max) : t.nextIndex.toNat < max.val := by
  have := max.pos
  have := t.index_le
  unfold nextIndex
  split
  · simpa
  · omega

theorem toNat_nextIndex_add_one (t : TkoMemory max) :
    (t.nextIndex + 1).toNat = t.nextIndex.toNat + 1 := by
  have := t.nextIndex_lt
  have := max.lt
  rw [UInt8.toNat_add, UInt8.toNat_one]
  omega

/-- `cylpa_tko_ol_update_config`; it has no result if it writes past the table. -/
def cylpaTkoOlUpdateConfig (t : TkoMemory max) (remoteIp : Option Bytes)
    (remotePort localPort : UInt16) (cfg : Option (CyTkoOlCfg max.val)) : Option (TkoMemory max) :=
  match remoteIp, cfg with
  | some remoteIp, some cfg =>
    if remotePort = 0 ∨ localPort = 0 then some t
    else
      (writePort t.ports (t.nextIndex.toNat * sizeofTkoConnect) remoteIp remotePort localPort).map
        fun ports =>
          { interval := cfg.interval
            retryInterval := cfg.retryInterval
            retryCount := cfg.retryCount
            ports := ports
            index := t.nextIndex + 1
            index_le := t.toNat_nextIndex_add_one ▸ t.nextIndex_lt }
  | _, _ => some t

theorem slot_le (k : Fin max.val) :
    k.val * sizeofTkoConnect + sizeofTkoConnect ≤ max.val * sizeofTkoConnect := by
  rw [← Nat.succ_mul]
  exact Nat.mul_le_mul_right _ k.isLt

theorem slot_lt (k : Fin max.val) {i : ℕ} (hi : i < sizeofTkoConnect) :
    k.val * sizeofTkoConnect + i < max.val * sizeofTkoConnect :=
  Nat.lt_of_lt_of_le (Nat.add_lt_add_left hi _) (slot_le k)

/-- The bytes of a slot. -/
def slot (t : TkoMemory max) (k : Fin max.val) : Bytes :=
  List.ofFn fun i : Fin sizeofTkoConnect =>
    have := slot_lt k i.isLt
    t.ports[k.val * sizeofTkoConnect + i.val]

end TkoMemory

/-! ### The writes into a slot -/

section WritePort

variable {n : ℕ} {ports ports' : Vector UInt8 n} {off : ℕ} {remoteIp : Bytes}
variable {remotePort localPort : UInt16}

theorem isSome_writePort_iff (hoff : off + sizeofTkoConnect ≤ n) :
    (writePort ports off remoteIp remotePort localPort).isSome ↔
      off + 4 + remoteIp.length ≤ n := by
  unfold sizeofTkoConnect at hoff
  constructor
  · intro h
    obtain ⟨ports', h⟩ := Option.isSome_iff_exists.mp h
    obtain ⟨p₁, -, h⟩ := Option.bind_eq_some_iff.mp h
    obtain ⟨p₂, h₂, -⟩ := Option.bind_eq_some_iff.mp h
    have hlast := Memory.isSome_memcpy_iff.mp (Option.isSome_of_mem h₂) (remoteIp.length - 1)
    omega
  · intro hlen
    obtain ⟨p₁, h₁⟩ := Memory.exists_memset ports (0 : UInt8) hoff
    obtain ⟨p₂, h₂⟩ := Memory.exists_memcpy p₁ hlen
    obtain ⟨p₃, h₃⟩ := Memory.exists_memcpy p₂
      (show off + 2 + (le16 remotePort).length ≤ n by rw [length_le16]; omega)
    obtain ⟨p₄, h₄⟩ := Memory.exists_memcpy p₃
      (show off + (le16 localPort).length ≤ n by rw [length_le16]; omega)
    have h : writePort ports off remoteIp remotePort localPort = some p₄ := by
      simp only [writePort, sizeofTkoConnect, h₁, h₂, h₃, h₄, Option.bind_eq_bind, Option.bind_some]
    rw [h]
    rfl

/-- **What is in memory** once a connection is written. -/
theorem getElem_writePort (h : writePort ports off remoteIp remotePort localPort = some ports')
    {j : ℕ} (hj : j < n) : ports'[j] =
      if off ≤ j ∧ j < off + 2 then (le16 localPort).getD (j - off) 0
      else if off + 2 ≤ j ∧ j < off + 4 then (le16 remotePort).getD (j - (off + 2)) 0
      else if off + 4 ≤ j ∧ j < off + 4 + remoteIp.length then remoteIp.getD (j - (off + 4)) 0
      else if off ≤ j ∧ j < off + sizeofTkoConnect then 0
      else ports[j] := by
  obtain ⟨p₁, h₁, h⟩ := Option.bind_eq_some_iff.mp h
  obtain ⟨p₂, h₂, h⟩ := Option.bind_eq_some_iff.mp h
  obtain ⟨p₃, h₃, h₄⟩ := Option.bind_eq_some_iff.mp h
  rw [Memory.getElem_memcpy (x := 0) h₄ hj, Memory.getElem_memcpy (x := 0) h₃ hj,
    Memory.getElem_memcpy (x := 0) h₂ hj, Memory.getElem_memset h₁ hj]
  rfl

end WritePort

/-! ### One update -/

/-- An update that is not turned down, with an address of any length. -/
structure TkoUpdate (max : MaxTko) where
  remoteIp : Bytes
  remotePort : UInt16
  localPort : UInt16
  cfg : CyTkoOlCfg max.val
  ne_nul : (0 : UInt8) ∉ remoteIp
  ports_ne : ¬ (remotePort = 0 ∨ localPort = 0)

/-- The connection of an update whose address has room. -/
def TkoUpdate.port {max : MaxTko} (u : TkoUpdate max) : CyTkoOlConnect :=
  ⟨u.localPort, u.remotePort, nulPadded u.remoteIp⟩

namespace TkoMemory

section Update

variable {max : MaxTko} {t t' : TkoMemory max} {u : TkoUpdate max}

/-- An update. -/
def update (t : TkoMemory max) (u : TkoUpdate max) : Option (TkoMemory max) :=
  t.cylpaTkoOlUpdateConfig (some u.remoteIp) u.remotePort u.localPort (some u.cfg)

/-- The slot an update is written into. -/
def current (t : TkoMemory max) : Fin max.val := ⟨t.nextIndex.toNat, t.nextIndex_lt⟩

/-- **An update keeps to its slot**: no other changes, and a terminated address is left in it. -/
def KeepsToSlot (t : TkoMemory max) (u : TkoUpdate max) : Prop :=
  ∃ t', t.update u = some t' ∧ (∀ k, k ≠ t.current → t'.slot k = t.slot k) ∧
    0 ∈ (t'.slot t.current).drop 4

theorem update_eq_some (h : t.update u = some t') :
    writePort t.ports (t.nextIndex.toNat * sizeofTkoConnect) u.remoteIp u.remotePort u.localPort =
        some t'.ports ∧
      t'.index = t.nextIndex + 1 ∧
      (t'.interval, t'.retryInterval, t'.retryCount) = u.cfg.params := by
  rw [update, cylpaTkoOlUpdateConfig, if_neg u.ports_ne] at h
  obtain ⟨ports, hports, rfl⟩ := Option.map_eq_some_iff.mp h
  exact ⟨hports, rfl, rfl⟩

theorem isSome_update_iff : (t.update u).isSome ↔
    t.nextIndex.toNat * sizeofTkoConnect + 4 + u.remoteIp.length ≤
      max.val * sizeofTkoConnect := by
  rw [update, cylpaTkoOlUpdateConfig, if_neg u.ports_ne, Option.isSome_map]
  exact isSome_writePort_iff (slot_le t.current)

@[simp] theorem length_slot (t : TkoMemory max) (k : Fin max.val) :
    (t.slot k).length = sizeofTkoConnect := by
  simp [slot]

theorem getElem_slot {k : Fin max.val} {i : ℕ} (hi : i < (t.slot k).length)
    (hlt : k.val * sizeofTkoConnect + i < max.val * sizeofTkoConnect) :
    (t.slot k)[i] = t.ports[k.val * sizeofTkoConnect + i] := by
  simp [slot]

/-- **The other slots** are as they were, if the address fits in. -/
theorem slot_update_of_ne (h : t.update u = some t') (hlen : u.remoteIp.length ≤ 16)
    {k : Fin max.val} (hk : k ≠ t.current) : t'.slot k = t.slot k := by
  have hne : k.val ≠ t.nextIndex.toNat := fun e => hk (Fin.ext e)
  refine List.ext_getElem (by simp) fun i hi hi' => ?_
  have hlt := slot_lt k (length_slot t' k ▸ hi)
  rw [getElem_slot _ hlt, getElem_slot _ hlt, getElem_writePort (update_eq_some h).1]
  rw [length_slot] at hi
  unfold sizeofTkoConnect at hi ⊢
  rw [if_neg (by omega), if_neg (by omega), if_neg (by omega), if_neg (by omega)]

/-- The slot written. -/
theorem slot_update_current (h : t.update u = some t') (hlen : u.remoteIp.length ≤ 16) :
    t'.slot t.current = u.port.toBytes := by
  have hcur : t.current.val = t.nextIndex.toNat := rfl
  refine List.ext_getElem ?_ fun i hi hi' => ?_
  · rw [length_slot]
    simp [CyTkoOlConnect.toBytes, sizeofTkoConnect]
  · have hlt := slot_lt t.current (length_slot t' _ ▸ hi)
    rw [getElem_slot _ hlt, getElem_writePort (update_eq_some h).1,
      ← List.getD_eq_getElem _ 0 hi']
    rw [length_slot] at hi
    unfold sizeofTkoConnect at hi ⊢
    simp only [CyTkoOlConnect.toBytes, TkoUpdate.port, toList_nulPadded hlen]
    have h4 : (le16 u.localPort ++ le16 u.remotePort).length = 4 := rfl
    by_cases hlocal : i < 2
    · rw [if_pos (by omega), List.getD_append _ _ _ _ (by omega),
        List.getD_append _ _ _ _ hlocal]
      congr 1
      omega
    by_cases hremote : i < 4
    · rw [if_neg (by omega), if_pos (by omega), List.getD_append _ _ _ _ (by omega),
        List.getD_append_right _ _ _ _ (by rw [length_le16]; omega), length_le16]
      congr 1
      omega
    rw [if_neg (by omega), if_neg (by omega), List.getD_append_right _ _ _ _ (by omega), h4]
    by_cases hip : i < 4 + u.remoteIp.length
    · rw [if_pos (by omega), List.getD_append _ _ _ _ (by omega)]
      congr 1
      omega
    · rw [if_neg (by omega), if_pos (by omega), List.getD_append_right _ _ _ _ (by omega),
        List.getD_replicate _ (by omega)]

/-- With sixteen characters or more, no terminator is left. -/
theorem notMem_slot_update (h : t.update u = some t') (hlen : 16 ≤ u.remoteIp.length) :
    0 ∉ (t'.slot t.current).drop 4 := by
  intro hmem
  have hcur : t.current.val = t.nextIndex.toNat := rfl
  obtain ⟨i, hi, hzero⟩ := List.getElem_of_mem hmem
  rw [List.length_drop, length_slot] at hi
  have hlt : t.current.val * sizeofTkoConnect + (4 + i) < max.val * sizeofTkoConnect :=
    slot_lt t.current (by omega)
  rw [List.getElem_drop, getElem_slot _ hlt, getElem_writePort (update_eq_some h).1] at hzero
  unfold sizeofTkoConnect at hi hzero
  rw [if_neg (by omega), if_neg (by omega), if_pos (by omega),
    List.getD_eq_getElem _ _ (by omega)] at hzero
  exact u.ne_nul (hzero ▸ List.getElem_mem _)

theorem exists_update (t : TkoMemory max) (u : TkoUpdate max) (hlen : u.remoteIp.length ≤ 16) :
    ∃ t', t.update u = some t' := by
  have hle := slot_le t.current
  have hcur : t.current.val = t.nextIndex.toNat := rfl
  refine Option.isSome_iff_exists.mp (isSome_update_iff.mpr ?_)
  rw [← hcur]
  unfold sizeofTkoConnect at hle ⊢
  omega

/-- **An update keeps to its slot** exactly if the address has at most fifteen characters. -/
theorem keepsToSlot_iff : t.KeepsToSlot u ↔ u.remoteIp.length ≤ 15 := by
  constructor
  · rintro ⟨t', h, -, hmem⟩
    by_contra hlen
    exact notMem_slot_update h (by omega) hmem
  · intro hlen
    obtain ⟨t', h⟩ := exists_update t u (by omega)
    refine ⟨t', h, fun k hk => slot_update_of_ne h (by omega) hk, ?_⟩
    rw [slot_update_current h (by omega), CyTkoOlConnect.toBytes, List.drop_left' (by simp),
      TkoUpdate.port, toList_nulPadded (by omega)]
    simp
    omega

/-- The table as memory. -/
structure Represents (t : TkoMemory max) (table : TkoTable max) : Prop where
  params : (t.interval, t.retryInterval, t.retryCount) = table.cfg.params
  slots : ∀ k : Fin max.val, t.slot k = table.cfg.ports[k].toBytes
  index : t.index = table.index

/-- **Refinement**: an update whose address fits in does what it does to the table. -/
theorem update_refines {table : TkoTable max} (hrep : t.Represents table)
    (hlen : u.remoteIp.length ≤ 16) : ∃ t' table', t.update u = some t' ∧
      table.cylpaTkoOlUpdateConfig (some u.remoteIp) u.remotePort u.localPort (some u.cfg) =
        some table' ∧ t'.Represents table' := by
  obtain ⟨t', h⟩ := exists_update t u hlen
  obtain ⟨-, hindex, hparams⟩ := update_eq_some h
  have hnext : table.nextIndex = t.nextIndex := by
    unfold TkoTable.nextIndex nextIndex
    rw [hrep.index]
  have hlt : table.nextIndex.toNat < max.val := hnext ▸ t.nextIndex_lt
  have htable : table.cylpaTkoOlUpdateConfig (some u.remoteIp) u.remotePort u.localPort
      (some u.cfg) = some
        { cfg :=
            { interval := u.cfg.interval
              retryInterval := u.cfg.retryInterval
              retryCount := u.cfg.retryCount
              ports := table.cfg.ports.set table.nextIndex.toNat u.port hlt }
          index := table.nextIndex + 1 } := by
    rw [TkoTable.cylpaTkoOlUpdateConfig, if_neg u.ports_ne, dif_pos ⟨hlt, hlen⟩]
    rfl
  refine ⟨t', _, h, htable, hparams, fun k => ?_, hindex.trans (congrArg (· + 1) hnext.symm)⟩
  by_cases hk : k = t.current
  · subst hk
    rw [slot_update_current h hlen]
    simp [hnext, current]
  · have hne : table.nextIndex.toNat ≠ k.val := fun e => hk (Fin.ext (by rw [← e, hnext]; rfl))
    rw [slot_update_of_ne h hlen hk, hrep.slots]
    simp [Vector.getElem_set_ne, hne]

end Update

/-! ### The slots updates are for -/

section Slots

variable {max : MaxTko} {t t' : TkoMemory max} {u : TkoUpdate max}

/-- The slot after `k`. -/
def nextSlot (k : Fin max.val) : Fin max.val :=
  if h : k.val + 1 < max.val then ⟨k.val + 1, h⟩ else ⟨0, max.pos⟩

/-- Updates, each with the slot it is for, from `k` on. -/
def addressed (k : Fin max.val) : List (TkoUpdate max) → List (Fin max.val × TkoUpdate max)
  | [] => []
  | u :: us => (k, u) :: addressed (nextSlot k) us

theorem current_update (h : t.update u = some t') : t'.current = nextSlot t.current := by
  obtain ⟨-, hindex, -⟩ := update_eq_some h
  have hlt := t.nextIndex_lt
  have hnext := t.toNat_nextIndex_add_one
  have hcur : t.current.val = t.nextIndex.toNat := rfl
  refine Fin.ext ?_
  change (if t'.index.toNat = max.val then 0 else t'.index).toNat = _
  unfold nextSlot
  rw [hindex, hnext]
  split
  · rw [dif_neg (by omega)]
    rfl
  · rw [dif_pos (by omega), hnext]
    exact congrArg (· + 1) hcur.symm

/-- **The slots** after an update whose address fits in. -/
theorem slot_update (h : t.update u = some t') (hlen : u.remoteIp.length ≤ 16) :
    t'.slot = Keyed.apply Prod.fst (fun o _ => o.2.port.toBytes) t.slot (t.current, u) := by
  funext k
  by_cases hk : k = t.current
  · subst hk
    rw [slot_update_current h hlen, Keyed.apply, Function.update_self]
  · rw [slot_update_of_ne h hlen hk, Keyed.apply, Function.update_of_ne hk]

end Slots

end TkoMemory

end Lpa
