import Lpa.Keepalive.TkoMemory
import Lpa.Offload.Info
import Lpa.Support.Runs

/-!
# TLS offload — the table of connections

`cylpa_tlsoe_ol_update_config` and `cylpa_tlsoe_ol_set_socket_config` write the slot of an index
they are given, an `int` of which they test that it is not too large.  Both offloads' tables are
updated by calls in any order.

* `keepsToSlot_iff`: a call is turned down, or changes the slot of its index only, exactly if the
  index is not negative and there is a configuration to copy, where these matter.
* `connUpdates_iff`: every call of a run, on either table, keeps to its slot exactly if every one
  meets the condition for it; and then each slot is what the calls for it make of it.
-/

namespace Lpa

namespace TlsoeTable

/-- `cy_tlsoe_ol_connect_t`. -/
structure CyTlsoeOlConnect where
  interval : UInt16
  localPort : UInt16
  remotePort : UInt16
  remoteIp : Vector UInt8 16
  dataLen : UInt16
  data : Vector UInt8 2
  tlsSocket : Option Handle
  pattOffset : UInt16
  pattLen : UInt16
  wakepatt : Vector UInt8 128
deriving DecidableEq

end TlsoeTable

/-- `cy_tlsoe_ol_cfg`, of `MAX_TLSOE` slots, and `cy_tlsoe_ol_cfg_index`. -/
structure TlsoeTable (max : ℕ) where
  ports : Vector TlsoeTable.CyTlsoeOlConnect max
  index : UInt8
deriving DecidableEq

/-- A call of one of the two functions. -/
inductive TlsoeCall (max : ℕ) where
  | updateConfig (index : ℤ) (cfg : Option (Vector TlsoeTable.CyTlsoeOlConnect max))
      (socket : Option Handle)
  | setSocketConfig (index : ℤ) (localPort remotePort : UInt16) (remoteIp : Option UInt32)
      (interval : UInt16)

namespace TlsoeTable

variable {max : ℕ}

/-- `strcpy`. -/
def strcpy {n : ℕ} (dst : Vector UInt8 n) (src : Bytes) : Option (Vector UInt8 n) :=
  Memory.memcpy dst 0 (src ++ [0])

/-- The slot of an index. -/
def slotOf (max : ℕ) (index : ℤ) : Option (Fin max) :=
  if h : 0 ≤ index ∧ index < max then some ⟨index.toNat, by omega⟩ else none

/-- Writes through a pointer to the slot of `index`; there is no result in front of the table. -/
def writeSlot (t : TlsoeTable max) (index : ℤ)
    (f : Fin max → CyTlsoeOlConnect → Option CyTlsoeOlConnect) : Option (TlsoeTable max) :=
  (slotOf max index).bind fun k =>
    (f k t.ports[k]).map fun port => { t with ports := t.ports.set k port }

/-- `cylpa_tlsoe_ol_update_config`; it has no result if it reads through `NULL`. -/
def cylpaTlsoeOlUpdateConfig (t : TlsoeTable max) (index : ℤ)
    (cfg : Option (Vector CyTlsoeOlConnect max)) (socket : Option Handle) :
    Option (ℤ × TlsoeTable max) :=
  if index ≥ max then some (resultBadargs, t)
  else
    -- the slot is cleared first, and written over as a whole
    (t.writeSlot index fun k _ => cfg.map fun cfg => { cfg[k] with tlsSocket := socket }).map
      fun t => (resultOk, t)

/-- `cylpa_tlsoe_ol_set_socket_config`; `ntoa` is the network stack's. -/
def cylpaTlsoeOlSetSocketConfig (ntoa : UInt32 → Bytes) (t : TlsoeTable max) (index : ℤ)
    (localPort remotePort : UInt16) (remoteIp : Option UInt32) (interval : UInt16) :
    Option (ℤ × TlsoeTable max) :=
  match remoteIp with
  | none => some (resultBadargs, t)
  | some remoteIp =>
    if index ≥ max then some (resultBadargs, t)
    else
      (t.writeSlot index fun _ port =>
        let port := { port with localPort, remotePort, interval }
        if remoteIp ≠ 0 then
          (strcpy port.remoteIp (ntoa remoteIp)).map fun remoteIp => { port with remoteIp }
        else some port).map fun t => (resultOk, { t with index := t.index + 1 })

end TlsoeTable

namespace TlsoeCall

open TlsoeTable

variable {max : ℕ} (ntoa : UInt32 → Bytes)

/-- What a call returns, and the table after it. -/
def step (t : TlsoeTable max) : TlsoeCall max → Option (ℤ × TlsoeTable max)
  | updateConfig index cfg socket => t.cylpaTlsoeOlUpdateConfig index cfg socket
  | setSocketConfig index localPort remotePort remoteIp interval =>
    t.cylpaTlsoeOlSetSocketConfig ntoa index localPort remotePort remoteIp interval

/-- The index a call is given. -/
def index : TlsoeCall max → ℤ
  | updateConfig index .. => index
  | setSocketConfig index .. => index

/-- A call is **sound** if it is turned down, or its index is not negative and there is a
configuration where one is copied. -/
def Sound : TlsoeCall max → Prop
  | updateConfig index cfg _ => max ≤ index ∨ 0 ≤ index ∧ cfg ≠ none
  | setSocketConfig index _ _ remoteIp _ => max ≤ index ∨ remoteIp = none ∨ 0 ≤ index

/-- What `cylpa_tlsoe_ol_set_socket_config` makes of a slot. -/
def setSocket (localPort remotePort : UInt16) (remoteIp : UInt32) (interval : UInt16)
    (port : CyTlsoeOlConnect) : CyTlsoeOlConnect :=
  { port with
    localPort, remotePort, interval
    remoteIp :=
      if remoteIp ≠ 0 then (strcpy port.remoteIp (ntoa remoteIp)).getD port.remoteIp
      else port.remoteIp }

/-- The slot a call is for, and what it makes of it. -/
def update : TlsoeCall max → Option (Fin max × (CyTlsoeOlConnect → CyTlsoeOlConnect))
  | updateConfig index cfg socket => do
    let k ← slotOf max index
    let cfg ← cfg
    some (k, fun _ => { cfg[k] with tlsSocket := socket })
  | setSocketConfig index localPort remotePort remoteIp interval => do
    let k ← slotOf max index
    let remoteIp ← remoteIp
    some (k, setSocket ntoa localPort remotePort remoteIp interval)

/-- **A call keeps to its slot**: it is turned down and changes nothing, or its index is that of a
slot and no other slot changes. -/
def KeepsToSlot (t : TlsoeTable max) (c : TlsoeCall max) : Prop :=
  ∃ r t', c.step ntoa t = some (r, t') ∧ (r = resultBadargs ∧ t' = t ∨
    0 ≤ c.index ∧ c.index < max ∧ ∀ j : Fin max, (j.val : ℤ) ≠ c.index → t'.ports[j] = t.ports[j])

section Step

variable {ntoa} {t : TlsoeTable max} {c : TlsoeCall max} {index : ℤ} {k : Fin max}

theorem slotOf_eq_some_iff : slotOf max index = some k ↔ index = k.val := by
  unfold slotOf
  split
  · rw [Option.some.injEq, Fin.ext_iff]
    dsimp only
    omega
  · simp only [reduceCtorEq, false_iff]
    omega

theorem slotOf_of_neg (h : index < 0) : slotOf max index = none := dif_neg (by omega)

theorem slotOf_of_ge (h : index ≥ max) : slotOf max index = none := dif_neg (by omega)

theorem exists_slotOf (h0 : 0 ≤ index) (hlt : ¬ index ≥ max) :
    ∃ k : Fin max, slotOf max index = some k :=
  ⟨⟨index.toNat, by omega⟩, dif_pos ⟨h0, by omega⟩⟩

/-- `strcpy` of an address fits into 16 bytes. -/
theorem exists_strcpy (dst : Vector UInt8 16) {src : Bytes} (h : src.length ≤ 15) :
    ∃ m, strcpy dst src = some m :=
  Memory.exists_memcpy dst (by simp; omega)

variable (hntoa : ∀ ip, (ntoa ip).length ≤ 15)

include hntoa in
/-- **A sound call** is turned down, or does to the slot of its index what it is for. -/
theorem step_of_sound (hc : c.Sound) :
    c.update ntoa = none ∧ c.step ntoa t = some (resultBadargs, t) ∨
      ∃ k f t', c.update ntoa = some (k, f) ∧ c.index = k.val ∧
        c.step ntoa t = some (resultOk, t') ∧ t'.ports = t.ports.set k (f t.ports[k]) := by
  cases c with
  | updateConfig index cfg socket =>
      by_cases hge : index ≥ max
      · refine .inl ⟨?_, if_pos hge⟩
        rw [update, slotOf_of_ge hge]
        rfl
      · obtain ⟨hpos, hcfg⟩ := hc.resolve_left hge
        obtain ⟨cfg, rfl⟩ := Option.ne_none_iff_exists'.mp hcfg
        obtain ⟨k, hk⟩ := exists_slotOf hpos hge
        refine .inr ⟨k, fun _ => { cfg[k] with tlsSocket := socket },
          { t with ports := t.ports.set k { cfg[k] with tlsSocket := socket } }, ?_,
          slotOf_eq_some_iff.mp hk, ?_, rfl⟩
        · rw [update, hk]
          rfl
        · rw [step, cylpaTlsoeOlUpdateConfig, if_neg hge, writeSlot, hk]
          rfl
  | setSocketConfig index localPort remotePort remoteIp interval =>
      cases remoteIp with
      | none =>
          refine .inl ⟨?_, rfl⟩
          rw [update]
          cases slotOf max index <;> rfl
      | some remoteIp =>
          by_cases hge : index ≥ max
          · refine .inl ⟨?_, if_pos hge⟩
            rw [update, slotOf_of_ge hge]
            rfl
          · have hpos : 0 ≤ index := (hc.resolve_left hge).resolve_left (by simp)
            obtain ⟨k, hk⟩ := exists_slotOf hpos hge
            obtain ⟨text, htext⟩ := exists_strcpy t.ports[k].remoteIp (hntoa remoteIp)
            refine .inr ⟨k, setSocket ntoa localPort remotePort remoteIp interval,
              { ports := t.ports.set k
                  (setSocket ntoa localPort remotePort remoteIp interval t.ports[k])
                index := t.index + 1 }, ?_, slotOf_eq_some_iff.mp hk, ?_, rfl⟩
            · rw [update, hk]
              rfl
            · rw [step, cylpaTlsoeOlSetSocketConfig, if_neg hge, writeSlot, hk, setSocket]
              dsimp only [Option.bind_some]
              by_cases hip : remoteIp ≠ 0
              · rw [if_pos hip, if_pos hip, htext]
                rfl
              · rw [if_neg hip, if_neg hip]
                rfl

/-- A call that is not sound has no result. -/
theorem step_of_not_sound (hc : ¬ c.Sound) : c.step ntoa t = none := by
  cases c with
  | updateConfig index cfg socket =>
      obtain ⟨hlt, hnot⟩ := not_or.mp hc
      rw [step, cylpaTlsoeOlUpdateConfig, if_neg hlt, writeSlot]
      cases hk : slotOf max index with
      | none => rfl
      | some k =>
          have hpos : 0 ≤ index := by
            rw [slotOf_eq_some_iff.mp hk]
            exact Int.natCast_nonneg _
          rw [not_not.mp (not_and.mp hnot hpos)]
          rfl
  | setSocketConfig index localPort remotePort remoteIp interval =>
      obtain ⟨hlt, hnot⟩ := not_or.mp hc
      obtain ⟨hip, hneg⟩ := not_or.mp hnot
      obtain ⟨remoteIp, rfl⟩ := Option.ne_none_iff_exists'.mp hip
      rw [step, cylpaTlsoeOlSetSocketConfig, if_neg hlt, writeSlot, slotOf_of_neg (by omega)]
      rfl

include hntoa in
theorem keepsToSlot_iff : c.KeepsToSlot ntoa t ↔ c.Sound := by
  constructor
  · rintro ⟨r, t', h, -⟩
    by_contra hc
    rw [step_of_not_sound hc] at h
    cases h
  · intro hc
    rcases step_of_sound (t := t) hntoa hc with ⟨-, h⟩ | ⟨k, f, t', -, hindex, h, hports⟩
    · exact ⟨_, t, h, .inl ⟨rfl, rfl⟩⟩
    · refine ⟨_, t', h, .inr ⟨by omega, by omega, fun j hj => ?_⟩⟩
      have hne : k.val ≠ j.val := fun e => hj (by rw [hindex, e])
      simp [hports, Vector.getElem_set_ne, hne]

end Step

end TlsoeCall

/-! ### Runs over both tables -/

/-- Both tables. -/
structure ConnTables (maxTko : MaxTko) (maxTlsoe : ℕ) where
  tko : TkoMemory maxTko
  tlsoe : TlsoeTable maxTlsoe

/-- A call on one of them. -/
inductive ConnCall (maxTko : MaxTko) (maxTlsoe : ℕ) where
  | tko (u : TkoUpdate maxTko)
  | tlsoe (c : TlsoeCall maxTlsoe)

namespace ConnCall

variable {maxTko : MaxTko} {maxTlsoe : ℕ} (ntoa : UInt32 → Bytes)

/-- The tables after a call. -/
def step (s : ConnTables maxTko maxTlsoe) :
    ConnCall maxTko maxTlsoe → Option (ConnTables maxTko maxTlsoe)
  | tko u => (s.tko.update u).map fun tko => { s with tko }
  | tlsoe c => (c.step ntoa s.tlsoe).map fun r => { s with tlsoe := r.2 }

/-- The condition for a call to keep to its slot. -/
def Sound : ConnCall maxTko maxTlsoe → Prop
  | tko u => u.remoteIp.length ≤ 15
  | tlsoe c => c.Sound

/-- A call keeps to its slot of its table. -/
def KeepsToSlot (s : ConnTables maxTko maxTlsoe) : ConnCall maxTko maxTlsoe → Prop
  | tko u => s.tko.KeepsToSlot u
  | tlsoe c => c.KeepsToSlot ntoa s.tlsoe

/-- A call on the first table. -/
def tkoUpdate : ConnCall maxTko maxTlsoe → Option (TkoUpdate maxTko)
  | tko u => some u
  | tlsoe _ => none

/-- A call on the second, as an update of a slot. -/
def tlsoeUpdate : ConnCall maxTko maxTlsoe →
    Option (Fin maxTlsoe × (TlsoeTable.CyTlsoeOlConnect → TlsoeTable.CyTlsoeOlConnect))
  | tko _ => none
  | tlsoe c => c.update ntoa

section Run

variable {ntoa} {s s' : ConnTables maxTko maxTlsoe} {c : ConnCall maxTko maxTlsoe}
variable {cs : List (ConnCall maxTko maxTlsoe)} (hntoa : ∀ ip, (ntoa ip).length ≤ 15)

include hntoa in
theorem keepsToSlot_iff_sound : c.KeepsToSlot ntoa s ↔ c.Sound := by
  cases c with
  | tko u => exact TkoMemory.keepsToSlot_iff
  | tlsoe c => exact TlsoeCall.keepsToSlot_iff hntoa

/-- The tables after the calls `cs`: each slot is what the updates for it make of it. -/
structure Updated (ntoa : UInt32 → Bytes) (s : ConnTables maxTko maxTlsoe)
    (cs : List (ConnCall maxTko maxTlsoe)) (s' : ConnTables maxTko maxTlsoe) : Prop where
  tko : s'.tko.slot = Keyed.run Prod.fst (fun o _ => o.2.port.toBytes) s.tko.slot
    (TkoMemory.addressed s.tko.current (cs.filterMap tkoUpdate))
  tlsoe : (fun k : Fin maxTlsoe => s'.tlsoe.ports[k]) =
    Keyed.run Prod.fst Prod.snd (fun k : Fin maxTlsoe => s.tlsoe.ports[k])
      (cs.filterMap (tlsoeUpdate ntoa))

include hntoa in
/-- **A sound call** in front of others. -/
theorem step_updated (hc : c.Sound) : ∃ s₁, c.step ntoa s = some s₁ ∧
    ∀ cs s', Updated ntoa s₁ cs s' → Updated ntoa s (c :: cs) s' := by
  cases c with
  | tko u =>
      have hlen : u.remoteIp.length ≤ 16 := Nat.le_succ_of_le hc
      obtain ⟨t, h⟩ := TkoMemory.exists_update s.tko u hlen
      refine ⟨{ s with tko := t }, Option.map_eq_some_iff.mpr ⟨t, h, rfl⟩, fun cs s' hs' => ?_⟩
      refine ⟨hs'.tko.trans ?_, hs'.tlsoe⟩
      rw [TkoMemory.current_update h, TkoMemory.slot_update h hlen]
      rfl
  | tlsoe c =>
      rcases c.step_of_sound (t := s.tlsoe) hntoa hc with
        ⟨hnone, h⟩ | ⟨k, f, t, hsome, -, h, hports⟩
      · refine ⟨s, Option.map_eq_some_iff.mpr ⟨_, h, rfl⟩, fun cs s' hs' => ⟨hs'.tko, ?_⟩⟩
        rw [hs'.tlsoe, List.filterMap_cons_none (show tlsoeUpdate ntoa (tlsoe c) = none from hnone)]
      · refine ⟨{ s with tlsoe := t }, Option.map_eq_some_iff.mpr ⟨_, h, rfl⟩,
          fun cs s' hs' => ⟨hs'.tko, ?_⟩⟩
        have hstep : (fun j : Fin maxTlsoe => t.ports[j]) =
            Keyed.apply Prod.fst Prod.snd (fun j : Fin maxTlsoe => s.tlsoe.ports[j])
              (k, f) := by
          funext j
          by_cases hj : j = k
          · subst hj
            simp [Keyed.apply, hports]
          · have hne : k.val ≠ j.val := fun e => hj (Fin.ext e.symm)
            simp [Keyed.apply, hports, Function.update_of_ne hj, Vector.getElem_set_ne, hne]
        rw [hs'.tlsoe, List.filterMap_cons_some
          (show tlsoeUpdate ntoa (tlsoe c) = some (k, f) from hsome)]
        change Keyed.run _ _ (fun j : Fin maxTlsoe => t.ports[j]) _ = _
        rw [hstep]
        rfl

include hntoa in
/-- **A run of sound calls.** -/
theorem run_updated (hcs : ∀ c ∈ cs, c.Sound) :
    ∃ s', cs.foldlM (step ntoa) s = some s' ∧ Updated ntoa s cs s' := by
  induction cs generalizing s with
  | nil => exact ⟨s, rfl, rfl, rfl⟩
  | cons c cs ih =>
      obtain ⟨s₁, h₁, hcons⟩ := step_updated (s := s) hntoa (hcs c List.mem_cons_self)
      obtain ⟨s', h', hs'⟩ := ih (s := s₁) fun c hc => hcs c (List.mem_cons_of_mem _ hc)
      refine ⟨s', ?_, hcons cs s' hs'⟩
      rw [List.foldlM_cons, h₁]
      exact h'

end Run

end ConnCall

open ConnCall Runs in
/-- **Calls on the tables of connections**, in any order: each keeps to its slot exactly if every
address for the first table has at most fifteen characters, and every call on the second is turned
down or has an index that is not negative and a configuration to copy.  Then each slot of the first
table is the last connection written there, and each of the second what the calls for it made. -/
theorem connUpdates_iff {maxTko : MaxTko} {maxTlsoe : ℕ} {ntoa : UInt32 → Bytes}
    (hntoa : ∀ ip, (ntoa ip).length ≤ 15) (s : ConnTables maxTko maxTlsoe)
    (cs : List (ConnCall maxTko maxTlsoe)) :
    (Throughout (fun xs => ∀ ys c, xs = ys ++ [c] →
        ∃ s₁, ys.foldlM (step ntoa) s = some s₁ ∧ c.KeepsToSlot ntoa s₁) cs ↔
      ∀ c ∈ cs, c.Sound) ∧
    ((∀ c ∈ cs, c.Sound) → ∃ s', cs.foldlM (step ntoa) s = some s' ∧
      (∀ k, s'.tko.slot k = ((Keyed.on Prod.fst k
          (TkoMemory.addressed s.tko.current (cs.filterMap tkoUpdate))).getLast?.map
            fun o => o.2.port.toBytes).getD (s.tko.slot k)) ∧
      ∀ k : Fin maxTlsoe, s'.tlsoe.ports[k] = Keyed.effects Prod.snd s.tlsoe.ports[k]
        (Keyed.on Prod.fst k (cs.filterMap (tlsoeUpdate ntoa)))) := by
  constructor
  · refine Iff.trans ?_ (throughout_last_iff (Q := fun c : ConnCall maxTko maxTlsoe => c.Sound))
    refine throughout_iff_of_invariant (A := fun _ => True)
      (I := fun xs => ∃ s₁, xs.foldlM (step ntoa) s = some s₁) (fun _ _ => trivial) ⟨s, rfl⟩
      ?_ ?_ ?_
    · exact ⟨fun _ ys c e => absurd e (by simp), fun _ ys c e => absurd e (by simp)⟩
    · rintro xs c ⟨s₁, h₁⟩ -
      rw [forall_concat_iff, forall_concat_iff]
      exact ⟨fun ⟨_, _, hkeeps⟩ => (keepsToSlot_iff_sound hntoa).mp hkeeps,
        fun hc => ⟨s₁, h₁, (keepsToSlot_iff_sound hntoa).mpr hc⟩⟩
    · rintro xs c ⟨s₁, h₁⟩ - hc
      rw [forall_concat_iff] at hc
      obtain ⟨s', h', -⟩ := step_updated (s := s₁) hntoa hc
      refine ⟨s', ?_⟩
      rw [List.foldlM_append, h₁]
      simpa using h'
  · intro hcs
    obtain ⟨s', h, hs'⟩ := run_updated (s := s) hntoa hcs
    refine ⟨s', h, fun k => ?_, fun k => ?_⟩
    · rw [hs'.tko, Keyed.run_apply, Keyed.effects_const]
    · exact (congrFun hs'.tlsoe k).trans (Keyed.run_apply _ _ _ _ k)

/-- A number of a byte in decimal. -/
def decimal (b : UInt8) : Bytes :=
  if b < 10 then [48 + b] else if b < 100 then [48 + b / 10, 48 + b % 10]
  else [48 + b / 100, 48 + b / 10 % 10, 48 + b % 10]

/-- An address in dotted decimal; its first byte is the low one. -/
def dotted (ip : UInt32) : Bytes :=
  decimal (byte ip 0) ++ 46 :: decimal (byte ip 1) ++ 46 :: decimal (byte ip 2) ++
    46 :: decimal (byte ip 3)

theorem length_dotted (ip : UInt32) : (dotted ip).length ≤ 15 := by
  have hdecimal : ∀ b, (decimal b).length ≤ 3 := fun b => by
    unfold decimal
    split
    · simp
    · split <;> simp
  have h0 := hdecimal (byte ip 0)
  have h1 := hdecimal (byte ip 1)
  have h2 := hdecimal (byte ip 2)
  have h3 := hdecimal (byte ip 3)
  simp only [dotted, List.length_append, List.length_cons]
  omega

/-- Two empty tables, of two slots each. -/
def emptyTables : ConnTables ⟨2, by decide, by decide⟩ 2 where
  tko := ⟨0, 0, 0, Vector.replicate _ 0, 0, by decide⟩
  tlsoe := ⟨Vector.replicate _
    ⟨0, 0, 0, Vector.replicate _ 0, 0, Vector.replicate _ 0, none, 0, 0, Vector.replicate _ 0⟩, 0⟩

/-- An update with an address of `n` characters. -/
def longUpdate (n : ℕ) : TkoUpdate ⟨2, by decide, by decide⟩ where
  remoteIp := List.replicate n 49
  remotePort := 7
  localPort := 8
  cfg := ⟨0, 0, 0, Vector.replicate _ ⟨0, 0, Vector.replicate _ 0⟩⟩
  ne_nul := by simp
  ports_ne := by decide

/-- An update of the first table, and two calls on the second, one of them turned down. -/
def someCalls : List (ConnCall ⟨2, by decide, by decide⟩ 2) :=
  [.tko (longUpdate 9), .tlsoe (.setSocketConfig 1 5 6 (some 0x0100007f) 60),
    .tlsoe (.setSocketConfig 2 5 6 none 60)]

/-- A call on either table. -/
theorem connUpdates_some :
    ∃ s', someCalls.foldlM (ConnCall.step dotted) emptyTables = some s' ∧
      (∀ k, s'.tko.slot k = ((Keyed.on Prod.fst k (TkoMemory.addressed emptyTables.tko.current
          (someCalls.filterMap ConnCall.tkoUpdate))).getLast?.map
            fun o => o.2.port.toBytes).getD (emptyTables.tko.slot k)) ∧
      ∀ k : Fin 2, s'.tlsoe.ports[k] = Keyed.effects Prod.snd emptyTables.tlsoe.ports[k]
        (Keyed.on Prod.fst k (someCalls.filterMap (ConnCall.tlsoeUpdate dotted))) :=
  (connUpdates_iff length_dotted emptyTables someCalls).2 (by
    simp [someCalls, ConnCall.Sound, TlsoeCall.Sound, longUpdate])

/-- An address of seventeen characters runs into the next slot and is not terminated; and an index
of `-1` is not turned down. -/
theorem connUpdates_overrun :
    (∃ t', emptyTables.tko.update (longUpdate 17) = some t' ∧
      t'.slot 1 ≠ emptyTables.tko.slot 1 ∧ 0 ∉ (t'.slot 0).drop 4) ∧
    ¬ emptyTables.tko.KeepsToSlot (longUpdate 17) ∧
    ¬ (TlsoeCall.setSocketConfig (-1) 5 6 (some 0x0100007f) 60).KeepsToSlot dotted
      emptyTables.tlsoe := by
  refine ⟨⟨_, rfl, by decide, by decide⟩, fun h => ?_, fun h => ?_⟩
  · exact absurd (TkoMemory.keepsToSlot_iff.mp h) (by decide)
  · exact absurd ((TlsoeCall.keepsToSlot_iff length_dotted).mp h) (by simp [TlsoeCall.Sound])

end Lpa
