import Lpa.Keepalive.ArpTable
import Lpa.Keepalive.TkoActivate

/-!
# Tlsoe — the remote hardware address

`whd_tko_activate` and `whd_tlsoe_activate` over NetX Duo: both search the network stack's table
for the address of the other end, each with a `find_mac_addr` of its own, and take the gateway's if
the search answers `-1`.  It never does: with no entry for the address, what they go on with is what
was on the stack.

* `dstMacFound_iff`: the remote address is the entry's or the gateway's exactly if there is an
  entry.
-/

namespace Lpa

/-- `whd_tlsoe_activate`, up to the hardware addresses: as `whd_tko_activate`, but for the search,
which is of an address in host order. -/
def tlsoeAddresses (search : UInt32 → ℤ × WhdMac) (ans : AddressAnswers) : Option SockSeq :=
  tkoAddresses (fun dstip => search (hton32 dstip)) ans

/-- The two files with a `find_mac_addr`. -/
inductive Activation
  | tko
  | tlsoe
deriving DecidableEq, Repr

namespace Activation

variable {Handle : Type*} [DecidableEq Handle]

/-- The `find_mac_addr` of the file. -/
def findMacAddr (table : NxArpTable Handle) (route : UInt32 → UInt32) :
    Activation → ℕ → WhdMac × UInt32 → UInt32 → Option MacSearch
  | tko => tkoFindMacAddr table
  | tlsoe => tlsFindMacAddr table route

/-- The activation, up to the hardware addresses. -/
def addresses : Activation → (UInt32 → ℤ × WhdMac) → AddressAnswers → Option SockSeq
  | tko => tkoAddresses
  | tlsoe => tlsoeAddresses

/-- The argument it searches with, for the destination of a socket. -/
def dstIp : Activation → UInt32 → UInt32
  | tko, dstip => dstip
  | tlsoe, dstip => hton32 dstip

/-- The address that is looked up for it: that of the destination, or of the next hop. -/
def lookedUp (route : UInt32 → UInt32) : Activation → UInt32 → UInt32
  | tko, dstip => hton32 dstip
  | tlsoe, dstip => route (hton32 dstip)

variable {table : NxArpTable Handle} {route : UInt32 → UInt32} {a : Activation} {fuel : ℕ}
  {before : WhdMac × UInt32} {dstip : UInt32}

theorem findMacAddr_dstIp : a.findMacAddr table route fuel before (a.dstIp dstip) =
    Lpa.findMacAddr table fuel before (a.lookedUp route dstip) := by
  cases a <;> rfl

theorem addresses_eq {search : UInt32 → ℤ × WhdMac} {ans : AddressAnswers} :
    a.addresses search ans = tkoAddresses (fun dstip => search (a.dstIp dstip)) ans := by
  cases a <;> rfl

end Activation

/-! ### The address that is found -/

section Found

variable {Handle : Type*} [DecidableEq Handle]

/-- **The destination is found**: the search for it ends; it answers an index exactly if there is
an entry, whose hardware address it has written then; and an activation that gets as far has the
entry's or the gateway's.  `before` is on the stack when the search is called. -/
structure DstMacFound (a : Activation) (table : NxArpTable Handle) (route : UInt32 → UInt32)
    (dstip : UInt32) : Prop where
  ends (before : WhdMac × UInt32) :
    ∃ fuel, (a.findMacAddr table route fuel before (a.dstIp dstip)).isSome
  index (fuel : ℕ) (before : WhdMac × UInt32) (r : MacSearch) :
    a.findMacAddr table route fuel before (a.dstIp dstip) = some r →
      (0 ≤ r.index ↔ table.Has (a.lookedUp route dstip) fun _ => True) ∧
      (0 ≤ r.index → table.Has (a.lookedUp route dstip) fun arp => arp.HasMac r.ethRet)
  activate (fuel : ℕ) (before : WhdMac × UInt32) (r : MacSearch) (search : UInt32 → ℤ × WhdMac)
    (ans : AddressAnswers) (seq seq' : SockSeq) :
    a.findMacAddr table route fuel before (a.dstIp dstip) = some r →
      search (a.dstIp dstip) = (r.index, r.ethRet) →
      ans.sockStats = some seq → seq.dstip = dstip → a.addresses search ans = some seq' →
      table.Has (a.lookedUp route dstip) (fun arp => arp.HasMac seq'.dstMac) ∨
        ans.gateway = some seq'.dstMac

variable {a : Activation} {table : NxArpTable Handle} {route : UInt32 → UInt32} {dstip : UInt32}

/-- With an entry, it is found. -/
theorem dstMacFound_of_cached {arp : NxArp Handle}
    (h : table.cached (a.lookedUp route dstip) = some arp) : DstMacFound a table route dstip := by
  have hfound : ∀ {fuel before r}, a.findMacAddr table route fuel before (a.dstIp dstip) = some r →
      0 ≤ r.index ∧ arp.HasMac r.ethRet := by
    intro fuel before r hr
    rw [Activation.findMacAddr_dstIp] at hr
    rw [eq_of_findMacAddr hr]
    refine ⟨table.index_nonneg before _, ?_⟩
    simp only [NxArpTable.found, h, Option.map_some, Option.getD_some]
    exact arp.hasMac_mac
  refine ⟨fun before => ⟨(table.bucket (table.index (a.lookedUp route dstip))).length, ?_⟩,
    fun fuel before r hr => ?_, ?_⟩
  · rw [Activation.findMacAddr_dstIp, findMacAddr_eq le_rfl]
    rfl
  · obtain ⟨hindex, hmac⟩ := hfound hr
    exact ⟨iff_of_true hindex (NxArpTable.has_of_cached h trivial),
      fun _ => NxArpTable.has_of_cached h hmac⟩
  · intro fuel before r search ans seq seq' hr hsearch hseq hdst haddrs
    obtain ⟨hindex, hmac⟩ := hfound hr
    rw [Activation.addresses_eq] at haddrs
    obtain ⟨seq₁, srcMac, dstMac, hseq₁, hdstMac, rfl⟩ := tkoAddresses_eq haddrs
    cases hseq.symm.trans hseq₁
    rw [hdst, hsearch, remoteMac, if_pos hindex] at hdstMac
    cases hdstMac
    exact .inl (NxArpTable.has_of_cached h hmac)

/-- **The destination is found** exactly if the table has an entry for the address looked up. -/
theorem dstMacFound_iff (a : Activation) (table : NxArpTable Handle) (route : UInt32 → UInt32)
    (dstip : UInt32) :
    DstMacFound a table route dstip ↔ (table.cached (a.lookedUp route dstip)).isSome := by
  constructor
  · intro h
    let before : WhdMac × UInt32 := (⟨.replicate 6 0⟩, 0)
    obtain ⟨fuel, hends⟩ := h.ends before
    obtain ⟨r, hr⟩ := Option.isSome_iff_exists.mp hends
    have hindex : 0 ≤ r.index := by
      rw [Activation.findMacAddr_dstIp] at hr
      rw [eq_of_findMacAddr hr]
      exact table.index_nonneg before _
    exact NxArpTable.isSome_cached.mpr ((h.index fuel before r hr).1.mp hindex)
  · intro h
    obtain ⟨arp, harp⟩ := Option.isSome_iff_exists.mp h
    exact dstMacFound_of_cached harp

end Found

/-- In an empty table a search still answers an index, with what was on the stack. -/
theorem dstMac_not_found :
    ¬ ∀ (a : Activation) (table : NxArpTable Unit) (route : UInt32 → UInt32) (dstip : UInt32),
      DstMacFound a table route dstip := by
  intro h
  let table : NxArpTable Unit := ⟨31, by decide, fun _ => ⟨0, 0, 0, none⟩, fun _ => [],
    fun _ => CircularList.isRing_nil⟩
  have hr : tkoFindMacAddr table 0 (⟨.replicate 6 0xcd⟩, 0) 0x0101a8c0 =
      some ⟨2, ⟨.replicate 6 0xcd⟩, 0⟩ := by decide
  obtain ⟨arp, hmem, -⟩ := ((h .tko table id 0x0101a8c0).index 0 _ _ hr).1.mp (by decide)
  cases hmem

end Lpa
