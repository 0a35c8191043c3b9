import Lpa.Common.Headers
import Lpa.Support.CircularList

/-!
# Keepalive — the address table of NetX Duo

`find_mac_addr` looks an address up in the network stack's table, which is hashed: each bucket is
a circular list of entries.  Of an entry it finds it writes the hardware address through the
pointer it is given; what it returns is the bucket's number.

* `findMacAddr_eq`: the search ends, and writes the address of the first entry there is.
* `NxArpTable.index_nonneg`: what it returns is never negative, whether there is one or not.
-/

namespace Lpa

variable {Handle : Type*}

/-- `NX_ARP`. -/
structure NxArp (Handle : Type*) where
  ipAddress : UInt32
  physicalAddressMsw : UInt32
  physicalAddressLsw : UInt32
  activeNext : Option Handle

/-- `nx_ip_arp_table`, its entries and `NX_ARP_TABLE_MASK`: each bucket is empty or a circular
list, and the table is an array of at most `2³¹` of them. -/
structure NxArpTable (Handle : Type*) where
  mask : UInt32
  mask_lt : mask.toNat < 2 ^ 31
  entry : Handle → NxArp Handle
  bucket : UInt32 → List Handle
  ring (index : UInt32) : CircularList.IsRing (fun n => (entry n).activeNext) (bucket index)

/-- The hardware address, octet by octet as `find_mac_addr` writes it. -/
def NxArp.mac (arp : NxArp Handle) : WhdMac where
  octet := #v[(arp.physicalAddressMsw >>> 8 &&& 0xff).toUInt8,
    (arp.physicalAddressMsw >>> 0 &&& 0xff).toUInt8,
    (arp.physicalAddressLsw >>> 24 &&& 0xff).toUInt8,
    (arp.physicalAddressLsw >>> 16 &&& 0xff).toUInt8,
    (arp.physicalAddressLsw >>> 8 &&& 0xff).toUInt8,
    (arp.physicalAddressLsw >>> 0 &&& 0xff).toUInt8]

/-- The number six octets in network order stand for. -/
def WhdMac.toNat (mac : WhdMac) : ℕ := mac.octet.toList.foldl (fun n b => 256 * n + b.toNat) 0

/-- `mac` is the entry's hardware address, in network order. -/
def NxArp.HasMac (arp : NxArp Handle) (mac : WhdMac) : Prop :=
  mac.toNat = 2 ^ 32 * (arp.physicalAddressMsw.toNat % 65536) + arp.physicalAddressLsw.toNat

/-- The octets that are written are the address in network order. -/
theorem NxArp.hasMac_mac (arp : NxArp Handle) : arp.HasMac arp.mac := by
  have hoctet : ∀ (x : UInt32) (n : UInt32), n.toNat < 32 →
      (x >>> n &&& 0xff).toUInt8.toNat = x.toNat / 2 ^ n.toNat % 256 := by
    intro x n hn
    have hff : (0xff : UInt32).toNat = 2 ^ 8 - 1 := rfl
    rw [UInt32.toNat_toUInt8, UInt32.toNat_and, hff, Nat.and_two_pow_sub_one_eq_mod,
      UInt32.toNat_shiftRight, Nat.mod_eq_of_lt hn, Nat.shiftRight_eq_div_pow]
    omega
  have hlsw := arp.physicalAddressLsw.toNat_lt
  simp only [HasMac, WhdMac.toNat, mac, Vector.toList_mk, List.foldl_cons, List.foldl_nil]
  rw [hoctet _ 8 (by decide), hoctet _ 0 (by decide), hoctet _ 24 (by decide),
    hoctet _ 16 (by decide), hoctet _ 8 (by decide), hoctet _ 0 (by decide)]
  simp only [UInt32.reduceToNat]
  omega

/-! ### The entry of an address -/

section Entry

variable {table : NxArpTable Handle} {before : WhdMac × UInt32} {addr : UInt32}

/-- The bucket of an address. -/
def NxArpTable.index (table : NxArpTable Handle) (addr : UInt32) : UInt32 :=
  (addr + addr >>> 8) &&& table.mask

/-- The entry of an address, the first one of its bucket. -/
def NxArpTable.cached (table : NxArpTable Handle) (addr : UInt32) : Option (NxArp Handle) :=
  ((table.bucket (table.index addr)).map table.entry).find? fun arp =>
    decide (arp.ipAddress = addr)

/-- The bucket of `addr` has an entry for it, of which `P` holds. -/
def NxArpTable.Has (table : NxArpTable Handle) (addr : UInt32) (P : NxArp Handle → Prop) : Prop :=
  ∃ arp ∈ (table.bucket (table.index addr)).map table.entry, arp.ipAddress = addr ∧ P arp

theorem NxArpTable.has_of_cached {arp : NxArp Handle} {P : NxArp Handle → Prop}
    (h : table.cached addr = some arp) (hP : P arp) : table.Has addr P :=
  ⟨arp, List.mem_of_find?_eq_some h, by simpa using List.find?_some h, hP⟩

theorem NxArpTable.isSome_cached : (table.cached addr).isSome ↔ table.Has addr fun _ => True := by
  rw [cached, List.find?_isSome]
  simp only [Has, decide_eq_true_iff, and_true]

/-- What `find_mac_addr` returns, and leaves in `*eth_ret` and `*ip_ret`. -/
structure MacSearch where
  index : ℤ
  ethRet : WhdMac
  ipRet : UInt32
deriving DecidableEq, Repr

/-- What the search is to find of the entry, or of none. -/
def NxArpTable.found (table : NxArpTable Handle) (before : WhdMac × UInt32) (addr : UInt32) :
    MacSearch where
  index := (table.index addr).toBitVec.toInt
  ethRet := ((table.cached addr).map NxArp.mac).getD before.1
  ipRet := ((table.cached addr).map NxArp.ipAddress).getD before.2

/-- **The bucket's number** is never negative. -/
theorem NxArpTable.index_nonneg (table : NxArpTable Handle) (before : WhdMac × UInt32)
    (addr : UInt32) : 0 ≤ (table.found before addr).index := by
  have hle : (table.index addr).toNat ≤ table.mask.toNat := by
    rw [NxArpTable.index, UInt32.toNat_and]
    exact Nat.and_le_right
  have hlt : 2 * (table.index addr).toBitVec.toNat < 2 ^ 32 := by
    have hmask := table.mask_lt
    rw [UInt32.toNat_toBitVec]
    omega
  rw [found, BitVec.toInt_eq_toNat_of_lt hlt]
  exact Int.natCast_nonneg _

/-! ### The search -/

variable [DecidableEq Handle]

/-- `find_mac_addr`, from the address it looks up on; `before` is in the pointers it is given.  It
looks at `fuel` entries at most. -/
def findMacAddr (table : NxArpTable Handle) (fuel : ℕ) (before : WhdMac × UInt32) (addr : UInt32) :
    Option MacSearch :=
  let index := table.index addr
  let arpListHead := (table.bucket index).head?
  (CircularList.search (fun n => (table.entry n).activeNext)
      (fun n => decide ((table.entry n).ipAddress = addr)) arpListHead fuel arpListHead).map
    fun
      | none => { index := index.toBitVec.toInt, ethRet := before.1, ipRet := before.2 }
      | some n =>
        { index := index.toBitVec.toInt, ethRet := (table.entry n).mac
          ipRet := (table.entry n).ipAddress }

/-- `find_mac_addr` of `cy_whd_tko_api.c`, of an address in network order. -/
def tkoFindMacAddr (table : NxArpTable Handle) (fuel : ℕ) (before : WhdMac × UInt32)
    (dstIp : UInt32) : Option MacSearch :=
  findMacAddr table fuel before (hton32 dstIp)

/-- `find_mac_addr` of `cy_whd_tls_api.c`, of an address in host order; `route` is what
`_nx_ip_route_find` leaves for the next hop. -/
def tlsFindMacAddr (table : NxArpTable Handle) (route : UInt32 → UInt32) (fuel : ℕ)
    (before : WhdMac × UInt32) (dstIp : UInt32) : Option MacSearch :=
  findMacAddr table fuel before (route dstIp)

variable {fuel : ℕ}

/-- **What the search finds**, whenever it ends. -/
theorem eq_of_findMacAddr {r : MacSearch} (h : findMacAddr table fuel before addr = some r) :
    r = table.found before addr := by
  obtain ⟨n, hn, rfl⟩ := Option.map_eq_some_iff.mp h
  have hcached : table.cached addr = n.map table.entry := by
    rw [CircularList.eq_of_search (table.ring _) hn, NxArpTable.cached, List.find?_map]
    rfl
  cases n <;> simp only [NxArpTable.found, hcached] <;> rfl

/-- **The search ends** when it has looked at every entry. -/
theorem findMacAddr_eq (hfuel : (table.bucket (table.index addr)).length ≤ fuel) :
    findMacAddr table fuel before addr = some (table.found before addr) := by
  have hends : (findMacAddr table fuel before addr).isSome := by
    simp only [findMacAddr, CircularList.search_eq (table.ring _) hfuel]
    rfl
  obtain ⟨r, hr⟩ := Option.isSome_iff_exists.mp hends
  rw [hr, eq_of_findMacAddr hr]

end Entry

end Lpa
