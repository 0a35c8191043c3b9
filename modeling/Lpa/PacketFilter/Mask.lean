import Lpa.PacketFilter.Config
import Lpa.Support.BitRun
import Mathlib.Tactic.IntervalCases

/-!
# Packet filter — port ranges as a pattern and a mask

The firmware matches a port `p` by `(p & mask) == pattern`.  `cylpa_pf_ol_init` computes the pair
in `int` arithmetic, cut to 16 bits: a single port masks nothing, a range of `2 ^ y - 1` on a port
`2 ^ k` takes a xor, an or and a sign extension from the top set bit.

* `toNat_rangeMask`: that mask is the run of ones from bit `min k y` up.
* `range_matches_iff`: hence the ports it matches are the `2 ^ min k y` ones from `2 ^ k` on.
* `portMask_documented_iff`: these are the documented ones, unless the range is not below the
  port: the header promises the single port there and the code never looks.
-/

namespace Lpa

/-- `IS_POWER`, on an `int`. -/
def isPower (x : BitVec 32) : Bool := x ≠ 0 && x &&& (x - 1) = 0

/-- A `uint16_t` promoted to `int`. -/
def promote (x : UInt16) : BitVec 32 := x.toBitVec.setWidth 32

/-- An `int` stored in a `uint16_t`. -/
def narrow (x : BitVec 32) : UInt16 := ⟨x.setWidth 16⟩

/-- `MAX_BITS_IN_PORTNUM`. -/
def maxBitsInPortnum : ℕ := 16

/-- `cylpa_bitwidth`, from position `pos - 1` down. -/
def cylpaBitwidthFrom (val : BitVec 32) : ℕ → ℤ
  | 0 => -1
  | pos + 1 => if val &&& 1#32 <<< pos ≠ 0 then pos + 1 else cylpaBitwidthFrom val pos

def cylpaBitwidth (val : BitVec 32) : ℤ := cylpaBitwidthFrom val maxBitsInPortnum

def cylpaSignExtend (val width : BitVec 32) : BitVec 32 :=
  let mask := 1#32 <<< (width - 1)
  let val := val &&& (1#32 <<< width - 1)
  (val ^^^ mask) - mask

/-- The pattern and mask of a single port. -/
def cylpaCreateSinglePortnumMask (pf : CyPfPort) : UInt16 × UInt16 := (pf.portnum, 0xffff)

/-- The pattern and mask of a port range. -/
def cylpaCreatePortnumRangeMask (pf : CyPfPort) : UInt16 × UInt16 :=
  let port := pf.portnum
  let range := pf.range
  let mask := narrow (((promote port - 1) ^^^ promote range) ||| promote port)
  let mask := narrow (cylpaSignExtend (promote mask)
    (BitVec.ofInt 32 (cylpaBitwidth (promote mask))))
  (port, mask)

/-- The pattern and mask `cylpa_pf_ol_init` computes for a port entry. -/
def portMask (pf : CyPfPort) : UInt16 × UInt16 :=
  if !isPower (promote pf.portnum) || !isPower (promote pf.range + 1) || pf.range = 0 then
    cylpaCreateSinglePortnumMask pf
  else cylpaCreatePortnumRangeMask pf

/-- The port the firmware looks at matches the pair. -/
def Matches (pm : UInt16 × UInt16) (p : UInt16) : Prop := p &&& pm.2 = pm.1

instance (pm : UInt16 × UInt16) (p : UInt16) : Decidable (Matches pm p) :=
  inferInstanceAs (Decidable (p &&& pm.2 = pm.1))

/-- The range is one the header documents: `2 ^ y - 1` and below a port that is `2 ^ x`. -/
def CyPfPort.RangeOk (pf : CyPfPort) : Prop :=
  pf.portnum.toNat.isPowerOfTwo ∧ (pf.range.toNat + 1).isPowerOfTwo ∧
    0 < pf.range.toNat ∧ pf.range.toNat < pf.portnum.toNat

/-- The ports the header documents for an entry: the range where it is allowed, the single port
otherwise. -/
def CyPfPort.Documented (pf : CyPfPort) (p : UInt16) : Prop :=
  (pf.RangeOk → pf.portnum.toNat ≤ p.toNat ∧ p.toNat ≤ pf.portnum.toNat + pf.range.toNat) ∧
    (¬ pf.RangeOk → p = pf.portnum)

/-! ### The bits of the mask -/

@[simp] theorem toNat_promote (x : UInt16) : (promote x).toNat = x.toNat := by
  have := x.toNat_lt
  simp [promote]

@[simp] theorem toNat_narrow (x : BitVec 32) : (narrow x).toNat = x.toNat % 2 ^ 16 := by
  simp [narrow, UInt16.toNat]

theorem toNat_sub_one {x : BitVec 32} (h : x ≠ 0) : (x - 1).toNat = x.toNat - 1 :=
  BitVec.toNat_sub_of_le (by
    rw [BitVec.le_def]
    exact Nat.pos_of_ne_zero fun h0 => h (BitVec.eq_of_toNat_eq h0))

theorem isPower_iff {x : BitVec 32} : isPower x ↔ x.toNat.isPowerOfTwo := by
  rw [isPower, ← Nat.ne_zero_and_sub_one_eq_zero_iff_isPowerOfTwo, Bool.and_eq_true,
    decide_eq_true_eq, decide_eq_true_eq]
  by_cases h : x = 0
  · simp [h]
  · have h0 : x.toNat ≠ 0 := fun h0 => h (BitVec.eq_of_toNat_eq h0)
    rw [← BitVec.toNat_inj (x := x &&& (x - 1)), BitVec.toNat_and, toNat_sub_one h]
    simp only [Ne, h, h0, not_false_eq_true, true_and]
    rfl

theorem toNat_one_shiftLeft {n : ℕ} (h : n < 32) : (1#32 <<< n).toNat = 2 ^ n := by
  rw [BitVec.toNat_shiftLeft, BitVec.toNat_one (by decide), Nat.shiftLeft_eq, Nat.one_mul,
    Nat.mod_eq_of_lt (Nat.pow_lt_pow_right (by decide) h)]

/-- The test for one bit of an `int`. -/
theorem and_bit_ne_zero_iff {val : BitVec 32} {pos : ℕ} (h : pos < 32) :
    val &&& 1#32 <<< pos ≠ 0 ↔ val.toNat.testBit pos := by
  rw [Ne, ← BitVec.toNat_inj, BitVec.toNat_and, toNat_one_shiftLeft h, Nat.and_two_pow]
  cases val.toNat.testBit pos <;> simp

/-- `cylpa_bitwidth` finds the top set bit. -/
theorem cylpaBitwidthFrom_eq {val : BitVec 32} {top : ℕ} (hbit : val.toNat.testBit top) :
    ∀ n : ℕ, top < n → n ≤ 32 → (∀ i, top < i → val.toNat.testBit i = false) →
      cylpaBitwidthFrom val n = (top : ℤ) + 1
  | n + 1, hn, h32, habove => by
      rw [cylpaBitwidthFrom]
      by_cases hn' : n = top
      · subst hn'
        rw [if_pos ((and_bit_ne_zero_iff (by omega)).mpr hbit)]
      · rw [if_neg, cylpaBitwidthFrom_eq hbit n (by omega) (by omega) habove]
        rw [and_bit_ne_zero_iff (by omega), habove n (by omega)]
        decide

/-- Sign extension from the top bit of a run of ones carries the run to bit 31. -/
theorem toNat_cylpaSignExtend (val : BitVec 32) (lo top : ℕ)
    (hval : val.toNat = BitRun.ones lo (top + 1)) (hlo : lo ≤ top) (htop : top + 1 < 32) :
    (cylpaSignExtend val (BitVec.ofNat 32 (top + 1))).toNat = BitRun.ones lo 32 := by
  have hw : (BitVec.ofNat 32 (top + 1)).toNat = top + 1 := by simp; omega
  have hw1 : (BitVec.ofNat 32 (top + 1) - 1).toNat = top := by
    rw [toNat_sub_one, hw, Nat.add_sub_cancel]
    intro h0
    rw [← BitVec.toNat_inj, hw] at h0
    simp at h0
  have hmask : (1#32 <<< (BitVec.ofNat 32 (top + 1) - 1)).toNat = 2 ^ top := by
    rw [BitVec.shiftLeft_eq', hw1, toNat_one_shiftLeft (by omega)]
  have hlow : (1#32 <<< BitVec.ofNat 32 (top + 1) - 1).toNat = 2 ^ (top + 1) - 1 := by
    have hp : (1#32 <<< BitVec.ofNat 32 (top + 1)).toNat = 2 ^ (top + 1) := by
      rw [BitVec.shiftLeft_eq', hw, toNat_one_shiftLeft (by omega)]
    rw [toNat_sub_one, hp]
    intro h0
    rw [← BitVec.toNat_inj, hp] at h0
    simp at h0
  have hand : val.toNat &&& (2 ^ (top + 1) - 1) = BitRun.ones lo (top + 1) := by
    rw [hval, Nat.and_two_pow_sub_one_eq_mod, Nat.mod_eq_of_lt BitRun.ones_lt]
  have hpow := Nat.pow_le_pow_right (n := 2) (by decide) hlo
  have htop32 : 2 ^ top < 2 ^ 32 := Nat.pow_lt_pow_right (by decide) (by omega)
  have hlo0 := Nat.two_pow_pos lo
  -- the xor clears the top bit, and subtracting it borrows from all bits above
  simp only [cylpaSignExtend, BitVec.toNat_sub, BitVec.toNat_xor, BitVec.toNat_and, hmask, hlow,
    hand, BitRun.xor_top hlo]
  unfold BitRun.ones
  omega

theorem toNat_rangeMask {pf : CyPfPort} {k y : ℕ} (hport : pf.portnum.toNat = 2 ^ k)
    (hrange : pf.range.toNat + 1 = 2 ^ y) :
    (cylpaCreatePortnumRangeMask pf).2.toNat = BitRun.ones (min k y) 16 := by
  have hk : k < 16 := (Nat.pow_lt_pow_iff_right (by decide)).mp (hport ▸ pf.portnum.toNat_lt)
  have hy : y ≤ 16 := (Nat.pow_le_pow_iff_right (a := 2) (by decide)).mp
    (hrange ▸ pf.range.toNat_lt)
  -- the top set bit is the port's or the range's highest
  obtain ⟨top, htop⟩ : ∃ top, max (max k y) (k + 1) = top + 1 := ⟨max k (y - 1), by omega⟩
  have hport0 : promote pf.portnum ≠ 0 := fun h0 => by
    have := congrArg BitVec.toNat h0
    rw [toNat_promote, hport] at this
    simp at this
  set mask := narrow (((promote pf.portnum - 1) ^^^ promote pf.range) ||| promote pf.portnum)
    with hmask
  have hm : mask.toNat = BitRun.ones (min k y) (top + 1) := by
    have hrange' : pf.range.toNat = 2 ^ y - 1 := by omega
    rw [hmask, toNat_narrow, BitVec.toNat_or, BitVec.toNat_xor, toNat_sub_one hport0,
      toNat_promote, toNat_promote, hport, hrange', BitRun.xor_low,
      BitRun.or_bit (min_le_left k y) (le_max_left k y) min_le_max, htop, Nat.mod_eq_of_lt]
    exact BitRun.ones_lt.trans_le (Nat.pow_le_pow_right (by decide) (by omega))
  have hwidth : cylpaBitwidth (promote mask) = (top : ℤ) + 1 := by
    refine cylpaBitwidthFrom_eq ?_ 16 (by omega) (by decide) fun i hi => ?_
    · rw [toNat_promote, hm, BitRun.testBit_ones (by omega)]
      simp
      omega
    · rw [toNat_promote, hm, BitRun.testBit_ones (by omega)]
      simp
      omega
  have hext := toNat_cylpaSignExtend (promote mask) (min k y) top
    (by rw [toNat_promote, hm]) (by omega) (by omega)
  have hdef : (cylpaCreatePortnumRangeMask pf).2 = narrow (cylpaSignExtend (promote mask)
      (BitVec.ofInt 32 (cylpaBitwidth (promote mask)))) := rfl
  have hofInt : BitVec.ofInt 32 ((top : ℤ) + 1) = BitVec.ofNat 32 (top + 1) := by
    exact_mod_cast BitVec.ofInt_natCast 32 (top + 1)
  have hpow := Nat.pow_le_pow_right (n := 2) (by decide) (show min k y ≤ 16 by omega)
  rw [hdef, hwidth, hofInt, toNat_narrow, hext]
  have hpos := Nat.two_pow_pos (min k y)
  unfold BitRun.ones
  generalize 2 ^ min k y = b at hpow hpos ⊢
  omega

/-! ### The ports it matches -/

theorem matches_iff {pm : UInt16 × UInt16} {p : UInt16} :
    Matches pm p ↔ p.toNat &&& pm.2.toNat = pm.1.toNat := by
  rw [Matches, ← UInt16.toNat_inj, UInt16.toNat_and]

theorem single_matches_iff {pf : CyPfPort} {p : UInt16} :
    Matches (cylpaCreateSinglePortnumMask pf) p ↔ p = pf.portnum := by
  have hmask : p.toNat &&& (0xffff : UInt16).toNat = p.toNat := by
    refine (Nat.and_two_pow_sub_one_eq_mod p.toNat 16).trans (Nat.mod_eq_of_lt p.toNat_lt)
  rw [matches_iff, cylpaCreateSinglePortnumMask, hmask, UInt16.toNat_inj]

/-- The range branch is taken. -/
def CyPfPort.Ranged (pf : CyPfPort) : Prop :=
  pf.portnum.toNat.isPowerOfTwo ∧ (pf.range.toNat + 1).isPowerOfTwo ∧ 0 < pf.range.toNat

/-- The tests of `cylpa_pf_ol_init`. -/
theorem single_branch_iff (pf : CyPfPort) :
    (!isPower (promote pf.portnum) || !isPower (promote pf.range + 1) || pf.range = 0) = true ↔
      ¬ pf.Ranged := by
  have hsucc : (promote pf.range + 1).toNat = pf.range.toNat + 1 := by
    have := pf.range.toNat_lt
    rw [BitVec.toNat_add, toNat_promote]
    exact Nat.mod_eq_of_lt (by simp; omega)
  have hpos : pf.range = 0 ↔ ¬ 0 < pf.range.toNat := by
    rw [← UInt16.toNat_inj, Nat.pos_iff_ne_zero, not_not]
    rfl
  rw [Bool.or_eq_true, Bool.or_eq_true, Bool.not_eq_true', Bool.not_eq_true', decide_eq_true_eq,
    ← Bool.not_eq_true, ← Bool.not_eq_true, isPower_iff, isPower_iff, hsucc, toNat_promote, hpos,
    CyPfPort.Ranged, not_and_or, not_and_or, or_assoc]

theorem portMask_ranged {pf : CyPfPort} (h : pf.Ranged) :
    portMask pf = cylpaCreatePortnumRangeMask pf := by
  rw [portMask, if_neg ((single_branch_iff pf).not.mpr (not_not.mpr h))]

theorem portMask_single {pf : CyPfPort} (h : ¬ pf.Ranged) :
    portMask pf = cylpaCreateSinglePortnumMask pf := by
  rw [portMask, if_pos ((single_branch_iff pf).mpr h)]

/-- **The range branch** on a port `2 ^ k` and a range `2 ^ y - 1` matches the `2 ^ min k y` ports
from the port on. -/
theorem range_matches_iff {pf : CyPfPort} {k y : ℕ} (hport : pf.portnum.toNat = 2 ^ k)
    (hrange : pf.range.toNat + 1 = 2 ^ y) {p : UInt16} :
    Matches (cylpaCreatePortnumRangeMask pf) p ↔
      pf.portnum.toNat ≤ p.toNat ∧ p.toNat < pf.portnum.toNat + 2 ^ min k y := by
  have hk : k < 16 := (Nat.pow_lt_pow_iff_right (by decide)).mp (hport ▸ pf.portnum.toNat_lt)
  have hfst : (cylpaCreatePortnumRangeMask pf).1 = pf.portnum := rfl
  rw [matches_iff, toNat_rangeMask hport hrange, hfst]
  refine BitRun.and_ones_eq_iff (by omega) p.toNat_lt ?_
  rw [hport]
  exact pow_dvd_pow 2 (min_le_left k y)

/-- The code takes a range for good although it is not below its port, and the port is not the
one whose block is itself. -/
def CyPfPort.Overlong (pf : CyPfPort) : Prop :=
  pf.Ranged ∧ pf.portnum ≠ 1 ∧ pf.portnum.toNat ≤ pf.range.toNat

theorem CyPfPort.documented_of_not_rangeOk {pf : CyPfPort} (h : ¬ pf.RangeOk) {p : UInt16} :
    pf.Documented p ↔ p = pf.portnum :=
  ⟨fun hd => hd.2 h, fun hp => ⟨fun hr => absurd hr h, fun _ => hp⟩⟩

theorem CyPfPort.documented_of_rangeOk {pf : CyPfPort} (h : pf.RangeOk) {p : UInt16} :
    pf.Documented p ↔
      pf.portnum.toNat ≤ p.toNat ∧ p.toNat ≤ pf.portnum.toNat + pf.range.toNat :=
  ⟨fun hd => hd.1 h, fun hp => ⟨fun _ => hp, fun hn => absurd h hn⟩⟩

/-- A range below its port is matched as documented. -/
theorem matches_of_range_lt {pf : CyPfPort} (h : pf.Ranged)
    (hlt : pf.range.toNat < pf.portnum.toNat) (p : UInt16) :
    Matches (portMask pf) p ↔ pf.Documented p := by
  obtain ⟨k, hport⟩ := h.1
  obtain ⟨y, hrange⟩ := h.2.1
  have hyk : y ≤ k := by
    refine (Nat.pow_le_pow_iff_right (a := 2) (by decide)).mp ?_
    omega
  rw [portMask_ranged h, range_matches_iff hport hrange, Nat.min_eq_right hyk, ← hrange,
    CyPfPort.documented_of_rangeOk ⟨h.1, h.2.1, h.2.2, hlt⟩]
  omega

/-- A range that reaches its port `2 ^ k` matches the `2 ^ k` ports from it on. -/
theorem matches_of_le_range {pf : CyPfPort} (h : pf.Ranged)
    (hle : pf.portnum.toNat ≤ pf.range.toNat) (p : UInt16) :
    Matches (portMask pf) p ↔
      pf.portnum.toNat ≤ p.toNat ∧ p.toNat < pf.portnum.toNat + pf.portnum.toNat := by
  obtain ⟨k, hport⟩ := h.1
  obtain ⟨y, hrange⟩ := h.2.1
  have hky : k ≤ y := by
    refine (Nat.pow_le_pow_iff_right (a := 2) (by decide)).mp ?_
    omega
  rw [portMask_ranged h, range_matches_iff hport hrange, Nat.min_eq_left hky, ← hport]

/-- An overlong range matches the port after its own. -/
theorem CyPfPort.Overlong.matches_next {pf : CyPfPort} (h : pf.Overlong) :
    Matches (portMask pf) (pf.portnum + 1) ∧ pf.portnum + 1 ≠ pf.portnum := by
  obtain ⟨hr, hne, hle⟩ := h
  obtain ⟨k, hport⟩ := hr.1
  have h1 : (1 : UInt16).toNat = 1 := rfl
  have hk : 1 ≤ k := by
    refine Nat.one_le_iff_ne_zero.mpr fun hk => hne ?_
    rw [← UInt16.toNat_inj, hport, hk, h1]
  have hk16 : k < 16 :=
    (Nat.pow_lt_pow_iff_right (a := 2) (by decide)).mp (hport ▸ pf.portnum.toNat_lt)
  have hlo := Nat.pow_le_pow_right (n := 2) (by decide) hk
  have hhi := Nat.pow_le_pow_right (n := 2) (by decide) (show k ≤ 15 by omega)
  have hnext : (pf.portnum + 1).toNat = pf.portnum.toNat + 1 := by
    rw [UInt16.toNat_add, h1, hport]
    omega
  refine ⟨(matches_of_le_range hr hle _).mpr (by omega), fun h => ?_⟩
  rw [← UInt16.toNat_inj] at h
  omega

/-- **Port filters match the documented ports exactly when** no range that is a power of two less
one, on a port that is a power of two above 1, reaches the port. -/
theorem portMask_documented_iff (pf : CyPfPort) :
    (∀ p, Matches (portMask pf) p ↔ pf.Documented p) ↔ ¬ pf.Overlong := by
  by_cases h : pf.Ranged
  · rcases lt_or_ge pf.range.toNat pf.portnum.toNat with hlt | hle
    · exact iff_of_true (matches_of_range_lt h hlt) fun ho => absurd ho.2.2 (by omega)
    · have hok : ¬ pf.RangeOk := fun hok => absurd hok.2.2.2 (by omega)
      constructor
      · intro hall ho
        exact ho.matches_next.2
          ((CyPfPort.documented_of_not_rangeOk hok).mp ((hall _).mp ho.matches_next.1))
      · intro ho p
        -- the block of port 1 is port 1
        have hone : pf.portnum = 1 := by
          by_contra hne
          exact ho ⟨h, hne, hle⟩
        have h1 : (1 : UInt16).toNat = 1 := rfl
        rw [matches_of_le_range h hle, CyPfPort.documented_of_not_rangeOk hok, hone, h1,
          ← UInt16.toNat_inj, h1]
        omega
  · have hok : ¬ pf.RangeOk := fun hok => h ⟨hok.1, hok.2.1, hok.2.2.1⟩
    refine iff_of_true (fun p => ?_) fun ho => h ho.1
    rw [portMask_single h, single_matches_iff, CyPfPort.documented_of_not_rangeOk hok]

/-- Port 4 with range 7: the header promises port 4 alone, the filter matches 4 to 7. -/
theorem portMask_not_documented :
    ¬ ∀ (pf : CyPfPort) (p : UInt16), Matches (portMask pf) p ↔ pf.Documented p := by
  intro h
  have hm : Matches (portMask ⟨4, 7, .dest⟩) 5 := by decide
  have hok : ¬ CyPfPort.RangeOk ⟨4, 7, .dest⟩ := fun hok => absurd hok.2.2.2 (by decide)
  exact absurd (((h ⟨4, 7, .dest⟩ 5).mp hm).2 hok) (by decide)

end Lpa
