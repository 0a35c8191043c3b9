import Lpa.Support.Raise
import Lpa.Wowl.Pattern
import Mathlib.Data.Nat.Bitwise
import Mathlib.Data.Set.Lattice
import Mathlib.Order.ConditionallyCompleteLattice.Basic

/-!
# Wake on WLAN — wake reasons

Both offloads read the word of the wake reasons, mask it with the bits they need and write it if one
of them is missing.  What they write is the bits they need alone: other reasons are turned off.

* `bits_requireWowlCap`: on the set of bits, asking for a reason is `Raise.raise`.
* `wowlCalls_keep_iff`: whatever the order of the calls, no reason is turned off, every reason asked
  for is there, and the word at the end is the same, exactly if each call's bits contain the first
  word or are contained in it, and calls whose bits it lacks can be compared.
-/

namespace Lpa

/-- A call that sets a pattern: `cylpa_set_wowl_pattern` to add one, or
`whd_tlsoe_set_wowl_pattern`. -/
inductive WowlCall where
  | wowlpf (pattern : Option (List UInt8)) (offset : UInt16) (mask : List UInt8)
  | tlsoe (pattern : List UInt8) (patternLen offset : UInt16)

/-- What the call does. -/
def WowlCall.run (bits : WowlBits) : WowlCall → WowlWorld → WowlWorld
  | .wowlpf pattern offset mask, w => (cylpaSetWowlPattern bits true pattern offset mask w).2
  | .tlsoe pattern patternLen offset, w =>
      (whdTlsoeSetWowlPattern bits pattern patternLen offset w).2

/-- The wake reasons it needs; without a pattern a packet filter has nothing to set. -/
def WowlCall.needs (bits : WowlBits) : WowlCall → UInt32
  | .wowlpf none _ _ => 0
  | .wowlpf (some _) _ _ => bits.net
  | .tlsoe _ patternLen _ => if patternLen > 0 then bits.secure ||| bits.net else bits.secure

/-- The world after some calls. -/
def wowlAfter (bits : WowlBits) (w : WowlWorld) (calls : List WowlCall) : WowlWorld :=
  calls.foldl (fun w k => k.run bits w) w

/-- The word has every bit of `b`. -/
def HasBits (w b : UInt32) : Prop := b &&& w = b

instance (w b : UInt32) : Decidable (HasBits w b) := inferInstanceAs (Decidable (_ = _))

/-! ### Words as sets of bits -/

/-- The bits of a word. -/
def wordBits (w : UInt32) : Set ℕ := {i | w.toNat.testBit i}

theorem wordBits_injective : Function.Injective wordBits := by
  intro w w' h
  refine UInt32.toNat_inj.mp (Nat.eq_of_testBit_eq fun i => ?_)
  exact Bool.eq_iff_iff.mpr (Set.ext_iff.mp h i)

theorem wordBits_and (w w' : UInt32) : wordBits (w &&& w') = wordBits w ∩ wordBits w' := by
  ext i
  simp [wordBits]

theorem wordBits_or (w w' : UInt32) : wordBits (w ||| w') = wordBits w ∪ wordBits w' := by
  ext i
  simp [wordBits]

theorem hasBits_iff {w b : UInt32} : HasBits w b ↔ wordBits b ⊆ wordBits w := by
  unfold HasBits
  rw [← wordBits_injective.eq_iff, wordBits_and]
  exact Set.inter_eq_left

/-- **Asking for a reason** keeps the word if the bits are there, and writes them alone if not. -/
theorem bits_requireWowlCap (bits : UInt32) (w : WowlWorld) :
    wordBits (requireWowlCap bits w).2.cap = Raise.raise (wordBits w.cap) (wordBits bits) := by
  have hmask : w.cap &&& bits = bits ↔ wordBits bits ≤ wordBits w.cap := by
    rw [UInt32.and_comm]
    exact hasBits_iff
  unfold requireWowlCap Raise.raise
  dsimp only
  by_cases h : w.cap &&& bits = bits
  · rw [if_neg (not_not.mpr h), if_pos (hmask.mp h)]
  · rw [if_pos h, if_neg (mt hmask.mpr h)]
    simp only [whdSetWowlCap, wordBits_or, wordBits_and]
    exact Set.union_eq_right.mpr Set.inter_subset_right

/-- Setting a pattern leaves the word alone. -/
@[simp] theorem whdWowlSetPattern_cap (pattern mask : List UInt8) (offset : UInt16) (add : Bool)
    (w : WowlWorld) : (whdWowlSetPattern pattern offset mask add w).2.cap = w.cap := by
  unfold whdWowlSetPattern
  dsimp only
  split
  · rfl
  · simp [whdSetWowlPattern]

theorem wordBits_zero : wordBits 0 = ∅ := by
  simp [wordBits]

/-- **A call** asks for the reasons it needs. -/
theorem bits_run (bits : WowlBits) (k : WowlCall) (w : WowlWorld) :
    wordBits (k.run bits w).cap = Raise.raise (wordBits w.cap) (wordBits (k.needs bits)) := by
  cases k with
  | wowlpf pattern offset mask =>
      cases pattern with
      | none =>
          rw [WowlCall.needs, wordBits_zero]
          exact (if_pos (Set.empty_subset _)).symm
      | some pattern =>
          refine (congrArg wordBits (whdWowlSetPattern_cap ..)).trans ?_
          exact bits_requireWowlCap bits.net w
  | tlsoe pattern patternLen offset =>
      simp only [WowlCall.run, WowlCall.needs, whdTlsoeSetWowlPattern]
      split
      · exact bits_requireWowlCap _ w
      · exact bits_requireWowlCap _ w

/-- Some calls. -/
theorem bits_wowlAfter (bits : WowlBits) (w : WowlWorld) (calls : List WowlCall) :
    wordBits (wowlAfter bits w calls).cap =
      Raise.after (fun k : WowlCall => wordBits (k.needs bits)) (wordBits w.cap) calls := by
  induction calls generalizing w with
  | nil => rfl
  | cons k calls ih =>
      rw [Raise.after_cons, ← bits_run]
      exact ih (k.run bits w)

/-! ### Sequences of calls -/

/-- The call after `xs` keeps every wake reason and turns those on that it needs. -/
def KeepsReasons (bits : WowlBits) (w : WowlWorld) (xs : List WowlCall) (k : WowlCall) : Prop :=
  HasBits (wowlAfter bits w (xs ++ [k])).cap (wowlAfter bits w xs).cap ∧
    HasBits (wowlAfter bits w (xs ++ [k])).cap (k.needs bits)

/-- The bits of one word contain the other's. -/
def Nested (b b' : UInt32) : Prop := HasBits b b' ∨ HasBits b' b

theorem nested_iff {b b' : UInt32} :
    Nested b b' ↔ Raise.Comparable (wordBits b') (wordBits b) := by
  unfold Nested Raise.Comparable
  rw [hasBits_iff, hasBits_iff]

/-- What a call needs is there after it. -/
theorem keepsReasons_iff {bits : WowlBits} {w : WowlWorld} {xs : List WowlCall} {k : WowlCall} :
    KeepsReasons bits w xs k ↔
      HasBits (wowlAfter bits w (xs ++ [k])).cap (wowlAfter bits w xs).cap := by
  refine and_iff_left (hasBits_iff.mpr ?_)
  rw [bits_wowlAfter, Raise.after_concat]
  exact Raise.le_raise _ _

theorem lossless_iff_keepsReasons {bits : WowlBits} {w : WowlWorld} {calls : List WowlCall} :
    Raise.Lossless (fun k : WowlCall => wordBits (k.needs bits)) (wordBits w.cap) calls ↔
      ∀ xs k, xs ++ [k] <+: calls → KeepsReasons bits w xs k := by
  refine forall₂_congr fun xs k => imp_congr_right fun _ => ?_
  rw [keepsReasons_iff, hasBits_iff, bits_wowlAfter, bits_wowlAfter]

/-- **Turning on one wake reason never turns off another**, and the order of the calls does not
matter, exactly if each call's bits and the first word are nested, and so are the bits of any two
calls that the first word lacks. -/
theorem wowlCalls_keep_iff (bits : WowlBits) (w : WowlWorld) (calls : List WowlCall) :
    (∀ calls', calls'.Perm calls →
      (∀ xs k, xs ++ [k] <+: calls' → KeepsReasons bits w xs k) ∧
        (wowlAfter bits w calls').cap = (wowlAfter bits w calls).cap) ↔
    (∀ k ∈ calls, Nested w.cap (k.needs bits)) ∧
      ∀ k ∈ calls, ∀ k' ∈ calls, ¬ HasBits w.cap (k.needs bits) →
        ¬ HasBits w.cap (k'.needs bits) → Nested (k.needs bits) (k'.needs bits) := by
  have horderly : ((∀ k ∈ calls, Nested w.cap (k.needs bits)) ∧
      ∀ k ∈ calls, ∀ k' ∈ calls, ¬ HasBits w.cap (k.needs bits) →
        ¬ HasBits w.cap (k'.needs bits) → Nested (k.needs bits) (k'.needs bits)) ↔
      Raise.Orderly (fun k : WowlCall => wordBits (k.needs bits)) (wordBits w.cap) calls := by
    simp only [nested_iff, hasBits_iff]
    rfl
  rw [horderly, ← Raise.lossless_iff]
  refine ⟨fun h calls' hp => lossless_iff_keepsReasons.mpr (h calls' hp).1, fun h calls' hp => ?_⟩
  refine ⟨lossless_iff_keepsReasons.mp (h calls' hp), wordBits_injective ?_⟩
  rw [bits_wowlAfter, bits_wowlAfter]
  exact (Raise.lossless_iff.mp h).after_eq hp

/-- A pattern set while only magic packets wake the host turns them off. -/
theorem wowlCalls_not_keep :
    ¬ ∀ (bits : WowlBits) (w : WowlWorld) (calls : List WowlCall) (calls' : List WowlCall),
      calls'.Perm calls →
        (∀ xs k, xs ++ [k] <+: calls' → KeepsReasons bits w xs k) ∧
          (wowlAfter bits w calls').cap = (wowlAfter bits w calls).cap := by
  intro h
  have hkeep := (h ⟨2, 0x2000000⟩ ⟨1, ∅, false⟩ [.wowlpf (some [48, 120]) 0 [48, 120]] _
    (.refl _)).1 [] _ (List.prefix_refl _)
  exact absurd hkeep.1 (by decide)

end Lpa
