import Lpa.Support.Memory
import Lpa.Wowl.Pattern

/-!
# Wake on WLAN — decoding a pattern

`whd_wowl_set_pattern` of the packet filters with its memory.  A pattern and its mask are strings of
hexadecimal digits after `0x`; their bytes go into `pattern_array` and `mask_array`, which every
pattern is decoded in, and the bits of the mask are reversed in place.

* `whdWowlSetPattern_refines`: where no access is out of bounds, the model without memory does the
  same.
* `wowlPattern_decoded`: what is written in hexadecimal, in digits of either case, is what is sent.
* `wowlConversion_iff`: of the strings a configuration can hold, those that are converted within
  bounds.
-/

namespace Lpa

open Memory

/-- The arrays every pattern is decoded in. -/
structure WowlArrays where
  patternArray : Vector UInt8 maxPatternLen
  maskArray : Vector UInt8 maxMaskLen

/-- What `whd_set_wowl_pattern` is called with: `"add"` or `"del"`, the offset, and the arrays, each
with its size. -/
structure WowlPatternCall where
  add : Bool
  patternOffset : UInt16
  maskSize : UInt8
  mask : Vector UInt8 maxMaskLen
  patternSize : UInt8
  pattern : Vector UInt8 maxPatternLen

/-- The byte written by the two characters from `2 * j` on. -/
def hexPair (s : List UInt8) (j : ℕ) : Option UInt8 := do
  let high ← charAt s (2 * j)
  let low ← charAt s (2 * j + 1)
  some (hexCharToInt high <<< 4 ||| hexCharToInt low)

/-- One round of the loop that reverses the bits of `mask_array[i]`. -/
def swapBitsAt {n : ℕ} (i : ℕ) (maskArray : Vector UInt8 n) (k : UInt8) :
    Option (Vector UInt8 n) := do
  let b ← maskArray[i]?
  if (b >>> k) &&& 1 ≠ (b >>> (7 - k)) &&& 1 then
    let maskArray ← write maskArray i (b ^^^ (1 <<< k))
    let b ← maskArray[i]?
    write maskArray i (b ^^^ (1 <<< (7 - k)))
  else some maskArray

/-- One round of the loop over the mask. -/
def decodeMaskByte {n : ℕ} (mask : List UInt8) (maskArray : Vector UInt8 n) (i : ℕ) :
    Option (Vector UInt8 n) := do
  let b ← hexPair mask (i + 1)
  let maskArray ← write maskArray i b
  [0, 1, 2, 3].foldlM (swapBitsAt i) maskArray

/-- `whd_wowl_set_pattern`, with what `whd_set_wowl_pattern` answers if it is called: the result,
the arrays, and the call. -/
def WowlArrays.whdWowlSetPattern (arrays : WowlArrays) (pattern : List UInt8)
    (patternOffset : UInt16) (mask : List UInt8) (setPattern : Bool) (answer : UInt32) :
    Option (UInt32 × WowlArrays × Option WowlPatternCall) := do
  let patternSize := hexSize pattern
  let patternArray ← fill (fun i => hexPair pattern (i + 1)) 0 patternSize.toNat
    arrays.patternArray
  if mask.length % 2 ≠ 0 then some (1, { arrays with patternArray }, none)
  else
    let maskSize := hexSize mask
    let maskArray ← (List.range maskSize.toNat).foldlM (decodeMaskByte mask) arrays.maskArray
    let result := answer
    some (if result ≠ whdResultSuccess then 1 else result, ⟨patternArray, maskArray⟩,
      some ⟨setPattern, patternOffset, maskSize, maskArray, patternSize, patternArray⟩)

/-! ### The loop over the mask -/

section Mask

variable {n : ℕ} {mask : List UInt8} {maskArray : Vector UInt8 n} {b : UInt8} {i : ℕ}

/-- A round on the byte just written is a write of the byte it makes. -/
theorem write_bind_swapBitsAt (k : UInt8) :
    (write maskArray i b).bind (swapBitsAt i · k) = write maskArray i (swapBits b k) := by
  by_cases hi : i < n
  · have hget : ∀ x, (maskArray.set i x hi)[i]? = some x := fun x => Vector.getElem?_set_self hi
    simp only [write, dif_pos hi, Option.bind_some, swapBitsAt, hget, swapBits,
      Option.bind_eq_bind]
    by_cases hb : (b >>> k) &&& 1 = (b >>> (7 - k)) &&& 1
    · rw [if_neg (not_not.mpr hb), if_neg (not_not.mpr hb)]
    · rw [if_pos hb, if_pos hb, Vector.set_set, hget, Option.bind_some, Vector.set_set]
  · simp [write, hi]

/-- The mask is decoded byte by byte. -/
theorem decodeMaskByte_eq :
    decodeMaskByte mask maskArray i =
      ((hexPair mask (i + 1)).map reverseBits).bind (write maskArray i) := by
  have hrounds : ∀ (ks : List UInt8) b, (write maskArray i b).bind (ks.foldlM (swapBitsAt i)) =
      write maskArray i (ks.foldl swapBits b) := by
    intro ks
    induction ks with
    | nil => intro b; simp
    | cons k ks ih =>
        intro b
        rw [List.foldl_cons, ← ih, ← write_bind_swapBitsAt, Option.bind_assoc]
        rfl
  unfold decodeMaskByte
  rw [Option.bind_eq_bind, Option.bind_map]
  congr 1
  funext b
  exact hrounds [0, 1, 2, 3] b

/-- The loop over the mask. -/
theorem foldlM_decodeMaskByte (k : ℕ) :
    (List.range k).foldlM (decodeMaskByte mask) maskArray =
      fill (fun i => (hexPair mask (i + 1)).map reverseBits) 0 k maskArray := by
  unfold fill
  congr 1
  funext maskArray i
  rw [decodeMaskByte_eq, Nat.zero_add]

end Mask

/-! ### What is sent -/

/-- What the firmware makes of a call. -/
def WowlPatternCall.sent (c : WowlPatternCall) : WowlPattern where
  offset := c.patternOffset
  mask := c.mask.toList.take c.maskSize.toNat
  pattern := c.pattern.toList.take c.patternSize.toNat

section Sent

variable {arrays arrays' : WowlArrays} {pattern mask : List UInt8} {patternOffset : UInt16}
variable {setPattern : Bool} {answer result : UInt32} {call : WowlPatternCall}

theorem isSome_hexPair_iff {s : List UInt8} {j : ℕ} :
    (hexPair s j).isSome ↔ 2 * j + 1 ≤ s.length := by
  unfold hexPair
  cases hhigh : charAt s (2 * j) with
  | none =>
      have hlt : ¬ 2 * j ≤ s.length := by
        rw [← isSome_charAt_iff, hhigh]
        simp
      simp only [Option.bind_eq_bind, Option.bind_none, Option.isSome_none, Bool.false_eq_true,
        false_iff]
      omega
  | some high =>
      rw [← isSome_charAt_iff]
      cases charAt s (2 * j + 1) <;> simp

/-- A pair within a string is the byte of the model without memory. -/
theorem hexPair_eq {s : List UInt8} {i : ℕ} (h : 2 * (i + 1) + 1 ≤ s.length) :
    hexPair s (i + 1) = some (hexByte s i) := by
  unfold hexPair
  rw [charAt_of_le (by omega), charAt_of_le h]
  rfl

/-- The function, its loops written as fillings of the arrays. -/
theorem WowlArrays.whdWowlSetPattern_eq :
    arrays.whdWowlSetPattern pattern patternOffset mask setPattern answer =
      (fill (fun i => hexPair pattern (i + 1)) 0 (hexSize pattern).toNat
        arrays.patternArray).bind fun patternArray =>
          if mask.length % 2 ≠ 0 then some (1, { arrays with patternArray }, none)
          else (fill (fun i => (hexPair mask (i + 1)).map reverseBits) 0 (hexSize mask).toNat
            arrays.maskArray).map fun maskArray =>
              (if answer ≠ whdResultSuccess then 1 else answer, ⟨patternArray, maskArray⟩,
                some ⟨setPattern, patternOffset, hexSize mask, maskArray, hexSize pattern,
                  patternArray⟩) := by
  simp only [← foldlM_decodeMaskByte]
  unfold WowlArrays.whdWowlSetPattern
  simp only [Option.map_eq_bind]
  rfl

/-- The two loops of a call that is made. -/
theorem WowlArrays.whdWowlSetPattern_call
    (h : arrays.whdWowlSetPattern pattern patternOffset mask setPattern answer =
      some (result, arrays', some call)) :
    mask.length % 2 = 0 ∧ result = (if answer ≠ whdResultSuccess then 1 else answer) ∧
      call.add = setPattern ∧ call.patternOffset = patternOffset ∧
      call.patternSize = hexSize pattern ∧ call.maskSize = hexSize mask ∧
      fill (fun i => hexPair pattern (i + 1)) 0 (hexSize pattern).toNat arrays.patternArray =
        some call.pattern ∧
      fill (fun i => (hexPair mask (i + 1)).map reverseBits) 0 (hexSize mask).toNat
        arrays.maskArray = some call.mask := by
  rw [whdWowlSetPattern_eq] at h
  obtain ⟨patternArray, hpattern, h⟩ := Option.bind_eq_some_iff.mp h
  split at h
  · cases h
  · rename_i heven
    obtain ⟨maskArray, hmask, h⟩ := Option.map_eq_some_iff.mp h
    cases h
    exact ⟨not_not.mp heven, rfl, rfl, rfl, rfl, rfl, hpattern, hmask⟩

/-- **What is sent** is the pattern of the model without memory. -/
theorem WowlArrays.sent_eq
    (h : arrays.whdWowlSetPattern pattern patternOffset mask setPattern answer =
      some (result, arrays', some call)) :
    call.sent = wowlPattern pattern patternOffset mask := by
  obtain ⟨-, -, -, hoffset, hpsize, hmsize, hpattern, hmask⟩ := whdWowlSetPattern_call h
  have hpairs : ∀ {s : List UInt8} {i : ℕ}, (hexPair s (i + 1)).isSome →
      hexPair s (i + 1) = some (hexByte s i) := fun hs => hexPair_eq (isSome_hexPair_iff.mp hs)
  unfold WowlPatternCall.sent wowlPattern
  rw [hoffset, hpsize, hmsize]
  congr 1
  · refine take_toList_fill (fun i hi => ?_) hmask
    have hs := (isSome_fill_iff.mp (Option.isSome_of_mem hmask) i hi).2
    rw [Option.isSome_map] at hs
    rw [hpairs hs, Option.map_some]
  · refine take_toList_fill (fun i hi => ?_) hpattern
    exact hpairs (isSome_fill_iff.mp (Option.isSome_of_mem hpattern) i hi).2

/-- **Refinement**: without an access out of bounds the model without memory, with the firmware
it has, does the same. -/
theorem WowlArrays.whdWowlSetPattern_refines {call : Option WowlPatternCall} (w : WowlWorld)
    (h : arrays.whdWowlSetPattern pattern patternOffset mask setPattern whdResultSuccess =
      some (result, arrays', call)) :
    Lpa.whdWowlSetPattern pattern patternOffset mask setPattern w =
      (result, call.elim w fun c => (whdSetWowlPattern c.add c.sent w).2) := by
  have hw : ∀ k n : ℕ, k ≤ n → { w with overrun := w.overrun || decide (n < k) } = w := by
    intro k n hk
    rw [decide_eq_false (Nat.not_lt.mpr hk), Bool.or_false]
  unfold Lpa.whdWowlSetPattern
  have hrest := h
  rw [whdWowlSetPattern_eq] at hrest
  obtain ⟨patternArray, hpattern, hrest⟩ := Option.bind_eq_some_iff.mp hrest
  rw [hw _ _ (le_of_fill hpattern)]
  split at hrest
  · rename_i hodd
    cases hrest
    rw [if_pos hodd]
    rfl
  · rename_i heven
    obtain ⟨maskArray, hmask, hcall⟩ := Option.map_eq_some_iff.mp hrest
    rw [if_neg heven, hw _ _ (le_of_fill hmask)]
    cases hcall
    rw [Option.elim_some, WowlArrays.sent_eq h]
    rfl

end Sent

/-! ### The bits of a byte of the mask -/

/-- The bits at two places of a byte are the same. -/
theorem shiftRight_and_one_eq_iff {b : UInt8} {k l : ℕ} (hk : k < 8) (hl : l < 8) :
    (b >>> UInt8.ofNat k) &&& 1 = (b >>> UInt8.ofNat l) &&& 1 ↔
      b.toNat.testBit k = b.toNat.testBit l := by
  have hbit : ∀ {j : ℕ}, j < 8 → ((b >>> UInt8.ofNat j) &&& 1).toNat =
      (b.toNat.testBit j).toNat := fun {j} hj => by
    rw [UInt8.toNat_and, UInt8.toNat_shiftRight, UInt8.toNat_ofNat', UInt8.toNat_one,
      Nat.and_one_is_mod, Nat.toNat_testBit, Nat.shiftRight_eq_div_pow,
      Nat.mod_eq_of_lt (by omega : j < 2 ^ 8), Nat.mod_eq_of_lt hj]
  rw [← UInt8.toNat_inj, hbit hk, hbit hl]
  cases b.toNat.testBit k <;> cases b.toNat.testBit l <;> simp

/-- Toggling a bit. -/
theorem testBit_xor_shiftLeft {b : UInt8} {k i : ℕ} (hk : k < 8) :
    (b ^^^ (1 <<< UInt8.ofNat k)).toNat.testBit i = (b.toNat.testBit i ^^ decide (k = i)) := by
  have hone : ((1 : UInt8) <<< UInt8.ofNat k).toNat = 2 ^ k := by
    rw [UInt8.toNat_shiftLeft, UInt8.toNat_ofNat', UInt8.toNat_one,
      Nat.mod_eq_of_lt (by omega : k < 2 ^ 8), Nat.mod_eq_of_lt hk, Nat.one_shiftLeft,
      Nat.mod_eq_of_lt (Nat.pow_lt_pow_right (by decide) hk)]
  rw [UInt8.toNat_xor, hone, Nat.testBit_xor, Nat.testBit_two_pow]

/-- **A round** changes over the bits at `k` and `7 - k`. -/
theorem testBit_swapBits {b : UInt8} {k i : ℕ} (hk : k < 4) :
    (swapBits b (UInt8.ofNat k)).toNat.testBit i =
      b.toNat.testBit (if i = k then 7 - k else if i = 7 - k then k else i) := by
  have hsub : 7 - UInt8.ofNat k = UInt8.ofNat (7 - k) := by
    rw [UInt8.ofNat_sub (by omega)]
    rfl
  have hcond := shiftRight_and_one_eq_iff (b := b) (k := k) (l := 7 - k) (by omega) (by omega)
  unfold swapBits
  rw [hsub]
  by_cases hb : b.toNat.testBit k = b.toNat.testBit (7 - k)
  · rw [if_neg (not_not.mpr (hcond.mpr hb))]
    split
    · rename_i h
      rw [h, hb]
    · split
      · rename_i h
        rw [h, hb]
      · rfl
  · rw [if_pos (mt hcond.mp hb), testBit_xor_shiftLeft (by omega), testBit_xor_shiftLeft (by omega)]
    have hne : b.toNat.testBit k = !b.toNat.testBit (7 - k) := Bool.eq_not.mpr hb
    split
    · rename_i h
      subst h
      simp [hne, show ¬ 7 - i = i by omega]
    · split
      · rename_i h
        subst h
        simp [hne, show ¬ k = 7 - k by omega]
      · rename_i h₁ h₂
        simp [Ne.symm h₁, Ne.symm h₂]

/-- After `k` rounds the `k` bits at either end have changed places. -/
theorem testBit_foldl_swapBits {b : UInt8} {k : ℕ} (hk : k ≤ 4) {i : ℕ} (hi : i < 8) :
    ((List.range k).foldl (fun b k => swapBits b (UInt8.ofNat k)) b).toNat.testBit i =
      b.toNat.testBit (if i < k ∨ 8 ≤ i + k then 7 - i else i) := by
  induction k generalizing i with
  | zero => rw [if_neg (by omega)]; rfl
  | succ k ih =>
      rw [List.range_succ, List.foldl_append, List.foldl_cons, List.foldl_nil,
        testBit_swapBits (by omega), ih (by omega) (by split_ifs <;> omega)]
      congr 1
      grind

/-- **The bits of a byte of the mask** are reversed. -/
theorem testBit_reverseBits {b : UInt8} {i : ℕ} (hi : i < 8) :
    (reverseBits b).toNat.testBit i = b.toNat.testBit (7 - i) := by
  have h := testBit_foldl_swapBits (b := b) (k := 4) le_rfl hi
  rwa [if_pos (by omega)] at h

/-! ### Hexadecimal text -/

/-- A character of the digit with the value `v`, in either case. -/
def IsHexDigit (c v : UInt8) : Prop :=
  v < 10 ∧ c = 48 + v ∨ 10 ≤ v ∧ v < 16 ∧ (c = 65 + (v - 10) ∨ c = 97 + (v - 10))

theorem IsHexDigit.hexCharToInt_eq {c v : UInt8} (h : IsHexDigit c v) : hexCharToInt c = v := by
  have digit : ∀ v : Fin 10, hexCharToInt (48 + UInt8.ofNat v) = UInt8.ofNat v := by decide
  have upper : ∀ v : Fin 16, 10 ≤ v → hexCharToInt (65 + (UInt8.ofNat v - 10)) = UInt8.ofNat v := by
    decide
  have lower : ∀ v : Fin 16, 10 ≤ v → hexCharToInt (97 + (UInt8.ofNat v - 10)) = UInt8.ofNat v := by
    decide
  rcases h with ⟨hv, rfl⟩ | ⟨h10, h16, rfl | rfl⟩
  · simpa using digit ⟨v.toNat, UInt8.lt_iff_toNat_lt.mp hv⟩
  · simpa using upper ⟨v.toNat, UInt8.lt_iff_toNat_lt.mp h16⟩ (UInt8.le_iff_toNat_le.mp h10)
  · simpa using lower ⟨v.toNat, UInt8.lt_iff_toNat_lt.mp h16⟩ (UInt8.le_iff_toNat_le.mp h10)

/-- Bytes, and two digits for each. -/
inductive HexText : List UInt8 → List UInt8 → Prop
  | nil : HexText [] []
  | cons {b c d : UInt8} {bs s : List UInt8} (high : IsHexDigit c (b >>> 4))
      (low : IsHexDigit d (b &&& 15)) (rest : HexText bs s) : HexText (b :: bs) (c :: d :: s)

/-- The two halves of a byte. -/
theorem shiftLeft_four_or (b : UInt8) : (b >>> 4) <<< 4 ||| (b &&& 15) = b := by
  have hlt := b.toNat_lt
  rw [← UInt8.toNat_inj, UInt8.toNat_or, UInt8.toNat_shiftLeft, UInt8.toNat_shiftRight,
    UInt8.toNat_and]
  change b.toNat >>> 4 <<< 4 % 2 ^ 8 ||| b.toNat &&& 2 ^ 4 - 1 = b.toNat
  rw [Nat.and_two_pow_sub_one_eq_mod, Nat.mod_eq_of_lt, ← Nat.shiftLeft_add_eq_or_of_lt
    (Nat.mod_lt _ (by decide)), Nat.shiftLeft_eq, Nat.shiftRight_eq_div_pow]
  · omega
  · rw [Nat.shiftLeft_eq, Nat.shiftRight_eq_div_pow]
    omega

section HexText

variable {bs s : List UInt8}

theorem HexText.length_eq (h : HexText bs s) : s.length = 2 * bs.length := by
  induction h with
  | nil => rfl
  | cons _ _ _ ih => simp only [List.length_cons, ih]; omega

/-- Two characters in front move the pairs on by one. -/
theorem hexPair_cons_cons (c d : UInt8) (j : ℕ) : hexPair (c :: d :: s) (j + 1) = hexPair s j :=
  rfl

/-- **Decoding** gives the bytes back. -/
theorem HexText.hexPair_eq (h : HexText bs s) {i : ℕ} (hi : i < bs.length) :
    hexPair s i = some bs[i] := by
  induction h generalizing i with
  | nil => simp at hi
  | @cons b c d bs s high low _ ih =>
      cases i with
      | zero =>
          change some (hexCharToInt c <<< 4 ||| hexCharToInt d) = some b
          rw [high.hexCharToInt_eq, low.hexCharToInt_eq, shiftLeft_four_or]
      | succ i =>
          rw [hexPair_cons_cons]
          exact ih (Nat.lt_of_succ_lt_succ hi)

/-- A string of digits after `0x`. -/
def hexString (s : List UInt8) : List UInt8 := 48 :: 120 :: s

theorem toNat_hexSize {s : List UInt8} (h : s.length < 512) :
    (hexSize s).toNat = if s.length < 2 then 255 else s.length / 2 - 1 := by
  rw [hexSize, UInt8.toNat_sub, UInt8.toNat_ofNat', UInt8.toNat_one]
  split <;> omega

theorem HexText.toNat_hexSize (h : HexText bs s) (hlen : bs.length < 255) :
    (hexSize (hexString s)).toNat = bs.length := by
  have := h.length_eq
  have hs : (hexString s).length = s.length + 2 := rfl
  rw [Lpa.toNat_hexSize (by omega), if_neg (by omega)]
  omega

end HexText

/-! ### Within bounds -/

/-- The pairs of characters after `0x`. -/
def hexPairs (s : List UInt8) : ℕ := (s.length - 2) / 2

theorem toNat_hexSize_eq_hexPairs {s : List UInt8} (h : s.length < 512) (h2 : 2 ≤ s.length) :
    (hexSize s).toNat = hexPairs s := by
  rw [toNat_hexSize h, if_neg (by omega), hexPairs]
  omega

/-- **A loop over a string** stays within the string and its array exactly if there is a `0x`, or
the room of one. -/
theorem forall_hexPair_iff {s : List UInt8} {n : ℕ} (hs : s.length < 2 * n) (hn : n ≤ 128) :
    (∀ i < (hexSize s).toNat, 0 + i < n ∧ (hexPair s (i + 1)).isSome) ↔ 2 ≤ s.length := by
  rw [toNat_hexSize (by omega)]
  simp only [isSome_hexPair_iff]
  constructor
  · intro h
    by_contra hlt
    have := (h 0 (by rw [if_pos (by omega)]; decide)).2
    omega
  · intro h2 i hi
    rw [if_neg (by omega)] at hi
    omega

section Bounds

variable (arrays : WowlArrays) {pattern mask : List UInt8} (patternOffset : UInt16)
variable (setPattern : Bool) (answer : UInt32)

/-- **Every access is within bounds** exactly if the pattern has two characters and the mask one. -/
theorem isSome_whdWowlSetPattern_iff (hpattern : pattern.length < maxPatternLen)
    (hmask : mask.length < maxMaskLen) :
    (arrays.whdWowlSetPattern pattern patternOffset mask setPattern answer).isSome ↔
      2 ≤ pattern.length ∧ mask ≠ [] := by
  rw [maxPatternLen] at hpattern
  rw [maxMaskLen] at hmask
  have hp : (fill (fun i => hexPair pattern (i + 1)) 0 (hexSize pattern).toNat
      arrays.patternArray).isSome ↔ 2 ≤ pattern.length :=
    isSome_fill_iff.trans (forall_hexPair_iff (by change _ < 2 * 128; omega) (by decide))
  have hm : (fill (fun i => (hexPair mask (i + 1)).map reverseBits) 0 (hexSize mask).toNat
      arrays.maskArray).isSome ↔ 2 ≤ mask.length := by
    rw [isSome_fill_iff]
    simp only [Option.isSome_map]
    exact forall_hexPair_iff (by change _ < 2 * 16; omega) (by decide)
  rw [← List.length_pos_iff, ← hp, WowlArrays.whdWowlSetPattern_eq]
  cases fill (fun i => hexPair pattern (i + 1)) 0 (hexSize pattern).toNat
      arrays.patternArray with
  | none => simp
  | some patternArray =>
      rw [Option.bind_some, Option.isSome_some, eq_self, true_and]
      split
      · rename_i hodd
        simp only [Option.isSome_some, true_iff]
        omega
      · rename_i heven
        have hone : mask.length ≠ 1 := fun h => heven (by rw [h]; decide)
        rw [Option.isSome_map, hm]
        omega

/-- Whether something is sent. -/
theorem whdWowlSetPattern_sends_iff {result : UInt32} {arrays' : WowlArrays}
    {call : Option WowlPatternCall}
    (h : arrays.whdWowlSetPattern pattern patternOffset mask setPattern answer =
      some (result, arrays', call)) : call.isSome ↔ mask.length % 2 = 0 := by
  rw [WowlArrays.whdWowlSetPattern_eq] at h
  obtain ⟨patternArray, -, hrest⟩ := Option.bind_eq_some_iff.mp h
  split at hrest
  · cases hrest
    simpa using ‹mask.length % 2 ≠ 0›
  · obtain ⟨maskArray, -, hcall⟩ := Option.map_eq_some_iff.mp hrest
    cases hcall
    simpa using ‹¬ mask.length % 2 ≠ 0›

end Bounds

/-! ### What is written in hexadecimal -/

/-- The bytes a string is decoded to. -/
theorem HexText.map_hexByte {bs s : List UInt8} (h : HexText bs s) (hlen : bs.length < 255) :
    (List.range (hexSize (hexString s)).toNat).map (hexByte (hexString s)) = bs := by
  rw [h.toNat_hexSize hlen]
  refine List.ext_getElem (by simp) fun i hi hi' => ?_
  have hpair : hexPair (hexString s) (i + 1) = some bs[i] := h.hexPair_eq hi'
  have hlt := isSome_hexPair_iff.mp (Option.isSome_of_mem hpair)
  rw [Lpa.hexPair_eq (by omega)] at hpair
  simpa using Option.some.inj hpair

/-- **Patterns written in hexadecimal are sent as written**, in digits of either case: the bytes of
the pattern, and a mask whose bits, counted from the low end of each byte, are those written,
counted from the high end.  They do not depend on whether the pattern is added or deleted, or on
what was decoded before. -/
theorem wowlPattern_decoded {ps ms p m : List UInt8} (hp : HexText ps p) (hm : HexText ms m)
    (hps : ps.length ≤ 62) (hms : ms.length ≤ 6) (patternOffset : UInt16) :
    ∃ mask : List UInt8,
      (∀ i < 8 * ms.length, mask[i / 8]?.map (·.toNat.testBit (i % 8)) =
        ms[i / 8]?.map (·.toNat.testBit (7 - i % 8))) ∧
      ∀ (arrays : WowlArrays) (setPattern : Bool) (answer : UInt32), ∃ arrays' call,
        arrays.whdWowlSetPattern (hexString p) patternOffset (hexString m) setPattern answer =
          some (if answer ≠ whdResultSuccess then 1 else answer, arrays', some call) ∧
        call.add = setPattern ∧ call.patternSize.toNat = ps.length ∧
        call.maskSize.toNat = ms.length ∧ call.sent = ⟨patternOffset, mask, ps⟩ := by
  have hplen : (hexString p).length = 2 * ps.length + 2 := by rw [← hp.length_eq]; rfl
  have hmlen : (hexString m).length = 2 * ms.length + 2 := by rw [← hm.length_eq]; rfl
  refine ⟨ms.map reverseBits, fun i hi => ?_, fun arrays setPattern answer => ?_⟩
  · rw [List.getElem?_map, Option.map_map]
    congr 1
    funext b
    exact testBit_reverseBits (Nat.mod_lt i (by decide))
  · have hsome := (isSome_whdWowlSetPattern_iff arrays patternOffset setPattern answer
      (show (hexString p).length < maxPatternLen by rw [hplen, maxPatternLen]; omega)
      (show (hexString m).length < maxMaskLen by rw [hmlen, maxMaskLen]; omega)).mpr
      ⟨by omega, by simp [hexString]⟩
    obtain ⟨⟨result, arrays', call⟩, h⟩ := Option.isSome_iff_exists.mp hsome
    have hcall := (whdWowlSetPattern_sends_iff _ _ _ _ h).mpr (by omega)
    obtain ⟨call, rfl⟩ := Option.isSome_iff_exists.mp hcall
    have hsent := WowlArrays.sent_eq h
    obtain ⟨-, rfl, hadd, -, hpsize, hmsize, -, -⟩ := WowlArrays.whdWowlSetPattern_call h
    refine ⟨arrays', call, h, hadd, ?_, ?_, ?_⟩
    · rw [hpsize, hp.toNat_hexSize (by omega)]
    · rw [hmsize, hm.toNat_hexSize (by omega)]
    · rw [hsent, wowlPattern, hp.map_hexByte (by omega)]
      congr 1
      rw [← Function.comp_def reverseBits, ← List.map_map, hm.map_hexByte (by omega)]

/-! ### What a configuration can hold -/

/-- A string an array of `max` characters holds. -/
structure CharArray (max : ℕ) where
  chars : List UInt8
  length_lt : chars.length < max
  ne_nul : (0 : UInt8) ∉ chars

section Configuration

variable (arrays : WowlArrays) (pattern : CharArray maxPatternLen) (patternOffset : UInt16)
variable (mask : CharArray maxMaskLen) (setPattern : Bool) (answer : UInt32)

/-- **The conversion is right**: no read beyond a terminator, no write outside the arrays, and if
something is sent, the sizes are the numbers of pairs there are. -/
def WowlArrays.Converts : Prop :=
  ∃ result arrays' call,
    arrays.whdWowlSetPattern pattern.chars patternOffset mask.chars setPattern answer =
      some (result, arrays', call) ∧
    ∀ c ∈ call, c.patternSize.toNat = hexPairs pattern.chars ∧
      c.maskSize.toNat = hexPairs mask.chars

/-- A pattern without a pair of digits is not sent. -/
def WowlArrays.KeepsEmpty : Prop :=
  ∀ result arrays' call,
    arrays.whdWowlSetPattern pattern.chars patternOffset mask.chars setPattern answer =
      some (result, arrays', some call) → hexPairs pattern.chars ≠ 0

/-- **Any configuration**: the conversion is right exactly if the pattern has two characters and
the mask one; and then no pattern without a pair is sent exactly if this one has a pair, or the mask
is of odd length and turned down. -/
theorem wowlConversion_iff :
    (arrays.Converts pattern patternOffset mask setPattern answer ↔
      2 ≤ pattern.chars.length ∧ mask.chars ≠ []) ∧
    (arrays.Converts pattern patternOffset mask setPattern answer ∧
        arrays.KeepsEmpty pattern patternOffset mask setPattern answer ↔
      2 ≤ pattern.chars.length ∧ mask.chars ≠ [] ∧
        (4 ≤ pattern.chars.length ∨ mask.chars.length % 2 = 1)) := by
  have hp : pattern.chars.length < 128 := pattern.length_lt
  have hm : mask.chars.length < 16 := mask.length_lt
  have hsome := isSome_whdWowlSetPattern_iff arrays patternOffset setPattern answer
    pattern.length_lt mask.length_lt
  have hconverts : arrays.Converts pattern patternOffset mask setPattern answer ↔
      2 ≤ pattern.chars.length ∧ mask.chars ≠ [] := by
    rw [← hsome]
    constructor
    · rintro ⟨result, arrays', call, h, -⟩
      exact Option.isSome_of_mem h
    · intro h
      obtain ⟨h2, hne⟩ := hsome.mp h
      obtain ⟨⟨result, arrays', call⟩, h⟩ := Option.isSome_iff_exists.mp h
      refine ⟨result, arrays', call, h, fun c hc => ?_⟩
      obtain rfl := Option.mem_def.mp hc
      obtain ⟨heven, -, -, -, hpsize, hmsize, -, -⟩ := WowlArrays.whdWowlSetPattern_call h
      rw [← List.length_pos_iff] at hne
      exact ⟨by rw [hpsize, toNat_hexSize_eq_hexPairs (by omega) h2],
        by rw [hmsize, toNat_hexSize_eq_hexPairs (by omega) (by omega)]⟩
  refine ⟨hconverts, ?_⟩
  rw [hconverts, and_assoc]
  refine and_congr_right fun h2 => and_congr_right fun hne => ?_
  obtain ⟨⟨result, arrays', call⟩, h⟩ := Option.isSome_iff_exists.mp (hsome.mpr ⟨h2, hne⟩)
  have hsends := whdWowlSetPattern_sends_iff _ _ _ _ h
  have hpairs : hexPairs pattern.chars ≠ 0 ↔ 4 ≤ pattern.chars.length := by
    rw [hexPairs]
    omega
  rw [← hpairs]
  constructor
  · intro hkeeps
    cases call with
    | none =>
        have : ¬ mask.chars.length % 2 = 0 := fun h0 => by simpa using hsends.mpr h0
        exact Or.inr (by omega)
    | some call => exact Or.inl (hkeeps _ _ _ h)
  · rintro (hne | hodd) result₁ arrays₁ call₁ h₁
    · exact hne
    · rw [h] at h₁
      cases h₁
      have := hsends.mp rfl
      omega

end Configuration

/-- Arrays nothing has been decoded in. -/
def WowlArrays.boot : WowlArrays := ⟨Vector.replicate _ 0, Vector.replicate _ 0⟩

/-- The pattern `0xA5b7cD`, written in both cases. -/
theorem hexText_mixed : HexText [0xa5, 0xb7, 0xcd] [65, 53, 98, 55, 99, 68] :=
  .cons (.inr (by decide)) (.inl (by decide)) <| .cons (.inr (by decide)) (.inl (by decide)) <|
    .cons (.inr (by decide)) (.inr (by decide)) .nil

/-- And the mask `0x80f1`. -/
theorem hexText_mask : HexText [0x80, 0xf1] [56, 48, 102, 49] :=
  .cons (.inl (by decide)) (.inl (by decide)) <|
    .cons (.inr (by decide)) (.inl (by decide)) .nil

/-- Three bytes under a mask of two. -/
theorem wowlPattern_decoded_mixed :
    ∃ mask : List UInt8,
      (∀ i < 8 * [(0x80 : UInt8), 0xf1].length, mask[i / 8]?.map (·.toNat.testBit (i % 8)) =
        [(0x80 : UInt8), 0xf1][i / 8]?.map (·.toNat.testBit (7 - i % 8))) ∧
      ∀ (arrays : WowlArrays) (setPattern : Bool) (answer : UInt32), ∃ arrays' call,
        arrays.whdWowlSetPattern (hexString [65, 53, 98, 55, 99, 68]) 2
            (hexString [56, 48, 102, 49]) setPattern answer =
          some (if answer ≠ whdResultSuccess then 1 else answer, arrays', some call) ∧
        call.add = setPattern ∧ call.patternSize.toNat = [(0xa5 : UInt8), 0xb7, 0xcd].length ∧
        call.maskSize.toNat = [(0x80 : UInt8), 0xf1].length ∧
        call.sent = ⟨2, mask, [0xa5, 0xb7, 0xcd]⟩ :=
  wowlPattern_decoded hexText_mixed hexText_mask (by decide) (by decide) 2

/-- An empty pattern has no result: 255 pairs are read from it.  Nor has an empty mask.  And `0x`
is sent, with the size 0. -/
theorem wowl_empty_converted :
    ¬ WowlArrays.boot.Converts ⟨[], by decide, by decide⟩ 0
        ⟨[48, 120, 48, 49], by decide, by decide⟩ true 0 ∧
      ¬ WowlArrays.boot.Converts ⟨[48, 120, 48, 49], by decide, by decide⟩ 0
        ⟨[], by decide, by decide⟩ true 0 ∧
      ¬ WowlArrays.boot.KeepsEmpty ⟨[48, 120], by decide, by decide⟩ 0
        ⟨[48, 120, 48, 49], by decide, by decide⟩ true 0 := by
  refine ⟨?_, ?_, fun h => ?_⟩
  · rintro ⟨_, _, _, h, -⟩
    exact Option.some_ne_none _ h.symm
  · rintro ⟨_, _, _, h, -⟩
    exact Option.some_ne_none _ h.symm
  · exact h _ _ _ rfl rfl

end Lpa
