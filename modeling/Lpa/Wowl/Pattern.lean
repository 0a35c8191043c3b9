import Lpa.Offload.Info
import Mathlib.Data.Finset.Basic

/-!
# Wake on WLAN — patterns and wake reasons

What the firmware is told about waking up: the wake reasons, one word written by
`whd_set_wowl_cap`, and the patterns added and deleted by `whd_set_wowl_pattern`.  Two offloads
write them, each in its own way: the packet filters of `cy_lpa_wifi_wowlpf_ol.c`, whose patterns
are hexadecimal text, and the TLS offload of `cy_whd_tls_api.c`, whose patterns are bytes.

A buffer written past its end is recorded in `overrun`; what the world is after that means nothing.
-/

namespace Lpa

/-- `WL_WOWL_NET` and `WL_WOWL_SECURE`, which are the firmware's. -/
structure WowlBits where
  net : UInt32
  secure : UInt32

/-- A pattern as the firmware knows it. -/
structure WowlPattern where
  offset : UInt16
  mask : List UInt8
  pattern : List UInt8
deriving DecidableEq, Repr

/-- The wake reasons, the patterns installed, and whether a buffer has been overrun. -/
structure WowlWorld where
  cap : UInt32
  patterns : Finset WowlPattern
  overrun : Bool
deriving DecidableEq

/-- `WHD_SUCCESS`, as a `whd_result_t`. -/
def whdResultSuccess : UInt32 := 0

/-- `whd_set_wowl_pattern`: `"add"` or `"del"`. -/
def whdSetWowlPattern (add : Bool) (p : WowlPattern) (w : WowlWorld) : UInt32 × WowlWorld :=
  (whdResultSuccess, { w with patterns := if add then insert p w.patterns else w.patterns.erase p })

/-- `whd_set_wowl_cap`. -/
def whdSetWowlCap (value : UInt32) (w : WowlWorld) : UInt32 × WowlWorld :=
  (whdResultSuccess, { w with cap := value })

/-- A wake reason is asked for: the word is read, and written if it lacks some of `bits`. -/
def requireWowlCap (bits : UInt32) (w : WowlWorld) : UInt32 × WowlWorld :=
  let wowl := w.cap
  let wowl := wowl &&& bits
  if wowl ≠ bits then
    -- the mask has cleared what else was in the word
    let wowl := wowl ||| bits
    whdSetWowlCap wowl w
  else (whdResultSuccess, w)

/-! ### Packet filters -/

/-- `MAX_PATTERN_LEN`. -/
def maxPatternLen : ℕ := 128

/-- `MAX_MASK_LEN`. -/
def maxMaskLen : ℕ := 16

/-- `lower`. -/
def lower (c : UInt8) : UInt8 := if c ≥ 65 ∧ c ≤ 90 then c + 97 - 65 else c

/-- `hexCharToInt`, of which only the low byte is used. -/
def hexCharToInt (c : UInt8) : UInt8 := if c ≥ 48 ∧ c ≤ 57 then c - 48 else lower c - 97 + 10

/-- The bytes of a string of hexadecimal digits after `0x`; one too short for the `0x` counts as
very long. -/
def hexSize (s : List UInt8) : UInt8 := UInt8.ofNat (s.length / 2) - 1

/-- The byte at `i` of a string of hexadecimal digits. -/
def hexByte (s : List UInt8) (i : ℕ) : UInt8 :=
  hexCharToInt (s.getD (2 * (i + 1)) 0) <<< 4 ||| hexCharToInt (s.getD (2 * (i + 1) + 1) 0)

/-- One round of the loop that reverses the bits of a byte of the mask. -/
def swapBits (b : UInt8) (k : UInt8) : UInt8 :=
  if (b >>> k) &&& 1 ≠ (b >>> (7 - k)) &&& 1 then b ^^^ (1 <<< k) ^^^ (1 <<< (7 - k)) else b

/-- A byte of the mask, its bits reversed. -/
def reverseBits (b : UInt8) : UInt8 := [0, 1, 2, 3].foldl swapBits b

/-- `cy_wowlpf_feature_t`. -/
inductive CyWowlpfFeature where
  | wake
  | last
deriving DecidableEq, Repr

/-- `cy_wowlpf_ol_cfg_t`; `pattern` and `mask` are the strings in its arrays. -/
structure CyWowlpfOlCfg where
  feature : CyWowlpfFeature
  pattern : List UInt8
  mask : List UInt8
  offset : UInt16
deriving DecidableEq, Repr

/-- The pattern an entry stands for. -/
def wowlPattern (pattern : List UInt8) (offset : UInt16) (mask : List UInt8) : WowlPattern where
  offset := offset
  mask := (List.range (hexSize mask).toNat).map fun i => reverseBits (hexByte mask i)
  pattern := (List.range (hexSize pattern).toNat).map (hexByte pattern)

/-- `whd_wowl_set_pattern` of the packet filters. -/
def whdWowlSetPattern (pattern : List UInt8) (offset : UInt16) (mask : List UInt8) (add : Bool)
    (w : WowlWorld) : UInt32 × WowlWorld :=
  let w := { w with overrun := w.overrun || decide (maxPatternLen < (hexSize pattern).toNat) }
  if mask.length % 2 ≠ 0 then (1, w)
  else
    let w := { w with overrun := w.overrun || decide (maxMaskLen < (hexSize mask).toNat) }
    let (result, w) := whdSetWowlPattern add (wowlPattern pattern offset mask) w
    if result ≠ whdResultSuccess then (1, w) else (result, w)

/-- `cylpa_set_wowl_pattern`. -/
def cylpaSetWowlPattern (bits : WowlBits) (mode : Bool) (pattern : Option (List UInt8))
    (offset : UInt16) (mask : List UInt8) (w : WowlWorld) : UInt32 × WowlWorld :=
  match pattern with
  | none => (whdResultSuccess, w)
  | some pattern =>
    if mode then
      let (result, w) := requireWowlCap bits.net w
      let (result', w) := whdWowlSetPattern pattern offset mask true w
      (result ||| result', w)
    else whdWowlSetPattern pattern offset mask false w

/-! ### The TLS offload -/

/-- The length of `mask` in `whd_wowl_set_pattern` of the TLS offload. -/
def tlsoeMaskLen : ℕ := 64

/-- `whd_wowl_set_pattern` of the TLS offload; the sizes are handed on as bytes. -/
def whdTlsoeWowlSetPattern (patt : List UInt8) (patternSize offset : UInt16) (add : Bool)
    (w : WowlWorld) : UInt32 × WowlWorld :=
  let maskSize := UInt8.ofNat ((patternSize.toNat + 7) / 8)
  let w := { w with overrun := w.overrun || decide (tlsoeMaskLen < maskSize.toNat) }
  whdSetWowlPattern add
    ⟨offset, List.replicate maskSize.toNat 0xff, patt.take patternSize.toUInt8.toNat⟩ w

/-- `whd_tlsoe_set_wowl_pattern`. -/
def whdTlsoeSetWowlPattern (bits : WowlBits) (pattern : List UInt8) (patternLen offset : UInt16)
    (w : WowlWorld) : UInt32 × WowlWorld :=
  if patternLen > 0 then
    let (result, w) := requireWowlCap (bits.secure ||| bits.net) w
    let (result', w) := whdTlsoeWowlSetPattern pattern patternLen offset true w
    (result ||| result', w)
  else requireWowlCap bits.secure w

end Lpa
