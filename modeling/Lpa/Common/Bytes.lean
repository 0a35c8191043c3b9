import Mathlib.Tactic.Ring
import Mathlib.Data.List.Basic

/-!
# Common — bytes of a little-endian host

Memory is read as bytes.  A 16- or 32-bit object is the list of its bytes, the low one first
(`le16`, `le32`); `hton16` and `hton32` swap them, so that the swapped object's bytes are in
network order (`le16_hton16`, `le32_hton32`).
-/

namespace Lpa

/-- A stretch of memory. -/
abbrev Bytes := List UInt8

/-- The low byte of a 16-bit object. -/
def lo (x : UInt16) : UInt8 := x.toUInt8

/-- The high byte of a 16-bit object. -/
def hi (x : UInt16) : UInt8 := (x >>> 8).toUInt8

/-- The 16-bit object with the given low and high byte. -/
def u16 (a b : UInt8) : UInt16 := UInt16.ofNat (a.toNat + 256 * b.toNat)

/-- Byte `i` of a 32-bit object, counted from the low end. -/
def byte (x : UInt32) (i : UInt32) : UInt8 := (x >>> (8 * i)).toUInt8

/-- The 32-bit object with the given bytes, the low one first. -/
def u32 (a b c d : UInt8) : UInt32 :=
  UInt32.ofNat (a.toNat + 256 * b.toNat + 65536 * c.toNat + 16777216 * d.toNat)

/-- A 16-bit object in memory. -/
def le16 (x : UInt16) : Bytes := [lo x, hi x]

/-- A 32-bit object in memory. -/
def le32 (x : UInt32) : Bytes := [byte x 0, byte x 1, byte x 2, byte x 3]

/-- `hton16` of a little-endian host. -/
def hton16 (x : UInt16) : UInt16 := u16 (hi x) (lo x)

/-- `hton32` of a little-endian host. -/
def hton32 (x : UInt32) : UInt32 := u32 (byte x 3) (byte x 2) (byte x 1) (byte x 0)

/-- `memcpy(dst + off, src, sizeof(src))`. -/
def memcpy (dst : Bytes) (off : ℕ) (src : Bytes) : Bytes :=
  dst.take off ++ src ++ dst.drop (off + src.length)

/-! ### Bytes of a word and the word of its bytes -/

@[simp] theorem toNat_lo (x : UInt16) : (lo x).toNat = x.toNat % 256 := by
  simp [lo]

@[simp] theorem toNat_hi (x : UInt16) : (hi x).toNat = x.toNat / 256 := by
  have := x.toNat_lt
  simp [hi, Nat.shiftRight_eq_div_pow]
  omega

@[simp] theorem toNat_u16 (a b : UInt8) : (u16 a b).toNat = a.toNat + 256 * b.toNat := by
  have := a.toNat_lt
  have := b.toNat_lt
  simp [u16]
  omega

@[simp] theorem lo_u16 (a b : UInt8) : lo (u16 a b) = a := by
  have := a.toNat_lt
  rw [← UInt8.toNat_inj, toNat_lo, toNat_u16]
  omega

@[simp] theorem hi_u16 (a b : UInt8) : hi (u16 a b) = b := by
  have := a.toNat_lt
  rw [← UInt8.toNat_inj, toNat_hi, toNat_u16]
  omega

@[simp] theorem u16_lo_hi (x : UInt16) : u16 (lo x) (hi x) = x := by
  rw [← UInt16.toNat_inj, toNat_u16, toNat_lo, toNat_hi]
  omega

theorem toNat_byte {x : UInt32} {i : ℕ} (h : i < 4) :
    (byte x (UInt32.ofNat i)).toNat = x.toNat / 256 ^ i % 256 := by
  have hi : (8 * UInt32.ofNat i).toNat % 32 = 8 * i := by
    simp [UInt32.toNat_mul]
    omega
  rw [byte, UInt32.toNat_toUInt8, UInt32.toNat_shiftRight, hi, Nat.shiftRight_eq_div_pow,
    Nat.pow_mul]

@[simp] theorem toNat_byte_zero (x : UInt32) : (byte x 0).toNat = x.toNat % 256 := by
  simpa using toNat_byte (x := x) (i := 0) (by decide)

@[simp] theorem toNat_byte_one (x : UInt32) : (byte x 1).toNat = x.toNat / 256 % 256 := by
  simpa using toNat_byte (x := x) (i := 1) (by decide)

@[simp] theorem toNat_byte_two (x : UInt32) : (byte x 2).toNat = x.toNat / 65536 % 256 := by
  simpa using toNat_byte (x := x) (i := 2) (by decide)

@[simp] theorem toNat_byte_three (x : UInt32) : (byte x 3).toNat = x.toNat / 16777216 := by
  have := x.toNat_lt
  have h : (byte x 3).toNat = x.toNat / 16777216 % 256 := by
    simpa using toNat_byte (x := x) (i := 3) (by decide)
  omega

@[simp] theorem toNat_u32 (a b c d : UInt8) :
    (u32 a b c d).toNat = a.toNat + 256 * b.toNat + 65536 * c.toNat + 16777216 * d.toNat := by
  have := a.toNat_lt
  have := b.toNat_lt
  have := c.toNat_lt
  have := d.toNat_lt
  simp [u32]
  omega

@[simp] theorem u32_bytes (x : UInt32) : u32 (byte x 0) (byte x 1) (byte x 2) (byte x 3) = x := by
  rw [← UInt32.toNat_inj, toNat_u32, toNat_byte_zero, toNat_byte_one, toNat_byte_two,
    toNat_byte_three]
  omega

@[simp] theorem le32_u32 (a b c d : UInt8) : le32 (u32 a b c d) = [a, b, c, d] := by
  have := a.toNat_lt
  have := b.toNat_lt
  have := c.toNat_lt
  have := d.toNat_lt
  simp only [le32, List.cons.injEq, and_true, ← UInt8.toNat_inj, toNat_byte_zero, toNat_byte_one,
    toNat_byte_two, toNat_byte_three, toNat_u32]
  refine ⟨?_, ?_, ?_, ?_⟩ <;> omega

/-- The bytes of `hton16 x` are those of `x` in network order. -/
@[simp] theorem le16_hton16 (x : UInt16) : le16 (hton16 x) = [hi x, lo x] := by
  simp [le16, hton16]

/-- The bytes of `hton32 x` are those of `x` in network order. -/
@[simp] theorem le32_hton32 (x : UInt32) :
    le32 (hton32 x) = [byte x 3, byte x 2, byte x 1, byte x 0] :=
  le32_u32 _ _ _ _

@[simp] theorem hton16_hton16 (x : UInt16) : hton16 (hton16 x) = x := by
  rw [hton16, hton16, hi_u16, lo_u16, u16_lo_hi]

@[simp] theorem hton32_hton32 (x : UInt32) : hton32 (hton32 x) = x := by
  have h := le32_hton32 x
  simp only [le32, List.cons.injEq, and_true] at h
  obtain ⟨h₀, h₁, h₂, h₃⟩ := h
  conv_lhs => rw [hton32, h₀, h₁, h₂, h₃]
  exact u32_bytes x

@[simp] theorem length_le16 (x : UInt16) : (le16 x).length = 2 := rfl

end Lpa
