import Mathlib.Tactic.Ring

/-!
Fixed-width little-endian words over byte lists. `decode` reads any number of
bytes, `encode` writes exactly `width` of them and drops the higher bits.
-/

namespace LittleEndian

def encode : Nat → Nat → List UInt8
  | 0, _ => []
  | width + 1, value => UInt8.ofNat value :: encode width (value / 256)

def decode (bytes : List UInt8) : Nat :=
  bytes.foldr (fun byte value => byte.toNat + 256 * value) 0

@[simp] theorem encode_length (width value : Nat) : (encode width value).length = width := by
  induction width generalizing value with
  | zero => rfl
  | succ width ih => simp only [encode, List.length_cons, ih]

theorem decode_encode (width value : Nat) :
    decode (encode width value) = value % 256 ^ width := by
  induction width generalizing value with
  | zero => simp [encode, decode, Nat.mod_one]
  | succ width ih =>
      have tail := ih (value / 256)
      simp only [decode] at tail
      have split : value % 256 ^ (width + 1) = value % 256 + 256 * (value / 256 % 256 ^ width) := by
        rw [pow_succ, Nat.mul_comm (256 ^ width) 256, Nat.mod_mul]
      rw [split]
      simp [encode, decode, tail]

theorem decode_encode_of_lt {width value : Nat} (bound : value < 256 ^ width) :
    decode (encode width value) = value := by
  rw [decode_encode, Nat.mod_eq_of_lt bound]

theorem decode_lt (bytes : List UInt8) : decode bytes < 256 ^ bytes.length := by
  induction bytes with
  | nil => simp [decode]
  | cons byte bytes ih =>
      have small := byte.toNat_lt
      simp only [decode] at ih
      simp only [decode, List.foldr_cons, List.length_cons, pow_succ]
      omega

theorem encode_decode (bytes : List UInt8) : encode bytes.length (decode bytes) = bytes := by
  induction bytes with
  | nil => rfl
  | cons byte bytes ih =>
      have small : byte.toNat < 256 := byte.toNat_lt
      have low : UInt8.ofNat (byte.toNat + 256 * decode bytes) = byte := by
        rw [← UInt8.toNat_inj, UInt8.toNat_ofNat']
        omega
      have high : (byte.toNat + 256 * decode bytes) / 256 = decode bytes := by omega
      have split : decode (byte :: bytes) = byte.toNat + 256 * decode bytes := rfl
      rw [List.length_cons, encode, split, low, high, ih]

theorem uint32_decode_encode (word : UInt32) :
    UInt32.ofNat (decode (encode 4 word.toNat)) = word := by
  have bound : word.toNat < 256 ^ 4 := by
    have := word.toNat_lt
    omega
  rw [decode_encode_of_lt bound, UInt32.ofNat_toNat]

end LittleEndian
