import Mathlib.Tactic.IntervalCases

/-!
The wire format of protocol buffers, as far as it is written: base-128 varints and the fields
a proto3 message has when they are not at their default, each with the size the generated code
computes beforehand. Field numbers are at most 15, so that a tag is one byte.
-/

namespace ProtoWire

def varint (value : Nat) : List UInt8 :=
  if value < 128 then [UInt8.ofNat value]
  else UInt8.ofNat (value % 128 + 128) :: varint (value / 128)

/-- One byte for every seven bits, the division by seven done as a multiplication. -/
def varintSize (value : Nat) : Nat := ((value ||| 1).log2 * 9 + 73) / 64

def tag (number wireType : Nat) : UInt8 := UInt8.ofNat (8 * number + wireType)

def writeUInt64 (number : Nat) (value : UInt64) : List UInt8 :=
  if value ≠ 0 then tag number 0 :: varint value.toNat else []

def uint64Size (value : UInt64) : Nat := if value ≠ 0 then 1 + varintSize value.toNat else 0

def writeBool (number : Nat) (value : Bool) : List UInt8 := if value then [tag number 0, 1] else []

def boolSize (value : Bool) : Nat := if value then 2 else 0

/-- A length has 32 bits. -/
def writeBytes (number : Nat) (content : List UInt8) : List UInt8 :=
  tag number 2 :: (varint (content.length % 2 ^ 32) ++ content)

def lengthDelimitedSize (length : Nat) : Nat := 1 + (length + varintSize (length % 2 ^ 32))

def writeString (number : Nat) (text : String) : List UInt8 :=
  if text ≠ "" then writeBytes number text.toByteArray.data.toList else []

def stringSize (text : String) : Nat :=
  if text ≠ "" then lengthDelimitedSize text.utf8ByteSize else 0

theorem log2_or_one {value : Nat} (positive : value ≠ 0) : (value ||| 1).log2 = value.log2 := by
  have atLeast : value ≤ value ||| 1 := Nat.left_le_or
  rw [Nat.log2_eq_iff (by omega)]
  have bounds := (Nat.log2_eq_iff positive).mp rfl
  refine ⟨bounds.1.trans atLeast, Nat.or_lt_two_pow bounds.2 ?_⟩
  exact Nat.one_lt_two_pow (Nat.succ_ne_zero _)

theorem varintSize_small {value : Nat} (small : value < 128) : varintSize value = 1 := by
  rw [varintSize]
  have bits : (value ||| 1).log2 < 7 := by
    rw [Nat.log2_lt (by simp)]
    exact Nat.or_lt_two_pow small (by decide)
  omega

theorem log2_div_128 {value : Nat} (large : ¬ value < 128) :
    (value / 128).log2 = value.log2 - 7 := by
  have several : 7 ≤ value.log2 := (Nat.le_log2 (by omega)).mpr (by omega)
  obtain ⟨low, high⟩ := (Nat.log2_eq_iff (by omega : value ≠ 0)).mp rfl
  obtain ⟨shift, split⟩ := Nat.exists_eq_add_of_le several
  rw [split, Nat.add_sub_cancel_left, Nat.log2_eq_iff (by omega)]
  rw [split, Nat.add_comm, pow_add] at low
  rw [split, Nat.add_assoc, Nat.add_comm, pow_add] at high
  exact ⟨(Nat.le_div_iff_mul_le (by decide)).mpr low, (Nat.div_lt_iff_lt_mul (by decide)).mpr high⟩

theorem varintSize_step {value : Nat} (large : ¬ value < 128) (fits : value < 2 ^ 64) :
    varintSize value = varintSize (value / 128) + 1 := by
  have several : 7 ≤ value.log2 := (Nat.le_log2 (by omega)).mpr (by omega)
  have bits : value.log2 < 64 := (Nat.log2_lt (by omega)).mpr fits
  rw [varintSize, varintSize, log2_or_one (by omega), log2_or_one (by omega), log2_div_128 large]
  generalize value.log2 = log at bits several
  interval_cases log <;> rfl

theorem varint_length {value : Nat} (fits : value < 2 ^ 64) :
    (varint value).length = varintSize value := by
  fun_induction varint value with
  | case1 value small => rw [varintSize_small small, List.length_singleton]
  | case2 value large ih => rw [List.length_cons, ih (by omega), varintSize_step large fits]

theorem uint64Size_le (value : UInt64) : uint64Size value ≤ 11 := by
  have bits : (value.toNat ||| 1).log2 < 64 := by
    rw [Nat.log2_lt (by simp)]
    exact Nat.or_lt_two_pow value.toNat_lt (by decide)
  rw [uint64Size, varintSize]
  split <;> omega

theorem writeUInt64_length (number : Nat) (value : UInt64) :
    (writeUInt64 number value).length = uint64Size value := by
  rw [writeUInt64, uint64Size]
  split
  · rw [List.length_cons, varint_length value.toNat_lt, Nat.add_comm]
  · rfl

theorem writeBool_length (number : Nat) (value : Bool) :
    (writeBool number value).length = boolSize value := by
  cases value <;> rfl

theorem writeBytes_length (number : Nat) (content : List UInt8) :
    (writeBytes number content).length = lengthDelimitedSize content.length := by
  have fits : content.length % 2 ^ 32 < 2 ^ 64 := by omega
  rw [writeBytes, List.length_cons, List.length_append, varint_length fits,
    lengthDelimitedSize]
  omega

theorem writeString_length (number : Nat) (text : String) :
    (writeString number text).length = stringSize text := by
  rw [writeString, stringSize]
  split
  · rw [writeBytes_length, Array.length_toList]
    rfl
  · rfl

end ProtoWire
