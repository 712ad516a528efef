import EasyViewer.ByteBuffer
import EasyViewer.Library.Run

/-!
The indices and the capacity of `EasyIOByteBuffer.cpp` in the arithmetic of `size_t`, without
the bytes: every operation, with the conversions between `int`, `long long` and `size_t` that
it makes. The buffer of natural numbers is what they come to as long as nothing wraps.
-/

namespace EasyViewer

structure BufferIndices where
  capacity : UInt64
  readerIndex : UInt64 := 0
  writerIndex : UInt64 := 0
  deriving DecidableEq, Repr

inductive IndexOperation where
  | reset (capacity : UInt64)
  | ensureWritable (len : UInt64)
  | write (len : UInt64)
  | read (len : UInt64)
  | discardReadBytes (len : Int32)
  | moveReaderIndex (offset : Int32)
  | moveWriterIndex (offset : Int32)
  | clear
  deriving DecidableEq, Repr

namespace BufferIndices

def smeared (v : UInt64) : UInt64 :=
  let n := v ||| v >>> 1
  let n := n ||| n >>> 2
  let n := n ||| n >>> 4
  let n := n ||| n >>> 8
  let n := n ||| n >>> 16
  n ||| n >>> 32

def adjustSize (v : UInt64) : UInt64 :=
  let n := smeared v + 1
  if n >>> 1 = v then v else n

def reset (capacity : UInt64) : BufferIndices :=
  { capacity := if capacity < 4096 then 4096 else adjustSize capacity }

/-- Without a result where the assertion fails. -/
def numReadableBytes (indices : BufferIndices) : Option UInt64 :=
  if indices.readerIndex ≤ indices.writerIndex then
    some (indices.writerIndex - indices.readerIndex)
  else none

/-- The loop of `ensureWritable`, cut off after so many passes. -/
def grow (needed : UInt64) : Nat → UInt64 → Option UInt64
  | 0, _ => none
  | passes + 1, c => if needed ≤ c then some c else grow needed passes (c <<< 1)

/-- A word that was doubled 64 times is zero for good, so that later passes decide nothing. -/
def maxPasses : Nat := 65

def growthLoop (indices : BufferIndices) (len : UInt64) : Option UInt64 :=
  grow (indices.writerIndex + len) maxPasses (indices.capacity <<< 1)

/-- Without a result where the assertion fails or the loop does not end. -/
def ensureWritable (indices : BufferIndices) (len : UInt64) : Option BufferIndices :=
  let r := indices.capacity - indices.writerIndex
  if r < len then do
    let l ← indices.numReadableBytes
    if len ≤ indices.readerIndex ∧ indices.capacity >>> 1 < indices.readerIndex then
      return { indices with readerIndex := 0, writerIndex := l }
    else
      let c ← indices.growthLoop len
      return { capacity := c, readerIndex := 0, writerIndex := l }
  else some indices

def write (indices : BufferIndices) (len : UInt64) : Option BufferIndices :=
  if len = 0 then some indices
  else
    (indices.ensureWritable len).map fun room =>
      { room with writerIndex := room.writerIndex + len }

def consume (indices : BufferIndices) (count : UInt64) : Option BufferIndices :=
  let readerIndex := indices.readerIndex + count
  if indices.writerIndex < readerIndex then none
  else if readerIndex = indices.writerIndex then
    some { indices with readerIndex := 0, writerIndex := 0 }
  else some { indices with readerIndex := readerIndex }

def read (indices : BufferIndices) (len : UInt64) : Option BufferIndices := do
  let ret := min len (← indices.numReadableBytes)
  if ret = 0 then return indices else indices.consume ret

def discardReadBytes (indices : BufferIndices) (len : Int32) : Option BufferIndices := do
  let readable ← indices.numReadableBytes
  let l0 := if len < 0 then readable else len.toInt64.toUInt64
  indices.consume (min l0 readable)

def moveReaderIndex (indices : BufferIndices) (offset : Int32) : BufferIndices :=
  let index := (indices.readerIndex + offset.toInt64.toUInt64).toInt64
  if index < 0 then { indices with readerIndex := 0 }
  else if indices.writerIndex ≤ index.toUInt64 then
    { indices with readerIndex := indices.writerIndex }
  else { indices with readerIndex := index.toUInt64 }

def moveWriterIndex (indices : BufferIndices) (offset : Int32) : BufferIndices :=
  let index := (indices.writerIndex + offset.toInt64.toUInt64).toInt64
  if index < 0 then { indices with readerIndex := 0, writerIndex := 0 }
  else if index < indices.readerIndex.toInt64 then
    { indices with readerIndex := index.toUInt64, writerIndex := index.toUInt64 }
  else if indices.capacity ≤ index.toUInt64 then { indices with writerIndex := indices.capacity }
  else { indices with writerIndex := index.toUInt64 }

def step (indices : BufferIndices) : IndexOperation → Option BufferIndices
  | .reset capacity => some (reset capacity)
  | .ensureWritable len => indices.ensureWritable len
  | .write len => indices.write len
  | .read len => indices.read len
  | .discardReadBytes len => indices.discardReadBytes len
  | .moveReaderIndex offset => some (indices.moveReaderIndex offset)
  | .moveWriterIndex offset => some (indices.moveWriterIndex offset)
  | .clear => some { indices with readerIndex := 0, writerIndex := 0 }

/-- A capacity below `2 ^ 63` is asked for, and a block does not end behind the last address. -/
def InRange (indices : BufferIndices) : IndexOperation → Prop
  | .reset capacity => capacity.toNat < 2 ^ 63
  | .ensureWritable len | .write len => indices.writerIndex.toNat + len.toNat < 2 ^ 64
  | _ => True

/-- When room for `len` bytes is made by growing, the loop ends, with a power of two that comes
from the capacity by doublings none of which wraps, and neither does the sum it is compared with. -/
def Grows (indices : BufferIndices) (len : UInt64) : Prop :=
  indices.capacity - indices.writerIndex < len → ∃ c doublings,
    indices.growthLoop len = some c ∧ c.toNat = indices.capacity.toNat * 2 ^ (doublings + 1) ∧
      c.toNat.isPowerOfTwo ∧ indices.writerIndex.toNat + len.toNat ≤ c.toNat

def PowerCapacity (indices : BufferIndices) : Prop :=
  ∃ exponent, 12 ≤ exponent ∧ exponent ≤ 63 ∧ indices.capacity.toNat = 2 ^ exponent

theorem smeared_toNat (v : UInt64) : (smeared v).toNat = PowerOfTwo.smear 6 v.toNat := by
  simp [smeared, PowerOfTwo.smear]

theorem adjustSize_toNat {v : UInt64} (small : v.toNat < 2 ^ 63) :
    (adjustSize v).toNat = ByteBuffer.adjustSize v.toNat := by
  have fits : v.toNat < 2 ^ 2 ^ 6 := v.toNat_lt
  have short : v.toNat.size ≤ 63 := Nat.size_le.mpr small
  have noWrap : 2 ^ v.toNat.size < 2 ^ 64 := Nat.pow_lt_pow_right (by omega) (by omega)
  have succ : (smeared v + 1).toNat = PowerOfTwo.smear 6 v.toNat + 1 := by
    rw [UInt64.toNat_add, smeared_toNat, PowerOfTwo.smear_eq fits]
    simp only [UInt64.reduceToNat]
    rw [Nat.sub_add_cancel Nat.one_le_two_pow, Nat.mod_eq_of_lt noWrap]
  have half : (smeared v + 1) >>> 1 = v ↔ (smeared v + 1).toNat >>> 1 = v.toNat := by
    rw [← UInt64.toNat_inj, UInt64.toNat_shiftRight]
    rfl
  rw [ByteBuffer.adjustSize_eq, PowerOfTwo.roundUp, ← succ]
  simp only [adjustSize, half]
  split <;> rfl

theorem reset_toNat {c : UInt64} (small : c.toNat < 2 ^ 63) :
    (reset c).capacity.toNat = ByteBuffer.resetCapacity c.toNat := by
  have below : c < 4096 ↔ c.toNat < minCapacity := UInt64.lt_iff_toNat_lt
  simp only [reset, ByteBuffer.resetCapacity, below]
  split
  · rfl
  · exact adjustSize_toNat small

theorem reset_eq_pow {c : UInt64} (small : c.toNat < 2 ^ 63) :
    (reset c).capacity.toNat = 2 ^ Nat.clog 2 (max c.toNat 4096) := by
  rw [reset_toNat small, ByteBuffer.resetCapacity]
  split
  · rename_i less
    simp only [minCapacity] at less ⊢
    rw [Nat.max_eq_right less.le, show (4096 : Nat) = 2 ^ 12 by rfl, Nat.clog_pow 2 12 (by omega)]
  · rename_i enough
    simp only [minCapacity] at enough
    rw [ByteBuffer.adjustSize_eq, Nat.max_eq_left (by omega)]
    exact PowerOfTwo.roundUp_eq (by omega) c.toNat_lt

theorem reset_power {c : UInt64} (small : c.toNat < 2 ^ 63) : (reset c).PowerCapacity := by
  refine ⟨_, ?_, ?_, reset_eq_pow small⟩
  · rw [← Nat.pow_le_pow_iff_right (a := 2) (by omega)]
    exact (Nat.le_max_right c.toNat 4096).trans (Nat.le_pow_clog (by omega) _)
  · rw [Nat.clog_le_iff_le_pow (by omega)]
    exact Nat.max_le.mpr ⟨small.le, by decide⟩

theorem double_toNat (c : UInt64) : (c <<< 1).toNat = c.toNat * 2 % 2 ^ 64 := by
  rw [UInt64.toNat_shiftLeft]
  simp only [UInt64.reduceToNat, Nat.one_mod]
  rw [Nat.shiftLeft_eq, pow_one]

theorem double_pow {c : UInt64} {exponent : Nat} (power : c.toNat = 2 ^ exponent)
    (room : exponent < 63) : (c <<< 1).toNat = 2 ^ (exponent + 1) := by
  have bound : 2 ^ (exponent + 1) < 2 ^ 64 := Nat.pow_lt_pow_right (by omega) (by omega)
  rw [double_toNat, power, ← pow_succ, Nat.mod_eq_of_lt bound]

/-- From a power of two the loop comes to one that is large enough before anything wraps. -/
theorem grow_ends {needed : UInt64} (bounded : needed.toNat ≤ 2 ^ 63) (passes : Nat) {c : UInt64}
    {exponent : Nat} (power : c.toNat = 2 ^ exponent) (fits : exponent ≤ 63)
    (enough : 63 < exponent + passes) : ∃ result doublings, grow needed passes c = some result ∧
      result.toNat = 2 ^ (exponent + doublings) ∧ needed.toNat ≤ result.toNat := by
  induction passes generalizing c exponent with
  | zero => omega
  | succ passes ih =>
      simp only [grow]
      split
      · rename_i reached
        exact ⟨c, 0, rfl, power, UInt64.le_iff_toNat_le.mp reached⟩
      · rename_i short
        have less : c.toNat < needed.toNat := by
          rw [UInt64.le_iff_toNat_le] at short
          omega
        have room : exponent < 63 := by
          rw [← Nat.pow_lt_pow_iff_right (a := 2) (by omega), ← power]
          omega
        obtain ⟨result, doublings, ends, isPower, large⟩ :=
          ih (double_pow power room) (by omega) (by omega)
        exact ⟨result, doublings + 1, ends, by rw [isPower]; congr 1; omega, large⟩

theorem grow_zero {needed result : UInt64} (passes : Nat)
    (ends : grow needed passes 0 = some result) : needed ≤ 0 := by
  induction passes with
  | zero => simp [grow] at ends
  | succ passes ih =>
      simp only [grow] at ends
      split at ends
      · rename_i reached
        exact reached
      · exact ih ends

theorem grow_toNat {needed : UInt64} (passes : Nat) {c result : UInt64} {exponent : Nat}
    (positive : 0 < c.toNat) (power : c.toNat = 2 ^ exponent) (fits : exponent ≤ 63)
    (bounded : needed.toNat ≤ 2 ^ 63) (ends : grow needed passes c = some result) :
    result.toNat = ByteBuffer.growCapacity needed.toNat c.toNat positive := by
  induction passes generalizing c exponent with
  | zero => simp [grow] at ends
  | succ passes ih =>
      rw [ByteBuffer.growCapacity]
      simp only [grow, UInt64.le_iff_toNat_le] at ends
      split at ends
      · rename_i reached
        cases ends
        rw [if_pos reached]
      · rename_i short
        have room : exponent < 63 := by
          rw [← Nat.pow_lt_pow_iff_right (a := 2) (by omega), ← power]
          omega
        have doubled := double_pow power room
        rw [if_neg short]
        have next := ih (by rw [doubled]; exact Nat.two_pow_pos _) doubled (by omega) ends
        rw [next]
        congr 1
        rw [doubled, power, pow_succ]

theorem short_of_room {indices : BufferIndices} {len : UInt64}
    (inSpace : indices.writerIndex.toNat + len.toNat < 2 ^ 64)
    (short : indices.capacity - indices.writerIndex < len) :
    indices.capacity.toNat < indices.writerIndex.toNat + len.toNat := by
  rw [UInt64.lt_iff_toNat_lt, UInt64.toNat_sub] at short
  have capacity := indices.capacity.toNat_lt
  have writer := indices.writerIndex.toNat_lt
  omega

theorem PowerCapacity.doubles {indices : BufferIndices} (power : indices.PowerCapacity)
    {len : UInt64} (short : indices.capacity - indices.writerIndex < len)
    (bounded : indices.writerIndex.toNat + len.toNat ≤ 2 ^ 63) :
    ∃ exponent, exponent < 63 ∧ indices.capacity.toNat = 2 ^ exponent ∧
      (indices.capacity <<< 1).toNat = 2 ^ (exponent + 1) ∧
      (indices.writerIndex + len).toNat = indices.writerIndex.toNat + len.toNat := by
  obtain ⟨exponent, least, most, isPower⟩ := power
  have less := short_of_room (by omega) short
  have room : exponent < 63 := by
    rw [← Nat.pow_lt_pow_iff_right (a := 2) (by omega), ← isPower]
    omega
  refine ⟨exponent, room, isPower, double_pow isPower room, ?_⟩
  rw [UInt64.toNat_add, Nat.mod_eq_of_lt (by omega)]

theorem PowerCapacity.grows {indices : BufferIndices} (power : indices.PowerCapacity)
    {len : UInt64} (bounded : indices.writerIndex.toNat + len.toNat ≤ 2 ^ 63) :
    indices.Grows len := by
  intro short
  obtain ⟨exponent, room, isPower, doubled, sum⟩ := power.doubles short bounded
  have covered : (indices.writerIndex + len).toNat ≤ 2 ^ 63 := by omega
  obtain ⟨c, doublings, ends, isPowerToo, large⟩ := grow_ends covered maxPasses doubled
    (by omega) (by simp only [maxPasses]; omega)
  refine ⟨c, doublings, ends, ?_, ⟨_, isPowerToo⟩, sum ▸ large⟩
  rw [isPowerToo, isPower, ← pow_add]
  congr 1
  omega

/-- What the loop finds is the capacity that the buffer of natural numbers grows to. -/
theorem PowerCapacity.growthLoop_toNat {indices : BufferIndices} (power : indices.PowerCapacity)
    {len result : UInt64} (short : indices.capacity - indices.writerIndex < len)
    (bounded : indices.writerIndex.toNat + len.toNat ≤ 2 ^ 63)
    (ends : indices.growthLoop len = some result) :
    ∃ positive, result.toNat = ByteBuffer.growCapacity (indices.writerIndex.toNat + len.toNat)
      (indices.capacity.toNat * 2) positive := by
  obtain ⟨exponent, room, isPower, doubled, sum⟩ := power.doubles short bounded
  have twice : (indices.capacity <<< 1).toNat = indices.capacity.toNat * 2 := by
    rw [doubled, isPower, pow_succ]
  have positive : 0 < (indices.capacity <<< 1).toNat := by
    rw [doubled]
    exact Nat.two_pow_pos _
  have found := grow_toNat maxPasses positive doubled (by omega) (by omega) ends
  refine ⟨twice ▸ positive, ?_⟩
  simp only [sum, twice] at found
  exact found

/-- The indices are those of the buffer of natural numbers. -/
structure Of (indices : BufferIndices) (buffer : ByteBuffer) : Prop where
  capacity : indices.capacity.toNat = buffer.capacity
  readerIndex : indices.readerIndex.toNat = buffer.readerIndex
  writerIndex : indices.writerIndex.toNat = buffer.writerIndex

theorem Of.numReadableBytes {indices : BufferIndices} {buffer : ByteBuffer}
    (same : indices.Of buffer) : ∃ readable, indices.numReadableBytes = some readable ∧
      readable.toNat = buffer.numReadableBytes := by
  have ordered := buffer.ordered
  rw [← same.readerIndex, ← same.writerIndex] at ordered
  refine ⟨indices.writerIndex - indices.readerIndex, ?_, ?_⟩
  · rw [BufferIndices.numReadableBytes, if_pos (UInt64.le_iff_toNat_le.mpr ordered)]
  · rw [UInt64.toNat_sub_of_le _ _ (UInt64.le_iff_toNat_le.mpr ordered), same.writerIndex,
      same.readerIndex, ByteBuffer.numReadableBytes]

/-- As long as nothing wraps, room is made as the buffer of natural numbers makes it. -/
theorem Of.ensureWritable {indices : BufferIndices} {buffer : ByteBuffer}
    (same : indices.Of buffer) (power : indices.PowerCapacity) {len : UInt64}
    (bounded : indices.writerIndex.toNat + len.toNat ≤ 2 ^ 63) :
    ∃ next, indices.ensureWritable len = some next ∧
      next.Of (buffer.ensureWritable len.toNat) := by
  obtain ⟨readable, counted, readableBytes⟩ := same.numReadableBytes
  have ordered := buffer.ordered
  have fits : buffer.writerIndex ≤ buffer.capacity := buffer.fits
  have inside : indices.writerIndex ≤ indices.capacity := by
    rw [UInt64.le_iff_toNat_le, same.writerIndex, same.capacity]
    exact fits
  have room : (indices.capacity - indices.writerIndex).toNat =
      buffer.capacity - buffer.writerIndex := by
    rw [UInt64.toNat_sub_of_le _ _ inside, same.capacity, same.writerIndex]
  have half : (indices.capacity >>> 1).toNat = buffer.capacity / 2 := by
    rw [UInt64.toNat_shiftRight, same.capacity, ← Nat.shiftRight_one]
    rfl
  simp only [BufferIndices.ensureWritable, ByteBuffer.ensureWritable, UInt64.lt_iff_toNat_lt,
    UInt64.le_iff_toNat_le, room, half, same.readerIndex, counted]
  split
  · rename_i short
    split
    · refine ⟨_, rfl, ?_, rfl, readableBytes⟩
      simp only [same.capacity, ByteBuffer.capacity, List.length_append,
        ByteBuffer.readableBytes_length, List.length_drop]
      simp only [ByteBuffer.capacity] at fits
      simp only [ByteBuffer.numReadableBytes]
      omega
    · have grows : indices.capacity - indices.writerIndex < len := by
        rw [UInt64.lt_iff_toNat_lt, room]
        exact short
      obtain ⟨c, _, ends, _⟩ := power.grows bounded grows
      obtain ⟨positive, found⟩ := power.growthLoop_toNat grows bounded ends
      rw [ends]
      refine ⟨_, rfl, ?_, rfl, readableBytes⟩
      have grown := (ByteBuffer.growCapacity_bounds
        (indices.writerIndex.toNat + len.toNat) (indices.capacity.toNat * 2) positive).2
      simp only [same.capacity, same.writerIndex] at found grown
      simp only [found, ByteBuffer.capacity, List.length_append,
        ByteBuffer.readableBytes_length, List.length_replicate]
      simp only [ByteBuffer.capacity] at fits grown
      simp only [ByteBuffer.numReadableBytes]
      omega
  · exact ⟨indices, rfl, same⟩

theorem Of.write {indices : BufferIndices} {buffer : ByteBuffer} (same : indices.Of buffer)
    (power : indices.PowerCapacity) {bytes : List UInt8} {len : UInt64}
    (isLength : len.toNat = bytes.length)
    (bounded : indices.writerIndex.toNat + len.toNat ≤ 2 ^ 63) :
    ∃ next, indices.write len = some next ∧ next.Of (buffer.write bytes) := by
  have nothing : len = 0 ↔ bytes.length = 0 := by
    rw [← isLength, ← UInt64.toNat_inj]
    rfl
  simp only [BufferIndices.write, ByteBuffer.write, nothing]
  split
  · exact ⟨indices, rfl, same⟩
  · obtain ⟨room, made, sameRoom⟩ := same.ensureWritable power bounded
    rw [isLength] at sameRoom
    have fits := buffer.ensureWritable_room bytes.length
    have word := room.capacity.toNat_lt
    rw [sameRoom.capacity, ByteBuffer.capacity] at word
    rw [made]
    refine ⟨_, rfl, ?_, sameRoom.readerIndex, ?_⟩
    · rw [sameRoom.capacity]
      simp only [ByteBuffer.capacity, ByteBuffer.append, List.length_append, List.length_take,
        List.length_drop]
      omega
    · rw [UInt64.toNat_add, sameRoom.writerIndex, isLength, Nat.mod_eq_of_lt (by omega)]
      rfl

theorem grow_power {needed result : UInt64} (positive : 0 < needed.toNat) (passes : Nat)
    {c : UInt64} {exponent : Nat} (power : c.toNat = 2 ^ exponent) (fits : exponent ≤ 63)
    (ends : grow needed passes c = some result) :
    ∃ larger, exponent ≤ larger ∧ larger ≤ 63 ∧ result.toNat = 2 ^ larger := by
  induction passes generalizing c exponent with
  | zero => simp [grow] at ends
  | succ passes ih =>
      simp only [grow] at ends
      split at ends
      · cases ends
        exact ⟨exponent, le_rfl, fits, power⟩
      · by_cases room : exponent < 63
        · obtain ⟨larger, above, below, isPower⟩ := ih (double_pow power room) (by omega) ends
          exact ⟨larger, by omega, below, isPower⟩
        · have last : exponent = 63 := by omega
          subst last
          have isZero : c <<< 1 = 0 := UInt64.toNat_inj.mp (by rw [double_toNat, power]; rfl)
          rw [isZero] at ends
          have none := grow_zero passes ends
          rw [UInt64.le_iff_toNat_le] at none
          exact absurd none (Nat.not_le.mpr positive)

theorem PowerCapacity.of_same {indices next : BufferIndices} (power : indices.PowerCapacity)
    (same : next.capacity = indices.capacity) : next.PowerCapacity := by
  rw [PowerCapacity, same]
  exact power

theorem PowerCapacity.ensureWritable {indices next : BufferIndices} {len : UInt64}
    (power : indices.PowerCapacity) (inSpace : indices.writerIndex.toNat + len.toNat < 2 ^ 64)
    (made : indices.ensureWritable len = some next) : next.PowerCapacity := by
  simp only [BufferIndices.ensureWritable] at made
  split at made
  · rename_i short
    have less := short_of_room inSpace short
    obtain ⟨l, -, made⟩ := Option.bind_eq_some_iff.mp made
    split at made
    · cases made
      exact power
    · obtain ⟨c, ends, made⟩ := Option.bind_eq_some_iff.mp made
      cases made
      obtain ⟨exponent, least, most, isPower⟩ := power
      have positive : 0 < (indices.writerIndex + len).toNat := by
        rw [UInt64.toNat_add, Nat.mod_eq_of_lt inSpace]
        omega
      by_cases room : exponent < 63
      · obtain ⟨larger, above, below, isPowerToo⟩ :=
          grow_power positive maxPasses (double_pow isPower room) (by omega) ends
        exact ⟨larger, by omega, below, isPowerToo⟩
      · have last : exponent = 63 := by omega
        subst last
        have isZero : indices.capacity <<< 1 = 0 :=
          UInt64.toNat_inj.mp (by rw [double_toNat, isPower]; rfl)
        rw [growthLoop, isZero] at ends
        have none := UInt64.le_iff_toNat_le.mp (grow_zero maxPasses ends)
        exact absurd none (Nat.not_le.mpr positive)
  · cases made
    exact power

theorem consume_capacity {indices next : BufferIndices} {count : UInt64}
    (consumed : indices.consume count = some next) : next.capacity = indices.capacity := by
  simp only [consume] at consumed
  split at consumed
  · contradiction
  · split at consumed <;>
    · cases consumed
      rfl

theorem moveReaderIndex_capacity (indices : BufferIndices) (offset : Int32) :
    (indices.moveReaderIndex offset).capacity = indices.capacity := by
  simp only [moveReaderIndex]
  split
  · rfl
  · split <;> rfl

theorem moveWriterIndex_capacity (indices : BufferIndices) (offset : Int32) :
    (indices.moveWriterIndex offset).capacity = indices.capacity := by
  simp only [moveWriterIndex]
  split
  · rfl
  · split
    · rfl
    · split <;> rfl

/-- Whatever becomes of the indices, the capacity stays a power of two. -/
theorem PowerCapacity.step {indices next : BufferIndices} {operation : IndexOperation}
    (power : indices.PowerCapacity) (inRange : indices.InRange operation)
    (stepped : indices.step operation = some next) : next.PowerCapacity := by
  cases operation with
  | reset capacity =>
      cases stepped
      exact reset_power inRange
  | ensureWritable len => exact power.ensureWritable inRange stepped
  | write len =>
      simp only [BufferIndices.step, BufferIndices.write] at stepped
      split at stepped
      · cases stepped
        exact power
      · obtain ⟨room, made, rfl⟩ := Option.map_eq_some_iff.mp stepped
        have kept : room.PowerCapacity := power.ensureWritable inRange made
        exact kept
  | read len =>
      obtain ⟨readable, -, stepped⟩ := Option.bind_eq_some_iff.mp stepped
      simp only at stepped
      split at stepped
      · cases stepped
        exact power
      · exact power.of_same (consume_capacity stepped)
  | discardReadBytes len =>
      obtain ⟨readable, -, stepped⟩ := Option.bind_eq_some_iff.mp stepped
      exact power.of_same (consume_capacity stepped)
  | moveReaderIndex offset =>
      cases stepped
      exact power.of_same (moveReaderIndex_capacity indices offset)
  | moveWriterIndex offset =>
      cases stepped
      exact power.of_same (moveWriterIndex_capacity indices offset)
  | clear =>
      cases stepped
      exact power

/-- The capacity of a fresh buffer is the least power of two that is large enough, and in every
state that its operations lead to the growth loop ends without a wrap. -/
theorem capacity_arithmetic {c : UInt64} (small : c.toNat < 2 ^ 63) :
    IsLeast {capacity | capacity.isPowerOfTwo ∧ max c.toNat 4096 ≤ capacity}
        (reset c).capacity.toNat ∧
      ∀ operations indices, Transition.Along step InRange (reset c) operations →
        Transition.run step (reset c) operations = some indices →
          ∀ len, indices.writerIndex.toNat + len.toNat ≤ 2 ^ 63 → indices.Grows len := by
  refine ⟨⟨⟨⟨_, reset_eq_pow small⟩, ?_⟩, ?_⟩, ?_⟩
  · rw [reset_eq_pow small]
    exact Nat.le_pow_clog (by omega) _
  · rintro capacity ⟨⟨exponent, rfl⟩, enough⟩
    rw [reset_eq_pow small]
    exact Nat.pow_le_pow_right (by omega) ((Nat.clog_le_iff_le_pow (by omega)).mpr enough)
  · intro operations indices inRange ran len bounded
    have power := inRange.invariant step
      (fun state operation next power allowed stepped => power.step allowed stepped)
      (reset_power small) ran
    exact power.grows bounded

/-- A buffer of 5000 bytes that takes 9000 bytes and grows for 10000 more. -/
theorem capacity_arithmetic_sample : ∃ c doublings,
    (BufferIndices.mk 16384 0 9000).growthLoop 10000 = some c ∧
      c.toNat = 16384 * 2 ^ (doublings + 1) ∧ c.toNat.isPowerOfTwo ∧ 9000 + 10000 ≤ c.toNat :=
  (capacity_arithmetic (c := 5000) (by decide)).2 [.write 9000] ⟨16384, 0, 9000⟩
    ⟨show (0 : UInt64).toNat + (9000 : UInt64).toNat < 2 ^ 64 by decide, fun _ _ => trivial⟩
    (by decide) 10000 (by decide) (by decide)

end BufferIndices

end EasyViewer
