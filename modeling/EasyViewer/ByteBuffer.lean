import Mathlib.Data.List.Basic
import EasyViewer.Library.LittleEndian
import EasyViewer.Library.PowerOfTwo

/-!
The receive and send buffer of `EasyIOByteBuffer.cpp`: an array with a reader and
a writer index that compacts or doubles when it runs out of room. The bytes of a
fresh array are zeros here; no operation reads them before they are written.
-/

namespace EasyViewer

def minCapacity : Nat := 4096

structure ByteBuffer where
  data : List UInt8
  readerIndex : Nat
  writerIndex : Nat
  ordered : readerIndex ≤ writerIndex
  fits : writerIndex ≤ data.length
  minimal : minCapacity ≤ data.length

namespace ByteBuffer

def capacity (buffer : ByteBuffer) : Nat := buffer.data.length

def numReadableBytes (buffer : ByteBuffer) : Nat := buffer.writerIndex - buffer.readerIndex

def readableBytes (buffer : ByteBuffer) : List UInt8 :=
  (buffer.data.drop buffer.readerIndex).take buffer.numReadableBytes

@[simp] theorem readableBytes_length (buffer : ByteBuffer) :
    buffer.readableBytes.length = buffer.numReadableBytes := by
  have ordered := buffer.ordered
  have fits := buffer.fits
  simp only [readableBytes, numReadableBytes, List.length_take, List.length_drop]
  omega

def empty : ByteBuffer where
  data := List.replicate minCapacity 0
  readerIndex := 0
  writerIndex := 0
  ordered := le_rfl
  fits := Nat.zero_le _
  minimal := by simp

@[simp] theorem empty_readableBytes : empty.readableBytes = [] := by
  simp [empty, readableBytes, numReadableBytes]

theorem empty_capacity : empty.capacity = minCapacity := List.length_replicate

/-- The loop of `ensureWritable` that doubles a capacity until `needed` bytes fit. -/
def growCapacity (needed capacity : Nat) (positive : 0 < capacity) : Nat :=
  if needed ≤ capacity then capacity
  else growCapacity needed (capacity * 2) (by omega)
termination_by needed - capacity

theorem growCapacity_bounds (needed capacity : Nat) (positive : 0 < capacity) :
    needed ≤ growCapacity needed capacity positive ∧
      capacity ≤ growCapacity needed capacity positive := by
  fun_induction growCapacity needed capacity positive with
  | case1 capacity positive enough => exact ⟨enough, le_rfl⟩
  | case2 capacity positive short ih => exact ⟨ih.1, by omega⟩

def ensureWritable (buffer : ByteBuffer) (len : Nat) : ByteBuffer :=
  if buffer.capacity - buffer.writerIndex < len then
    if len ≤ buffer.readerIndex ∧ buffer.capacity / 2 < buffer.readerIndex then
      { data := buffer.readableBytes ++ buffer.data.drop buffer.numReadableBytes
        readerIndex := 0
        writerIndex := buffer.numReadableBytes
        ordered := Nat.zero_le _
        fits := by simp
        minimal := by
          have minimal := buffer.minimal
          simp only [List.length_append, readableBytes_length, List.length_drop]
          omega }
    else
      let capacity := growCapacity (buffer.writerIndex + len) (buffer.capacity * 2)
        (by have minimal := buffer.minimal; simp only [minCapacity] at minimal; simp only [ByteBuffer.capacity]; omega)
      { data := buffer.readableBytes ++ List.replicate (capacity - buffer.numReadableBytes) 0
        readerIndex := 0
        writerIndex := buffer.numReadableBytes
        ordered := Nat.zero_le _
        fits := by simp
        minimal := by
          have minimal := buffer.minimal
          have grown : buffer.capacity * 2 ≤ capacity := (growCapacity_bounds ..).2
          simp only [ByteBuffer.capacity] at grown
          simp only [List.length_append, readableBytes_length, List.length_replicate]
          omega }
  else buffer

theorem readableBytes_of_split (buffer : ByteBuffer) (front middle back : List UInt8)
    (split : buffer.data = front ++ (middle ++ back)) (reader : buffer.readerIndex = front.length)
    (writer : buffer.writerIndex = front.length + middle.length) :
    buffer.readableBytes = middle := by
  simp [readableBytes, numReadableBytes, split, reader, writer]

@[simp] theorem ensureWritable_readableBytes (buffer : ByteBuffer) (len : Nat) :
    (buffer.ensureWritable len).readableBytes = buffer.readableBytes := by
  simp only [ensureWritable]
  split
  · split
    · exact readableBytes_of_split _ [] _ _ rfl rfl (by simp)
    · exact readableBytes_of_split _ [] _ _ rfl rfl (by simp)
  · rfl

theorem ensureWritable_room (buffer : ByteBuffer) (len : Nat) :
    (buffer.ensureWritable len).writerIndex + len ≤ (buffer.ensureWritable len).data.length := by
  have ordered := buffer.ordered
  have fits := buffer.fits
  simp only [ensureWritable]
  split
  · rename_i full
    simp only [capacity] at full
    split
    · rename_i compact
      simp only [List.length_append, readableBytes_length, List.length_drop, numReadableBytes]
      omega
    · have positive : 0 < buffer.capacity * 2 := by
        have minimal := buffer.minimal
        simp only [minCapacity] at minimal
        simp only [capacity]
        omega
      have grown := (growCapacity_bounds (buffer.writerIndex + len) (buffer.capacity * 2) positive).1
      simp only [List.length_append, readableBytes_length, List.length_replicate,
        numReadableBytes]
      omega
  · rename_i room
    simp only [capacity] at room
    omega

def append (buffer : ByteBuffer) (bytes : List UInt8)
    (room : buffer.writerIndex + bytes.length ≤ buffer.data.length) : ByteBuffer where
  data := buffer.data.take buffer.writerIndex ++
    (bytes ++ buffer.data.drop (buffer.writerIndex + bytes.length))
  readerIndex := buffer.readerIndex
  writerIndex := buffer.writerIndex + bytes.length
  ordered := Nat.le_add_right_of_le buffer.ordered
  fits := by
    simp only [List.length_append, List.length_take, List.length_drop]
    omega
  minimal := by
    have minimal := buffer.minimal
    simp only [List.length_append, List.length_take, List.length_drop]
    omega

theorem append_readableBytes (buffer : ByteBuffer) (bytes : List UInt8)
    (room : buffer.writerIndex + bytes.length ≤ buffer.data.length) :
    (buffer.append bytes room).readableBytes = buffer.readableBytes ++ bytes := by
  have ordered := buffer.ordered
  have fits := buffer.fits
  have prefixLength : (buffer.data.take buffer.writerIndex).length = buffer.writerIndex := by
    simp [fits]
  have readable : buffer.readableBytes = (buffer.data.take buffer.writerIndex).drop buffer.readerIndex := by
    simp [readableBytes, numReadableBytes, List.drop_take]
  simp only [readableBytes, numReadableBytes, append] at readable ⊢
  rw [List.drop_append_of_le_length (by omega), readable, ← List.append_assoc,
    List.take_append_of_le_length (by simp; omega)]
  rw [List.take_of_length_le (by simp; omega)]

def write (buffer : ByteBuffer) (bytes : List UInt8) : ByteBuffer :=
  if bytes.length = 0 then buffer
  else (buffer.ensureWritable bytes.length).append bytes (buffer.ensureWritable_room bytes.length)

@[simp] theorem write_readableBytes (buffer : ByteBuffer) (bytes : List UInt8) :
    (buffer.write bytes).readableBytes = buffer.readableBytes ++ bytes := by
  simp only [write]
  split
  · rename_i none
    simp [List.length_eq_zero_iff.mp none]
  · rw [append_readableBytes, ensureWritable_readableBytes]

theorem ensureWritable_readerIndex {buffer : ByteBuffer} (front : buffer.readerIndex = 0)
    (len : Nat) : (buffer.ensureWritable len).readerIndex = 0 := by
  simp only [ensureWritable]
  split
  · split <;> rfl
  · exact front

theorem write_readerIndex {buffer : ByteBuffer} (front : buffer.readerIndex = 0)
    (bytes : List UInt8) : (buffer.write bytes).readerIndex = 0 := by
  simp only [write]
  split
  · exact front
  · exact ensureWritable_readerIndex front bytes.length

def writeUInt32 (buffer : ByteBuffer) (word : UInt32) : ByteBuffer :=
  buffer.write (LittleEndian.encode 4 word.toNat)

def fill (buffer : ByteBuffer) (byte : UInt8) (len : Nat) : ByteBuffer :=
  buffer.write (List.replicate len byte)

theorem fill_zero (buffer : ByteBuffer) (byte : UInt8) : buffer.fill byte 0 = buffer := rfl

/-- `moveReaderIndex`, whose index is clamped to the written bytes. -/
def moveReaderIndex (buffer : ByteBuffer) (offset : Int) : ByteBuffer :=
  if below : buffer.readerIndex + offset < 0 then
    { buffer with readerIndex := 0, ordered := Nat.zero_le _ }
  else if past : buffer.readerIndex + offset ≥ buffer.writerIndex then
    { buffer with readerIndex := buffer.writerIndex, ordered := le_rfl }
  else
    { buffer with readerIndex := (buffer.readerIndex + offset).toNat, ordered := by omega }

@[simp] theorem moveReaderIndex_readableBytes (buffer : ByteBuffer) (len : Nat) :
    (buffer.moveReaderIndex len).readableBytes = buffer.readableBytes.drop len := by
  have ordered := buffer.ordered
  simp only [moveReaderIndex, readableBytes, numReadableBytes]
  split
  · omega
  · split
    · simp [List.drop_take]
      omega
    · rename_i inside
      have index : ((buffer.readerIndex : Int) + len).toNat = buffer.readerIndex + len := by omega
      simp only [index, List.drop_take, List.drop_drop]
      congr 1
      omega

def moveWriterIndex (buffer : ByteBuffer) (offset : Int) : ByteBuffer :=
  if below : buffer.writerIndex + offset < 0 then
    { buffer with readerIndex := 0, writerIndex := 0, ordered := le_rfl, fits := Nat.zero_le _ }
  else if before : buffer.writerIndex + offset < buffer.readerIndex then
    { buffer with
      readerIndex := (buffer.writerIndex + offset).toNat
      writerIndex := (buffer.writerIndex + offset).toNat
      ordered := le_rfl
      fits := by have ordered := buffer.ordered; have fits := buffer.fits; omega }
  else if past : buffer.writerIndex + offset ≥ buffer.capacity then
    { buffer with
      writerIndex := buffer.capacity
      ordered := buffer.ordered.trans buffer.fits
      fits := le_rfl }
  else
    { buffer with
      writerIndex := (buffer.writerIndex + offset).toNat
      ordered := by omega
      fits := by simp only [capacity] at past; omega }

def store (buffer : ByteBuffer) (index : Nat) (bytes : List UInt8) : ByteBuffer :=
  let room := bytes.take (buffer.data.length - index)
  { buffer with
    data := buffer.data.take index ++ (room ++ buffer.data.drop (index + room.length))
    fits := by
      have fits := buffer.fits
      simp only [List.length_append, List.length_take, List.length_drop, room]
      omega
    minimal := by
      have minimal := buffer.minimal
      simp only [List.length_append, List.length_take, List.length_drop, room]
      omega }

theorem data_split (buffer : ByteBuffer) :
    buffer.data = buffer.data.take buffer.readerIndex ++
      (buffer.readableBytes ++ buffer.data.drop buffer.writerIndex) := by
  have ordered := buffer.ordered
  have readable : buffer.readableBytes ++ buffer.data.drop buffer.writerIndex =
      buffer.data.drop buffer.readerIndex := by
    have behind : buffer.data.drop buffer.writerIndex =
        (buffer.data.drop buffer.readerIndex).drop buffer.numReadableBytes := by
      rw [List.drop_drop, numReadableBytes, Nat.add_sub_cancel' ordered]
    rw [behind, readableBytes, List.take_append_drop]
  rw [readable, List.take_append_drop]

theorem store_readableBytes (buffer : ByteBuffer) (skip : Nat) (bytes : List UInt8)
    (inside : skip + bytes.length ≤ buffer.numReadableBytes) :
    (buffer.store (buffer.readerIndex + skip) bytes).readableBytes =
      buffer.readableBytes.take skip ++ (bytes ++ buffer.readableBytes.drop (skip + bytes.length)) := by
  have ordered := buffer.ordered
  have fits := buffer.fits
  have split := buffer.data_split
  have readerLength : (buffer.data.take buffer.readerIndex).length = buffer.readerIndex := by
    simp only [List.length_take]
    omega
  have readableLength := buffer.readableBytes_length
  have reached : buffer.readerIndex + buffer.numReadableBytes = buffer.writerIndex := by
    simp only [numReadableBytes]
    omega
  have whole : bytes.take (buffer.data.length - (buffer.readerIndex + skip)) = bytes :=
    List.take_of_length_le (by omega)
  generalize buffer.data.take buffer.readerIndex = front at split readerLength
  generalize buffer.data.drop buffer.writerIndex = back at split
  refine readableBytes_of_split _ front _ back ?_ readerLength.symm ?_
  · simp only [store, whole]
    rw [split, ← readerLength, List.take_length_add_append, Nat.add_assoc,
      List.drop_length_add_append, List.take_append_of_le_length (by omega),
      List.drop_append_of_le_length (by omega)]
    simp only [List.append_assoc]
  · simp only [store, List.length_append, List.length_take, List.length_drop]
    omega

theorem store_moveWriterIndex (buffer : ByteBuffer) (bytes : List UInt8)
    (room : buffer.writerIndex + bytes.length ≤ buffer.data.length) :
    (buffer.store buffer.writerIndex bytes).moveWriterIndex bytes.length =
      buffer.append bytes room := by
  have ordered := buffer.ordered
  have whole : bytes.take (buffer.data.length - buffer.writerIndex) = bytes :=
    List.take_of_length_le (by omega)
  have stored : (buffer.store buffer.writerIndex bytes).capacity = buffer.data.length := by
    simp only [capacity, store, whole, List.length_append, List.length_take, List.length_drop]
    omega
  have target : ((buffer.writerIndex : Int) + bytes.length).toNat =
      buffer.writerIndex + bytes.length := by omega
  simp only [moveWriterIndex]
  rw [dif_neg (by simp only [store]; omega), dif_neg (by simp only [store]; omega)]
  split
  · rename_i past
    rw [stored] at past
    simp only [store] at past
    simp only [stored]
    simp only [store, append, whole, ByteBuffer.mk.injEq, true_and]
    omega
  · simp only [store, append, whole, target]

def adjustSize (v : Nat) : Nat :=
  let n := v ||| v >>> 1
  let n := n ||| n >>> 2
  let n := n ||| n >>> 4
  let n := n ||| n >>> 8
  let n := n ||| n >>> 16
  let n := n ||| n >>> 32
  let n := n + 1
  if n >>> 1 = v then v else n

theorem adjustSize_eq (v : Nat) : adjustSize v = PowerOfTwo.roundUp 6 v := rfl

def resetCapacity (capacity : Nat) : Nat :=
  if capacity < minCapacity then minCapacity else adjustSize capacity

theorem resetCapacity_bounds (capacity : Nat) :
    minCapacity ≤ resetCapacity capacity ∧ capacity ≤ resetCapacity capacity := by
  simp only [resetCapacity]
  split
  · rename_i small
    exact ⟨le_rfl, small.le⟩
  · rename_i large
    have grown : capacity ≤ adjustSize capacity := by
      rw [adjustSize_eq]
      exact PowerOfTwo.le_roundUp 6 capacity
    exact ⟨(not_lt.mp large).trans grown, grown⟩

/-- `reset`, which is also what the constructor with a capacity does. -/
def reset (capacity : Nat) : ByteBuffer where
  data := List.replicate (resetCapacity capacity) 0
  readerIndex := 0
  writerIndex := 0
  ordered := le_rfl
  fits := Nat.zero_le _
  minimal := by
    rw [List.length_replicate]
    exact (resetCapacity_bounds capacity).1

def clear (buffer : ByteBuffer) : ByteBuffer :=
  { buffer with
    readerIndex := 0
    writerIndex := 0
    ordered := le_rfl
    fits := Nat.zero_le _ }

@[simp] theorem clear_readableBytes (buffer : ByteBuffer) : buffer.clear.readableBytes = [] := by
  simp [clear, readableBytes, numReadableBytes]

/-- Moves the reader past `count` readable bytes; an emptied buffer starts over at its front. -/
def consume (buffer : ByteBuffer) (count : Nat) (available : count ≤ buffer.numReadableBytes) :
    ByteBuffer :=
  if buffer.readerIndex + count = buffer.writerIndex then buffer.clear
  else
    { buffer with
      readerIndex := buffer.readerIndex + count
      ordered := by
        have ordered := buffer.ordered
        simp only [numReadableBytes] at available
        omega }

@[simp] theorem consume_readableBytes (buffer : ByteBuffer) (count : Nat)
    (available : count ≤ buffer.numReadableBytes) :
    (buffer.consume count available).readableBytes = buffer.readableBytes.drop count := by
  simp only [consume]
  split
  · rename_i emptied
    have whole : buffer.readableBytes.length ≤ count := by
      rw [readableBytes_length, numReadableBytes]
      omega
    rw [clear_readableBytes, List.drop_eq_nil_of_le whole]
  · simp only [readableBytes, numReadableBytes, List.drop_take, List.drop_drop]
    congr 1
    omega

/-- The private `read`: the bytes copied to the destination, and the buffer after it. -/
def readBytes (buffer : ByteBuffer) (len : Nat) (moveReaderIndex : Bool) :
    List UInt8 × ByteBuffer :=
  let ret := min len buffer.numReadableBytes
  if ret = 0 then ([], buffer)
  else
    ((buffer.data.drop buffer.readerIndex).take ret,
      if moveReaderIndex then buffer.consume ret (Nat.min_le_right _ _) else buffer)

def read (buffer : ByteBuffer) (len : Nat) : List UInt8 × ByteBuffer := buffer.readBytes len true

def get (buffer : ByteBuffer) (len : Nat) : List UInt8 × ByteBuffer := buffer.readBytes len false

theorem readBytes_copied (buffer : ByteBuffer) (len : Nat) (moveReaderIndex : Bool) :
    (buffer.readBytes len moveReaderIndex).1 =
      buffer.readableBytes.take (min len buffer.readableBytes.length) := by
  simp only [readBytes, readableBytes_length]
  split
  · rename_i nothing
    rw [nothing, List.take_zero]
  · rw [readableBytes, List.take_take, Nat.min_assoc, Nat.min_self]

theorem readBytes_left (buffer : ByteBuffer) (len : Nat) (moveReaderIndex : Bool) :
    (buffer.readBytes len moveReaderIndex).2.readableBytes =
      if moveReaderIndex then
        buffer.readableBytes.drop (min len buffer.readableBytes.length)
      else buffer.readableBytes := by
  simp only [readBytes, readableBytes_length]
  split
  · rename_i nothing
    simp [nothing]
  · cases moveReaderIndex with
    | true => exact consume_readableBytes buffer _ (Nat.min_le_right _ _)
    | false => rfl

/-- `discardReadBytes`: the number of bytes discarded, all of them for a negative length. -/
def discardReadBytes (buffer : ByteBuffer) (len : Int) : Nat × ByteBuffer :=
  let l0 := if len < 0 then buffer.numReadableBytes else len.toNat
  let l := min l0 buffer.numReadableBytes
  (l, buffer.consume l (Nat.min_le_right _ _))

/-- `write` of another buffer, and that buffer after it. -/
def writeBuffer (buffer data : ByteBuffer) (discardReadBytes : Bool) : ByteBuffer × ByteBuffer :=
  let l := data.numReadableBytes
  if l = 0 then (buffer, data)
  else
    (buffer.write data.readableBytes, if discardReadBytes then (data.discardReadBytes l).2 else data)

end ByteBuffer

end EasyViewer
