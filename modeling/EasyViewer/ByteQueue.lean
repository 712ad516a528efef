import EasyViewer.ByteBuffer
import EasyViewer.Library.Simulation

/-!
The byte buffer as a queue of bytes: under every sequence of its operations the
readable bytes and all answers are those of a plain list of bytes.
-/

namespace EasyViewer

inductive BufferOperation where
  | write (data : List UInt8)
  | writeBuffer (data : ByteBuffer) (discardReadBytes : Bool)
  | fill (c : UInt8) (len : Nat)
  | read (len : Nat)
  | get (len : Nat)
  | discardReadBytes (len : Int)
  | ensureWritable (len : Nat)
  | clear
  | moveReaderIndex (offset : Nat)

inductive BufferAnswer where
  | done
  | bytes (copied : List UInt8)
  | discarded (count : Nat)
  | source (left : List UInt8)

namespace ByteBuffer

def operate (buffer : ByteBuffer) : BufferOperation → BufferAnswer × ByteBuffer
  | .write data => (.done, buffer.write data)
  | .writeBuffer data discardReadBytes =>
      let (written, left) := buffer.writeBuffer data discardReadBytes
      (.source left.readableBytes, written)
  | .fill c len => (.done, buffer.fill c len)
  | .read len => let (copied, left) := buffer.read len; (.bytes copied, left)
  | .get len => let (copied, left) := buffer.get len; (.bytes copied, left)
  | .discardReadBytes len =>
      let (count, left) := buffer.discardReadBytes len
      (.discarded count, left)
  | .ensureWritable len => (.done, buffer.ensureWritable len)
  | .clear => (.done, buffer.clear)
  | .moveReaderIndex offset => (.done, buffer.moveReaderIndex offset)

end ByteBuffer

namespace ByteQueue

/-- The bytes a read, get or discard of `len` bytes is about, and the others. -/
def splitFront (queue : List UInt8) (len : Nat) : List UInt8 × List UInt8 :=
  queue.splitAt (min len queue.length)

/-- What each operation does to a plain queue of bytes. -/
def operate (queue : List UInt8) : BufferOperation → BufferAnswer × List UInt8
  | .write data => (.done, queue ++ data)
  | .writeBuffer data discardReadBytes =>
      (.source (if discardReadBytes then [] else data.readableBytes), queue ++ data.readableBytes)
  | .fill c len => (.done, queue ++ List.replicate len c)
  | .read len => (.bytes (splitFront queue len).1, (splitFront queue len).2)
  | .get len => (.bytes (splitFront queue len).1, queue)
  | .discardReadBytes len =>
      let concerned := if len < 0 then queue.length else len.toNat
      (.discarded (splitFront queue concerned).1.length, (splitFront queue concerned).2)
  | .ensureWritable _ => (.done, queue)
  | .clear => (.done, [])
  | .moveReaderIndex offset => (.done, (splitFront queue offset).2)

end ByteQueue

namespace ByteBuffer

theorem read_splitFront (buffer : ByteBuffer) (len : Nat) :
    (buffer.read len).1 = (ByteQueue.splitFront buffer.readableBytes len).1 ∧
      (buffer.read len).2.readableBytes =
        (ByteQueue.splitFront buffer.readableBytes len).2 := by
  simp only [read, ByteQueue.splitFront, List.splitAt_eq]
  exact ⟨readBytes_copied buffer len true, readBytes_left buffer len true⟩

theorem get_splitFront (buffer : ByteBuffer) (len : Nat) :
    (buffer.get len).1 = (ByteQueue.splitFront buffer.readableBytes len).1 ∧
      (buffer.get len).2.readableBytes = buffer.readableBytes := by
  simp only [get, ByteQueue.splitFront, List.splitAt_eq]
  exact ⟨readBytes_copied buffer len false, readBytes_left buffer len false⟩

theorem discardReadBytes_splitFront (buffer : ByteBuffer) (len : Int) :
    let concerned := if len < 0 then buffer.readableBytes.length else len.toNat
    (buffer.discardReadBytes len).1 =
        (ByteQueue.splitFront buffer.readableBytes concerned).1.length ∧
      (buffer.discardReadBytes len).2.readableBytes =
        (ByteQueue.splitFront buffer.readableBytes concerned).2 := by
  simp only [discardReadBytes, ByteQueue.splitFront, List.splitAt_eq, consume_readableBytes,
    readableBytes_length, List.length_take, and_true]
  omega

theorem writeBuffer_bytes (buffer data : ByteBuffer) (discardReadBytes : Bool) :
    (buffer.writeBuffer data discardReadBytes).1.readableBytes =
        buffer.readableBytes ++ data.readableBytes ∧
      (buffer.writeBuffer data discardReadBytes).2.readableBytes =
        if discardReadBytes then [] else data.readableBytes := by
  simp only [writeBuffer]
  split
  · rename_i nothing
    have none : data.readableBytes = [] := by
      rw [← List.length_eq_zero_iff, readableBytes_length, nothing]
    simp [none]
  · refine ⟨write_readableBytes buffer data.readableBytes, ?_⟩
    cases discardReadBytes with
    | false => rfl
    | true => simp [ByteBuffer.discardReadBytes, ← readableBytes_length]

theorem moveReaderIndex_splitFront (buffer : ByteBuffer) (offset : Nat) :
    (buffer.moveReaderIndex offset).readableBytes =
      (ByteQueue.splitFront buffer.readableBytes offset).2 := by
  rw [moveReaderIndex_readableBytes, ByteQueue.splitFront, List.splitAt_eq]
  by_cases inside : offset ≤ buffer.readableBytes.length
  · rw [Nat.min_eq_left inside]
  · rw [Nat.min_eq_right (by omega), List.drop_length, List.drop_eq_nil_of_le (by omega)]

/-- One operation on the buffer is that operation on its readable bytes. -/
theorem operate_readableBytes (buffer : ByteBuffer) (operation : BufferOperation) :
    ByteQueue.operate buffer.readableBytes operation =
      ((buffer.operate operation).1, (buffer.operate operation).2.readableBytes) := by
  cases operation with
  | write data => simp only [ByteQueue.operate, operate, write_readableBytes]
  | writeBuffer data discardReadBytes =>
      obtain ⟨written, left⟩ := writeBuffer_bytes buffer data discardReadBytes
      simp only [ByteQueue.operate, operate, written, left]
  | fill c len => simp only [ByteQueue.operate, operate, fill, write_readableBytes]
  | read len =>
      obtain ⟨copied, left⟩ := read_splitFront buffer len
      simp only [ByteQueue.operate, operate, copied, left]
  | get len =>
      obtain ⟨copied, left⟩ := get_splitFront buffer len
      simp only [ByteQueue.operate, operate, copied, left]
  | discardReadBytes len =>
      obtain ⟨count, left⟩ := discardReadBytes_splitFront buffer len
      simp only [ByteQueue.operate, operate, count, left]
  | ensureWritable len => simp only [ByteQueue.operate, operate, ensureWritable_readableBytes]
  | clear => simp only [ByteQueue.operate, operate, clear_readableBytes]
  | moveReaderIndex offset =>
      simp only [ByteQueue.operate, operate, moveReaderIndex_splitFront]

/-- Under every sequence of operations the indices stay ordered within the capacity, the
answers and the readable bytes are those of a queue of bytes, and room can be made. -/
theorem byteBuffer_queue (buffer : ByteBuffer) (operations : List BufferOperation) :
    let answers := (Simulation.run operate buffer operations).1
    let reached := (Simulation.run operate buffer operations).2
    reached.readerIndex ≤ reached.writerIndex ∧ reached.writerIndex ≤ reached.capacity ∧
      (answers, reached.readableBytes) =
        Simulation.run ByteQueue.operate buffer.readableBytes operations ∧
      ∀ len, len ≤ (reached.ensureWritable len).capacity - (reached.ensureWritable len).writerIndex ∧
        (reached.ensureWritable len).readableBytes = reached.readableBytes := by
  intro answers reached
  refine ⟨reached.ordered, reached.fits, ?_, fun len => ⟨?_, ?_⟩⟩
  · exact (Simulation.run_view readableBytes operate_readableBytes buffer operations).symm
  · have room := reached.ensureWritable_room len
    simp only [capacity]
    omega
  · exact ensureWritable_readableBytes reached len

end ByteBuffer

end EasyViewer
