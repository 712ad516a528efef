import EasyViewer.ByteBuffer

/-!
Frames on the wire: the three wrapper macros of `Protocol.h` that write a tag, a
length and a payload, and the decoding loop of `UserConnection::handleReceivedData`
that takes them apart again.
-/

namespace EasyViewer

structure Frame where
  tag : UInt32
  payload : List UInt8
  deriving DecidableEq, Repr

/-! The decoder. -/

def maxLen : Nat := 1024 * 1024

inductive Decoded where
  | incomplete
  | oversize
  | unknownTag
  | frame (frame : Frame)
  deriving DecidableEq, Repr

def headerTag (readable : List UInt8) : UInt32 :=
  UInt32.ofNat (LittleEndian.decode (readable.take 4))

def headerLength (readable : List UInt8) : Nat :=
  LittleEndian.decode ((readable.drop 4).take 4)

/-- One pass of the decoding loop over the readable bytes, up to the push. -/
def nextFrame (known : UInt32 → Bool) (readable : List UInt8) : Decoded :=
  if readable.length < 8 then .incomplete
  else if headerLength readable > maxLen then .oversize
  else if readable.length - 8 < headerLength readable then .incomplete
  else if known (headerTag readable) then
    .frame {
      tag := headerTag readable
      payload := (readable.drop 8).take (headerLength readable)
    }
  else .unknownTag

theorem headerTag_append {readable : List UInt8} (rest : List UInt8)
    (header : 8 ≤ readable.length) : headerTag (readable ++ rest) = headerTag readable := by
  simp only [headerTag]
  rw [List.take_append_of_le_length (by omega)]

theorem headerLength_append {readable : List UInt8} (rest : List UInt8)
    (header : 8 ≤ readable.length) :
    headerLength (readable ++ rest) = headerLength readable := by
  simp only [headerLength]
  rw [List.drop_append_of_le_length (by omega), List.take_append_of_le_length (by simp; omega)]

theorem nextFrame_frame {known : UInt32 → Bool} {readable : List UInt8} {frame : Frame}
    (decoded : nextFrame known readable = .frame frame) :
    frame.payload.length + 8 ≤ readable.length := by
  simp only [nextFrame] at decoded
  split at decoded
  · contradiction
  · split at decoded
    · contradiction
    · split at decoded
      · contradiction
      · split at decoded
        · rename_i header small whole _
          simp only [Decoded.frame.injEq] at decoded
          subst frame
          simp only [List.length_take, List.length_drop]
          omega
        · contradiction

theorem nextFrame_append {known : UInt32 → Bool} {readable : List UInt8} (rest : List UInt8)
    (decided : nextFrame known readable ≠ .incomplete) :
    nextFrame known (readable ++ rest) = nextFrame known readable := by
  by_cases header : readable.length < 8
  · simp [nextFrame, header] at decided
  · have tag : headerTag (readable ++ rest) = headerTag readable :=
      headerTag_append rest (by omega)
    have length : headerLength (readable ++ rest) = headerLength readable :=
      headerLength_append rest (by omega)
    by_cases big : headerLength readable > maxLen
    · simp [nextFrame, length, big, header]
      omega
    · by_cases short : readable.length - 8 < headerLength readable
      · simp [nextFrame, header, big, short] at decided
      · have payload : ((readable ++ rest).drop 8).take (headerLength readable) =
            (readable.drop 8).take (headerLength readable) := by
          rw [List.drop_append_of_le_length (by omega),
            List.take_append_of_le_length (by simp only [List.length_drop]; omega)]
        have longHeader : ¬ readable.length + rest.length < 8 := by omega
        have longPayload : ¬ readable.length + rest.length - 8 < headerLength readable := by omega
        simp [nextFrame, tag, length, payload, header, big, short, longHeader, longPayload]

/-- What `handleReceivedData` reads and changes: the receive buffer, the requests it
pushed so far and whether it called `disconnect`. -/
structure Receiver where
  buffer : ByteBuffer
  pushed : List Frame
  disconnected : Bool

def Receiver.initial : Receiver where
  buffer := ByteBuffer.empty
  pushed := []
  disconnected := false

section Receiving

variable (known : UInt32 → Bool) (accepts : List Frame → Frame → Bool)

/-- The loop of `handleReceivedData`. `accepts pushed frame` is what the request
processor answers when `frame` is pushed after `pushed`. -/
def decodeLoop (receiver : Receiver) : Receiver :=
  match _ : nextFrame known receiver.buffer.readableBytes with
  | .incomplete => receiver
  | .oversize => { receiver with disconnected := true }
  | .unknownTag => { receiver with disconnected := true }
  | .frame frame =>
      decodeLoop {
        buffer := receiver.buffer.moveReaderIndex (frame.payload.length + 8 : Nat)
        pushed := receiver.pushed ++ [frame]
        disconnected := receiver.disconnected || !accepts receiver.pushed frame
      }
termination_by receiver.buffer.readableBytes.length
decreasing_by
  have bound := nextFrame_frame ‹_›
  rw [ByteBuffer.moveReaderIndex_readableBytes, List.length_drop]
  omega

def handleReceivedData (receiver : Receiver) (data : List UInt8) : Receiver :=
  decodeLoop known accepts { receiver with buffer := receiver.buffer.write data }

def receive (receiver : Receiver) (chunks : List (List UInt8)) : Receiver :=
  chunks.foldl (handleReceivedData known accepts) receiver

/-! The stream meaning of the decoder. -/

/-- What a byte stream stands for: its frames, the bytes behind the last of them and
whether those bytes start a frame the server cuts the connection for. -/
structure Parsed where
  frames : List Frame
  rest : List UInt8
  cut : Bool

def parse (stream : List UInt8) : Parsed :=
  match decoded : nextFrame known stream with
  | .incomplete => { frames := [], rest := stream, cut := false }
  | .oversize => { frames := [], rest := stream, cut := true }
  | .unknownTag => { frames := [], rest := stream, cut := true }
  | .frame frame =>
      let tail := parse (stream.drop (frame.payload.length + 8))
      { tail with frames := frame :: tail.frames }
termination_by stream.length
decreasing_by
  have bound := nextFrame_frame decoded
  rw [List.length_drop]
  omega

theorem parse_incomplete {stream : List UInt8} (decoded : nextFrame known stream = .incomplete) :
    parse known stream = { frames := [], rest := stream, cut := false } := by
  unfold parse
  split <;> simp_all

theorem parse_frame {stream : List UInt8} {frame : Frame}
    (decoded : nextFrame known stream = .frame frame) :
    parse known stream = { parse known (stream.drop (frame.payload.length + 8)) with
      frames := frame :: (parse known (stream.drop (frame.payload.length + 8))).frames } := by
  rw [parse]
  split <;> simp_all

theorem parse_cut {stream : List UInt8}
    (decoded : nextFrame known stream = .oversize ∨ nextFrame known stream = .unknownTag) :
    parse known stream = { frames := [], rest := stream, cut := true } := by
  rw [parse]
  split <;> simp_all

/-- Parsing resumes where it stopped: only the bytes left over matter. -/
theorem parse_append (stream rest : List UInt8) :
    parse known (stream ++ rest) = { parse known ((parse known stream).rest ++ rest) with
      frames := (parse known stream).frames ++
        (parse known ((parse known stream).rest ++ rest)).frames } := by
  fun_induction parse known stream with
  | case1 stream decoded => simp
  | case2 stream decoded => simp
  | case3 stream decoded => simp
  | case4 stream frame decoded tail ih =>
      have bound := nextFrame_frame decoded
      have same : nextFrame known (stream ++ rest) = .frame frame := by
        rw [nextFrame_append rest (by simp [decoded]), decoded]
      rw [parse_frame known same, List.drop_append_of_le_length bound, ih]
      simp [tail]

def refuses : List Frame → List Frame → Bool
  | _, [] => false
  | pushed, frame :: frames => !accepts pushed frame || refuses (pushed ++ [frame]) frames

theorem refuses_append (pushed first second : List Frame) :
    refuses accepts pushed (first ++ second) =
      (refuses accepts pushed first || refuses accepts (pushed ++ first) second) := by
  induction first generalizing pushed with
  | nil => simp [refuses]
  | cons frame first ih => simp [refuses, ih, Bool.or_assoc]

/-- The loop pushes the frames the readable bytes stand for and keeps the others. -/
theorem decodeLoop_eq_parse (receiver : Receiver) :
    let parsed := parse known receiver.buffer.readableBytes
    let result := decodeLoop known accepts receiver
    result.buffer.readableBytes = parsed.rest ∧
      result.pushed = receiver.pushed ++ parsed.frames ∧
      result.disconnected =
        (receiver.disconnected || refuses accepts receiver.pushed parsed.frames || parsed.cut) := by
  fun_induction decodeLoop known accepts receiver with
  | case1 receiver decoded =>
      simp [parse_incomplete known decoded, refuses]
  | case2 receiver decoded =>
      simp [parse_cut known (Or.inl decoded)]
  | case3 receiver decoded =>
      simp [parse_cut known (Or.inr decoded)]
  | case4 receiver frame decoded ih =>
      obtain ⟨readable, pushed, disconnected⟩ := ih
      rw [ByteBuffer.moveReaderIndex_readableBytes] at readable pushed disconnected
      rw [parse_frame known decoded]
      refine ⟨readable, ?_, ?_⟩
      · simpa using pushed
      · simpa [refuses, Bool.or_assoc] using disconnected

structure Consumed (stream : List UInt8) (receiver : Receiver) : Prop where
  readable : receiver.buffer.readableBytes = (parse known stream).rest
  pushed : receiver.pushed = (parse known stream).frames
  disconnected : receiver.disconnected =
    (refuses accepts [] (parse known stream).frames || (parse known stream).cut)

theorem Consumed.initial : Consumed known accepts [] Receiver.initial := by
  have nothing : parse known [] = { frames := [], rest := [], cut := false } :=
    parse_incomplete known rfl
  constructor <;> simp [Receiver.initial, nothing, refuses]

theorem parse_rest_cut {stream : List UInt8} (cut : (parse known stream).cut = true)
    (rest : List UInt8) : (parse known ((parse known stream).rest ++ rest)).cut = true := by
  fun_induction parse known stream with
  | case1 stream decoded => simp at cut
  | case2 stream decoded =>
      rw [parse_cut]
      rw [nextFrame_append rest (by simp [decoded])]
      exact Or.inl decoded
  | case3 stream decoded =>
      rw [parse_cut]
      rw [nextFrame_append rest (by simp [decoded])]
      exact Or.inr decoded
  | case4 stream frame decoded tail ih => exact ih cut

theorem Consumed.handleReceivedData {stream : List UInt8} {receiver : Receiver}
    (consumed : Consumed known accepts stream receiver) (data : List UInt8) :
    Consumed known accepts (stream ++ data)
      (handleReceivedData known accepts receiver data) := by
  obtain ⟨buffer, pushed, disconnected⟩ := receiver
  obtain ⟨readable, pushedSoFar, disconnectedSoFar⟩ := consumed
  simp only at readable pushedSoFar disconnectedSoFar
  obtain ⟨left, after, verdict⟩ := decodeLoop_eq_parse known accepts
    { buffer := buffer.write data, pushed := pushed, disconnected := disconnected }
  simp only [ByteBuffer.write_readableBytes, readable] at left after verdict
  subst pushedSoFar disconnectedSoFar
  constructor
  · rw [parse_append]
    exact left
  · rw [parse_append]
    exact after
  · rw [parse_append, refuses_append, List.nil_append]
    refine verdict.trans ?_
    by_cases cut : (parse known stream).cut = true
    · simp [cut, parse_rest_cut known cut data]
    · simp [cut]

theorem Consumed.receive {stream : List UInt8} {receiver : Receiver}
    (consumed : Consumed known accepts stream receiver) (chunks : List (List UInt8)) :
    Consumed known accepts (stream ++ chunks.flatten) (receive known accepts receiver chunks) := by
  induction chunks generalizing stream receiver with
  | nil => simpa [EasyViewer.receive] using consumed
  | cons data chunks ih =>
      have next := ih (consumed.handleReceivedData known accepts data)
      simpa [EasyViewer.receive, List.append_assoc] using next

/-- Two ways of cutting one stream leave the same requests pushed, the same bytes
readable and the same verdict on the connection. -/
theorem receive_chunking {left right : List (List UInt8)} (same : left.flatten = right.flatten) :
    let one := receive known accepts Receiver.initial left
    let other := receive known accepts Receiver.initial right
    one.pushed = other.pushed ∧ one.disconnected = other.disconnected ∧
      one.buffer.readableBytes = other.buffer.readableBytes := by
  have one := (Consumed.initial known accepts).receive known accepts left
  have other := (Consumed.initial known accepts).receive known accepts right
  rw [← same] at other
  exact ⟨one.pushed.trans other.pushed.symm, one.disconnected.trans other.disconnected.symm,
    one.readable.trans other.readable.symm⟩

end Receiving

end EasyViewer
