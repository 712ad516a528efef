import EasyViewer.Framing

/-!
The encoders of `Protocol.h` and the round trip through the decoding loop. What
protobuf serializes is a list of bytes here, and the cipher is a parameter: the
bytes its two calls emit for a plain text.
-/

namespace EasyViewer

/-- `EVP_EncryptUpdate` and `EVP_EncryptFinal_ex` of one key: together they emit at
most one block of 16 bytes more than the plain text has. -/
structure Cipher where
  update : List UInt8 → List UInt8
  final : List UInt8 → List UInt8
  bounded : ∀ plain, (update plain).length + (final plain).length ≤ plain.length + 16

def Cipher.text (cipher : Cipher) (plain : List UInt8) : List UInt8 :=
  cipher.update plain ++ cipher.final plain

def Cipher.encrypt (cipher : Cipher) (source : List UInt8) (target : ByteBuffer) : ByteBuffer :=
  let target := target.ensureWritable (source.length + 16)
  let target := (target.store target.writerIndex (cipher.update source)).moveWriterIndex
    (cipher.update source).length
  (target.store target.writerIndex (cipher.final source)).moveWriterIndex
    (cipher.final source).length

def wrapperDesc (tag : UInt32) (serialized : List UInt8) (target : ByteBuffer) : ByteBuffer :=
  let target := target.writeUInt32 tag
  let target := target.writeUInt32 (UInt32.ofNat serialized.length)
  let target := target.fill 0 serialized.length
  target.store 8 serialized

def wrapperDescWithEncrypt (cipher : Cipher) (tag : UInt32) (serialized : List UInt8)
    (target : ByteBuffer) : ByteBuffer :=
  let temporary := ByteBuffer.empty.fill 0 serialized.length
  let temporary := temporary.store temporary.readerIndex serialized
  let target := target.writeUInt32 tag
  let target := target.fill 0 4
  let result := cipher.encrypt temporary.readableBytes target
  result.store (result.readerIndex + 4)
    (LittleEndian.encode 4 (UInt32.ofNat (result.numReadableBytes - 8)).toNat)

def wrapperDesc2 (tag : UInt32) (bytes : List UInt8) (target : ByteBuffer) : ByteBuffer :=
  let target := target.writeUInt32 tag
  let target := target.writeUInt32 (UInt32.ofNat bytes.length)
  target.write bytes

inductive Message where
  | desc (tag : UInt32) (serialized : List UInt8)
  | descWithEncrypt (tag : UInt32) (serialized : List UInt8)
  | desc2 (tag : UInt32) (bytes : List UInt8)
  deriving DecidableEq, Repr

def Message.frame (cipher : Cipher) : Message → Frame
  | .desc tag serialized => { tag := tag, payload := serialized }
  | .descWithEncrypt tag serialized => { tag := tag, payload := cipher.text serialized }
  | .desc2 tag bytes => { tag := tag, payload := bytes }

def Message.encode (cipher : Cipher) : Message → List UInt8
  | .desc tag serialized => (wrapperDesc tag serialized ByteBuffer.empty).readableBytes
  | .descWithEncrypt tag serialized =>
      (wrapperDescWithEncrypt cipher tag serialized ByteBuffer.empty).readableBytes
  | .desc2 tag bytes => (wrapperDesc2 tag bytes ByteBuffer.empty).readableBytes

def frameHeader (tag : UInt32) (length : Nat) : List UInt8 :=
  LittleEndian.encode 4 tag.toNat ++ LittleEndian.encode 4 (UInt32.ofNat length).toNat

@[simp] theorem frameHeader_length (tag : UInt32) (length : Nat) :
    (frameHeader tag length).length = 8 := by
  simp [frameHeader]

def Frame.bytes (frame : Frame) : List UInt8 :=
  frameHeader frame.tag frame.payload.length ++ frame.payload

theorem wrapperDesc_readableBytes (tag : UInt32) (serialized : List UInt8) :
    (wrapperDesc tag serialized ByteBuffer.empty).readableBytes =
      Frame.bytes { tag := tag, payload := serialized } := by
  let header := (ByteBuffer.empty.writeUInt32 tag).writeUInt32 (UInt32.ofNat serialized.length)
  let filled := header.fill 0 serialized.length
  have front : filled.readerIndex = 0 := by
    apply ByteBuffer.write_readerIndex
    apply ByteBuffer.write_readerIndex
    exact ByteBuffer.write_readerIndex rfl _
  have content : filled.readableBytes =
      frameHeader tag serialized.length ++ List.replicate serialized.length 0 := by
    simp [filled, header, ByteBuffer.fill, ByteBuffer.writeUInt32, frameHeader]
  have length : filled.numReadableBytes = 8 + serialized.length := by
    rw [← ByteBuffer.readableBytes_length, content, List.length_append, frameHeader_length,
      List.length_replicate]
  have stored := filled.store_readableBytes 8 serialized (by omega)
  rw [front, Nat.zero_add, content, List.take_left' (frameHeader_length ..),
    List.drop_of_length_le (by simp), List.append_nil] at stored
  exact stored

theorem Cipher.encrypt_readableBytes (cipher : Cipher) (source : List UInt8)
    (target : ByteBuffer) :
    (cipher.encrypt source target).readableBytes = target.readableBytes ++ cipher.text source := by
  have bounded := cipher.bounded source
  have room := target.ensureWritable_room (source.length + 16)
  have readable := target.ensureWritable_readableBytes (source.length + 16)
  simp only [Cipher.encrypt]
  generalize target.ensureWritable (source.length + 16) = ready at room readable
  have roomLeft : (ready.append (cipher.update source) (by omega)).writerIndex +
      (cipher.final source).length ≤
        (ready.append (cipher.update source) (by omega)).data.length := by
    simp only [ByteBuffer.append, List.length_append, List.length_take, List.length_drop]
    omega
  rw [ready.store_moveWriterIndex _ (by omega), ByteBuffer.store_moveWriterIndex _ _ roomLeft,
    ByteBuffer.append_readableBytes, ByteBuffer.append_readableBytes, readable,
    List.append_assoc, Cipher.text]

theorem wrapperDescWithEncrypt_readableBytes (cipher : Cipher) (tag : UInt32)
    (serialized : List UInt8) :
    (wrapperDescWithEncrypt cipher tag serialized ByteBuffer.empty).readableBytes =
      Frame.bytes { tag := tag, payload := cipher.text serialized } := by
  let filled := ByteBuffer.empty.fill 0 serialized.length
  have plain : (filled.store filled.readerIndex serialized).readableBytes = serialized := by
    have content : filled.readableBytes = List.replicate serialized.length 0 := by
      simp [filled, ByteBuffer.fill]
    have length : filled.numReadableBytes = serialized.length := by
      rw [← ByteBuffer.readableBytes_length, content, List.length_replicate]
    have stored := filled.store_readableBytes 0 serialized (by omega)
    simpa [content] using stored
  let result := cipher.encrypt serialized ((ByteBuffer.empty.writeUInt32 tag).fill 0 4)
  have content : result.readableBytes =
      LittleEndian.encode 4 tag.toNat ++ (List.replicate 4 0 ++ cipher.text serialized) := by
    simp [result, Cipher.encrypt_readableBytes, ByteBuffer.fill, ByteBuffer.writeUInt32]
  have length : result.numReadableBytes = 8 + (cipher.text serialized).length := by
    rw [← ByteBuffer.readableBytes_length, content]
    simp
    omega
  have size : result.numReadableBytes - 8 = (cipher.text serialized).length := by omega
  have stored := result.store_readableBytes 4
    (LittleEndian.encode 4 (UInt32.ofNat (result.numReadableBytes - 8)).toNat) (by simp; omega)
  simp only [wrapperDescWithEncrypt]
  rw [plain, stored, content, size]
  simp [Frame.bytes, frameHeader, List.drop_append]

theorem wrapperDesc2_readableBytes (tag : UInt32) (bytes : List UInt8) :
    (wrapperDesc2 tag bytes ByteBuffer.empty).readableBytes =
      Frame.bytes { tag := tag, payload := bytes } := by
  simp [wrapperDesc2, Frame.bytes, frameHeader, ByteBuffer.writeUInt32]

theorem Message.encode_eq_bytes (cipher : Cipher) (message : Message) :
    message.encode cipher = (message.frame cipher).bytes := by
  cases message with
  | desc tag serialized => exact wrapperDesc_readableBytes tag serialized
  | descWithEncrypt tag serialized =>
      exact wrapperDescWithEncrypt_readableBytes cipher tag serialized
  | desc2 tag bytes => exact wrapperDesc2_readableBytes tag bytes

theorem nextFrame_bytes {known : UInt32 → Bool} {frame : Frame} (rest : List UInt8)
    (tag : known frame.tag = true) (size : frame.payload.length ≤ maxLen) :
    nextFrame known (frame.bytes ++ rest) = .frame frame := by
  have word : frame.payload.length < 2 ^ 32 := by
    simp only [maxLen] at size
    omega
  have header : headerTag (frame.bytes ++ rest) = frame.tag := by
    simp [headerTag, Frame.bytes, frameHeader, LittleEndian.uint32_decode_encode]
  have length : headerLength (frame.bytes ++ rest) = frame.payload.length := by
    have decoded : LittleEndian.decode (LittleEndian.encode 4 frame.payload.length) =
        frame.payload.length := LittleEndian.decode_encode_of_lt (by omega)
    have wrapped : frame.payload.length % 4294967296 = frame.payload.length :=
      Nat.mod_eq_of_lt (by omega)
    simpa [headerLength, Frame.bytes, frameHeader, List.take_append, List.drop_append,
      wrapped] using decoded
  have payload : ((frame.bytes ++ rest).drop 8).take frame.payload.length = frame.payload := by
    rw [Frame.bytes, List.append_assoc, List.drop_left' (frameHeader_length ..), List.take_left]
  have total : (frame.bytes ++ rest).length = 8 + frame.payload.length + rest.length := by
    simp only [Frame.bytes, List.length_append, frameHeader_length]
  simp only [nextFrame]
  rw [if_neg (by omega), length, if_neg (by omega), if_neg (by omega), header, if_pos tag, payload]

theorem parse_bytes {known : UInt32 → Bool} (frames : List Frame)
    (tags : ∀ frame ∈ frames, known frame.tag = true)
    (sizes : ∀ frame ∈ frames, frame.payload.length ≤ maxLen) :
    parse known (frames.map Frame.bytes).flatten = { frames := frames, rest := [], cut := false } := by
  induction frames with
  | nil => exact parse_incomplete known rfl
  | cons frame frames ih =>
      have decoded := nextFrame_bytes (frames.map Frame.bytes).flatten
        (tags frame List.mem_cons_self) (sizes frame List.mem_cons_self)
      have tail := ih (fun next member => tags next (List.mem_cons_of_mem frame member))
        (fun next member => sizes next (List.mem_cons_of_mem frame member))
      have size : frame.bytes.length = frame.payload.length + 8 := by
        rw [Frame.bytes, List.length_append, frameHeader_length, Nat.add_comm]
      rw [List.map_cons, List.flatten_cons, parse_frame known decoded, ← size,
        List.drop_left, tail]

def acceptsAll : List Frame → Frame → Bool := fun _ _ => true

@[simp] theorem refuses_acceptsAll (pushed frames : List Frame) :
    refuses acceptsAll pushed frames = false := by
  induction frames generalizing pushed with
  | nil => rfl
  | cons frame frames ih => simp [refuses, acceptsAll, ih]

/-- Whatever the chunks, encoded messages arrive as the frames they were made of, and no
stream is decoded differently when it is cut differently. -/
theorem receive_framing (known : UInt32 → Bool) (cipher : Cipher) :
    (∀ (messages : List Message) (chunks : List (List UInt8)),
      (∀ message ∈ messages, known (message.frame cipher).tag = true) →
      (∀ message ∈ messages, (message.frame cipher).payload.length ≤ maxLen) →
      chunks.flatten = (messages.map (Message.encode cipher)).flatten →
      (receive known acceptsAll Receiver.initial chunks).pushed =
          messages.map (Message.frame cipher) ∧
        (receive known acceptsAll Receiver.initial chunks).buffer.readableBytes = [] ∧
        (receive known acceptsAll Receiver.initial chunks).disconnected = false) ∧
    (∀ (accepts : List Frame → Frame → Bool) (left right : List (List UInt8)),
      left.flatten = right.flatten →
      (receive known accepts Receiver.initial left).pushed =
          (receive known accepts Receiver.initial right).pushed ∧
        (receive known accepts Receiver.initial left).disconnected =
          (receive known accepts Receiver.initial right).disconnected) := by
  constructor
  · intro messages chunks tags sizes cut
    have consumed := (Consumed.initial known acceptsAll).receive known acceptsAll chunks
    have encoded : messages.map (Message.encode cipher) =
        (messages.map (Message.frame cipher)).map Frame.bytes := by
      rw [List.map_map]
      exact List.map_congr_left fun message _ => message.encode_eq_bytes cipher
    have parsed : parse known _ = _ := parse_bytes (messages.map (Message.frame cipher))
      (by simpa using tags) (by simpa using sizes)
    rw [List.nil_append, cut, encoded] at consumed
    have readable := consumed.readable
    have pushed := consumed.pushed
    have disconnected := consumed.disconnected
    rw [parsed] at readable pushed disconnected
    exact ⟨pushed, readable, by simpa using disconnected⟩
  · intro accepts left right same
    have agreed := receive_chunking known accepts same
    exact ⟨agreed.1, agreed.2.1⟩

/-- AES-128 in ECB mode with PKCS7 padding under the key `0123456789abcdef`, on the plain
text `8, 3`. -/
def sampleCipher : Cipher where
  update _ := []
  final _ := [94, 52, 243, 36, 3, 13, 169, 76, 72, 153, 38, 134, 212, 142, 188, 178]
  bounded plain := by simp

theorem receive_framing_sample :
    (receive (· ≤ 101) acceptsAll Receiver.initial
        [[101, 0, 0], [0, 16, 0, 0, 0, 94, 52, 243, 36, 3, 13, 169, 76, 72, 153, 38, 134, 212, 142,
          188, 178, 1, 0, 0, 0, 1], [], [0, 0, 0, 7]]).pushed =
      [{ tag := 101, payload := sampleCipher.text [8, 3] }, { tag := 1, payload := [7] }] ∧
    (receive (· ≤ 101) acceptsAll Receiver.initial [[1, 0, 0, 0, 1, 0, 16, 0, 7]]).disconnected =
      (receive (· ≤ 101) acceptsAll Receiver.initial [[1, 0], [0, 0, 1, 0, 16, 0, 7]]).disconnected := by
  constructor
  · refine ((receive_framing (· ≤ 101) sampleCipher).1
      [.descWithEncrypt 101 [8, 3], .desc2 1 [7]] _ (by decide) (by decide) ?_).1
    simp only [Message.encode_eq_bytes, List.map_cons, List.map_nil]
    decide
  · exact ((receive_framing (· ≤ 101) sampleCipher).2 acceptsAll _ _ (by decide)).2

end EasyViewer
