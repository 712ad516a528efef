import EasyViewer.ProtocolMessages

/-!
A message from the sender's object to the receiver's: serialized, encrypted and framed by
`GLOBAL_PROTO_WRAPPER_DESC_WITH_ENCRYPT`, cut out of the stream by the decoding loop, and
decrypted and parsed by `USUAL_PARSE_PROTOBUF_DATA_MACRO`.
-/

namespace EasyViewer

open ProtoWire Proto

/-- What `EVP_DecryptUpdate` and then `EVP_DecryptFinal_ex` emit for a text, or that they
fail. -/
structure Decryptor where
  update : List UInt8 → Option (List UInt8)
  final : List UInt8 → Option (List UInt8)
  bounded : ∀ {text front back}, update text = some front → final text = some back →
    front.length + back.length ≤ text.length + 16

def Decryptor.decrypt (decryptor : Decryptor) (source : List UInt8) (target : ByteBuffer) :
    Option ByteBuffer :=
  let target := target.ensureWritable (source.length + 16)
  match decryptor.update source with
  | none => none
  | some out =>
      let target := (target.store target.writerIndex out).moveWriterIndex out.length
      match decryptor.final source with
      | none => none
      | some out => some ((target.store target.writerIndex out).moveWriterIndex out.length)

def Decryptor.Undoes (decryptor : Decryptor) (cipher : Cipher) : Prop :=
  ∀ plain, ∃ front back, decryptor.update (cipher.text plain) = some front ∧
    decryptor.final (cipher.text plain) = some back ∧ front ++ back = plain

/-- `USUAL_PARSE_PROTOBUF_DATA_MACRO`; without a message the connection is given up. -/
def usualParseProtobufData (decryptor : Decryptor) (fields : List Field) (data : List UInt8) :
    Option (Values fields) :=
  match decryptor.decrypt data ByteBuffer.empty with
  | none => none
  | some result => parseFromArray fields result.readableBytes

structure Sending where
  tag : UInt32
  fields : List Field
  values : Values fields

/-- `GLOBAL_PROTO_WRAPPER_DESC_WITH_ENCRYPT`. -/
def Sending.message (sending : Sending) : Message :=
  .descWithEncrypt sending.tag
    (serializeToArray (byteSize sending.fields sending.values)
      (serialize sending.fields sending.values))

theorem Decryptor.decrypt_readableBytes (decryptor : Decryptor) {source front back : List UInt8}
    (update : decryptor.update source = some front) (final : decryptor.final source = some back)
    (target : ByteBuffer) :
    (decryptor.decrypt source target).map ByteBuffer.readableBytes =
      some (target.readableBytes ++ (front ++ back)) := by
  have bounded := decryptor.bounded update final
  have room := target.ensureWritable_room (source.length + 16)
  have readable := target.ensureWritable_readableBytes (source.length + 16)
  simp only [Decryptor.decrypt, update, final, Option.map_some]
  generalize target.ensureWritable (source.length + 16) = ready at room readable
  have roomLeft : (ready.append front (by omega)).writerIndex + back.length ≤
      (ready.append front (by omega)).data.length := by
    simp only [ByteBuffer.append, List.length_append, List.length_take, List.length_drop]
    omega
  rw [ready.store_moveWriterIndex _ (by omega), ByteBuffer.store_moveWriterIndex _ _ roomLeft,
    ByteBuffer.append_readableBytes, ByteBuffer.append_readableBytes, readable,
    List.append_assoc]

theorem usualParse_encrypted {decryptor : Decryptor} {cipher : Cipher}
    (undoes : decryptor.Undoes cipher) (fields : List Field) (plain : List UInt8) :
    usualParseProtobufData decryptor fields (cipher.text plain) = parseFromArray fields plain := by
  obtain ⟨front, back, update, final, rfl⟩ := undoes plain
  have read := decryptor.decrypt_readableBytes update final ByteBuffer.empty
  rw [usualParseProtobufData]
  cases decrypted : decryptor.decrypt (cipher.text (front ++ back)) ByteBuffer.empty with
  | none =>
      rw [decrypted] at read
      cases read
  | some result =>
      rw [decrypted, ByteBuffer.empty_readableBytes, List.nil_append] at read
      exact congrArg (parseFromArray fields) (Option.some.inj read)

theorem Sending.parsed {decryptor : Decryptor} {cipher : Cipher}
    (undoes : decryptor.Undoes cipher) (sending : Sending) (listed : sending.fields ∈ messages)
    (small : byteSize sending.fields sending.values ≤ maxLen) :
    usualParseProtobufData decryptor sending.fields (sending.message.frame cipher).payload =
      some sending.values := by
  rw [maxLen] at small
  have fits : byteSize sending.fields sending.values ≤ maxSize := by
    rw [maxSize]
    omega
  refine (usualParse_encrypted undoes _ _).trans ?_
  rw [serializeToArray, if_pos (by omega)]
  exact parse_written listed _ fits

/-- The other half of the sample cipher: the padding says how much of the last block to drop. -/
def sampleAesDecryptor : Decryptor where
  update text := some
    (if text = sampleAes.text sampleText then sampleText.take 16 else text.take (text.length - 16))
  final text := some
    (if text = sampleAes.text sampleText then sampleText.drop 16
      else (text.drop (text.length - 16)).take (16 - (text.getLastD 0).toNat))
  bounded {text front back} update final := by
    obtain rfl := Option.some.inj update
    obtain rfl := Option.some.inj final
    by_cases sample : text = sampleAes.text sampleText
    · rw [if_pos sample, if_pos sample, sample]
      decide
    · rw [if_neg sample, if_neg sample, List.length_take, List.length_take, List.length_drop]
      omega

theorem sampleAes_text {plain : List UInt8} (other : plain ≠ sampleText) :
    sampleAes.text plain = plain ++
      List.replicate (16 - plain.length % 16) (UInt8.ofNat (16 - plain.length % 16)) := by
  simp only [Cipher.text, sampleAes, if_neg other]
  rw [← List.append_assoc, List.take_append_drop]

theorem sampleAesDecryptor_undoes : sampleAesDecryptor.Undoes sampleAes := by
  intro plain
  refine ⟨_, _, rfl, rfl, ?_⟩
  by_cases sample : plain = sampleText
  · rw [if_pos (congrArg sampleAes.text sample), if_pos (congrArg sampleAes.text sample),
      List.take_append_drop, sample]
  · have text := sampleAes_text sample
    generalize pad : 16 - plain.length % 16 = count at text
    have positive : count ≠ 0 := by omega
    have last : (sampleAes.text plain).getLastD 0 = UInt8.ofNat count := by
      rw [text, List.getLastD_eq_getLast?, List.getLast?_append,
        List.getLast?_replicate, if_neg positive]
      rfl
    have length : (sampleAes.text plain).length = plain.length + count := by
      rw [text, List.length_append, List.length_replicate]
    have different : sampleAes.text plain ≠ sampleAes.text sampleText := by
      intro same
      have byte : (sampleAes.text sampleText).getLastD 0 = 202 := by decide
      rw [same, byte] at last
      have value := congrArg UInt8.toNat last
      rw [ofNat_toNat (by omega)] at value
      have fixed : (202 : UInt8).toNat = 202 := rfl
      omega
    have blocks : plain.length + count - 16 = 16 * (plain.length / 16) := by omega
    have front : 16 * (plain.length / 16) ≤ plain.length := Nat.mul_div_le ..
    have left : 16 - count = (plain.drop (16 * (plain.length / 16))).length := by
      rw [List.length_drop]
      omega
    rw [if_neg different, if_neg different, last, length, text, ofNat_toNat (by omega), blocks,
      List.take_append_of_le_length front, List.drop_append_of_le_length front,
      List.take_left' left.symm, List.take_append_drop]

def sampleListing : Sending where
  tag := Tag.responseListEntries
  fields := ResponseListEntries
  values := ((7 : Int64), (1 : Int64), (0 : Int32), "", "/",
    [("/", "srv", (0 : UInt64), true, (1700000000000 : Int64), ())], ())

end EasyViewer
