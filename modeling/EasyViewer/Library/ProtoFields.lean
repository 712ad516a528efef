import Mathlib.Algebra.Order.BigOperators.Group.List
import EasyViewer.Library.ProtoMessage

/-!
The fields a message can have: numbers and truth values as varints, and texts, bytes and whole
messages behind their length, once or repeatedly.
-/

namespace ProtoWire

theorem Reads.single {α κ : Type} {read : κ → α → Reader α} {kind : κ} {payload : List UInt8}
    {before after : α}
    (first : ∀ more, read kind before (payload ++ more) = some (after, more)) :
    Reads read before [(kind, payload)] after :=
  .record first (.done after)

theorem readVarint64_value {α : Type} {ofWire : UInt64 → α} {value : α} {bytes rest : List UInt8}
    (read : (do let wire ← readVarint64
                return ofWire wire : Reader α) bytes = some (value, rest)) :
    ∃ wire, ofWire wire = value ∧ varintSize wire.toNat + rest.length ≤ bytes.length := by
  obtain ⟨wire, between, front, back⟩ := bind_eq_some.mp read
  obtain ⟨same, rfl⟩ := pure_eq_some.mp back
  exact ⟨wire, same, readVarint64_size front⟩

theorem readVarint64_grows {α : Type} {toWire : α → UInt64} {ofWire : UInt64 → α}
    (grows : ∀ wire, varintSize (toWire (ofWire wire)).toNat ≤ 2 * varintSize wire.toNat + 1)
    {value : α} {bytes rest : List UInt8} (before : Nat)
    (read : (do let wire ← readVarint64
                return ofWire wire : Reader α) bytes = some (value, rest)) :
    uint64Size (toWire value) + 2 * rest.length ≤ before + 2 * bytes.length + 2 := by
  obtain ⟨wire, rfl, taken⟩ := readVarint64_value read
  have longer := grows wire
  rw [uint64Size]
  split <;> omega

theorem varint_wireType : 0 < 8 ∧ 0 ≠ 4 := by decide

theorem delimited_wireType : 2 < 8 ∧ 2 ≠ 4 := by decide

/-- A number on the wire, left out when it is zero there. Reading takes whatever the wire holds
into the type's range, which may make it longer when it is written again, but hardly twice. -/
@[reducible] def varintField {α : Type} (number : Nat) (toWire : α → UInt64) (ofWire : UInt64 → α)
    (numbered : 0 < number ∧ number < 16) (inverse : ∀ value, ofWire (toWire value) = value)
    (zero : toWire (ofWire 0) = 0)
    (grows : ∀ wire, varintSize (toWire (ofWire wire)).toNat ≤ 2 * varintSize wire.toNat + 1) :
    Field where
  Value := α
  number := number
  wireType := 0
  initial := ofWire 0
  contents value := if toWire value ≠ 0 then [varint (toWire value).toNat] else []
  size value := uint64Size (toWire value)
  nesting := 0
  read _ _ := do
    let wire ← readVarint64
    return ofWire wire
  merge before value := if toWire value ≠ 0 then value else before
  numbered := numbered
  wireTyped := varint_wireType
  sized value := by
    rw [uint64Size]
    split
    · simp [varint_length (UInt64.toNat_lt _), Nat.add_comm]
    · rfl
  read_local _ _ := readVarint64_local.bind fun _ => .pure _
  reads_contents {depth value} _ _ before := by
    by_cases nonzero : toWire value ≠ 0
    · rw [if_pos nonzero, if_pos nonzero]
      refine .single fun more => ?_
      rw [bind_of_some (readVarint64_varint _ more), inverse]
      rfl
    · rw [if_neg nonzero, if_neg nonzero]
      exact .done before
  merge_initial value := by
    by_cases nonzero : toWire value ≠ 0
    · rw [if_pos nonzero]
    · rw [if_neg nonzero, ← not_not.mp nonzero, inverse]
  read_size read := readVarint64_grows grows _ read
  initial_size := by rw [uint64Size, zero, if_neg (by simp)]

theorem varintSize_mono {first second : Nat} (least : first ≤ second) :
    varintSize first ≤ varintSize second := by
  have log : (first ||| 1).log2 ≤ (second ||| 1).log2 := by
    have top : second ||| 1 < 2 ^ ((second ||| 1).log2 + 1) := Nat.lt_log2_self
    refine Nat.le_of_lt_succ ((Nat.log2_lt (by simp)).mpr (Nat.or_lt_two_pow ?_ ?_))
    · exact (least.trans Nat.left_le_or).trans_lt top
    · exact Nat.one_lt_two_pow (Nat.succ_ne_zero _)
  rw [varintSize, varintSize]
  omega

theorem varintSize_double (value : Nat) : varintSize (2 * value) ≤ varintSize value + 1 := by
  have log : (2 * value ||| 1).log2 ≤ (value ||| 1).log2 + 1 := by
    have top : value ||| 1 < 2 ^ ((value ||| 1).log2 + 1) := Nat.lt_log2_self
    have below : value ≤ value ||| 1 := Nat.left_le_or
    refine Nat.le_of_lt_succ ((Nat.log2_lt (by simp)).mpr (Nat.or_lt_two_pow ?_ ?_))
    · rw [pow_succ]
      omega
    · exact Nat.one_lt_two_pow (Nat.succ_ne_zero _)
  rw [varintSize, varintSize]
  omega

theorem varintSize_pos (value : Nat) : 0 < varintSize value := by
  rw [varintSize]
  omega

theorem varintSize_le (value : UInt64) : varintSize value.toNat ≤ 10 := by
  have bits : (value.toNat ||| 1).log2 < 64 :=
    (Nat.log2_lt (by simp)).mpr (Nat.or_lt_two_pow value.toNat_lt (by decide))
  rw [varintSize]
  omega

/-! The sign of an `int32` is extended to 64 bits: a negative one takes ten bytes, and five to
be understood. -/

def int32ToWire (value : Int32) : UInt64 := value.toInt64.toUInt64

def int32OfWire (wire : UInt64) : Int32 := wire.toUInt32.toInt32

theorem int32OfWire_toWire (value : Int32) : int32OfWire (int32ToWire value) = value := by
  apply Int32.toBitVec_inj.mp
  change (value.toBitVec.signExtend 64).setWidth 32 = value.toBitVec
  rw [← BitVec.signExtend_eq_setWidth_of_le _ (by decide : 32 ≤ 64)]
  exact congrArg Int32.toBitVec (Int32.toInt32_toInt64 value)

theorem int32ToWire_toNat (wire : UInt64) :
    (int32ToWire (int32OfWire wire)).toNat =
      if wire.toNat % 2 ^ 32 < 2 ^ 31 then wire.toNat % 2 ^ 32
      else 2 ^ 64 - 2 ^ 32 + wire.toNat % 2 ^ 32 := by
  have bits : (int32ToWire (int32OfWire wire)).toBitVec =
    (wire.toBitVec.setWidth 32).signExtend 64 := rfl
  have below : wire.toNat % 2 ^ 32 < 2 ^ 32 := Nat.mod_lt _ (by decide)
  have msb : (wire.toBitVec.setWidth 32).msb = decide (2 ^ 31 ≤ wire.toNat % 2 ^ 32) := by
    rw [BitVec.msb_eq_decide]
    simp
  rw [← UInt64.toNat_toBitVec, bits, BitVec.toNat_signExtend, msb]
  simp only [BitVec.toNat_setWidth, UInt64.toNat_toBitVec]
  split <;> split <;> simp_all <;> omega

theorem int32_grows (wire : UInt64) :
    varintSize (int32ToWire (int32OfWire wire)).toNat ≤ 2 * varintSize wire.toNat + 1 := by
  have ten := varintSize_le (int32ToWire (int32OfWire wire))
  rw [int32ToWire_toNat] at ten ⊢
  split
  next =>
    have shorter := varintSize_mono (Nat.mod_le wire.toNat (2 ^ 32))
    omega
  next negative =>
    rw [if_neg negative] at ten
    have five : varintSize (2 ^ 31) ≤ varintSize wire.toNat :=
      varintSize_mono ((Nat.le_of_not_lt negative).trans (Nat.mod_le ..))
    have exactly : varintSize (2 ^ 31) = 5 := by decide
    omega

theorem uint32_grows (wire : UInt64) :
    varintSize wire.toUInt32.toUInt64.toNat ≤ 2 * varintSize wire.toNat + 1 := by
  have cut : wire.toUInt32.toUInt64.toNat = wire.toNat % 2 ^ 32 := by simp
  have shorter := varintSize_mono (Nat.mod_le wire.toNat (2 ^ 32))
  rw [cut]
  omega

section

variable (number : Nat)

@[reducible] def int64 (numbered : 0 < number ∧ number < 16 := by decide) : Field :=
  varintField number Int64.toUInt64 UInt64.toInt64 numbered (fun _ => rfl) rfl
    fun wire => by
      have same : wire.toInt64.toUInt64 = wire := rfl
      rw [same]
      omega

@[reducible] def uint64 (numbered : 0 < number ∧ number < 16 := by decide) : Field :=
  varintField number id id numbered (fun _ => rfl) rfl fun wire => by
    rw [id, id]
    omega

@[reducible] def int32 (numbered : 0 < number ∧ number < 16 := by decide) : Field :=
  varintField number int32ToWire int32OfWire numbered int32OfWire_toWire rfl int32_grows

@[reducible] def uint32 (numbered : 0 < number ∧ number < 16 := by decide) : Field :=
  varintField number UInt32.toUInt64 UInt64.toUInt32 numbered (fun value => by simp) rfl
    uint32_grows

@[reducible] def bool (numbered : 0 < number ∧ number < 16 := by decide) : Field :=
  varintField number (fun value => if value then 1 else 0) (fun wire => decide (wire ≠ 0)) numbered
    (fun value => by cases value <;> rfl) rfl fun wire => by
      have small : varintSize (if wire ≠ 0 then (1 : UInt64) else 0).toNat = 1 := by
        split <;> decide
      have positive := varintSize_pos wire.toNat
      simp only [decide_eq_true_eq]
      omega

end

/-! What stands behind a length; `decode` may refuse it. -/

structure Item where
  Value : Type
  encode : Value → List UInt8
  size : Value → Nat
  nesting : Nat
  decode : Nat → List UInt8 → Option Value
  sized : ∀ value, (encode value).length = size value
  decode_encode : ∀ {depth value}, nesting ≤ depth → size value ≤ maxSize →
    decode depth (encode value) = some value
  decode_size : ∀ {depth content value}, decode depth content = some value →
    size value ≤ 2 * content.length

namespace Item

variable (item : Item)

def readOne (depth : Nat) : Reader item.Value := do
  let content ← readDelimited
  match item.decode depth content with
  | none => failure
  | some value => return value

variable {item} {depth : Nat}

theorem readOne_local : Local (item.readOne depth) := by
  refine readDelimited_local.bind fun content => ?_
  split
  · exact .failure
  · exact .pure _

theorem readOne_encode {value : item.Value} (deep : item.nesting ≤ depth)
    (fits : item.size value ≤ maxSize) (more : List UInt8) :
    item.readOne depth (delimited (item.encode value) ++ more) = some (value, more) := by
  have short : (item.encode value).length ≤ maxSize := item.sized value ▸ fits
  rw [readOne, bind_of_some (readDelimited_delimited short more), item.decode_encode deep fits]
  rfl

theorem readOne_content {value : item.Value} {bytes rest : List UInt8}
    (read : item.readOne depth bytes = some (value, rest)) :
    ∃ content, item.decode depth content = some value ∧
      varintSize content.length + content.length + rest.length ≤ bytes.length := by
  obtain ⟨content, between, front, back⟩ := bind_eq_some.mp read
  cases decoded : item.decode depth content with
  | none =>
      rw [decoded] at back
      cases back
  | some found =>
      rw [decoded] at back
      obtain ⟨rfl, rfl⟩ := pure_eq_some.mp back
      exact ⟨content, decoded, (readDelimited_size front).2⟩

theorem readOne_size {value : item.Value} {bytes rest : List UInt8}
    (read : item.readOne depth bytes = some (value, rest)) :
    lengthDelimitedSize (item.size value) + 2 * rest.length ≤ 2 * bytes.length + 2 := by
  obtain ⟨content, decoded, taken⟩ := readOne_content read
  have grown := item.decode_size decoded
  have header := varintSize_mono ((Nat.mod_le (item.size value) (2 ^ 32)).trans grown)
  have double := varintSize_double content.length
  have positive := varintSize_pos content.length
  rw [lengthDelimitedSize]
  omega

theorem readOne_header {value : item.Value} {bytes rest : List UInt8} {before : Nat}
    (read : item.readOne depth bytes = some (value, rest)) :
    (if item.size value ≠ 0 then lengthDelimitedSize (item.size value) else 0) + 2 * rest.length ≤
      before + 2 * bytes.length + 2 := by
  have bound := readOne_size read
  split <;> omega

theorem least_of_header {value : item.Value} {most : Nat}
    (fits : (if item.size value ≠ 0 then lengthDelimitedSize (item.size value) else 0) ≤ most) :
    item.size value ≤ most := by
  rw [lengthDelimitedSize] at fits
  split at fits <;> omega

theorem least_of_sum {values : List item.Value} {most : Nat}
    (fits : (values.map fun value => lengthDelimitedSize (item.size value)).sum ≤ most)
    {value : item.Value} (among : value ∈ values) : item.size value ≤ most := by
  have part := List.le_sum_of_mem
    (List.mem_map_of_mem (f := fun value => lengthDelimitedSize (item.size value)) among)
  rw [lengthDelimitedSize] at part
  omega

theorem readOne_sum {before : List item.Value} {value : item.Value} {bytes rest : List UInt8}
    (read : item.readOne depth bytes = some (value, rest)) :
    ((before ++ [value]).map fun value => lengthDelimitedSize (item.size value)).sum +
        2 * rest.length ≤
      (before.map fun value => lengthDelimitedSize (item.size value)).sum +
        2 * bytes.length + 2 := by
  have bound := readOne_size read
  rw [List.map_append, List.sum_append, List.map_singleton, List.sum_singleton]
  omega

theorem delimited_length (value : item.Value) :
    (delimited (item.encode value)).length + 1 = lengthDelimitedSize (item.size value) := by
  have fits : item.size value % 2 ^ 32 < 2 ^ 64 := by omega
  rw [delimited, List.length_append, item.sized, varint_length fits, lengthDelimitedSize]
  omega

end Item

/-- The bytes of a text are valid UTF-8, and only such bytes are accepted. -/
@[reducible] def text : Item where
  Value := String
  encode value := value.toByteArray.data.toList
  size value := value.utf8ByteSize
  nesting := 0
  decode _ content := String.fromUTF8? ⟨content.toArray⟩
  sized value := Array.length_toList
  decode_encode {depth value} _ _ := by
    rw [String.fromUTF8?, Array.toArray_toList, dif_pos value.isValidUTF8]
    rfl
  decode_size {depth content value} decoded := by
    rw [String.fromUTF8?] at decoded
    split at decoded
    next valid =>
      obtain rfl := Option.some.inj decoded
      have length : (String.fromUTF8 _ valid).utf8ByteSize = content.length := List.size_toArray
      omega
    next => cases decoded

@[reducible] def raw : Item where
  Value := List UInt8
  encode := id
  size := List.length
  nesting := 0
  decode _ := some
  sized _ := rfl
  decode_encode _ _ := rfl
  decode_size decoded := by
    obtain rfl := Option.some.inj decoded
    omega

@[reducible] def submessage (fields : List Field) (distinct : Distinct fields) : Item where
  Value := Values fields
  encode := serialize fields
  size := byteSize fields
  nesting := nesting fields + 1
  decode depth content := if depth = 0 then none else parse (depth - 1) fields content
  sized := serialize_length fields
  decode_encode deep fits := by
    rw [if_neg (by omega), parse_serialize distinct (by omega) fits]
  decode_size decoded := by
    split at decoded
    · cases decoded
    · exact parse_size decoded

/-! Behind a tag, once or repeatedly. -/

section

variable (number : Nat)

/-- The last record counts; an empty item is not written. -/
@[reducible] def singular (item : Item) (empty : item.Value) (numbered : 0 < number ∧ number < 16)
    (encode_empty : item.encode empty = [])
    (only_empty : ∀ value, item.encode value = [] → value = empty) : Field where
  Value := item.Value
  number := number
  wireType := 2
  initial := empty
  contents value := if item.encode value ≠ [] then [delimited (item.encode value)] else []
  size value := if item.size value ≠ 0 then lengthDelimitedSize (item.size value) else 0
  nesting := item.nesting
  read depth _ := item.readOne depth
  merge before value := if item.encode value ≠ [] then value else before
  numbered := numbered
  wireTyped := delimited_wireType
  sized value := by
    have same : item.encode value ≠ [] ↔ item.size value ≠ 0 := by
      rw [← item.sized, ne_eq, ne_eq, List.length_eq_zero_iff]
    by_cases nonempty : item.size value ≠ 0
    · rw [if_pos (same.mpr nonempty), if_pos nonempty, ← item.delimited_length]
      exact Nat.add_zero _
    · rw [if_neg (mt same.mp nonempty), if_neg nonempty]
      rfl
  read_local depth _ := Item.readOne_local
  reads_contents {depth value} deep fits before := by
    by_cases nonempty : item.encode value ≠ []
    · rw [if_pos nonempty, if_pos nonempty]
      exact .single fun more => Item.readOne_encode deep (Item.least_of_header fits) more
    · rw [if_neg nonempty, if_neg nonempty]
      exact .done before
  merge_initial value := by
    by_cases nonempty : item.encode value ≠ []
    · rw [if_pos nonempty]
    · rw [if_neg nonempty, only_empty value (not_not.mp nonempty)]
  read_size {depth before value bytes rest} read := Item.readOne_header read
  initial_size := by
    have small : item.size empty = 0 := by rw [← item.sized, encode_empty, List.length_nil]
    rw [small, if_neg (by decide)]

/-- Each record adds an item at the end; empty items are written too. -/
@[reducible] def repeated (item : Item) (numbered : 0 < number ∧ number < 16 := by decide) :
    Field where
  Value := List item.Value
  number := number
  wireType := 2
  initial := []
  contents values := values.map fun value => delimited (item.encode value)
  size values := (values.map fun value => lengthDelimitedSize (item.size value)).sum
  nesting := item.nesting
  read depth values := do
    let value ← item.readOne depth
    return values ++ [value]
  merge before values := before ++ values
  numbered := numbered
  wireTyped := delimited_wireType
  sized values := by
    rw [List.map_map]
    exact congrArg List.sum (List.map_congr_left fun value _ => item.delimited_length value)
  read_local depth _ := Item.readOne_local.bind fun _ => .pure _
  reads_contents {depth values} deep fits before := by
    have each : ∀ value ∈ values, item.size value ≤ maxSize := fun value => Item.least_of_sum fits
    clear fits
    induction values generalizing before with
    | nil =>
        rw [List.append_nil]
        exact .done before
    | cons value values ih =>
        have others := ih (before ++ [value])
          fun other among => each other (List.mem_cons_of_mem _ among)
        rw [List.append_assoc] at others
        refine .record (fun more => ?_) others
        rw [bind_of_some (Item.readOne_encode deep (each value List.mem_cons_self) more)]
        rfl
  merge_initial values := List.nil_append values
  read_size {depth before values bytes rest} read := by
    obtain ⟨value, between, front, back⟩ := bind_eq_some.mp read
    obtain ⟨rfl, rfl⟩ := pure_eq_some.mp back
    exact Item.readOne_sum front
  initial_size := rfl

theorem text_empty {value : String} (empty : text.encode value = []) : value = "" := by
  have nothing : value.toByteArray.data = #[] := Array.toList_eq_nil_iff.mp empty
  exact String.toByteArray_inj.mp (ByteArray.ext nothing)

@[reducible] def string (numbered : 0 < number ∧ number < 16 := by decide) : Field :=
  singular number text "" numbered rfl fun _ => text_empty

@[reducible] def bytes (numbered : 0 < number ∧ number < 16 := by decide) : Field :=
  singular number raw [] numbered rfl fun _ => id

end

/-! What each field writes. -/

theorem flatMap_varint (number : Nat) (wire : UInt64) :
    ((if wire ≠ 0 then [varint wire.toNat] else []).flatMap fun payload =>
      tag number 0 :: payload) = writeUInt64 number wire := by
  rw [writeUInt64]
  split <;> simp

section

variable {number : Nat} {numbered : 0 < number ∧ number < 16}

theorem uint64_write (value : UInt64) :
    (uint64 number numbered).write value = writeUInt64 number value :=
  flatMap_varint number value

theorem int64_write (value : Int64) :
    (int64 number numbered).write value = writeUInt64 number value.toUInt64 :=
  flatMap_varint number value.toUInt64

theorem uint32_write (value : UInt32) :
    (uint32 number numbered).write value = writeUInt64 number value.toUInt64 :=
  flatMap_varint number value.toUInt64

theorem int32_write (value : Int32) :
    (int32 number numbered).write value = writeUInt64 number (int32ToWire value) :=
  flatMap_varint number (int32ToWire value)

theorem bool_write (value : Bool) :
    (bool number numbered).write value = writeBool number value := by
  refine (flatMap_varint number (if value then 1 else 0)).trans ?_
  cases value with
  | false => rfl
  | true =>
      have one : varint 1 = [1] := by rw [varint, if_pos (by decide)]; rfl
      exact congrArg (tag number 0 :: ·) one

theorem string_write (value : String) :
    (string number numbered).write value = writeString number value := by
  change ((if text.encode value ≠ [] then [delimited (text.encode value)] else []).flatMap
    fun payload => tag number 2 :: payload) = writeString number value
  by_cases empty : value = ""
  · rw [writeString, if_neg (not_not.mpr empty), empty]
    rfl
  · rw [writeString, if_pos empty, if_pos (mt text_empty empty), List.flatMap_singleton]
    rfl

theorem repeated_write (item : Item) (values : List item.Value) :
    (repeated number item numbered).write values =
      values.flatMap fun value => writeBytes number (item.encode value) :=
  List.flatMap_map ..

end

end ProtoWire
