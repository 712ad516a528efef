import EasyViewer.Library.ProtoReader

/-!
Messages of protocol buffers: a message type is its list of fields, a message one value for
each. A field comes with what is written for a value and how one record of it is read, and with
the laws that make the two fit; that a message is read back as it was written, whatever its
fields are, follows from them.
-/

namespace ProtoWire

inductive Reads {α κ : Type} (read : κ → α → Reader α) : α → List (κ × List UInt8) → α → Prop
  | done (value : α) : Reads read value [] value
  | record {kind : κ} {payload : List UInt8} {records : List (κ × List UInt8)}
      {before between after : α}
      (first : ∀ more, read kind before (payload ++ more) = some (between, more))
      (others : Reads read between records after) :
      Reads read before ((kind, payload) :: records) after

/-- `depth` is how many more groups and messages may be opened, `nesting` how many of them a
value of the field needs, `initial` what a cleared message holds, and `merge` what becomes of a
value when another one is read after it. -/
structure Field where
  Value : Type
  number : Nat
  wireType : Nat
  initial : Value
  contents : Value → List (List UInt8)
  size : Value → Nat
  nesting : Nat
  read : Nat → Value → Reader Value
  merge : Value → Value → Value
  numbered : 0 < number ∧ number < 16
  wireTyped : wireType < 8 ∧ wireType ≠ 4
  sized : ∀ value, ((contents value).map fun payload => payload.length + 1).sum = size value
  read_local : ∀ depth value, Local (read depth value)
  reads_contents : ∀ {depth value}, nesting ≤ depth → size value ≤ maxSize → ∀ before,
    Reads (fun (_ : Unit) => read depth) before ((contents value).map ((), ·)) (merge before value)
  merge_initial : ∀ value, merge initial value = value
  read_size : ∀ {depth before value bytes rest}, read depth before bytes = some (value, rest) →
    size value + 2 * rest.length ≤ size before + 2 * bytes.length + 2
  initial_size : size initial = 0

namespace Field

def tag (field : Field) : Nat := 8 * field.number + field.wireType

def write (field : Field) (value : field.Value) : List UInt8 :=
  (field.contents value).flatMap fun payload => ProtoWire.tag field.number field.wireType :: payload

end Field

@[reducible] def Values : List Field → Type
  | [] => Unit
  | field :: fields => field.Value × Values fields

/-- `Clear`. -/
def initial : (fields : List Field) → Values fields
  | [] => ()
  | field :: fields => (field.initial, initial fields)

/-- `_InternalSerialize`. -/
def serialize : (fields : List Field) → Values fields → List UInt8
  | [], _ => []
  | field :: fields, (value, values) => field.write value ++ serialize fields values

/-- `ByteSizeLong`. -/
def byteSize : (fields : List Field) → Values fields → Nat
  | [], _ => 0
  | field :: fields, (value, values) => field.size value + byteSize fields values

/-- `MergeFrom`. -/
def merge : (fields : List Field) → Values fields → Values fields → Values fields
  | [], _, _ => ()
  | field :: fields, (before, befores), (value, values) =>
      (field.merge before value, merge fields befores values)

/-- The `switch` of `_InternalParse` over the tag; what it does not know is skipped, but the
tag zero and the end of a group end the message, which is never where it should end. -/
def readField (depth : Nat) (tag : Nat) : (fields : List Field) → Values fields →
    Reader (Values fields)
  | [], values =>
      if tag = 0 ∨ tag % 8 = 4 then failure
      else do
        skipUnknown depth tag
        return values
  | field :: fields, (value, values) =>
      if tag = field.tag then do
        let value ← field.read depth value
        return (value, values)
      else do
        let values ← readField depth tag fields values
        return (value, values)

def readRecord (depth : Nat) (fields : List Field) (values : Values fields) :
    Reader (Values fields) := do
  let tag ← readTag
  readField depth tag fields values

/-- The loop of `_InternalParse`. -/
def mergeLoop (depth : Nat) (fields : List Field) :
    Nat → Values fields → List UInt8 → Option (Values fields)
  | _, values, [] => some values
  | 0, _, _ :: _ => none
  | fuel + 1, values, byte :: bytes =>
      match readRecord depth fields values (byte :: bytes) with
      | none => none
      | some (values, rest) => mergeLoop depth fields fuel values rest

/-- Every record takes a byte, so the loop ends within the length of its input. -/
def mergeFrom (depth : Nat) (fields : List Field) (values : Values fields) (bytes : List UInt8) :
    Option (Values fields) :=
  mergeLoop depth fields bytes.length values bytes

def parse (depth : Nat) (fields : List Field) (bytes : List UInt8) : Option (Values fields) :=
  mergeFrom depth fields (initial fields) bytes

/-! The loop, record by record. -/

section

variable {depth : Nat} {fields : List Field}

theorem readField_local (depth tag : Nat) (fields : List Field) (values : Values fields) :
    Local (readField depth tag fields values) := by
  induction fields with
  | nil =>
      rw [readField]
      by_cases ends : tag = 0 ∨ tag % 8 = 4
      · rw [if_pos ends]
        exact .failure
      · rw [if_neg ends]
        exact (skipUnknown_local depth tag).bind fun _ => .pure _
  | cons field fields ih =>
      obtain ⟨value, values⟩ := values
      rw [readField]
      by_cases own : tag = field.tag
      · rw [if_pos own]
        exact (field.read_local depth value).bind fun _ => .pure _
      · rw [if_neg own]
        exact (ih values).bind fun _ => .pure _

theorem readRecord_local (values : Values fields) : Local (readRecord depth fields values) :=
  readTag_local.bind fun tag => readField_local depth tag fields values

theorem readRecord_progress (values : Values fields) :
    Progress (readRecord depth fields values) :=
  readTag_progress.bind fun tag => readField_local depth tag fields values

theorem mergeLoop_fuel {fuel more : Nat} {values : Values fields} {bytes : List UInt8}
    (enough : bytes.length ≤ fuel) (enough' : bytes.length ≤ more) :
    mergeLoop depth fields fuel values bytes = mergeLoop depth fields more values bytes := by
  induction fuel generalizing more values bytes with
  | zero =>
      obtain rfl := List.eq_nil_of_length_eq_zero (Nat.le_zero.mp enough)
      cases more <;> rfl
  | succ fuel ih =>
      cases bytes with
      | nil => cases more <;> rfl
      | cons byte bytes =>
          obtain ⟨more, rfl⟩ : ∃ fewer, more = fewer + 1 := ⟨more - 1, by simp at enough'; omega⟩
          rw [mergeLoop, mergeLoop]
          cases read : readRecord depth fields values (byte :: bytes) with
          | none => rfl
          | some pair =>
              have shorter := (readRecord_progress values).shorter read
              exact ih (by omega) (by omega)

@[simp] theorem mergeFrom_nil (values : Values fields) :
    mergeFrom depth fields values [] = some values := rfl

theorem mergeFrom_record {values between : Values fields} {bytes rest : List UInt8}
    (read : readRecord depth fields values bytes = some (between, rest)) :
    mergeFrom depth fields values bytes = mergeFrom depth fields between rest := by
  have shorter := (readRecord_progress values).shorter read
  cases bytes with
  | nil => simp at shorter
  | cons byte bytes =>
      rw [mergeFrom, List.length_cons, mergeLoop, read]
      exact mergeLoop_fuel (by simpa using Nat.le_of_lt_succ shorter) le_rfl

theorem mergeFrom_stuck {values : Values fields} {bytes : List UInt8} (some' : bytes ≠ [])
    (read : readRecord depth fields values bytes = none) :
    mergeFrom depth fields values bytes = none := by
  cases bytes with
  | nil => exact absurd rfl some'
  | cons byte bytes => rw [mergeFrom, List.length_cons, mergeLoop, read]

/-- What the loop preserves: a relation between the values and what is left to read. -/
theorem mergeFrom_induction {motive : Values fields → List UInt8 → Prop}
    {values final : Values fields} {bytes : List UInt8}
    (step : ∀ {before after bytes rest}, motive before bytes →
      readRecord depth fields before bytes = some (after, rest) → motive after rest)
    (start : motive values bytes) (merged : mergeFrom depth fields values bytes = some final) :
    motive final [] := by
  induction length : bytes.length using Nat.strong_induction_on generalizing values bytes with
  | _ length ih =>
      cases bytes with
      | nil =>
          obtain rfl : values = final := by simpa using merged
          exact start
      | cons byte bytes =>
          cases read : readRecord depth fields values (byte :: bytes) with
          | none =>
              rw [mergeFrom_stuck (by simp) read] at merged
              cases merged
          | some pair =>
              rw [mergeFrom_record read] at merged
              have shorter := (readRecord_progress values).shorter read
              exact ih _ (length ▸ shorter) (step start read) merged rfl

/-- A message may come in pieces, as long as each ends with a record. -/
theorem mergeFrom_append {values between : Values fields} {bytes : List UInt8}
    (merged : mergeFrom depth fields values bytes = some between) (more : List UInt8) :
    mergeFrom depth fields values (bytes ++ more) = mergeFrom depth fields between more := by
  have kept := mergeFrom_induction
    (motive := fun current left => mergeFrom depth fields values (bytes ++ more) =
      mergeFrom depth fields current (left ++ more)) ?_ rfl merged
  · exact kept
  · intro before after bytes rest same read
    obtain ⟨taken, rfl, again⟩ := (readRecord_local before).taken read
    rw [same, List.append_assoc, mergeFrom_record (again _)]

end

/-! What was written is read back. -/

def records : (fields : List Field) → Values fields → List (Nat × List UInt8)
  | [], _ => []
  | field :: fields, (value, values) =>
      (field.contents value).map (field.tag, ·) ++ records fields values

def recordBytes (records : List (Nat × List UInt8)) : List UInt8 :=
  records.flatMap fun record => UInt8.ofNat record.1 :: record.2

def nesting : List Field → Nat
  | [] => 0
  | field :: fields => max field.nesting (nesting fields)

def Distinct (fields : List Field) : Prop := (fields.map Field.number).Nodup

instance (fields : List Field) : Decidable (Distinct fields) := List.nodupDecidable _

theorem Field.tag_lt (field : Field) : field.tag < 128 := by
  have numbered := field.numbered
  have wireTyped := field.wireTyped
  rw [Field.tag]
  omega

theorem Field.tag_inj {first second : Field} (same : first.tag = second.tag) :
    first.number = second.number := by
  have wireTyped := first.wireTyped
  have wireTyped' := second.wireTyped
  rw [Field.tag, Field.tag] at same
  omega

theorem Reads.trans {α κ : Type} {read : κ → α → Reader α} {before between after : α}
    {records records' : List (κ × List UInt8)} (front : Reads read before records between)
    (back : Reads read between records' after) : Reads read before (records ++ records') after := by
  induction front with
  | done => exact back
  | record first _ ih => exact .record first (ih back)

theorem serialize_eq_records (fields : List Field) (values : Values fields) :
    serialize fields values = recordBytes (records fields values) := by
  induction fields with
  | nil => rfl
  | cons field fields ih =>
      obtain ⟨value, values⟩ := values
      rw [serialize, records, recordBytes, List.flatMap_append, ih, Field.write, List.flatMap_map]
      rfl

theorem records_tag {fields : List Field} {values : Values fields} {record : Nat × List UInt8}
    (inside : record ∈ records fields values) : ∃ field ∈ fields, record.1 = field.tag := by
  induction fields with
  | nil => cases inside
  | cons field fields ih =>
      obtain ⟨value, values⟩ := values
      rw [records, List.mem_append, List.mem_map] at inside
      rcases inside with ⟨payload, -, rfl⟩ | inside
      · exact ⟨field, List.mem_cons_self, rfl⟩
      · obtain ⟨other, among, same⟩ := ih inside
        exact ⟨other, List.mem_cons_of_mem _ among, same⟩

section

variable {depth : Nat} {field : Field} {fields : List Field}

theorem readField_own (value : field.Value) (values : Values fields) :
    readField depth field.tag (field :: fields) (value, values) =
      (do let value ← field.read depth value
          return (value, values)) := by
  rw [readField, if_pos rfl]

theorem readField_other {tag : Nat} (other : tag ≠ field.tag) (value : field.Value)
    (values : Values fields) :
    readField depth tag (field :: fields) (value, values) =
      (do let values ← readField depth tag fields values
          return (value, values)) := by
  rw [readField, if_neg other]

theorem Reads.own {before after : field.Value} {payloads : List (List UInt8)}
    (reads : Reads (fun (_ : Unit) => field.read depth) before (payloads.map ((), ·)) after)
    (values : Values fields) :
    Reads (readField depth · (field :: fields)) (before, values)
      (payloads.map (field.tag, ·)) (after, values) := by
  induction payloads generalizing before with
  | nil =>
      cases reads
      exact .done _
  | cons payload payloads ih =>
      cases reads with
      | record first others =>
          refine .record (fun more => ?_) (ih others)
          rw [readField_own, bind_of_some (first more)]
          rfl

theorem Reads.others {before after : Values fields} {records : List (Nat × List UInt8)}
    (reads : Reads (readField depth · fields) before records after)
    (foreign : ∀ record ∈ records, record.1 ≠ field.tag) (value : field.Value) :
    Reads (readField depth · (field :: fields)) (value, before) records (value, after) := by
  induction reads with
  | done => exact .done _
  | record first _ ih =>
      refine .record (fun more => ?_)
        (ih fun record inside => foreign record (List.mem_cons_of_mem _ inside))
      rw [readField_other (foreign _ List.mem_cons_self), bind_of_some (first more)]
      rfl

theorem reads_records (distinct : Distinct fields) (deep : nesting fields ≤ depth)
    {values : Values fields} (fits : byteSize fields values ≤ maxSize) (before : Values fields) :
    Reads (readField depth · fields) before (records fields values)
      (merge fields before values) := by
  induction fields with
  | nil => exact .done _
  | cons field fields ih =>
      obtain ⟨value, values⟩ := values
      obtain ⟨before, befores⟩ := before
      obtain ⟨fresh, distinct⟩ := List.nodup_cons.mp distinct
      rw [nesting, Nat.max_le] at deep
      rw [byteSize] at fits
      refine ((field.reads_contents deep.1 (by omega) before).own _).trans
        ((ih distinct deep.2 (by omega) befores).others ?_ _)
      intro record inside same
      obtain ⟨other, among, tagged⟩ := records_tag inside
      exact fresh (Field.tag_inj (same.symm.trans tagged) ▸ List.mem_map_of_mem among)

theorem Reads.mergeFrom {before after : Values fields} {records : List (Nat × List UInt8)}
    (reads : Reads (readField depth · fields) before records after)
    (small : ∀ record ∈ records, record.1 < 128) :
    mergeFrom depth fields before (recordBytes records) = some after := by
  induction reads with
  | done => rfl
  | record first _ ih =>
      have tag := readTag_byte (small _ List.mem_cons_self)
      rw [recordBytes, List.flatMap_cons, List.cons_append]
      rw [mergeFrom_record ((bind_of_some (tag _)).trans (first _))]
      exact ih fun record inside => small record (List.mem_cons_of_mem _ inside)

/-- What was written is merged into what was there. -/
theorem mergeFrom_serialize (distinct : Distinct fields) (deep : nesting fields ≤ depth)
    {values : Values fields} (fits : byteSize fields values ≤ maxSize) (before : Values fields) :
    ProtoWire.mergeFrom depth fields before (serialize fields values) =
      some (merge fields before values) := by
  rw [serialize_eq_records]
  refine (reads_records distinct deep fits before).mergeFrom fun record inside => ?_
  obtain ⟨field, -, same⟩ := records_tag inside
  exact same ▸ field.tag_lt

theorem merge_initial (fields : List Field) (values : Values fields) :
    merge fields (initial fields) values = values := by
  induction fields with
  | nil => rfl
  | cons field fields ih =>
      obtain ⟨value, values⟩ := values
      rw [initial, merge, field.merge_initial, ih]

/-- A message is read back as it was written. -/
theorem parse_serialize (distinct : Distinct fields) (deep : nesting fields ≤ depth)
    {values : Values fields} (fits : byteSize fields values ≤ maxSize) :
    parse depth fields (serialize fields values) = some values := by
  rw [parse, mergeFrom_serialize distinct deep fits, merge_initial]

/-- Two messages one after the other are read as one, merged. -/
theorem parse_serialize_append (distinct : Distinct fields) (deep : nesting fields ≤ depth)
    {first second : Values fields} (fits : byteSize fields first ≤ maxSize)
    (fits' : byteSize fields second ≤ maxSize) :
    parse depth fields (serialize fields first ++ serialize fields second) =
      some (merge fields first second) := by
  rw [parse, mergeFrom_append (parse_serialize distinct deep fits),
    mergeFrom_serialize distinct deep fits']

end

theorem Field.write_length (field : Field) (value : field.Value) :
    (field.write value).length = field.size value := by
  rw [Field.write, List.length_flatMap, ← field.sized value]
  rfl

theorem serialize_length (fields : List Field) (values : Values fields) :
    (serialize fields values).length = byteSize fields values := by
  induction fields with
  | nil => rfl
  | cons field fields ih =>
      rw [serialize, List.length_append, field.write_length, ih, byteSize]

/-! What is read may be written again. -/

section

variable {depth : Nat} {fields : List Field}

theorem initial_size (fields : List Field) : byteSize fields (initial fields) = 0 := by
  induction fields with
  | nil => rfl
  | cons field fields ih => rw [initial, byteSize, field.initial_size, ih]

theorem readField_size {tag : Nat} {before after : Values fields} {bytes rest : List UInt8}
    (read : readField depth tag fields before bytes = some (after, rest)) :
    byteSize fields after + 2 * rest.length ≤ byteSize fields before + 2 * bytes.length + 2 := by
  induction fields with
  | nil =>
      have shorter := (readField_local depth tag [] before).length_le read
      simp only [byteSize]
      omega
  | cons field fields ih =>
      obtain ⟨value, values⟩ := before
      by_cases own : tag = field.tag
      · subst own
        rw [readField_own] at read
        obtain ⟨found, between, front, back⟩ := bind_eq_some.mp read
        obtain ⟨rfl, rfl⟩ := pure_eq_some.mp back
        have grown := field.read_size front
        simp only [byteSize]
        omega
      · rw [readField_other own] at read
        obtain ⟨found, between, front, back⟩ := bind_eq_some.mp read
        obtain ⟨rfl, rfl⟩ := pure_eq_some.mp back
        have grown := ih front
        simp only [byteSize]
        omega

theorem parse_size {bytes : List UInt8} {values : Values fields}
    (parsed : parse depth fields bytes = some values) :
    byteSize fields values ≤ 2 * bytes.length := by
  have kept := mergeFrom_induction
    (motive := fun current left =>
      byteSize fields current + 2 * left.length ≤ 2 * bytes.length) ?_ ?_ parsed
  · simpa using kept
  · intro before after bytes rest bound read
    obtain ⟨tag, between, front, back⟩ := bind_eq_some.mp read
    have grown := readField_size back
    have shorter := readTag_progress.shorter front
    omega
  · rw [initial_size]
    omega

/-- Whatever was accepted is a message that is read back when it is written again. -/
theorem parse_serialize_parse {bytes : List UInt8} {values : Values fields}
    (distinct : Distinct fields) (deep : nesting fields ≤ depth)
    (parsed : parse depth fields bytes = some values) (short : 2 * bytes.length ≤ maxSize) :
    parse depth fields (serialize fields values) = some values :=
  parse_serialize distinct deep ((parse_size parsed).trans short)

end

end ProtoWire
