import EasyViewer.Library.ProtoWire

/-!
The wire format of protocol buffers as it is read. A reader takes a value off the front of its
input or fails, and a local one never looks behind what it takes; the readers of varints, tags,
delimited contents and unknown fields are local, and so is what is composed of them.
-/

namespace ProtoWire

abbrev Reader := StateT (List UInt8) Option

/-- At most `limit` bytes, the last of them without the continuation bit. -/
def readVarint : Nat → Reader Nat
  | 0, _ => none
  | _ + 1, [] => none
  | limit + 1, byte :: rest =>
      if byte.toNat < 128 then some (byte.toNat, rest)
      else
        match readVarint limit rest with
        | none => none
        | some (high, rest) => some (byte.toNat - 128 + 128 * high, rest)

def readVarint64 : Reader UInt64 := do
  let value ← readVarint 10
  return UInt64.ofNat value

/-- Bits beyond the 32nd are lost. -/
def readTag : Reader Nat := do
  let value ← readVarint 5
  return value % 2 ^ 32

/-- `INT_MAX - kSlopBytes` is the largest size. -/
def maxSize : Nat := 2 ^ 31 - 1 - 16

def readExactly (length : Nat) : Reader (List UInt8) := fun bytes =>
  if length ≤ bytes.length then some (bytes.take length, bytes.drop length) else none

def readDelimited : Reader (List UInt8) := do
  let size ← readVarint 5
  if size ≤ maxSize then readExactly size else failure

/-- The fields that are no groups. -/
def skipScalar (tag : Nat) : Reader Unit :=
  if tag / 8 = 0 then failure
  else
    match tag % 8 with
    | 0 => do let _ ← readVarint 10
    | 1 => do let _ ← readExactly 8
    | 2 => do let _ ← readDelimited
    | 5 => do let _ ← readExactly 4
    | _ => failure

/-- The fields up to the end of the group, with the groups among them; a group that ends with
the number of another one fails. -/
def skipGroup : Nat → Nat → Nat → Reader Unit
  | 0, _, _ => failure
  | fuel + 1, depth, number => do
      let tag ← readTag
      if tag = 0 ∨ tag % 8 = 4 then
        if tag = 8 * number + 4 then return () else failure
      else if tag % 8 = 3 then
        if tag / 8 = 0 ∨ depth = 0 then failure
        else
          skipGroup fuel (depth - 1) (tag / 8)
          skipGroup fuel depth number
      else
        skipScalar tag
        skipGroup fuel depth number

/-- `UnknownFieldParse`; `depth` is how many more groups and messages may be opened. -/
def skipUnknown (depth tag : Nat) : Reader Unit := fun bytes =>
  if tag % 8 = 3 then
    if tag / 8 = 0 ∨ depth = 0 then none else skipGroup bytes.length (depth - 1) (tag / 8) bytes
  else skipScalar tag bytes

/-! Locality. -/

structure Local {α : Type} (reader : Reader α) : Prop where
  taken : ∀ {bytes value rest}, reader bytes = some (value, rest) →
    ∃ taken, bytes = taken ++ rest ∧ ∀ more, reader (taken ++ more) = some (value, more)

structure Progress {α : Type} (reader : Reader α) : Prop where
  shorter : ∀ {bytes value rest}, reader bytes = some (value, rest) → rest.length < bytes.length

variable {α β : Type}

theorem bind_of_some {reader : Reader α} {next : α → Reader β} {bytes between : List UInt8}
    {first : α} (read : reader bytes = some (first, between)) :
    (reader >>= next) bytes = next first between := by
  change (reader bytes >>= fun pair => next pair.1 pair.2) = _
  rw [read]
  rfl

theorem bind_of_none {reader : Reader α} {next : α → Reader β} {bytes : List UInt8}
    (read : reader bytes = none) : (reader >>= next) bytes = none := by
  change (reader bytes >>= fun pair => next pair.1 pair.2) = _
  rw [read]
  rfl

theorem bind_eq_some {reader : Reader α} {next : α → Reader β} {bytes rest : List UInt8}
    {value : β} :
    (reader >>= next) bytes = some (value, rest) ↔
      ∃ first between, reader bytes = some (first, between) ∧
        next first between = some (value, rest) := by
  cases read : reader bytes with
  | none => simp [bind_of_none read]
  | some pair =>
      rw [bind_of_some read]
      constructor
      · intro back
        exact ⟨pair.1, pair.2, rfl, back⟩
      · rintro ⟨first, between, same, back⟩
        obtain rfl := Option.some.inj same
        exact back

theorem pure_eq_some {first value : α} {bytes rest : List UInt8} :
    (pure first : Reader α) bytes = some (value, rest) ↔ first = value ∧ bytes = rest := by
  change some (first, bytes) = _ ↔ _
  simp

theorem Local.pure (value : α) : Local (pure value) where
  taken read := by
    obtain ⟨rfl, rfl⟩ := pure_eq_some.mp read
    exact ⟨[], rfl, fun more => rfl⟩

theorem Local.failure : Local (failure : Reader α) where
  taken read := nomatch read

theorem Local.bind {reader : Reader α} {next : α → Reader β} (isLocal : Local reader)
    (nextLocal : ∀ value, Local (next value)) : Local (reader >>= next) where
  taken read := by
    obtain ⟨first, between, front, back⟩ := bind_eq_some.mp read
    obtain ⟨taken, rfl, again⟩ := isLocal.taken front
    obtain ⟨taken', rfl, again'⟩ := (nextLocal first).taken back
    refine ⟨taken ++ taken', (List.append_assoc ..).symm, fun more => ?_⟩
    rw [List.append_assoc]
    exact bind_eq_some.mpr ⟨first, taken' ++ more, again _, again' more⟩

theorem Local.length_le {reader : Reader α} (isLocal : Local reader) {bytes rest : List UInt8}
    {value : α} (read : reader bytes = some (value, rest)) : rest.length ≤ bytes.length := by
  obtain ⟨taken, rfl, -⟩ := isLocal.taken read
  simp

theorem Progress.bind {reader : Reader α} {next : α → Reader β} (progress : Progress reader)
    (nextLocal : ∀ value, Local (next value)) : Progress (reader >>= next) where
  shorter read := by
    obtain ⟨first, between, front, back⟩ := bind_eq_some.mp read
    exact ((nextLocal first).length_le back).trans_lt (progress.shorter front)

theorem readVarint_local (limit : Nat) : Local (readVarint limit) where
  taken {bytes value rest} read := by
    induction limit generalizing bytes value with
    | zero => cases read
    | succ limit ih =>
        cases bytes with
        | nil => cases read
        | cons byte bytes =>
            rw [readVarint] at read
            split at read
            next last =>
              obtain ⟨rfl, rfl⟩ : byte.toNat = value ∧ bytes = rest := by simpa using read
              exact ⟨[byte], rfl, fun more => if_pos last⟩
            next continued =>
              split at read
              next => cases read
              next high between front =>
                obtain ⟨rfl, rfl⟩ : byte.toNat - 128 + 128 * high = value ∧ between = rest := by
                  simpa using read
                obtain ⟨taken, rfl, again⟩ := ih front
                refine ⟨byte :: taken, rfl, fun more => ?_⟩
                rw [List.cons_append, readVarint, if_neg continued, again]

theorem readVarint_progress (limit : Nat) : Progress (readVarint limit) where
  shorter {bytes value rest} read := by
    obtain ⟨taken, rfl, again⟩ := (readVarint_local limit).taken read
    cases taken with
    | nil =>
        have nothing := again []
        cases limit <;> cases nothing
    | cons byte taken =>
        rw [List.length_append, List.length_cons]
        omega

theorem readVarint64_local : Local readVarint64 :=
  (readVarint_local 10).bind fun _ => .pure _

theorem readTag_local : Local readTag := (readVarint_local 5).bind fun _ => .pure _

theorem readTag_progress : Progress readTag := (readVarint_progress 5).bind fun _ => .pure _

theorem readExactly_local (length : Nat) : Local (readExactly length) where
  taken {bytes value rest} read := by
    rw [readExactly] at read
    split at read
    next enough =>
      obtain ⟨rfl, rfl⟩ : bytes.take length = value ∧ bytes.drop length = rest := by
        simpa using read
      refine ⟨bytes.take length, (List.take_append_drop ..).symm, fun more => ?_⟩
      have taken : (bytes.take length).length = length := List.length_take_of_le enough
      rw [readExactly, if_pos (by simp [taken]), List.take_left' taken, List.drop_left' taken]
    next => cases read

theorem readSized_local (size : Nat) :
    Local (if size ≤ maxSize then readExactly size else failure) := by
  split
  · exact readExactly_local size
  · exact .failure

theorem readDelimited_local : Local readDelimited := (readVarint_local 5).bind readSized_local

theorem skipScalar_local (tag : Nat) : Local (skipScalar tag) := by
  rw [skipScalar]
  split
  · exact .failure
  · split
    · exact (readVarint_local 10).bind fun _ => .pure _
    · exact (readExactly_local 8).bind fun _ => .pure _
    · exact readDelimited_local.bind fun _ => .pure _
    · exact (readExactly_local 4).bind fun _ => .pure _
    · exact .failure

theorem skipGroup_local (fuel depth number : Nat) : Local (skipGroup fuel depth number) := by
  induction fuel generalizing depth number with
  | zero => exact .failure
  | succ fuel ih =>
      rw [skipGroup]
      refine readTag_local.bind fun tag => ?_
      split
      · split
        · exact .pure ()
        · exact .failure
      · split
        · split
          · exact .failure
          · exact (ih _ _).bind fun _ => ih depth number
        · exact (skipScalar_local tag).bind fun _ => ih depth number

theorem skipGroup_enough {fuel more depth number : Nat} {bytes rest : List UInt8}
    (read : skipGroup fuel depth number bytes = some ((), rest)) (enough : bytes.length ≤ more) :
    skipGroup more depth number bytes = some ((), rest) := by
  induction fuel generalizing more depth number bytes rest with
  | zero => cases read
  | succ fuel ih =>
      rw [skipGroup] at read
      obtain ⟨tag, between, front, back⟩ := bind_eq_some.mp read
      have shorter := readTag_progress.shorter front
      obtain ⟨more, rfl⟩ : ∃ fewer, more = fewer + 1 := ⟨more - 1, by omega⟩
      rw [skipGroup]
      refine bind_eq_some.mpr ⟨tag, between, front, ?_⟩
      split at back
      next ends => rwa [if_pos ends]
      next inside =>
        rw [if_neg inside]
        split at back
        next group =>
          rw [if_pos group]
          split at back
          next => cases back
          next opens =>
            rw [if_neg opens]
            obtain ⟨_, after, inner, outer⟩ := bind_eq_some.mp back
            have notLonger := (skipGroup_local ..).length_le inner
            exact bind_eq_some.mpr ⟨(), after, ih inner (by omega), ih outer (by omega)⟩
        next scalar =>
          rw [if_neg scalar]
          obtain ⟨_, after, skipped, others⟩ := bind_eq_some.mp back
          have notLonger := (skipScalar_local tag).length_le skipped
          exact bind_eq_some.mpr ⟨(), after, skipped, ih others (by omega)⟩

theorem skipUnknown_local (depth tag : Nat) : Local (skipUnknown depth tag) where
  taken {bytes value rest} read := by
    rw [skipUnknown] at read
    split at read
    next group =>
      split at read
      next => cases read
      next opens =>
        obtain ⟨taken, rfl, again⟩ := (skipGroup_local ..).taken read
        refine ⟨taken, rfl, fun more => ?_⟩
        rw [skipUnknown, if_pos group, if_neg opens]
        exact skipGroup_enough (again more) le_rfl
    next plain =>
      obtain ⟨taken, rfl, again⟩ := (skipScalar_local tag).taken read
      refine ⟨taken, rfl, fun more => ?_⟩
      rw [skipUnknown, if_neg plain]
      exact again more

/-! What was written is read back. -/

theorem ofNat_toNat {value : Nat} (small : value < 256) : (UInt8.ofNat value).toNat = value :=
  UInt8.toNat_ofNat_of_lt' small

theorem readVarint_varint {limit value : Nat} (fits : value < 128 ^ (limit + 1))
    (more : List UInt8) : readVarint (limit + 1) (varint value ++ more) = some (value, more) := by
  induction limit generalizing value with
  | zero =>
      have small : value < 128 := by simpa using fits
      rw [varint, if_pos small, List.singleton_append, readVarint, ofNat_toNat (by omega),
        if_pos small]
  | succ limit ih =>
      rw [varint]
      split
      next small =>
        rw [List.singleton_append, readVarint, ofNat_toNat (by omega), if_pos small]
      next large =>
        have high : value / 128 < 128 ^ (limit + 1) :=
          Nat.div_lt_of_lt_mul (by rwa [pow_succ, Nat.mul_comm] at fits)
        have whole : value % 128 + 128 - 128 + 128 * (value / 128) = value := by omega
        rw [List.cons_append, readVarint, ofNat_toNat (by omega), if_neg (by omega), ih high]
        simp only [whole]

theorem readVarint64_varint (value : UInt64) (more : List UInt8) :
    readVarint64 (varint value.toNat ++ more) = some (value, more) := by
  have fits : value.toNat < 128 ^ 10 := value.toNat_lt.trans (by decide)
  rw [readVarint64, bind_of_some (readVarint_varint fits more), UInt64.ofNat_toNat]
  rfl

theorem readTag_byte {tag : Nat} (small : tag < 128) (more : List UInt8) :
    readTag (UInt8.ofNat tag :: more) = some (tag, more) := by
  have front : readVarint 5 (UInt8.ofNat tag :: more) = some (tag, more) := by
    rw [readVarint, ofNat_toNat (by omega), if_pos small]
  rw [readTag, bind_of_some front, Nat.mod_eq_of_lt (by omega)]
  rfl

def delimited (content : List UInt8) : List UInt8 :=
  varint (content.length % 2 ^ 32) ++ content

theorem readDelimited_delimited {content : List UInt8} (fits : content.length ≤ maxSize)
    (more : List UInt8) : readDelimited (delimited content ++ more) = some (content, more) := by
  have bound : content.length < 2 ^ 31 := by
    rw [maxSize] at fits
    omega
  have fits' : content.length % 2 ^ 32 < 128 ^ 5 := (Nat.mod_lt _ (by decide)).trans (by decide)
  rw [delimited, List.append_assoc, readDelimited, bind_of_some (readVarint_varint fits' _),
    Nat.mod_eq_of_lt (by omega), if_pos fits, readExactly, if_pos (by simp),
    List.take_left' rfl, List.drop_left' rfl]

/-! How much was taken, against how much would be written for it. -/

theorem varint_length_le {value length : Nat} (small : value < 128 ^ (length + 1)) :
    (varint value).length ≤ length + 1 := by
  induction length generalizing value with
  | zero =>
      rw [varint, if_pos (by simpa using small)]
      rfl
  | succ length ih =>
      rw [varint]
      split
      · simp
      · rw [List.length_cons]
        exact Nat.succ_le_succ
          (ih (Nat.div_lt_of_lt_mul (by rwa [pow_succ, Nat.mul_comm] at small)))

theorem readVarint_lt {limit value : Nat} {bytes rest : List UInt8}
    (read : readVarint limit bytes = some (value, rest)) :
    ∃ length, bytes.length = rest.length + (length + 1) ∧ value < 128 ^ (length + 1) := by
  induction limit generalizing bytes value with
  | zero => cases read
  | succ limit ih =>
      cases bytes with
      | nil => cases read
      | cons byte bytes =>
          rw [readVarint] at read
          split at read
          next last =>
            obtain ⟨rfl, rfl⟩ : byte.toNat = value ∧ bytes = rest := by simpa using read
            exact ⟨0, rfl, by simpa using last⟩
          next continued =>
            split at read
            next => cases read
            next high between front =>
              obtain ⟨rfl, rfl⟩ : byte.toNat - 128 + 128 * high = value ∧ between = rest := by
                simpa using read
              obtain ⟨length, long, small⟩ := ih front
              refine ⟨length + 1, by rw [List.length_cons, long]; rfl, ?_⟩
              have byteSmall := byte.toNat_lt
              rw [pow_succ]
              omega

theorem readVarint64_size {wire : UInt64} {bytes rest : List UInt8}
    (read : readVarint64 bytes = some (wire, rest)) :
    varintSize wire.toNat + rest.length ≤ bytes.length := by
  obtain ⟨value, between, front, back⟩ := bind_eq_some.mp read
  obtain ⟨rfl, rfl⟩ := pure_eq_some.mp back
  obtain ⟨length, long, small⟩ := readVarint_lt front
  have below : (UInt64.ofNat value).toNat < 128 ^ (length + 1) := by
    rw [UInt64.toNat_ofNat']
    exact (Nat.mod_le ..).trans_lt small
  have least := varint_length_le below
  rw [varint_length (UInt64.toNat_lt _)] at least
  omega

theorem readDelimited_size {content bytes rest : List UInt8}
    (read : readDelimited bytes = some (content, rest)) :
    content.length ≤ maxSize ∧
      varintSize content.length + content.length + rest.length ≤ bytes.length := by
  obtain ⟨size, between, front, back⟩ := bind_eq_some.mp read
  obtain ⟨length, long, small⟩ := readVarint_lt front
  split at back
  next fits =>
    rw [readExactly] at back
    split at back
    next enough =>
      obtain ⟨rfl, rfl⟩ : between.take size = content ∧ between.drop size = rest := by
        simpa using back
      have taken : (between.take size).length = size := List.length_take_of_le enough
      have least := varint_length_le small
      have bound : size < 2 ^ 64 := by
        rw [maxSize] at fits
        omega
      rw [varint_length bound] at least
      rw [taken, List.length_drop]
      omega
    next => cases back
  next => cases back

end ProtoWire
