import EasyViewer.Define
import EasyViewer.Protocol
import EasyViewer.ProtocolWrapper
import EasyViewer.Library.ProtoWire

/-!
The directory listings of a file guard, from the entries of a directory to the frame on the
wire, and the loops of the server and of the viewer that take it apart. No handler looks at
the size of what it sends, while both loops refuse a payload of more than 1 MiB.
-/

namespace EasyViewer

structure FileInfo where
  fileName : String
  path : String
  size : UInt64
  isDir : Bool
  lastModified : Int64
  deriving DecidableEq, Repr

/-- `QDir`, and above `QFileInfo`, as far as they are read; `entryInfoList` is what is found on
the disk. -/
structure Dir where
  path : String
  isRoot : Bool
  entryInfoList : List FileInfo
  deriving DecidableEq, Repr

inductive EntryType where
  | directory
  | file
  deriving DecidableEq, Repr

structure FileEntry where
  directory : String
  name : String
  size : UInt64
  type : EntryType
  lastModifyingTime : Int64
  deriving DecidableEq, Repr

def Dir.skips (dir : Dir) (info : FileInfo) : Bool :=
  info.fileName = "." || dir.isRoot && info.fileName = ".."

def getEntries (dir : Dir) : List FileEntry :=
  (dir.entryInfoList.filter fun info => !dir.skips info).map fun info => {
    name := info.fileName
    size := info.size
    type := if info.isDir then .directory else .file
    directory := info.path
    lastModifyingTime := info.lastModified }

/-! The messages, with what `File.pb.cc` writes for them and the size it computes. -/

structure EntryInfo where
  directory : String
  name : String
  size : UInt64
  isDirectory : Bool
  lastModifyingTime : Int64
  deriving DecidableEq, Repr

open ProtoWire

def EntryInfo.serialize (entry : EntryInfo) : List UInt8 :=
  writeString 1 entry.directory ++ writeString 2 entry.name ++ writeUInt64 3 entry.size ++
    writeBool 4 entry.isDirectory ++ writeUInt64 5 entry.lastModifyingTime.toUInt64

def EntryInfo.byteSizeLong (entry : EntryInfo) : Nat :=
  stringSize entry.directory + stringSize entry.name + uint64Size entry.size +
    uint64Size entry.lastModifyingTime.toUInt64 + boolSize entry.isDirectory

structure ResponseVisitFiles2 where
  asyncTaskId : UInt64
  asyncTaskCertificate : UInt32
  errCode : Int
  errString : String
  defaultDirs : List String := []
  entries : List EntryInfo := []
  deriving DecidableEq, Repr

/-- An `int32` is written with the sign extended to 64 bits. -/
def signExtended (value : Int) : UInt64 := (Int32.ofInt value).toInt64.toUInt64

def serializeEntries (entries : List EntryInfo) : List UInt8 :=
  entries.flatMap fun entry => writeBytes 6 entry.serialize

def entriesSize (entries : List EntryInfo) : Nat :=
  (entries.map fun entry => lengthDelimitedSize entry.byteSizeLong).sum

def ResponseVisitFiles2.serialize (response : ResponseVisitFiles2) : List UInt8 :=
  writeUInt64 1 response.asyncTaskId ++ writeUInt64 2 response.asyncTaskCertificate.toUInt64 ++
    writeUInt64 3 (signExtended response.errCode) ++ writeString 4 response.errString ++
    (response.defaultDirs.flatMap fun dir => writeBytes 5 dir.toByteArray.data.toList) ++
    serializeEntries response.entries

def ResponseVisitFiles2.byteSizeLong (response : ResponseVisitFiles2) : Nat :=
  (response.defaultDirs.map fun dir => lengthDelimitedSize dir.utf8ByteSize).sum +
    entriesSize response.entries + stringSize response.errString +
    uint64Size response.asyncTaskId + uint64Size response.asyncTaskCertificate.toUInt64 +
    uint64Size (signExtended response.errCode)

/-- `ResponseGoUp`, `ResponseGoHome` and `ResponseListEntries` have the same fields. -/
structure ResponseListing where
  seq : Int64
  userId : Int64
  errCode : Int
  errString : String
  dir : String := ""
  entries : List EntryInfo := []
  deriving DecidableEq, Repr

def ResponseListing.serialize (response : ResponseListing) : List UInt8 :=
  writeUInt64 1 response.seq.toUInt64 ++ writeUInt64 2 response.userId.toUInt64 ++
    writeUInt64 3 (signExtended response.errCode) ++ writeString 4 response.errString ++
    writeString 5 response.dir ++ serializeEntries response.entries

def ResponseListing.byteSizeLong (response : ResponseListing) : Nat :=
  entriesSize response.entries + stringSize response.errString + stringSize response.dir +
    uint64Size response.seq.toUInt64 + uint64Size response.userId.toUInt64 +
    uint64Size (signExtended response.errCode)

/-- `SerializeToArray` into as many zeros as the message needs; beyond `INT_MAX` it refuses
and leaves them. -/
def serializeToArray (byteSize : Nat) (serialized : List UInt8) : List UInt8 :=
  if byteSize < 2 ^ 31 then serialized else List.replicate byteSize 0

/-! The handlers of `FileTransmissionGuardAbility`. -/

/-- What the default directories depend on: on Windows the path of the desktop, if there is
one, and the mask of the logical drives. -/
inductive Platform where
  | windows (desktop : Option String) (drives : UInt32)
  | other
  deriving DecidableEq, Repr

/-- The password a visitor needs, and `QDir` with the disk behind it. `cd` and `cdUp` give
nothing where they return false. -/
structure FileGuard where
  authString : String
  platform : Platform
  current : Dir
  homePath : String
  cd : Dir → String → Option Dir
  cdUp : Dir → Option Dir

inductive ListingCommand where
  | visitFiles (asyncTaskId : UInt64) (asyncTaskCertificate : UInt32) (authString : String)
  | goUp (seq userId : Int64) (dir : String)
  | goHome (seq userId : Int64)
  | listEntries (seq userId : Int64) (dir : String)
  deriving DecidableEq, Repr

def fillEntries (dir : Dir) : List EntryInfo :=
  (getEntries dir).map fun entry => {
    name := entry.name
    directory := entry.directory
    size := if entry.type = .directory then 0 else entry.size
    isDirectory := entry.type = .directory
    lastModifyingTime := entry.lastModifyingTime }

namespace FileGuard

variable (guard : FileGuard)

def defaultDirs (home : Dir) : List String :=
  match guard.platform with
  | .windows desktop drives =>
      (desktop.map fun path => path.map fun c => if c.toNat = 92 then '/' else c).toList ++
        ((List.range 26).filter fun i => drives.toNat.testBit i).map (fun i =>
          (String.singleton (Char.ofNat (65 + i))).append ":/") ++
        [home.path]
  | .other => [home.path, "/"]

def visited (home : Dir) : Dir :=
  match guard.defaultDirs home with
  | [] => home
  | first :: _ => (guard.cd home (cStr first)).getD home

def handleCommandOfVisitFiles (asyncTaskId : UInt64) (asyncTaskCertificate : UInt32)
    (authString : String) : Message :=
  let failed (err : Int) : ResponseVisitFiles2 := {
    asyncTaskId := asyncTaskId, asyncTaskCertificate := asyncTaskCertificate
    errCode := err, errString := formatError err }
  let response :=
    if authString ≠ guard.authString then failed Err.passwordIncorrect
    else
      match guard.cd guard.current guard.homePath with
      | none => failed Err.pathUnreachable
      | some home => {
          asyncTaskId := asyncTaskId, asyncTaskCertificate := asyncTaskCertificate
          errCode := Err.noError, errString := ""
          defaultDirs := guard.defaultDirs home
          entries := fillEntries (guard.visited home) }
  .descWithEncrypt Tag.responseVisitFiles2
    (serializeToArray response.byteSizeLong response.serialize)

def answerListing (tag : UInt32) (seq userId : Int64) (reached : Option Dir) : Message :=
  let response : ResponseListing :=
    match reached with
    | none => {
        seq := seq, userId := userId
        errCode := Err.pathUnreachable, errString := formatError Err.pathUnreachable }
    | some dir => {
        seq := seq, userId := userId
        errCode := Err.noError, errString := formatError Err.noError
        dir := dir.path, entries := fillEntries dir }
  .descWithEncrypt tag (serializeToArray response.byteSizeLong response.serialize)

def handleCommandOfGoUp (seq userId : Int64) (dir : String) : Message :=
  answerListing Tag.responseVisitingPathGoUp seq userId
    ((guard.cd guard.current (cStr dir)).bind guard.cdUp)

def handleCommandOfGoHome (seq userId : Int64) : Message :=
  answerListing Tag.responseVisitingPathGoHome seq userId (guard.cd guard.current guard.homePath)

def handleCommandOfListEntries (seq userId : Int64) (dir : String) : Message :=
  answerListing Tag.responseListEntries seq userId (guard.cd guard.current (cStr dir))

def handleCompleteData : ListingCommand → Message
  | .visitFiles asyncTaskId asyncTaskCertificate authString =>
      guard.handleCommandOfVisitFiles asyncTaskId asyncTaskCertificate authString
  | .goUp seq userId dir => guard.handleCommandOfGoUp seq userId dir
  | .goHome seq userId => guard.handleCommandOfGoHome seq userId
  | .listEntries seq userId dir => guard.handleCommandOfListEntries seq userId dir

end FileGuard

/-! The sizes computed are the sizes written. -/

theorem EntryInfo.serialize_length (entry : EntryInfo) :
    entry.serialize.length = entry.byteSizeLong := by
  simp only [EntryInfo.serialize, EntryInfo.byteSizeLong, List.length_append, writeString_length,
    writeUInt64_length, writeBool_length]
  omega

theorem serializeEntries_length (entries : List EntryInfo) :
    (serializeEntries entries).length = entriesSize entries := by
  simp only [serializeEntries, entriesSize, List.length_flatMap, writeBytes_length,
    EntryInfo.serialize_length]

theorem ResponseVisitFiles2.serialize_length (response : ResponseVisitFiles2) :
    response.serialize.length = response.byteSizeLong := by
  have dirs : (response.defaultDirs.flatMap fun dir =>
        writeBytes 5 dir.toByteArray.data.toList).length =
      (response.defaultDirs.map fun dir => lengthDelimitedSize dir.utf8ByteSize).sum := by
    simp only [List.length_flatMap, writeBytes_length]
    rfl
  simp only [ResponseVisitFiles2.serialize, ResponseVisitFiles2.byteSizeLong, List.length_append,
    writeString_length, writeUInt64_length, serializeEntries_length, dirs]
  omega

theorem ResponseListing.serialize_length (response : ResponseListing) :
    response.serialize.length = response.byteSizeLong := by
  simp only [ResponseListing.serialize, ResponseListing.byteSizeLong, List.length_append,
    writeString_length, writeUInt64_length, serializeEntries_length]
  omega

theorem serializeToArray_length {byteSize : Nat} {serialized : List UInt8}
    (written : serialized.length = byteSize) :
    (serializeToArray byteSize serialized).length = byteSize := by
  rw [serializeToArray]
  split
  · exact written
  · exact List.length_replicate

/-! What the receivers make of a frame. -/

/-- AES in ECB mode with PKCS7 padding: whole blocks of 16 bytes, at least one of them begun
by the padding. -/
def Cipher.Pads (cipher : Cipher) : Prop :=
  ∀ plain, (cipher.text plain).length = 16 * (plain.length / 16 + 1)

open Tag in
/-- What `ViewerBase` and `FileTransmissionViewer::handleCompleteData` have a case for. -/
def viewerTags : List UInt32 :=
  [responseLogin, responseVisitFiles, responseMakeDirectory, responseDeleteEntry,
    responseRenameEntry, responseVisitingPathGoUp, responseVisitingPathGoHome,
    responseListEntries, responseOpenFile, responseWriteFileBlock, responseReadFileBlock,
    closeFile]

/-- The loop of `ViewerBase::_whenReceivedData` is the server's but for an unknown tag, at
which it disconnects and goes on. -/
def whenReceivedData (chunks : List (List UInt8)) : Receiver :=
  receive (fun _ => true) (fun _ frame => viewerTags.contains frame.tag) Receiver.initial chunks

def serverReceives (chunks : List (List UInt8)) : Receiver :=
  receive (receivedDataHandlerFactory .application) acceptsAll Receiver.initial chunks

/-- The payload is within the limit, and however the bytes arrive, the server takes the one
frame and keeps the connection, and so does the viewer's loop where the server passes the frame
on under its tag. -/
structure Acceptable (cipher : Cipher) (message : Message) : Prop where
  within : (message.frame cipher).payload.length ≤ maxLen
  server : ∀ chunks : List (List UInt8), chunks.flatten = message.encode cipher →
    (serverReceives chunks).pushed = [message.frame cipher] ∧
      (serverReceives chunks).disconnected = false
  viewer : ∀ chunks : List (List UInt8), chunks.flatten = message.encode cipher →
    (whenReceivedData chunks).pushed = [message.frame cipher] ∧
      (viewerTags.contains (message.frame cipher).tag = true →
        (whenReceivedData chunks).disconnected = false)

section Receivers

variable {known : UInt32 → Bool} {accepts : List Frame → Frame → Bool} {frame : Frame}
  {chunks : List (List UInt8)}

theorem receive_frame (tag : known frame.tag = true) (small : frame.payload.length ≤ maxLen)
    (cut : chunks.flatten = frame.bytes) :
    (receive known accepts Receiver.initial chunks).pushed = [frame] ∧
      (receive known accepts Receiver.initial chunks).disconnected = !accepts [] frame := by
  have consumed := (Consumed.initial known accepts).receive known accepts chunks
  have parsed : parse known _ = _ := parse_bytes [frame] (by simpa using tag) (by simpa using small)
  rw [List.map_singleton, List.flatten_singleton] at parsed
  rw [List.nil_append, cut] at consumed
  have pushed := consumed.pushed
  have disconnected := consumed.disconnected
  rw [parsed] at pushed disconnected
  exact ⟨pushed, by simpa [refuses] using disconnected⟩

theorem receive_oversize (large : maxLen < frame.payload.length)
    (word : frame.payload.length < 2 ^ 32) (cut : chunks.flatten = frame.bytes) :
    (receive known accepts Receiver.initial chunks).disconnected = true := by
  have length : headerLength frame.bytes = frame.payload.length := by
    have decoded : LittleEndian.decode (LittleEndian.encode 4 frame.payload.length) =
        frame.payload.length := LittleEndian.decode_encode_of_lt (by omega)
    have wrapped : frame.payload.length % 4294967296 = frame.payload.length :=
      Nat.mod_eq_of_lt (by omega)
    simpa [headerLength, Frame.bytes, frameHeader, List.take_append, List.drop_append,
      wrapped] using decoded
  have total : frame.bytes.length = 8 + frame.payload.length := by
    rw [Frame.bytes, List.length_append, frameHeader_length]
  have decoded : nextFrame known frame.bytes = .oversize := by
    rw [nextFrame, if_neg (by omega), length, if_pos large]
  have consumed := (Consumed.initial known accepts).receive known accepts chunks
  rw [List.nil_append, cut] at consumed
  rw [consumed.disconnected, parse_cut known (.inl decoded), Bool.or_true]

end Receivers

theorem padded_within (length : Nat) : 16 * (length / 16 + 1) ≤ maxLen ↔ length < maxLen := by
  rw [maxLen]
  omega

theorem acceptable_iff {cipher : Cipher} (padded : cipher.Pads) {tag : UInt32}
    (known : receivedDataHandlerFactory .application tag = true) (serialized : List UInt8) :
    Acceptable cipher (.descWithEncrypt tag serialized) ↔ serialized.length < maxLen := by
  rw [← padded_within, ← padded]
  refine ⟨Acceptable.within, fun small => ⟨small, fun chunks cut => ?_, fun chunks cut => ?_⟩⟩
  · rw [Message.encode_eq_bytes] at cut
    exact receive_frame known small cut
  · rw [Message.encode_eq_bytes] at cut
    obtain ⟨pushed, disconnected⟩ := @receive_frame (fun _ => true)
      (fun _ frame => viewerTags.contains frame.tag) _ _ rfl small cut
    refine ⟨pushed, fun handled => disconnected.trans ?_⟩
    rw [handled, Bool.not_true]

/-! What the size of a listing comes from. -/

def entrySize (info : FileInfo) : Nat :=
  lengthDelimitedSize (stringSize info.path + stringSize info.fileName +
    uint64Size (if info.isDir then 0 else info.size) + uint64Size info.lastModified.toUInt64 +
    boolSize info.isDir)

def listingSize (dir : Dir) : Nat :=
  ((dir.entryInfoList.filter fun info => !dir.skips info).map entrySize).sum

def ListingFits (seq userId : Int64) (reached : Option Dir) : Prop :=
  ∀ dir, reached = some dir →
    uint64Size seq.toUInt64 + uint64Size userId.toUInt64 + stringSize dir.path +
      listingSize dir < maxLen

def VisitFits (guard : FileGuard) (asyncTaskId : UInt64) (asyncTaskCertificate : UInt32)
    (home : Dir) : Prop :=
  uint64Size asyncTaskId + uint64Size asyncTaskCertificate.toUInt64 +
    ((guard.defaultDirs home).map fun dir => lengthDelimitedSize dir.utf8ByteSize).sum +
      listingSize (guard.visited home) < maxLen

/-- The directory the answer is about, if any is reached, takes less than 1 MiB with what
else the answer says of it. -/
def FileGuard.Fits (guard : FileGuard) : ListingCommand → Prop
  | .visitFiles asyncTaskId asyncTaskCertificate authString =>
      authString = guard.authString →
        ∀ home, guard.cd guard.current guard.homePath = some home →
          VisitFits guard asyncTaskId asyncTaskCertificate home
  | .goUp seq userId dir =>
      ListingFits seq userId ((guard.cd guard.current (cStr dir)).bind guard.cdUp)
  | .goHome seq userId => ListingFits seq userId (guard.cd guard.current guard.homePath)
  | .listEntries seq userId dir => ListingFits seq userId (guard.cd guard.current (cStr dir))

theorem entriesSize_fillEntries (dir : Dir) : entriesSize (fillEntries dir) = listingSize dir := by
  rw [entriesSize, fillEntries, getEntries, listingSize, List.map_map, List.map_map]
  congr 2
  funext info
  cases info with
  | mk fileName path size isDir lastModified => cases isDir <;> rfl

section Answers

variable {cipher : Cipher}

theorem answerListing_some (tag : UInt32) (seq userId : Int64) (dir : Dir) :
    ∃ serialized, FileGuard.answerListing tag seq userId (some dir) =
        .descWithEncrypt tag serialized ∧
      serialized.length = uint64Size seq.toUInt64 + uint64Size userId.toUInt64 +
        stringSize dir.path + listingSize dir := by
  refine ⟨_, rfl, ?_⟩
  have noError : uint64Size (signExtended Err.noError) +
      stringSize (formatError Err.noError) = 0 := by decide
  rw [serializeToArray_length (ResponseListing.serialize_length _), ResponseListing.byteSizeLong]
  simp only [entriesSize_fillEntries]
  omega

theorem answerListing_acceptable (padded : cipher.Pads) {tag : UInt32}
    (known : receivedDataHandlerFactory .application tag = true) (seq userId : Int64)
    (reached : Option Dir) :
    Acceptable cipher (FileGuard.answerListing tag seq userId reached) ↔
      ListingFits seq userId reached := by
  cases reached with
  | none =>
      refine (acceptable_iff padded known _).trans ?_
      rw [serializeToArray_length (ResponseListing.serialize_length _),
        ResponseListing.byteSizeLong]
      have unreachable : uint64Size (signExtended Err.pathUnreachable) +
          stringSize (formatError Err.pathUnreachable) + stringSize "" + entriesSize [] = 20 := by
        decide
      have seqSize := uint64Size_le seq.toUInt64
      have userSize := uint64Size_le userId.toUInt64
      simp only [ListingFits, reduceCtorEq, false_implies, implies_true, iff_true]
      rw [maxLen]
      omega
  | some dir =>
      obtain ⟨serialized, answered, length⟩ := answerListing_some tag seq userId dir
      rw [answered, acceptable_iff padded known, length]
      simp only [ListingFits, Option.some.injEq, forall_eq']

/-- A listing beyond the limit costs the guard its connection to the server. -/
theorem answerListing_cut (padded : cipher.Pads) {tag : UInt32} {seq userId : Int64} {dir : Dir}
    (large : ¬ ListingFits seq userId (some dir))
    (word : listingSize dir + stringSize dir.path < 2 ^ 31) {chunks : List (List UInt8)}
    (cut : chunks.flatten = (FileGuard.answerListing tag seq userId (some dir)).encode cipher) :
    (serverReceives chunks).disconnected = true := by
  obtain ⟨serialized, answered, length⟩ := answerListing_some tag seq userId dir
  have payload := padded serialized
  have seqSize := uint64Size_le seq.toUInt64
  have userSize := uint64Size_le userId.toUInt64
  simp only [ListingFits, Option.some.injEq, forall_eq', maxLen] at large
  rw [answered, Message.encode_eq_bytes] at cut
  refine receive_oversize ?_ ?_ cut
  · rw [Message.frame, payload, maxLen]
    omega
  · rw [Message.frame, payload]
    omega

theorem failedVisit_small (asyncTaskId : UInt64) (asyncTaskCertificate : UInt32) {err : Int}
    (text : stringSize (formatError err) < 100) :
    ResponseVisitFiles2.byteSizeLong {
      asyncTaskId := asyncTaskId, asyncTaskCertificate := asyncTaskCertificate
      errCode := err, errString := formatError err } < maxLen := by
  have idSize := uint64Size_le asyncTaskId
  have certificateSize := uint64Size_le asyncTaskCertificate.toUInt64
  have errSize := uint64Size_le (signExtended err)
  simp only [ResponseVisitFiles2.byteSizeLong, entriesSize, List.map_nil, List.sum_nil]
  rw [maxLen]
  omega

theorem handleCommandOfVisitFiles_acceptable (padded : cipher.Pads) (guard : FileGuard)
    (asyncTaskId : UInt64) (asyncTaskCertificate : UInt32) (authString : String) :
    Acceptable cipher
        (guard.handleCommandOfVisitFiles asyncTaskId asyncTaskCertificate authString) ↔
      guard.Fits (.visitFiles asyncTaskId asyncTaskCertificate authString) := by
  refine (acceptable_iff padded rfl _).trans ?_
  rw [serializeToArray_length (ResponseVisitFiles2.serialize_length _), FileGuard.Fits]
  by_cases known : authString = guard.authString
  · simp only [known, ne_eq, not_true_eq_false, if_false, true_implies]
    cases guard.cd guard.current guard.homePath with
    | none =>
        simp only [reduceCtorEq, false_implies, implies_true, iff_true]
        exact failedVisit_small _ _ (by decide)
    | some home =>
        have noError : uint64Size (signExtended Err.noError) + stringSize "" = 0 := by decide
        simp only [VisitFits, Option.some.injEq, forall_eq', ResponseVisitFiles2.byteSizeLong,
          entriesSize_fillEntries]
        omega
  · simp only [known, ne_eq, not_false_eq_true, if_true, false_implies, iff_true]
    exact failedVisit_small _ _ (by decide)

theorem listing_acceptable_iff (padded : cipher.Pads) (guard : FileGuard)
    (command : ListingCommand) :
    Acceptable cipher (guard.handleCompleteData command) ↔ guard.Fits command := by
  cases command with
  | visitFiles asyncTaskId asyncTaskCertificate authString =>
      exact handleCommandOfVisitFiles_acceptable padded guard _ _ _
  | goUp seq userId dir => exact answerListing_acceptable padded rfl seq userId _
  | goHome seq userId => exact answerListing_acceptable padded rfl seq userId _
  | listEntries seq userId dir => exact answerListing_acceptable padded rfl seq userId _

end Answers

def sampleText : List UInt8 :=
  [8, 7, 16, 1, 42, 1, 47, 50, 17, 10, 1, 47, 18, 3, 115, 114, 118, 32, 1, 40, 128, 208, 149, 255,
    188, 49]

/-- AES-128 under the key `0123456789abcdef` on the one text, and elsewhere its padding alone. -/
def sampleAes : Cipher where
  update plain :=
    if plain = sampleText then
      [84, 202, 213, 49, 175, 37, 38, 20, 90, 5, 115, 97, 163, 138, 89, 34]
    else plain.take (16 * (plain.length / 16))
  final plain :=
    if plain = sampleText then
      [38, 222, 80, 60, 27, 103, 96, 5, 128, 5, 39, 16, 151, 135, 20, 202]
    else plain.drop (16 * (plain.length / 16)) ++
      List.replicate (16 - plain.length % 16) (UInt8.ofNat (16 - plain.length % 16))
  bounded plain := by
    by_cases text : plain = sampleText
    · simp [text, sampleText]
    · simp [text]
      omega

theorem sampleAes_pads : sampleAes.Pads := by
  intro plain
  by_cases text : plain = sampleText
  · simp [Cipher.text, sampleAes, text, sampleText]
  · simp [Cipher.text, sampleAes, text]
    omega

def rootDir : Dir where
  path := "/"
  isRoot := true
  entryInfoList := [
    { fileName := ".", path := "/", size := 4096, isDir := true, lastModified := 1700000000000 },
    { fileName := "..", path := "/", size := 4096, isDir := true, lastModified := 1700000000000 },
    { fileName := "srv", path := "/", size := 4096, isDir := true, lastModified := 1700000000000 }]

def scanName (i : Nat) : String :=
  String.ofList ((List.range 4).map fun k => Char.ofNat (97 + i / 16 ^ k % 16))

def scan (i : Nat) : FileInfo where
  fileName := scanName i
  path := "/srv/scans"
  size := 1000
  isDir := false
  lastModified := 1700000000000

def scansDir : Dir where
  path := "/srv/scans"
  isRoot := false
  entryInfoList :=
    { fileName := ".", path := "/srv/scans", size := 4096, isDir := true
      lastModified := 1700000000000 } ::
    { fileName := "..", path := "/srv/scans", size := 4096, isDir := true
      lastModified := 1700000000000 } ::
    (List.range 65536).map scan

def sampleGuard : FileGuard where
  authString := "secret"
  platform := .other
  current := rootDir
  homePath := "/"
  cd _ path :=
    if path = "/" then some rootDir
    else if path = "/srv/scans" then some scansDir
    else none
  cdUp _ := none

theorem listing_acceptable_sample :
    Acceptable sampleAes (sampleGuard.handleCompleteData (.listEntries 7 1 "/")) := by
  refine (listing_acceptable_iff sampleAes_pads sampleGuard _).mpr fun dir reached => ?_
  have root : dir = rootDir := (Option.some.inj reached).symm
  rw [root]
  decide

theorem scanName_size (i : Nat) : (scanName i).utf8ByteSize = 4 := by
  have one : ∀ k < 16, (Char.ofNat (97 + k)).utf8Size = 1 := by decide
  simp [scanName, List.range_succ, String.ofList_cons, String.utf8ByteSize_append,
    one _ (Nat.mod_lt _ (by decide : 16 > 0))]

theorem entrySize_scan (i : Nat) : entrySize (scan i) = 30 := by
  have name : stringSize (scanName i) = 6 := by
    have size := scanName_size i
    have nonempty : scanName i ≠ "" := fun empty => by simp [empty] at size
    rw [stringSize, if_pos nonempty, size]
    decide
  have others : stringSize "/srv/scans" + uint64Size 1000 +
      uint64Size (1700000000000 : Int64).toUInt64 + boolSize false = 22 := by decide
  have short : lengthDelimitedSize 28 = 30 := by decide
  rw [← short, entrySize]
  congr 1
  simp only [scan, name, Bool.false_eq_true, if_false]
  omega

theorem scan_shown (i : Nat) : scansDir.skips (scan i) = false := by
  have size := scanName_size i
  have dot : scanName i ≠ "." := fun same => by rw [same] at size; exact absurd size (by decide)
  simp [Dir.skips, scansDir, scan, dot]

theorem listingSize_scansDir : listingSize scansDir = 1966107 := by
  have scans : (((List.range 65536).map scan).filter fun info => !scansDir.skips info) =
      (List.range 65536).map scan :=
    List.filter_eq_self.mpr fun info member => by
      obtain ⟨i, -, rfl⟩ := List.mem_map.mp member
      rw [scan_shown, Bool.not_false]
  have each : entrySize ∘ scan = fun _ => 30 := funext entrySize_scan
  have sizes : (((List.range 65536).map scan).map entrySize).sum = 65536 * 30 := by
    rw [List.map_map, each, List.map_const', List.length_range, List.sum_replicate_nat]
  rw [listingSize, show scansDir.entryInfoList = _ :: _ :: (List.range 65536).map scan from rfl,
    List.filter_cons_of_neg (by decide), List.filter_cons_of_pos (by decide), scans,
    List.map_cons, List.sum_cons, sizes]
  decide

theorem scansDir_cut :
    ¬ Acceptable sampleAes (sampleGuard.handleCompleteData (.listEntries 8 1 "/srv/scans")) ∧
      (serverReceives [(sampleGuard.handleCompleteData
        (.listEntries 8 1 "/srv/scans")).encode sampleAes]).disconnected = true := by
  have path : stringSize scansDir.path = 12 := by
    rw [show scansDir.path = "/srv/scans" from rfl]
    decide
  have large : ¬ ListingFits 8 1 (some scansDir) := by
    simp only [ListingFits, Option.some.injEq, forall_eq', listingSize_scansDir, maxLen]
    omega
  have reached : sampleGuard.handleCompleteData (.listEntries 8 1 "/srv/scans") =
      FileGuard.answerListing Tag.responseListEntries 8 1 (some scansDir) := by
    rfl
  rw [reached]
  constructor
  · intro acceptable
    exact large ((answerListing_acceptable sampleAes_pads rfl 8 1 _).mp acceptable)
  · refine answerListing_cut sampleAes_pads large ?_ List.flatten_singleton
    rw [listingSize_scansDir, path]
    decide

end EasyViewer
