import EasyViewer.DirectoryListings
import EasyViewer.Library.ProtoFields

/-!
The messages of the seven `.proto` files, each as the fields its generated class reads and
writes, in the order of their numbers.
-/

namespace EasyViewer

namespace Proto

open ProtoWire

/-! `Echo.proto` -/

def RequestEcho : List Field := [int32 1, int64 2]

def ResponseEcho : List Field := [int32 1, int64 2]

/-! `User.proto` -/

def RequestLogin : List Field := [string 1, string 2, int32 3, string 4]

def ResponseLogin : List Field := [int32 1, string 2, int64 3]

/-! `Screen.proto` -/

def RequestSubscribeScreen : List Field := [int64 1, string 2]

def ResponseSubscribeScreen : List Field := [int32 1, string 2, string 3]

def RequestSubscribeScreen2 : List Field := [int64 1, uint64 2, uint32 3, string 4]

def ResponseSubscribeScreen2 : List Field := [uint64 1, uint32 2, int32 3, string 4, string 5]

def PublishScreenFrame : List Field := [int64 1, uint32 2, uint32 3, bytes 4]

/-! `Control.proto` -/

def PublishCursorPosition : List Field := [int32 1, int32 2]

def ControlKeyPress : List Field := [int32 1]

def ControlKeyRelease : List Field := [int32 1]

def ControlMouseButtonPress : List Field := [int32 1, int32 2, int32 3]

def ControlMouseButtonRelease : List Field := [int32 1, int32 2, int32 3]

def ControlMouseButtonDoubleClick : List Field := [int32 1, int32 2, int32 3]

def ControlMouseMove : List Field := [int32 1, int32 2]

def ControlMouseWheel : List Field := [int32 1]

def SetClipboardText : List Field := [string 1]

def EnableAutoPublishDesktop : List Field := [bool 1]

def Shortcut : List Field := [int32 1]

/-! `File.proto` -/

def EntryInfo : List Field := [string 1, string 2, uint64 3, bool 4, int64 5]

def RequestVisitFiles : List Field := [int64 1, string 2]

def ResponseVisitFiles : List Field :=
  [int32 1, string 2, repeated 3 text, repeated 4 (submessage EntryInfo (by decide))]

def RequestVisitFiles2 : List Field := [int64 1, uint64 2, uint32 3, string 4]

def ResponseVisitFiles2 : List Field :=
  [uint64 1, uint32 2, int32 3, string 4, repeated 5 text,
    repeated 6 (submessage EntryInfo (by decide))]

def RequestMakeDirectory : List Field := [int64 1, int64 2, string 3, string 4]

def ResponseMakeDirectory : List Field :=
  [int64 1, int64 2, int32 3, string 4, string 5, string 6, string 7]

def RequestDeleteEntry : List Field := [int64 1, int64 2, string 3, string 4]

def ResponseDeleteEntry : List Field := [int64 1, int64 2, int32 3, string 4, string 5, string 6]

def RequestRenameEntry : List Field := [int64 1, int64 2, string 3, string 4, string 5]

def ResponseRenameEntry : List Field :=
  [int64 1, int64 2, int32 3, string 4, string 5, string 6, string 7, string 8]

def RequestGoUp : List Field := [int64 1, int64 2, string 3]

def ResponseGoUp : List Field :=
  [int64 1, int64 2, int32 3, string 4, string 5, repeated 6 (submessage EntryInfo (by decide))]

def RequestGoHome : List Field := [int64 1, int64 2]

def ResponseGoHome : List Field :=
  [int64 1, int64 2, int32 3, string 4, string 5, repeated 6 (submessage EntryInfo (by decide))]

def RequestListEntries : List Field := [int64 1, int64 2, string 3]

def ResponseListEntries : List Field :=
  [int64 1, int64 2, int32 3, string 4, string 5, repeated 6 (submessage EntryInfo (by decide))]

def RequestOpenFile : List Field :=
  [int64 1, int64 2, string 3, int32 4, string 5, string 6, uint64 7, uint64 8, bool 9]

def ResponseOpenFile : List Field := [int64 1, int64 2, int32 3, string 4, string 5]

def RequestWriteFileBlock : List Field := [int64 1, string 2, uint64 3, uint32 4, bytes 5]

def ResponseWriteFileBlock : List Field := [int32 1, string 2, string 3, int64 4, uint64 5]

def RequestReadFileBlock : List Field := [int64 1, string 2, uint64 3, uint32 4]

def ResponseReadFileBlock : List Field :=
  [int32 1, string 2, string 3, int64 4, uint64 5, uint32 6, bytes 7]

def CloseFile : List Field := [int64 1, string 2]

/-! `Terminal.proto` -/

def RequestCreateTerminal : List Field := [int64 1, string 2, int32 3, int32 4]

def ResponseCreateTerminal : List Field := [int32 1, string 2, int64 3, string 4, string 5]

def RequestCreateTerminal2 : List Field := [int64 1, uint64 2, uint32 3, string 4, int32 5, int32 6]

def ResponseCreateTerminal2 : List Field :=
  [uint64 1, uint32 2, int32 3, string 4, string 5, string 6]

def ResizeTerminal : List Field := [int64 1, string 2, int32 3, int32 4]

def WriteCommand : List Field := [int64 1, string 2, bytes 3]

def PublishTerminalOutput : List Field := [int64 1, string 2, bytes 3]

def CloseTerminal : List Field := [string 1]

def KickoutVisitor : List Field := [string 1]

/-! `Management.proto` -/

def Account : List Field := [int64 1, string 2, string 3, bool 4]

def RequestListAccount : List Field := [int64 1, string 2]

def ResponseListAccount : List Field :=
  [int64 1, int32 2, string 3, repeated 4 (submessage Account (by decide))]

def RequestAddAccount : List Field := [int64 1, string 2, string 3]

def ResponseAddAccount : List Field := [int64 1, int32 2, string 3, int64 4]

def RequestEnableAccount : List Field := [int64 1, string 2]

def ResponseEnableAccount : List Field := [int64 1, int32 2, string 3]

def RequestDisableAccount : List Field := [int64 1, string 2]

def ResponseDisableAccount : List Field := [int64 1, int32 2, string 3]

def RequestDeleteAccount : List Field := [int64 1, string 2]

def ResponseDeleteAccount : List Field := [int64 1, int32 2, string 3]

def RequestChangeAccountPassword : List Field := [int64 1, string 2, string 3]

def ResponseChangeAccountPassword : List Field := [int64 1, int32 2, string 3]

def RequestListBlockedIPAddresses : List Field := [int64 1]

def BlockedIPAddress : List Field := [string 1, int64 2]

def ResponseListBlockedIPAddresses : List Field :=
  [int64 1, int32 2, string 3, repeated 4 (submessage BlockedIPAddress (by decide))]

def RequestRemoveBlockedIPAddress : List Field := [int64 1, string 2]

def ResponseRemoveBlockedIPAddress : List Field := [int64 1, int32 2, string 3]

def RequestAddBlockedIPAddress : List Field := [int64 1, string 2, int32 3]

def ResponseAddBlockedIPAddress : List Field := [int64 1, int32 2, string 3]

def RequestListBlockedAccounts : List Field := [int64 1]

def BlockedAccount : List Field := [int64 1, string 2, int64 3]

def ResponseListBlockedAccounts : List Field :=
  [int64 1, int32 2, string 3, repeated 4 (submessage BlockedAccount (by decide))]

def RequestRemoveBlockedAccount : List Field := [int64 1, int64 2]

def ResponseRemoveBlockedAccount : List Field := [int64 1, int32 2, string 3]

def RequestAddBlockedAccount : List Field := [int64 1, int64 2, int32 3]

def ResponseAddBlockedAccount : List Field := [int64 1, int32 2, string 3]

def messages : List (List Field) :=
  [RequestEcho, ResponseEcho, RequestLogin, ResponseLogin, RequestSubscribeScreen,
    ResponseSubscribeScreen, RequestSubscribeScreen2, ResponseSubscribeScreen2,
    PublishScreenFrame, PublishCursorPosition, ControlKeyPress, ControlKeyRelease,
    ControlMouseButtonPress, ControlMouseButtonRelease, ControlMouseButtonDoubleClick,
    ControlMouseMove, ControlMouseWheel, SetClipboardText, EnableAutoPublishDesktop, Shortcut,
    EntryInfo, RequestVisitFiles, ResponseVisitFiles, RequestVisitFiles2, ResponseVisitFiles2,
    RequestMakeDirectory, ResponseMakeDirectory, RequestDeleteEntry, ResponseDeleteEntry,
    RequestRenameEntry, ResponseRenameEntry, RequestGoUp, ResponseGoUp, RequestGoHome,
    ResponseGoHome, RequestListEntries, ResponseListEntries, RequestOpenFile, ResponseOpenFile,
    RequestWriteFileBlock, ResponseWriteFileBlock, RequestReadFileBlock, ResponseReadFileBlock,
    CloseFile, RequestCreateTerminal, ResponseCreateTerminal, RequestCreateTerminal2,
    ResponseCreateTerminal2, ResizeTerminal, WriteCommand, PublishTerminalOutput, CloseTerminal,
    KickoutVisitor, Account, RequestListAccount, ResponseListAccount, RequestAddAccount,
    ResponseAddAccount, RequestEnableAccount, ResponseEnableAccount, RequestDisableAccount,
    ResponseDisableAccount, RequestDeleteAccount, ResponseDeleteAccount,
    RequestChangeAccountPassword, ResponseChangeAccountPassword, RequestListBlockedIPAddresses,
    BlockedIPAddress, ResponseListBlockedIPAddresses, RequestRemoveBlockedIPAddress,
    ResponseRemoveBlockedIPAddress, RequestAddBlockedIPAddress, ResponseAddBlockedIPAddress,
    RequestListBlockedAccounts, BlockedAccount, ResponseListBlockedAccounts,
    RequestRemoveBlockedAccount, ResponseRemoveBlockedAccount, RequestAddBlockedAccount,
    ResponseAddBlockedAccount]

/-- `ParseFromArray`, with protobuf's own recursion limit. -/
def parseFromArray (fields : List Field) (bytes : List UInt8) : Option (Values fields) :=
  ProtoWire.parse 100 fields bytes

theorem messages_distinct : ∀ fields ∈ messages, Distinct fields := by decide

theorem messages_nesting : ∀ fields ∈ messages, nesting fields ≤ 100 := by decide

section

variable {fields : List Field}

theorem parse_written (listed : fields ∈ messages) (values : Values fields)
    (fits : byteSize fields values ≤ maxSize) :
    parseFromArray fields (serialize fields values) = some values :=
  parse_serialize (messages_distinct fields listed) (messages_nesting fields listed) fits

/-- Whatever bytes were accepted, what is written for the fields they gave is at most twice as
long and means the same. -/
theorem parseFromArray_relayed (listed : fields ∈ messages) {bytes : List UInt8}
    {values : Values fields} (accepted : parseFromArray fields bytes = some values)
    (within : bytes.length ≤ maxLen) :
    (serialize fields values).length ≤ 2 * bytes.length ∧
      parseFromArray fields (serialize fields values) = some values := by
  have short : 2 * bytes.length ≤ maxSize := by
    rw [maxLen] at within
    rw [maxSize]
    omega
  refine ⟨?_, parse_serialize_parse (messages_distinct fields listed)
    (messages_nesting fields listed) accepted short⟩
  rw [serialize_length]
  exact parse_size accepted

/-- A number in three bytes, where one would do. -/
theorem parseFromArray_relayed_echo :
    (serialize RequestEcho ((5 : Int32), (0 : Int64), ())).length ≤ 2 * 4 ∧
      parseFromArray RequestEcho (serialize RequestEcho ((5 : Int32), (0 : Int64), ())) =
        some ((5 : Int32), (0 : Int64), ()) :=
  @parseFromArray_relayed RequestEcho (by simp [messages]) [8, 133, 128, 0]
    ((5 : Int32), (0 : Int64), ()) rfl (by decide)

end

/-! The directory listings, written field by field elsewhere, are these messages. -/

def entryValues (entry : EasyViewer.EntryInfo) : Values EntryInfo :=
  (entry.directory, entry.name, entry.size, entry.isDirectory, entry.lastModifyingTime, ())

theorem serialize_entry (entry : EasyViewer.EntryInfo) :
    serialize EntryInfo (entryValues entry) = entry.serialize := by
  simp only [entryValues, EntryInfo, serialize]
  rw [string_write, string_write, uint64_write, bool_write, int64_write]
  simp only [EasyViewer.EntryInfo.serialize, List.append_assoc, List.append_nil]

def visitValues (response : EasyViewer.ResponseVisitFiles2) : Values ResponseVisitFiles2 :=
  (response.asyncTaskId, response.asyncTaskCertificate, Int32.ofInt response.errCode,
    response.errString, response.defaultDirs, response.entries.map entryValues, ())

def listingValues (response : ResponseListing) : Values ResponseListEntries :=
  (response.seq, response.userId, Int32.ofInt response.errCode, response.errString, response.dir,
    response.entries.map entryValues, ())

theorem serialize_entries (distinct : Distinct EntryInfo) (entries : List EasyViewer.EntryInfo) :
    ((entries.map entryValues).flatMap fun entry =>
      writeBytes 6 ((submessage EntryInfo distinct).encode entry)) =
      serializeEntries entries := by
  rw [List.flatMap_map, serializeEntries]
  exact congrArg (List.flatMap · entries)
    (funext fun entry => congrArg (writeBytes 6) (serialize_entry entry))

theorem serialize_listing (response : ResponseListing) :
    serialize ResponseListEntries (listingValues response) = response.serialize := by
  simp only [listingValues, ResponseListEntries, serialize]
  rw [int64_write, int64_write, int32_write, string_write, string_write, repeated_write,
    serialize_entries]
  simp only [ResponseListing.serialize, List.append_assoc, List.append_nil]
  rfl

theorem serialize_visit (response : EasyViewer.ResponseVisitFiles2) :
    serialize ResponseVisitFiles2 (visitValues response) = response.serialize := by
  simp only [visitValues, ResponseVisitFiles2, serialize]
  rw [uint64_write, uint32_write, int32_write, string_write, repeated_write, repeated_write,
    serialize_entries]
  simp only [EasyViewer.ResponseVisitFiles2.serialize, List.append_assoc, List.append_nil]
  rfl

/-- The directory a command leads to, if the password is right and the disk plays along. -/
def shownDir (guard : FileGuard) : ListingCommand → Option Dir
  | .visitFiles _ _ authString =>
      if authString ≠ guard.authString then none
      else (guard.cd guard.current guard.homePath).map guard.visited
  | .goUp _ _ dir => (guard.cd guard.current (cStr dir)).bind guard.cdUp
  | .goHome _ _ => guard.cd guard.current guard.homePath
  | .listEntries _ _ dir => guard.cd guard.current (cStr dir)

/-- The entries the viewer finds in the answer to a command. -/
def parsedEntries (serialized : List UInt8) : ListingCommand → Option (List (Values EntryInfo))
  | .visitFiles _ _ _ =>
      (parseFromArray ResponseVisitFiles2 serialized).map fun (_, _, _, _, _, entries, _) => entries
  | .goUp _ _ _ =>
      (parseFromArray ResponseGoUp serialized).map fun (_, _, _, _, _, entries, _) => entries
  | .goHome _ _ =>
      (parseFromArray ResponseGoHome serialized).map fun (_, _, _, _, _, entries, _) => entries
  | .listEntries _ _ _ =>
      (parseFromArray ResponseListEntries serialized).map fun (_, _, _, _, _, entries, _) => entries

theorem parse_listing (response : ResponseListing)
    (small : (serializeToArray response.byteSizeLong response.serialize).length < maxLen) :
    parseFromArray ResponseListEntries
        (serializeToArray response.byteSizeLong response.serialize) =
      some (listingValues response) := by
  rw [serializeToArray_length response.serialize_length, maxLen] at small
  have length := serialize_length ResponseListEntries (listingValues response)
  rw [serialize_listing, response.serialize_length] at length
  rw [serializeToArray, if_pos (by omega), ← serialize_listing]
  refine parse_written (by simp [messages]) _ ?_
  rw [← length, maxSize]
  omega

theorem parse_visit (response : EasyViewer.ResponseVisitFiles2)
    (small : (serializeToArray response.byteSizeLong response.serialize).length < maxLen) :
    parseFromArray ResponseVisitFiles2
        (serializeToArray response.byteSizeLong response.serialize) =
      some (visitValues response) := by
  rw [serializeToArray_length response.serialize_length, maxLen] at small
  have length := serialize_length ResponseVisitFiles2 (visitValues response)
  rw [serialize_visit, response.serialize_length] at length
  rw [serializeToArray, if_pos (by omega), ← serialize_visit]
  refine parse_written (by simp [messages]) _ ?_
  rw [← length, maxSize]
  omega

theorem parse_answer {tag answerTag : UInt32} {seq userId : Int64} {reached : Option Dir}
    {serialized : List UInt8}
    (answered : FileGuard.answerListing tag seq userId reached =
      .descWithEncrypt answerTag serialized)
    (small : serialized.length < maxLen) :
    (parseFromArray ResponseListEntries serialized).map
        (fun (_, _, _, _, _, entries, _) => entries) =
      some ((reached.elim [] fillEntries).map entryValues) := by
  cases reached with
  | none =>
      obtain ⟨-, rfl⟩ := Message.descWithEncrypt.inj answered
      rw [parse_listing _ small]
      rfl
  | some dir =>
      obtain ⟨-, rfl⟩ := Message.descWithEncrypt.inj answered
      rw [parse_listing _ small]
      rfl

end Proto

end EasyViewer
