import EasyViewer.Server

/-!
The handlers that pass messages on through a room: file requests and responses in both
directions, screen control and clipboard, terminal input and output.
-/

namespace EasyViewer

structure UsualRequest where
  tagRequest : UInt32
  tagResponse : UInt32
  checkRole : UInt32 := Role.fileTransmissionVisitor
  fillSEQ : Bool := true
  fillTaskId : Bool := false
  deriving DecidableEq, Repr

structure UsualResponseHandler where
  tagResponse : UInt32
  checkRole : UInt32 := Role.fileTransmissionGuard
  deriving DecidableEq, Repr

inductive FileRequest where
  | makeDirectory
  | deleteEntry
  | renameEntry
  | goUp
  | goHome
  | listEntries
  | openFile
  | readFileBlock
  | writeFileBlock
  deriving DecidableEq, Repr

inductive FileResponse where
  | makeDirectory
  | deleteEntry
  | renameEntry
  | goUp
  | goHome
  | listEntries
  | openFile
  | readFileBlock
  | writeFileBlock
  | closeFile
  deriving DecidableEq, Repr

def FileRequest.handler : FileRequest → UsualRequest
  | .makeDirectory => {
      tagRequest := Tag.requestMakeDirectory, tagResponse := Tag.responseMakeDirectory }
  | .deleteEntry => {
      tagRequest := Tag.requestDeleteEntry, tagResponse := Tag.responseDeleteEntry }
  | .renameEntry => {
      tagRequest := Tag.requestRenameEntry, tagResponse := Tag.responseRenameEntry }
  | .goUp => {
      tagRequest := Tag.requestVisitingPathGoUp, tagResponse := Tag.responseVisitingPathGoUp }
  | .goHome => {
      tagRequest := Tag.requestVisitingPathGoHome, tagResponse := Tag.responseVisitingPathGoHome }
  | .listEntries => {
      tagRequest := Tag.requestListEntries, tagResponse := Tag.responseListEntries }
  | .openFile => {
      tagRequest := Tag.requestOpenFile, tagResponse := Tag.responseOpenFile, fillTaskId := true }
  | .readFileBlock => {
      tagRequest := Tag.requestReadFileBlock, tagResponse := Tag.responseReadFileBlock
      checkRole := 0, fillSEQ := false, fillTaskId := true }
  | .writeFileBlock => {
      tagRequest := Tag.requestWriteFileBlock, tagResponse := Tag.responseWriteFileBlock
      checkRole := 0, fillSEQ := false, fillTaskId := true }

def FileResponse.handler : FileResponse → UsualResponseHandler
  | .makeDirectory => { tagResponse := Tag.responseMakeDirectory }
  | .deleteEntry => { tagResponse := Tag.responseDeleteEntry }
  | .renameEntry => { tagResponse := Tag.responseRenameEntry }
  | .goUp => { tagResponse := Tag.responseVisitingPathGoUp }
  | .goHome => { tagResponse := Tag.responseVisitingPathGoHome }
  | .listEntries => { tagResponse := Tag.responseListEntries }
  | .openFile => { tagResponse := Tag.responseOpenFile }
  | .readFileBlock => { tagResponse := Tag.responseReadFileBlock, checkRole := 0 }
  | .writeFileBlock => { tagResponse := Tag.responseWriteFileBlock, checkRole := 0 }
  | .closeFile => { tagResponse := Tag.closeFile, checkRole := 0 }

namespace ServerState

def relayToGuard (state : ServerState) (source : ConnectionId) (room : Room) (kind : Kind)
    (packet : Packet) : ServerState :=
  state.put (.toGuard source room.owner kind packet)

def relayToViewers (state : ServerState) (source : ConnectionId) (kind : Kind) (packet : Packet) :
    List Viewer → ServerState
  | [] => state
  | viewer :: viewers =>
      (state.put (.toVisitor source viewer.con kind packet)).relayToViewers source kind packet viewers

end ServerState

def roleAllowed (role checkRole : UInt32) : Bool := checkRole = 0 || Role.includes role checkRole

/-- Both sides go on to use the room they looked up, also where there is none. -/
def UsualRequest.handle (handler : UsualRequest) (state : ServerState) (con : ConnectionId)
    (connection : Connection) (request : FileMessage) (ambient : Ambient) : ServerState :=
  state.checked con connection (roleAllowed connection.role handler.checkRole) fun user =>
    state.parse con connection ambient <|
      let forwarded : Packet :=
        { tag := handler.tagRequest, body := .file { request with userId := user.id } }
      if ¬ Role.has connection.role Role.flagGuard then
        if connection.targetUserId = 0 then state.disconnect con
        else
          match state.rooms .fileTransmission connection.targetUserId with
          | none => state.crash .nullPointer
          | some room => state.relayToGuard con room .fileTransmission forwarded
      else
        match state.rooms .fileTransmission user.id with
        | none => state.crash .nullPointer
        | some room =>
            match room.getViewersOf state.userIdOf request.userId with
            | [] =>
                state.send con {
                  tag := handler.tagResponse
                  body := .fileError
                    (if handler.fillSEQ then request.seq else 0)
                    (if handler.fillTaskId then request.taskId else "")
                    Err.targetUnreachable (formatError Err.targetUnreachable) }
            | viewer :: _ => state.relayToViewers con .fileTransmission forwarded [viewer]

def UsualResponseHandler.handle (handler : UsualResponseHandler) (state : ServerState)
    (con : ConnectionId) (connection : Connection) (response : FileMessage) (ambient : Ambient) :
    ServerState :=
  state.checked con connection (roleAllowed connection.role handler.checkRole) fun user =>
    state.parse con connection ambient <|
      let forwarded : Packet := { tag := handler.tagResponse, body := .file response }
      if ¬ Role.has connection.role Role.flagGuard then
        if connection.targetUserId = 0 then state.disconnect con
        else
          match state.rooms .fileTransmission connection.targetUserId with
          | none => state
          | some room => state.relayToGuard con room .fileTransmission forwarded
      else
        match state.rooms .fileTransmission user.id with
        | none => state
        | some room =>
            match room.getViewersOf state.userIdOf response.userId with
            | [] => state
            | viewer :: _ => state.relayToViewers con .fileTransmission forwarded [viewer]

inductive ScreenControl where
  | mouseMove
  | keyPress
  | keyRelease
  | mouseButtonPress
  | mouseButtonRelease
  | mouseButtonDoubleClick
  | mouseWheel
  | shortcut
  deriving DecidableEq, Repr

def ScreenControl.tag : ScreenControl → UInt32
  | .mouseMove => Tag.controlMouseMove
  | .keyPress => Tag.controlKeyPress
  | .keyRelease => Tag.controlKeyRelease
  | .mouseButtonPress => Tag.controlMouseButtonPress
  | .mouseButtonRelease => Tag.controlMouseButtonRelease
  | .mouseButtonDoubleClick => Tag.controlMouseButtonDoubleClick
  | .mouseWheel => Tag.controlMouseWheel
  | .shortcut => Tag.shortcut

def screenVisitorTransferingOnly (control : ScreenControl) (state : ServerState)
    (con : ConnectionId) (connection : Connection) (data : List UInt8) : ServerState :=
  state.checked con connection (connection.role = Role.screenVisitor) fun _ =>
    match state.rooms .screen connection.targetUserId with
    | none => state
    | some room => state.relayToGuard con room .screen { tag := control.tag, body := .raw data }

/-- A visitor of any kind reaches the screen room of its target. -/
def setClipboardText (state : ServerState) (con : ConnectionId) (connection : Connection)
    (data : List UInt8) : ServerState :=
  state.checked con connection true fun user =>
    let packet : Packet := { tag := Tag.controlSetClipboardText, body := .raw data }
    if Role.has connection.role Role.flagVisitor then
      if connection.targetUserId = 0 then state.disconnect con
      else
        match state.rooms .screen connection.targetUserId with
        | none => state
        | some room => state.relayToGuard con room .screen packet
    else if Role.has connection.role Role.flagGuard then
      match state.rooms .screen user.id with
      | none => state
      | some room => state.relayToViewers con .screen packet room.viewers
    else state.disconnect con

def publishToScreen (tag : UInt32) (state : ServerState) (con : ConnectionId)
    (connection : Connection) (data : List UInt8) : ServerState :=
  state.checked con connection (Role.includes connection.role Role.screenGuard) fun user =>
    match state.rooms .screen user.id with
    | none => state.crash .assertion
    | some room => state.relayToViewers con .screen { tag := tag, body := .raw data } room.viewers

def publishScreenFrame := publishToScreen Tag.publishScreenFrame
def publishCursorPosition := publishToScreen Tag.publishCursorPosition

/-- `handle` of `WriteCommand` and `ResizeTerminal`: the sender's own terminal id replaces
whatever the message carries, and without one there is no relay. -/
def terminalInput (tag : UInt32) (state : ServerState) (con : ConnectionId)
    (connection : Connection) (request : TerminalMessage) (ambient : Ambient) : ServerState :=
  state.checked con connection (connection.role = Role.terminalVisitor) fun user =>
    state.parse con connection ambient <|
      match state.rooms .terminal connection.targetUserId with
      | none => state.disconnect con
      | some room =>
          let terminalId := TerminalSharingRoom.getTerminalId room con
          if terminalId.isEmpty then state.disconnect con
          else
            state.relayToGuard con room .terminal {
              tag := tag
              body := .terminal { request with userId := user.id, terminalId := terminalId } }

def writeCommand := terminalInput Tag.writeCommandToTerminal
def resizeTerminal := terminalInput Tag.resizeTerminal

def publishTerminalOutput (state : ServerState) (con : ConnectionId) (connection : Connection)
    (publish : TerminalMessage) (ambient : Ambient) : ServerState :=
  state.checked con connection (Role.includes connection.role Role.terminalGuard) fun user =>
    state.parse con connection ambient <|
      match state.rooms .terminal user.id with
      | none => state.crash .assertion
      | some room =>
          match room.viewers.find? fun viewer =>
            state.userIdOf viewer.con = some publish.userId ∧
              viewer.terminalId = publish.terminalId with
          | none => state
          | some viewer =>
              state.relayToViewers con .terminal {
                tag := Tag.publishTerminalOutput, body := .terminal publish } [viewer]

def kickoutTerminalVisitor (state : ServerState) (con : ConnectionId) (connection : Connection)
    (terminalId : String) (ambient : Ambient) : ServerState :=
  state.checked con connection (Role.includes connection.role Role.terminalGuard) fun user =>
    state.parse con connection ambient <|
      match state.rooms .terminal user.id with
      | none => state.disconnect con
      | some room =>
          match room.viewers.find? fun viewer => viewer.terminalId = terminalId with
          | none => state
          | some viewer => state.disconnect viewer.con

def requestEcho (state : ServerState) (con : ConnectionId) (connection : Connection)
    (seq time : Int) (ambient : Ambient) : ServerState :=
  state.checked con connection true fun _ =>
    state.parse con connection ambient <|
      state.send con { tag := Tag.responseEcho, body := .echo seq time }

end EasyViewer
