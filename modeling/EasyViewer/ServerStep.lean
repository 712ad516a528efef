import EasyViewer.Library.Run
import EasyViewer.LoginHandler
import EasyViewer.ManagementHandlers
import EasyViewer.RelayHandlers
import EasyViewer.VisitHandlers

/-!
The two servers as one transition system: connections come and go, each handler call
and each turn of a task worker is one step. Nothing follows a step that ends the
process, and no message of a connection is handled after its clean-up.
-/

namespace EasyViewer

inductive ClientMessage where
  | echo (seq time : Int)
  | login (request : LoginRequest)
  | requestVisit (kind : Kind) (request : VisitRequest)
  | responseVisit2 (kind : Kind) (response : VisitResponse)
  | fileRequest (which : FileRequest) (request : FileMessage)
  | fileResponse (which : FileResponse) (response : FileMessage)
  | screenControl (control : ScreenControl) (data : List UInt8)
  | setClipboardText (data : List UInt8)
  | publishScreenFrame (data : List UInt8)
  | publishCursorPosition (data : List UInt8)
  | writeCommand (request : TerminalMessage)
  | resizeTerminal (request : TerminalMessage)
  | publishTerminalOutput (publish : TerminalMessage)
  | kickoutTerminalVisitor (terminalId : String)
  | management (request : ManagementRequest)
  deriving DecidableEq, Repr

def ClientMessage.tag : ClientMessage → UInt32
  | .echo _ _ => Tag.requestEcho
  | .login _ => Tag.requestLogin
  | .requestVisit kind _ => kind.requestTag
  | .responseVisit2 kind _ => kind.response2Tag
  | .fileRequest which _ => which.handler.tagRequest
  | .fileResponse which _ => which.handler.tagResponse
  | .screenControl control _ => control.tag
  | .setClipboardText _ => Tag.controlSetClipboardText
  | .publishScreenFrame _ => Tag.publishScreenFrame
  | .publishCursorPosition _ => Tag.publishCursorPosition
  | .writeCommand _ => Tag.writeCommandToTerminal
  | .resizeTerminal _ => Tag.resizeTerminal
  | .publishTerminalOutput _ => Tag.publishTerminalOutput
  | .kickoutTerminalVisitor _ => Tag.kickoutVisitorTerminal
  | .management request => request.tag

/-- `disconnect` stands for the servers' own reasons: no login for a minute, or a send
queue that is full. -/
inductive Event where
  | connect (con : ConnectionId) (server : ServerKind) (peerIP : String)
  | message (con : ConnectionId) (message : ClientMessage) (ambient : Ambient)
  | disconnect (con : ConnectionId)
  | removeConnection (con : ConnectionId)
  | clean (con : ConnectionId)
  | execute (taskId : Nat)
  | timeout (taskId : Nat) (now : Int)
  | collect (taskId : Nat)
  deriving DecidableEq

section

variable (md5 : String → String)

def handle (state : ServerState) (con : ConnectionId) (connection : Connection)
    (message : ClientMessage) (ambient : Ambient) : ServerState :=
  match message with
  | .echo seq time => requestEcho state con connection seq time ambient
  | .login request => requestLogin md5 state con connection request ambient
  | .requestVisit kind request => requestVisit kind state con connection request ambient
  | .responseVisit2 kind response => responseVisit2 kind state con connection response ambient
  | .fileRequest which request => which.handler.handle state con connection request ambient
  | .fileResponse which response => which.handler.handle state con connection response ambient
  | .screenControl control data => screenVisitorTransferingOnly control state con connection data
  | .setClipboardText data => setClipboardText state con connection data
  | .publishScreenFrame data => publishScreenFrame state con connection data
  | .publishCursorPosition data => publishCursorPosition state con connection data
  | .writeCommand request => writeCommand state con connection request ambient
  | .resizeTerminal request => resizeTerminal state con connection request ambient
  | .publishTerminalOutput publish => publishTerminalOutput state con connection publish ambient
  | .kickoutTerminalVisitor terminalId =>
      kickoutTerminalVisitor state con connection terminalId ambient
  | .management request => handleManagement md5 state con connection request ambient

def eventStep (state : ServerState) (event : Event) : Option ServerState :=
  match event with
  | .connect con server peerIP =>
      match state.connections con with
      | some _ => none
      | none =>
          some { state.setConnection con { server := server, peerIP := peerIP } with
            connected := updateAt state.connected con true }
  | .message con message ambient =>
      match state.connections con with
      | none => none
      | some connection =>
          if ¬ state.cleaned con ∧ receivedDataHandlerFactory connection.server message.tag then
            some (handle md5 state con connection message ambient)
          else none
  | .disconnect con => some (state.disconnect con)
  | .removeConnection con => some { state with connected := updateAt state.connected con false }
  | .clean con =>
      match state.connections con with
      | none => none
      | some connection =>
          if state.cleaned con then none
          else
            some (cleanUserConnection { state with cleaned := updateAt state.cleaned con true } con
              connection)
  | .execute taskId =>
      match state.findTask taskId with
      | none => none
      | some task => if task.destroyed ∨ task.executed then none else some (executeTask state task)
  | .timeout taskId now =>
      match state.findTask taskId with
      | none => none
      | some task =>
          if ¬ task.destroyed ∧ task.maxStayAtTime < now then some (timeoutTask state task) else none
  | .collect taskId =>
      match state.findTask taskId with
      | none => none
      | some task => if task.destroyed then some (state.eraseTask taskId) else none

def serverStep (state : ServerState) (event : Event) : Option ServerState :=
  if state.fault.isSome then none else eventStep md5 { state with outputs := [] } event

def initialServer (accountManager : AccountManager) : ServerState :=
  { accountManager := accountManager }

end

def twoAccounts : AccountManager where
  rows := [{ id := 1, account := "guard" }, { id := 2, account := "visitor" }]
  adminPassword := "admin"

def noDigest : String → String := fun _ => ""

end EasyViewer
