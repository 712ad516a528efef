import EasyViewer.AccountManager
import EasyViewer.BlackList
import EasyViewer.Protocol
import EasyViewer.SharingRoom

/-!
What the handlers of the two servers read and write: the connections with what was
bound to them, the three room managers, the tasks waiting for a guard's answer, the
account table and the blacklist. A handler is a function on this state.
-/

namespace EasyViewer

structure Connection where
  server : ServerKind
  peerIP : String := ""
  user : Option Account := none
  role : UInt32 := 0
  targetUserId : UserId := 0
  secondCryptology : Option String := none
  L : Nat := 1024 * 1024 * 2
  deriving DecidableEq, Repr

structure VisitTask where
  id : Nat
  certificate : UInt32
  kind : Kind
  src : ConnectionId
  partnerUserId : UserId
  authString : String
  width : Int := 0
  height : Int := 0
  maxStayAtTime : Int
  executed : Bool := false
  destroyed : Bool := false
  deriving DecidableEq, Repr

structure FileMessage where
  userId : UserId
  seq : Int := 0
  taskId : String := ""
  content : List UInt8 := []
  deriving DecidableEq, Repr

structure TerminalMessage where
  userId : UserId
  terminalId : String
  content : List UInt8 := []
  deriving DecidableEq, Repr

/-- What a visitor is told about its visit; `listing` is the directory a file guard shows. -/
structure Feedback where
  errCode : Int
  errString : String
  listing : List UInt8 := []
  terminalId : String := ""
  secretKey : String := ""
  deriving DecidableEq, Repr

structure ManagementResponse where
  seq : Int
  errCode : Int
  errString : String := ""
  userId : UserId := 0
  accounts : List Account := []
  ipAddresses : List (String × Int) := []
  blockedAccounts : List (UserId × String × Int) := []
  deriving DecidableEq, Repr

inductive Body where
  | echo (seq time : Int)
  | login (errCode : Int) (errString : String) (userId : UserId)
  | visit2 (userId : UserId) (taskId : Nat) (certificate : UInt32) (authString : String)
      (width height : Int)
  | visit (feedback : Feedback)
  | file (message : FileMessage)
  | fileError (seq : Int) (taskId : String) (errCode : Int) (errString : String)
  | terminal (message : TerminalMessage)
  | closeTerminal (terminalId : String)
  | enableAutoPublishDesktop (enable : Bool)
  | management (response : ManagementResponse)
  | raw (data : List UInt8)
  deriving DecidableEq, Repr

structure Packet where
  tag : UInt32
  body : Body
  deriving DecidableEq, Repr

/-- What a handler sends: of its own, or passed on through a room between the guard that
owns it and a visitor. -/
inductive Output where
  | send (target : ConnectionId) (packet : Packet)
  | toGuard (source target : ConnectionId) (kind : Kind) (packet : Packet)
  | toVisitor (source target : ConnectionId) (kind : Kind) (packet : Packet)
  deriving DecidableEq, Repr

/-- What ends the process: a failed assertion, a null room or an exception nobody catches. -/
inductive Fault where
  | assertion
  | nullPointer
  | badVariantAccess
  deriving DecidableEq, Repr

/-- `connected` are the entries of `m_connections`, `disconnecting` the connections told to
disconnect, `cleaned` those whose clean-up has run; `outputs` is what the last step sent. -/
structure ServerState where
  connections : ConnectionId → Option Connection := fun _ => none
  connected : ConnectionId → Bool := fun _ => false
  disconnecting : ConnectionId → Bool := fun _ => false
  cleaned : ConnectionId → Bool := fun _ => false
  rooms : Rooms := fun _ _ => none
  tasks : List VisitTask := []
  nextTaskId : Nat := 1
  accountManager : AccountManager := {}
  blackList : BlackList := {}
  outputs : List Output := []
  fault : Option Fault := none

/-- What a handler finds outside the server: the time in milliseconds, whether its data
decrypts and parses, whether SQLite carries a statement out, and the values of
`generateUserID`, `rand` and `AES::newInstance`. -/
structure Ambient where
  now : Int := 0
  readable : Bool := true
  executed : Bool := true
  userId : UserId := 1
  certificate : UInt32 := 0
  aesError : Option String := none
  deriving DecidableEq, Repr

def Ambient.seconds (ambient : Ambient) : Int := ambient.now / 1000

namespace ServerState

def put (state : ServerState) (output : Output) : ServerState :=
  { state with outputs := state.outputs ++ [output] }

def send (state : ServerState) (target : ConnectionId) (packet : Packet) : ServerState :=
  state.put (.send target packet)

def crash (state : ServerState) (fault : Fault) : ServerState := { state with fault := some fault }

def disconnect (state : ServerState) (con : ConnectionId) : ServerState :=
  { state with disconnecting := updateAt state.disconnecting con true }

def userOf (state : ServerState) (con : ConnectionId) : Option Account :=
  (state.connections con).bind Connection.user

def userIdOf (state : ServerState) (con : ConnectionId) : Option UserId :=
  (state.userOf con).map Account.id

def kickoutIf (state : ServerState) (chosen : Connection → Bool) : ServerState :=
  { state with
    disconnecting := fun con =>
      state.disconnecting con || state.connected con &&
        match state.connections con with
        | none => false
        | some connection => connection.server = .application && chosen connection }

def kickoutUser (state : ServerState) (userId : UserId) : ServerState :=
  state.kickoutIf fun connection => connection.user.any fun user => user.id = userId

def kickoutIP (state : ServerState) (ip : String) : ServerState :=
  state.kickoutIf fun connection => connection.peerIP = ip

/-- `removeRoom`, and `disconnect` for the viewers of the room that was there. -/
def removeRoom (state : ServerState) (kind : Kind) (userId : UserId) : ServerState :=
  match state.rooms kind userId with
  | none => state
  | some room =>
      { state with
        rooms := SharingRoomManager.removeRoom state.rooms kind userId
        disconnecting := fun con => state.disconnecting con || room.holds con }

def setRoom (state : ServerState) (kind : Kind) (userId : UserId) (room : Room) : ServerState :=
  { state with rooms := SharingRoomManager.set state.rooms kind userId (some room) }

def setConnection (state : ServerState) (con : ConnectionId) (connection : Connection) :
    ServerState :=
  { state with connections := updateAt state.connections con (some connection) }

/-- `USUAL_PARSE_PROTOBUF_DATA_MACRO`, with what follows it. -/
def parse (state : ServerState) (con : ConnectionId) (connection : Connection) (ambient : Ambient)
    (body : ServerState) : ServerState :=
  if ambient.readable then body
  else
    { state with
      blackList := state.blackList.increaseIPAddress connection.peerIP ambient.seconds }.disconnect con

def checked (state : ServerState) (con : ConnectionId) (connection : Connection)
    (roleChecked : Bool) (body : Account → ServerState) : ServerState :=
  if ¬ roleChecked then state.disconnect con
  else
    match connection.user with
    | none => state.disconnect con
    | some user => body user

def dispatch (state : ServerState) (task : VisitTask) : ServerState :=
  { state with
    nextTaskId := state.nextTaskId + 1
    tasks := if state.tasks.any fun other => other.id = task.id then state.tasks
      else state.tasks ++ [task] }

def findTask (state : ServerState) (taskId : Nat) : Option VisitTask :=
  state.tasks.find? fun task => task.id = taskId

def setTask (state : ServerState) (taskId : Nat) (change : VisitTask → VisitTask) : ServerState :=
  { state with
    tasks := state.tasks.map fun task => if task.id = taskId then change task else task }

def eraseTask (state : ServerState) (taskId : Nat) : ServerState :=
  { state with tasks := state.tasks.filter fun task => task.id ≠ taskId }

def destroy (state : ServerState) (taskId : Nat) (certificate : UInt32) :
    Option VisitTask × ServerState :=
  match state.findTask taskId with
  | none => (none, state)
  | some task =>
      if task.certificate = certificate ∧ ¬ task.destroyed then
        (some task, state.setTask taskId fun task => { task with destroyed := true })
      else (none, state)

end ServerState

end EasyViewer
