import EasyViewer.Server

/-!
`RequestLogin::handle` and what a lost connection leads to, the `CleanUserConnection`
handlers of both servers: the two places that open and close rooms.
-/

namespace EasyViewer

structure LoginRequest where
  account : String
  password : String
  role : UInt32
  secretKey : String
  deriving DecidableEq, Repr

structure Refusal where
  errCode : Int
  errString : String
  info : Account := {}
  blame : Bool := false
  deriving DecidableEq, Repr

def singleBit (half : UInt32) : Bool :=
  let h1 := half ||| (half >>> 1)
  let h1 := h1 ||| (h1 >>> 2)
  let h1 := h1 ||| (h1 >>> 4)
  let h1 := h1 ||| (h1 >>> 8)
  (h1 + 1) >>> 1 = half

/-- The shifted half is compared with unshifted flags, so the low half is never checked. -/
def checkRole (role : UInt32) : Option String :=
  let h := (role >>> 16) &&& 0xffff
  if ¬ singleBit h then some "not allow multi high role"
  else if (h = Role.flagVisitor ∨ h = Role.flagManager) ∧ ¬ singleBit (role &&& 0xffff) then
    some "not allow multi low role with non-guard high role"
  else none

section

variable (md5 : String → String)

/-- The login up to the rooms: the account it is for, or the refusal. -/
def checkLogin (state : ServerState) (request : LoginRequest) (ambient : Ambient) :
    Except Refusal Account :=
  if request.secretKey.isEmpty then
    .error {
      errCode := Err.invalidParams, errString := "invalid member secret key", blame := true }
  else
    match ambient.aesError with
    | some errString => .error { errCode := Err.operateFailed, errString := errString }
    | none =>
        if request.role = Role.manager then
          if state.accountManager.checkAdminPassword request.password then .ok {}
          else .error {
            errCode := Err.passwordIncorrect
            errString := formatError Err.passwordIncorrect
            blame := true }
        else
          match state.accountManager.getAccount request.account ambient.executed with
          | .error err => .error { errCode := err, errString := formatError err }
          | .ok info =>
              if ¬ state.blackList.checkAccount info.id ambient.seconds then
                .error {
                  errCode := Err.accountBlocked
                  errString := formatError Err.accountBlocked
                  info := info }
              else if info.disabled then
                .error {
                  errCode := Err.accountDisabled
                  errString := formatError Err.accountDisabled
                  info := info }
              else if ¬ AccountManager.checkPassword md5 info request.password then
                .error {
                  errCode := Err.passwordIncorrect
                  errString := formatError Err.passwordIncorrect
                  info := info
                  blame := true }
              else
                match checkRole request.role with
                | some errString =>
                    .error { errCode := Err.invalidParams, errString := errString, info := info }
                | none => .ok info

def createRooms (role : UInt32) (userId : UserId) (owner : ConnectionId) :
    List Kind → Rooms → Bool × Rooms
  | [], rooms => (true, rooms)
  | kind :: kinds, rooms =>
      if Role.has role kind.flag then
        match SharingRoomManager.createRoom rooms kind userId owner with
        | (false, rooms) => (false, rooms)
        | (true, rooms) => createRooms role userId owner kinds rooms
      else createRooms role userId owner kinds rooms

/-- The roll-back: whatever room stands under the id goes, of every kind. -/
def removeRooms (userId : UserId) : List Kind → ServerState → ServerState
  | [], state => state
  | kind :: kinds, state => removeRooms userId kinds (state.removeRoom kind userId)

def respondLogin (state : ServerState) (con : ConnectionId) (errCode : Int) (errString : String)
    (info : Account) : ServerState :=
  state.send con { tag := Tag.responseLogin, body := .login errCode errString info.id }

def bindUser (state : ServerState) (con : ConnectionId) (connection : Connection) (info : Account)
    (role : UInt32) (secretKey : String) : ServerState :=
  state.setConnection con { connection with
    user := some info
    role := role
    secondCryptology := some secretKey
    L := if role = Role.manager then 1024 * 1024 * 1024 else connection.L }

/-- The administrator's role is no guard's role: only an account opens rooms. -/
def completeLogin (state : ServerState) (con : ConnectionId) (connection : Connection)
    (info : Account) (role : UInt32) (secretKey : String) : ServerState :=
  if Role.has role Role.flagGuard then
    match createRooms role info.id con Kind.all state.rooms with
    | (true, rooms) =>
        respondLogin (bindUser { state with rooms := rooms } con connection info role secretKey)
          con Err.noError "" info
    | (false, rooms) =>
        respondLogin (removeRooms info.id Kind.all { state with rooms := rooms }) con
          Err.unknow (formatError Err.unknow) info
  else respondLogin (bindUser state con connection info role secretKey) con Err.noError "" info

def requestLogin (state : ServerState) (con : ConnectionId) (connection : Connection)
    (request : LoginRequest) (ambient : Ambient) : ServerState :=
  if ¬ state.blackList.checkIPAddress connection.peerIP ambient.seconds then
    respondLogin state con Err.ipAddressBlocked (formatError Err.ipAddressBlocked) {}
  else if connection.user.isSome then respondLogin state con Err.repeatLogin "" {}
  else
    state.parse con connection ambient <|
      match checkLogin md5 state request ambient with
      | .error refusal =>
          let blamed :=
            if refusal.blame then
              { state with
                blackList := state.blackList.increaseIPAddress connection.peerIP ambient.seconds }
            else state
          respondLogin blamed con refusal.errCode refusal.errString refusal.info
      | .ok info => completeLogin state con connection info request.role request.secretKey

end

/-- A guard's rooms go kind by kind; one that is not registered fails the assertion. -/
def closeRooms (role : UInt32) (userId : UserId) : List Kind → ServerState → ServerState
  | [], state => state
  | kind :: kinds, state =>
      if Role.has role kind.flag then
        match state.rooms kind userId with
        | none => state.crash .assertion
        | some _ => closeRooms role userId kinds (state.removeRoom kind userId)
      else closeRooms role userId kinds state

/-- The room class a visitor's clean-up looks in: the first flag of its role that is set. -/
def visitedKind (role : UInt32) : Option Kind := Kind.all.find? fun kind => Role.has role kind.flag

def leaveRoom (state : ServerState) (con : ConnectionId) (kind : Kind) (userId : UserId) :
    ServerState :=
  match state.rooms kind userId with
  | none => state
  | some room =>
      match kind with
      | .terminal =>
          let (terminalId, after) := TerminalSharingRoom.removeViewer room con
          let left := state.setRoom kind userId after
          if terminalId.isEmpty then left
          else left.send room.owner { tag := Tag.closeTerminal, body := .closeTerminal terminalId }
      | _ =>
          let after := SharingRoom.removeViewer room con
          let left := state.setRoom kind userId after
          if SharingRoom.leftEmpty after then
            left.send room.owner {
              tag := Tag.controlSetAutoPublishDesktop, body := .enableAutoPublishDesktop false }
          else left

def cleanRooms (state : ServerState) (con : ConnectionId) (connection : Connection) : ServerState :=
  match connection.user with
  | none => state
  | some user =>
      if Role.has connection.role Role.flagGuard then
        closeRooms connection.role user.id Kind.all state
      else if Role.has connection.role Role.flagVisitor then
        match visitedKind connection.role with
        | none => state
        | some kind => leaveRoom state con kind connection.targetUserId
      else state

def cleanUserConnection (state : ServerState) (con : ConnectionId) (connection : Connection) :
    ServerState :=
  match connection.server with
  | .management => state.disconnect con
  | .application =>
      let after := cleanRooms state con connection
      if after.fault.isSome then after else after.disconnect con

end EasyViewer
