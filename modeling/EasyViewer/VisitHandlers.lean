import EasyViewer.Server

/-!
How a visitor gets into a guard's room: the three request handlers, the three tasks
they dispatch and the three handlers of the guard's answer. Each family is one
definition over the kind; what only terminals do stands in the branches for them.
-/

namespace EasyViewer

structure VisitRequest where
  userId : UserId
  authString : String
  width : Int := 0
  height : Int := 0
  deriving DecidableEq, Repr

structure VisitResponse where
  taskId : Nat
  certificate : UInt32
  errCode : Int
  errString : String := ""
  listing : List UInt8 := []
  terminalId : String := ""
  secretKey : String := ""
  deriving DecidableEq, Repr

namespace Kind

def requestTag : Kind → UInt32
  | .screen => Tag.requestSubscribeScreen
  | .fileTransmission => Tag.requestVisitFiles
  | .terminal => Tag.requestCreateTerminal

def responseTag : Kind → UInt32
  | .screen => Tag.responseSubscribeScreen
  | .fileTransmission => Tag.responseVisitFiles
  | .terminal => Tag.responseCreateTerminal

def request2Tag : Kind → UInt32
  | .screen => Tag.requestSubscribeScreen2
  | .fileTransmission => Tag.requestVisitFiles2
  | .terminal => Tag.requestCreateTerminal2

def response2Tag : Kind → UInt32
  | .screen => Tag.responseSubscribeScreen2
  | .fileTransmission => Tag.responseVisitFiles2
  | .terminal => Tag.responseCreateTerminal2

end Kind

def visitTimeout : Int := 5000

def visitTask (kind : Kind) (state : ServerState) (con : ConnectionId) (request : VisitRequest)
    (ambient : Ambient) : VisitTask where
  id := state.nextTaskId
  certificate := ambient.certificate
  kind := kind
  src := con
  partnerUserId := request.userId
  authString := request.authString
  width := if kind = .terminal then request.width else 0
  height := if kind = .terminal then request.height else 0
  maxStayAtTime := ambient.now + visitTimeout

/-- `handle` of `RequestSubscribeScreen`, `RequestVisitFiles` and `RequestCreateTerminal`. -/
def requestVisit (kind : Kind) (state : ServerState) (con : ConnectionId) (connection : Connection)
    (request : VisitRequest) (ambient : Ambient) : ServerState :=
  state.checked con connection (connection.role = kind.visitorRole) fun user =>
    if ¬ state.blackList.checkAccount user.id ambient.seconds then state.disconnect con
    else
      state.parse con connection ambient <|
        if connection.targetUserId ≠ 0 then state.disconnect con
        else if request.userId = 0 then state.disconnect con
        else if request.userId = user.id then
          state.send con {
            tag := kind.responseTag
            body := .visit {
              errCode := Err.invalidParams, errString := "can't connect youself" } }
        else
          (state.setConnection con
            { connection with targetUserId := request.userId }).dispatch
              (visitTask kind state con request ambient)

def requestSubscribeScreen := requestVisit .screen
def requestVisitFiles := requestVisit .fileTransmission
def requestCreateTerminal := requestVisit .terminal

namespace VisitTask

/-- Each kind answers with its own fields; a directory is only shown on success. -/
def feedback (task : VisitTask) (state : ServerState) (errCode : Int) (errString : String)
    (response : Option VisitResponse) : ServerState :=
  let plain : Feedback := { errCode := errCode, errString := errString }
  let body : Feedback :=
    match response with
    | none => plain
    | some response =>
        match task.kind with
        | .screen => { plain with secretKey := response.secretKey }
        | .fileTransmission =>
            if errCode = Err.noError then { plain with listing := response.listing } else plain
        | .terminal =>
            { plain with terminalId := response.terminalId, secretKey := response.secretKey }
  state.send task.src { tag := task.kind.responseTag, body := .visit body }

def execute (task : VisitTask) (state : ServerState) : Bool × ServerState :=
  match state.rooms task.kind task.partnerUserId with
  | none =>
      (false, task.feedback state Err.targetUnreachable (formatError Err.targetUnreachable) none)
  | some room =>
      (true, state.send room.owner {
        tag := task.kind.request2Tag
        body := .visit2 ((state.userIdOf task.src).getD 0) task.id task.certificate
          task.authString task.width task.height })

def timeout (task : VisitTask) (state : ServerState) : ServerState :=
  task.feedback state Err.timeout (formatError Err.timeout) none

def closeRefused (task : VisitTask) (state : ServerState) (con : ConnectionId)
    (response : VisitResponse) : ServerState :=
  match task.kind with
  | .terminal =>
      state.send con { tag := Tag.closeTerminal, body := .closeTerminal response.terminalId }
  | _ => state

def handleResponse (task : VisitTask) (state : ServerState) (con : ConnectionId)
    (response : VisitResponse) (ambient : Ambient) : ServerState :=
  if response.errCode = Err.noError then
    match state.rooms task.kind task.partnerUserId with
    | none => state.crash .assertion
    | some room =>
        match room.addViewer task.kind state.userIdOf task.src response.terminalId with
        | (true, after) =>
            let added := state.setRoom task.kind task.partnerUserId after
            let told :=
              if SharingRoom.becameNonempty room after then
                added.send room.owner {
                  tag := Tag.controlSetAutoPublishDesktop, body := .enableAutoPublishDesktop true }
              else added
            task.feedback told response.errCode response.errString (some response)
        | (false, _) =>
            task.feedback (task.closeRefused state con response) Err.repeatLogin
              (formatError Err.repeatLogin) (some response)
  else
    let counted :=
      if response.errCode = Err.passwordIncorrect then
        { state with
          blackList := state.blackList.increaseAccount
            ((state.userOf task.src).getD {}) ambient.seconds }
      else state
    task.feedback counted response.errCode response.errString (some response)

end VisitTask

/-- `handle` of `ResponseSubscribeScreen2`, `ResponseVisitFiles2` and
`ResponseCreateTerminal2`: the room comes from the task, not from the connection. -/
def responseVisit2 (kind : Kind) (state : ServerState) (con : ConnectionId)
    (connection : Connection) (response : VisitResponse) (ambient : Ambient) : ServerState :=
  state.checked con connection (Role.includes connection.role kind.guardRole) fun _ =>
    state.parse con connection ambient <|
      match state.destroy response.taskId response.certificate with
      | (some task, destroyed) =>
          if task.kind = kind then task.handleResponse destroyed con response ambient else destroyed
      | (none, state) =>
          if kind = .terminal ∧ response.errCode = Err.noError then
            state.send con { tag := Tag.closeTerminal, body := .closeTerminal response.terminalId }
          else state

def responseSubscribeScreen2 := responseVisit2 .screen
def responseVisitFiles2 := responseVisit2 .fileTransmission
def responseCreateTerminal2 := responseVisit2 .terminal

def executeTask (state : ServerState) (task : VisitTask) : ServerState :=
  match task.execute state with
  | (true, asked) => asked.setTask task.id fun task => { task with executed := true }
  | (false, refused) => refused.eraseTask task.id

def timeoutTask (state : ServerState) (task : VisitTask) : ServerState :=
  (task.timeout state).eraseTask task.id

end EasyViewer
