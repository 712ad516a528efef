import EasyViewer.ServerOutputs

/-!
What the management server answers. A login and a manager's request get one answer each, on
their own connection and with what it takes to tell whose it is; nothing else that the servers
send could be taken for one.
-/

namespace EasyViewer

namespace ManagementRequest

def seq : ManagementRequest → Int
  | .listAccount seq _ => seq
  | .addAccount seq _ _ => seq
  | .enableAccount seq _ => seq
  | .disableAccount seq _ => seq
  | .deleteAccount seq _ => seq
  | .changeAccountPassword seq _ _ => seq
  | .listBlockedIPAddresses seq => seq
  | .removeBlockedIPAddress seq _ => seq
  | .addBlockedIPAddress seq _ _ => seq
  | .listBlockedAccounts seq => seq
  | .removeBlockedAccount seq _ => seq
  | .addBlockedAccount seq _ _ => seq

def responseTag : ManagementRequest → UInt32
  | .listAccount _ _ => Tag.responseListAccount
  | .addAccount _ _ _ => Tag.responseAddAccount
  | .enableAccount _ _ => Tag.responseEnableAccount
  | .disableAccount _ _ => Tag.responseDisableAccount
  | .deleteAccount _ _ => Tag.responseDeleteAccount
  | .changeAccountPassword _ _ _ => Tag.responseChangeAccountPassword
  | .listBlockedIPAddresses _ => Tag.responseListBlockedIPAddresses
  | .removeBlockedIPAddress _ _ => Tag.responseRemoveBlockedIPAddress
  | .addBlockedIPAddress _ _ _ => Tag.responseAddBlockedIPAddress
  | .listBlockedAccounts _ => Tag.responseListBlockedAccounts
  | .removeBlockedAccount _ _ => Tag.responseRemoveBlockedAccount
  | .addBlockedAccount _ _ _ => Tag.responseAddBlockedAccount

end ManagementRequest

/-- The body of an answer to a login or to a manager's request. -/
def Body.Answers : Body → Prop
  | .login .. | .management _ => True
  | _ => False

def Output.Other (output : Output) : Prop := ¬ output.packet.body.Answers

namespace ClientMessage

def AnsweredBy : ClientMessage → Packet → Prop
  | .login _, packet =>
      packet.tag = Tag.responseLogin ∧
        ∃ errCode errString userId, packet.body = .login errCode errString userId
  | .management request, packet =>
      packet.tag = request.responseTag ∧
        ∃ response, packet.body = .management response ∧ response.seq = request.seq
  | _, _ => False

def Asks : ClientMessage → Bool
  | .login _ | .management _ => true
  | _ => false

end ClientMessage

inductive AnswersOnce (message : ClientMessage) (con : ConnectionId) (outputs : List Output)
    (next : ServerState) : Prop
  | nothing (silent : next.outputs = outputs)
      (ended : next.disconnecting con = true ∨ next.fault.isSome = true)
  | answer (packet : Packet) (fits : message.AnsweredBy packet)
      (once : next.outputs = outputs ++ [.send con packet])

section

variable {md5 : String → String} {state : ServerState} {con : ConnectionId}
  {connection : Connection} {ambient : Ambient}

namespace AnswersOnce

variable {message : ClientMessage} {outputs : List Output}

theorem disconnect (silent : state.outputs = outputs) :
    AnswersOnce message con outputs (state.disconnect con) :=
  .nothing silent (.inl (by simp [ServerState.disconnect]))

theorem crash (fault : Fault) (silent : state.outputs = outputs) :
    AnswersOnce message con outputs (state.crash fault) :=
  .nothing silent (.inr rfl)

theorem send {packet : Packet} (fits : message.AnsweredBy packet)
    (silent : state.outputs = outputs) :
    AnswersOnce message con outputs (state.send con packet) :=
  .answer packet fits (congrArg (· ++ [Output.send con packet]) silent)

theorem parse {body : ServerState}
    (readable : AnswersOnce message con state.outputs body) :
    AnswersOnce message con state.outputs (state.parse con connection ambient body) :=
  ServerState.parse_elim (disconnect rfl) fun _ => readable

theorem respondManagement {request : ManagementRequest} {response : ManagementResponse}
    {middle : ServerState} (seq : response.seq = request.seq)
    (silent : middle.outputs = outputs) :
    AnswersOnce (.management request) con outputs
      (respondManagement middle con request.responseTag response) :=
  send ⟨rfl, response, rfl, seq⟩ silent

theorem respondLogin {request : LoginRequest} (errCode : Int) (errString : String)
    (info : Account) {middle : ServerState} (silent : middle.outputs = outputs) :
    AnswersOnce (.login request) con outputs
      (respondLogin middle con errCode errString info) :=
  send ⟨rfl, errCode, errString, info.id, rfl⟩ silent

end AnswersOnce

theorem manage_answersOnce (request : ManagementRequest) :
    AnswersOnce (.management request) con state.outputs (manage md5 state con request ambient) := by
  cases request with
  | listAccount seq filter =>
      simp only [manage, requestListAccount]
      split
      · exact .respondManagement rfl rfl
      · exact .respondManagement rfl rfl
  | addAccount seq account password => exact .respondManagement rfl rfl
  | enableAccount seq account => exact .respondManagement rfl rfl
  | disableAccount seq account =>
      simp only [manage, requestDisableAccount]
      split
      · exact .respondManagement rfl rfl
      · exact .respondManagement rfl rfl
  | deleteAccount seq account =>
      simp only [manage, requestDeleteAccount]
      split
      · exact .respondManagement rfl rfl
      · exact .respondManagement rfl rfl
  | changeAccountPassword seq account password => exact .respondManagement rfl rfl
  | listBlockedIPAddresses seq =>
      simp only [manage, requestListBlockedIPAddresses]
      split
      · exact .crash _ rfl
      · exact .respondManagement rfl rfl
  | removeBlockedIPAddress seq ipAddress => exact .respondManagement rfl rfl
  | addBlockedIPAddress seq ipAddress duration => exact .respondManagement rfl rfl
  | listBlockedAccounts seq =>
      simp only [manage, requestListBlockedAccounts]
      split
      · exact .crash _ rfl
      · exact .respondManagement rfl rfl
  | removeBlockedAccount seq userId => exact .respondManagement rfl rfl
  | addBlockedAccount seq userId duration =>
      simp only [manage, requestAddBlockedAccount]
      split
      · exact .respondManagement rfl rfl
      · exact .respondManagement rfl rfl

theorem handleManagement_answersOnce (request : ManagementRequest) :
    AnswersOnce (.management request) con state.outputs
      (handleManagement md5 state con connection request ambient) := by
  rw [handleManagement]
  split
  · exact .disconnect rfl
  · exact .parse (manage_answersOnce request)

theorem requestLogin_answersOnce (request : LoginRequest) :
    AnswersOnce (.login request) con state.outputs
      (requestLogin md5 state con connection request ambient) := by
  rw [requestLogin]
  split
  · exact .respondLogin _ _ _ rfl
  · split
    · exact .respondLogin _ _ _ rfl
    · refine .parse ?_
      split
      · refine .respondLogin _ _ _ ?_
        split <;> rfl
      · rw [completeLogin]
        split
        · split
          · exact .respondLogin _ _ _ rfl
          · exact .respondLogin _ _ _ (removeRooms_outputs _ _ _)
        · exact .respondLogin _ _ _ rfl

/-! Nothing else looks like an answer. -/

theorem relay_other (source : ConnectionId) (kind : Kind) (tag : UInt32) {body : Body}
    (other : ¬ body.Answers) (viewers : List Viewer) :
    Sends Output.Other state
      (state.relayToViewers source kind { tag := tag, body := body } viewers) :=
  Sends.relayToViewers viewers fun _ => other

theorem usualRequest_other (handler : UsualRequest) (request : FileMessage) :
    Sends Output.Other state (handler.handle state con connection request ambient) := by
  apply Sends.checked
  intro user _ _
  apply Sends.parse
  intro _
  simp only
  split
  · split
    · exact Sends.same rfl
    · split
      · exact Sends.same rfl
      · exact (Sends.refl state).put id
  · split
    · exact Sends.same rfl
    · split
      · exact (Sends.refl state).put id
      · exact relay_other _ _ _ id _

theorem usualResponse_other (handler : UsualResponseHandler) (response : FileMessage) :
    Sends Output.Other state (handler.handle state con connection response ambient) := by
  apply Sends.checked
  intro user _ _
  apply Sends.parse
  intro _
  simp only
  split
  · split
    · exact Sends.same rfl
    · split
      · exact Sends.refl state
      · exact (Sends.refl state).put id
  · split
    · exact Sends.refl state
    · split
      · exact Sends.refl state
      · exact relay_other _ _ _ id _

theorem screenControl_other (control : ScreenControl) (data : List UInt8) :
    Sends Output.Other state (screenVisitorTransferingOnly control state con connection data) := by
  apply Sends.checked
  intro user _ _
  split
  · exact Sends.refl state
  · exact (Sends.refl state).put id

theorem setClipboardText_other (data : List UInt8) :
    Sends Output.Other state (setClipboardText state con connection data) := by
  apply Sends.checked
  intro user _ _
  simp only
  split
  · split
    · exact Sends.same rfl
    · split
      · exact Sends.refl state
      · exact (Sends.refl state).put id
  · split
    · split
      · exact Sends.refl state
      · exact relay_other _ _ _ id _
    · exact Sends.same rfl

theorem publishToScreen_other (tag : UInt32) (data : List UInt8) :
    Sends Output.Other state (publishToScreen tag state con connection data) := by
  apply Sends.checked
  intro user _ _
  split
  · exact Sends.same rfl
  · exact relay_other _ _ _ id _

theorem terminalInput_other (tag : UInt32) (request : TerminalMessage) :
    Sends Output.Other state (terminalInput tag state con connection request ambient) := by
  apply Sends.checked
  intro user _ _
  apply Sends.parse
  intro _
  split
  · exact Sends.same rfl
  · simp only
    split
    · exact Sends.same rfl
    · exact (Sends.refl state).put id

theorem publishTerminalOutput_other (publish : TerminalMessage) :
    Sends Output.Other state (publishTerminalOutput state con connection publish ambient) := by
  apply Sends.checked
  intro user _ _
  apply Sends.parse
  intro _
  split
  · exact Sends.same rfl
  · split
    · exact Sends.refl state
    · exact relay_other _ _ _ id _

theorem kickoutTerminalVisitor_other (terminalId : String) :
    Sends Output.Other state (kickoutTerminalVisitor state con connection terminalId ambient) := by
  apply Sends.checked
  intro user _ _
  apply Sends.parse
  intro _
  split
  · exact Sends.same rfl
  · split
    · exact Sends.same rfl
    · exact Sends.same rfl

theorem requestVisit_other (kind : Kind) (request : VisitRequest) :
    Sends Output.Other state (requestVisit kind state con connection request ambient) := by
  apply Sends.checked
  intro user _ _
  split
  · exact Sends.same rfl
  · apply Sends.parse
    intro _
    split
    · exact Sends.same rfl
    · split
      · exact Sends.same rfl
      · split
        · exact (Sends.refl state).put id
        · exact Sends.same rfl

theorem feedback_other (task : VisitTask) {middle : ServerState} (errCode : Int)
    (errString : String) (response : Option VisitResponse)
    (sends : Sends Output.Other state middle) :
    Sends Output.Other state (task.feedback middle errCode errString response) :=
  sends.put id

theorem handleResponse_other (task : VisitTask) (response : VisitResponse) :
    Sends Output.Other state (task.handleResponse state con response ambient) := by
  simp only [VisitTask.handleResponse]
  split
  · split
    · exact Sends.same rfl
    · split
      · apply feedback_other
        split
        · exact Sends.put id (Sends.same rfl)
        · exact Sends.same rfl
      · apply feedback_other
        simp only [VisitTask.closeRefused]
        split
        · exact (Sends.refl state).put id
        · exact Sends.refl state
  · apply feedback_other
    split
    · exact Sends.same rfl
    · exact Sends.same rfl

theorem responseVisit2_other (kind : Kind) (response : VisitResponse) :
    Sends Output.Other state (responseVisit2 kind state con connection response ambient) := by
  apply Sends.checked
  intro user _ _
  apply Sends.parse
  intro _
  have kept := destroy_outputs state response.taskId response.certificate
  split
  · rename_i task destroyed result
    rw [result] at kept
    split
    · exact (Sends.same kept).trans (handleResponse_other task response)
    · exact Sends.same kept
  · rename_i missed result
    rw [result] at kept
    split
    · exact (Sends.same kept).put id
    · exact Sends.same kept

theorem leaveRoom_other (kind : Kind) (userId : UserId) :
    Sends Output.Other state (leaveRoom state con kind userId) := by
  unfold leaveRoom
  split
  · exact Sends.refl state
  · split
    · simp only
      split
      · exact Sends.same rfl
      · exact Sends.put id (Sends.same rfl)
    · simp only
      split
      · exact Sends.put id (Sends.same rfl)
      · exact Sends.same rfl

theorem cleanUserConnection_other :
    Sends Output.Other state (cleanUserConnection state con connection) := by
  have rooms : Sends Output.Other state (cleanRooms state con connection) := by
    simp only [cleanRooms]
    split
    · exact Sends.refl state
    · split
      · exact Sends.same (closeRooms_outputs _ _ _ _)
      · split
        · split
          · exact Sends.refl state
          · exact leaveRoom_other _ _
        · exact Sends.refl state
  unfold cleanUserConnection
  split
  · exact Sends.same rfl
  · simp only
    split
    · exact rooms
    · exact rooms

theorem executeTask_other (task : VisitTask) :
    Sends Output.Other state (executeTask state task) := by
  simp only [executeTask, VisitTask.execute]
  cases state.rooms task.kind task.partnerUserId with
  | none =>
      have told := feedback_other task Err.targetUnreachable
        (formatError Err.targetUnreachable) none (Sends.refl state)
      exact told.trans (Sends.same rfl)
  | some room =>
      have asked : Sends Output.Other state (state.send room.owner {
          tag := task.kind.request2Tag
          body := .visit2 ((state.userIdOf task.src).getD 0) task.id task.certificate
            task.authString task.width task.height }) := (Sends.refl state).put id
      exact asked.trans (Sends.same rfl)

theorem handle_other {message : ClientMessage} (unasking : message.Asks = false) :
    Sends Output.Other state (handle md5 state con connection message ambient) := by
  cases message with
  | echo seq time =>
      apply Sends.checked
      intro user _ _
      apply Sends.parse
      intro _
      exact (Sends.refl state).put id
  | login request => cases unasking
  | requestVisit kind request => exact requestVisit_other kind request
  | responseVisit2 kind response => exact responseVisit2_other kind response
  | fileRequest which request => exact usualRequest_other which.handler request
  | fileResponse which response => exact usualResponse_other which.handler response
  | screenControl control data => exact screenControl_other control data
  | setClipboardText data => exact setClipboardText_other data
  | publishScreenFrame data => exact publishToScreen_other _ data
  | publishCursorPosition data => exact publishToScreen_other _ data
  | writeCommand request => exact terminalInput_other _ request
  | resizeTerminal request => exact terminalInput_other _ request
  | publishTerminalOutput publish => exact publishTerminalOutput_other publish
  | kickoutTerminalVisitor terminalId => exact kickoutTerminalVisitor_other terminalId
  | management request => cases unasking

theorem handle_answersOnce {message : ClientMessage} (asking : message.Asks = true) :
    AnswersOnce message con state.outputs (handle md5 state con connection message ambient) := by
  cases message with
  | login request => exact requestLogin_answersOnce request
  | management request => exact handleManagement_answersOnce request
  | _ => cases asking

end

theorem serverStep_other {md5 : String → String} {state next : ServerState} {event : Event}
    (stepped : serverStep md5 state event = some next)
    (unasking : ∀ con message ambient, event = .message con message ambient →
      message.Asks = false) : ∀ output ∈ next.outputs, output.Other := by
  obtain ⟨_, happened⟩ := serverStep_some.mp stepped
  have fresh : ∀ {after : ServerState}, Sends Output.Other { state with outputs := [] } after →
      ∀ output ∈ after.outputs, output.Other := by
    intro after sends output sent
    exact (sends output sent).resolve_left List.not_mem_nil
  cases event with
  | message con message ambient =>
      obtain ⟨connection, _, _, _, rfl⟩ := eventStep_message happened
      exact fresh (handle_other (unasking con message ambient rfl))
  | clean con =>
      obtain ⟨connection, _, _, rfl⟩ := eventStep_clean happened
      exact fresh ((Sends.same rfl).trans cleanUserConnection_other)
  | execute taskId =>
      simp only [eventStep] at happened
      split at happened
      · contradiction
      · rename_i task _
        split at happened
        · contradiction
        · cases happened
          exact fresh (executeTask_other task)
  | timeout taskId now =>
      simp only [eventStep] at happened
      split at happened
      · contradiction
      · rename_i task _
        split at happened
        · cases happened
          have told := feedback_other task Err.timeout (formatError Err.timeout) none
            (Sends.refl { state with outputs := [] })
          exact fresh (told.trans (Sends.same rfl))
        · contradiction
  | connect con server peerIP =>
      simp only [eventStep] at happened
      split at happened
      · contradiction
      · cases happened
        exact fresh (Sends.same rfl)
  | disconnect con =>
      cases happened
      exact fresh (Sends.same rfl)
  | removeConnection con =>
      cases happened
      exact fresh (Sends.same rfl)
  | collect taskId =>
      simp only [eventStep] at happened
      split at happened
      · contradiction
      · split at happened
        · cases happened
          exact fresh (Sends.same rfl)
        · contradiction

theorem serverStep_answersOnce {md5 : String → String} {state next : ServerState}
    {con : ConnectionId} {message : ClientMessage} {ambient : Ambient}
    (stepped : serverStep md5 state (.message con message ambient) = some next)
    (asking : message.Asks = true) : AnswersOnce message con [] next := by
  obtain ⟨_, happened⟩ := serverStep_some.mp stepped
  obtain ⟨connection, _, _, _, rfl⟩ := eventStep_message happened
  have fresh : ({ state with outputs := [] } : ServerState).outputs = [] := rfl
  exact fresh ▸ handle_answersOnce asking

end EasyViewer
