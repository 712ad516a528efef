import EasyViewer.SharingEffects

/-!
What the handlers send. Only a relay passes a message on to a guard, through the room of
the sender's target, and only a task's first turn sends out a certificate.
-/

namespace EasyViewer

def Output.packet : Output → Packet
  | .send _ packet => packet
  | .toGuard _ _ _ packet => packet
  | .toVisitor _ _ _ packet => packet

def Body.Asks : Body → Prop
  | .visit2 .. => True
  | _ => False

def Output.Plain (output : Output) : Prop :=
  match output with
  | .toGuard .. => False
  | _ => ¬ output.packet.body.Asks

def Sends (allowed : Output → Prop) (state next : ServerState) : Prop :=
  ∀ output ∈ next.outputs, output ∈ state.outputs ∨ allowed output

namespace Sends

variable {allowed : Output → Prop} {state middle next : ServerState}

theorem same (outputs : next.outputs = state.outputs) : Sends allowed state next := by
  intro output sent
  rw [outputs] at sent
  exact Or.inl sent

theorem refl (state : ServerState) : Sends allowed state state := same rfl

theorem trans (first : Sends allowed state middle) (second : Sends allowed middle next) :
    Sends allowed state next := by
  intro output sent
  rcases second output sent with earlier | isAllowed
  · exact first output earlier
  · exact Or.inr isAllowed

theorem mono {wider : Output → Prop} (sends : Sends allowed state next)
    (follows : ∀ output, allowed output → wider output) : Sends wider state next := by
  intro output sent
  exact (sends output sent).imp_right (follows output)

theorem put {output : Output} (isAllowed : allowed output)
    (sends : Sends allowed state middle) : Sends allowed state (middle.put output) := by
  apply sends.trans
  intro other sent
  rcases List.mem_append.mp sent with earlier | added
  · exact Or.inl earlier
  · rw [List.mem_singleton] at added
    exact Or.inr (added ▸ isAllowed)

theorem checked {con : ConnectionId} {connection : Connection} {roleChecked : Bool}
    {body : Account → ServerState}
    (passed : ∀ user, roleChecked = true → connection.user = some user →
      Sends allowed state (body user)) :
    Sends allowed state (state.checked con connection roleChecked body) :=
  ServerState.checked_elim (same rfl) passed

theorem parse {body : ServerState} {con : ConnectionId} {connection : Connection}
    {ambient : Ambient} (readable : ambient.readable = true → Sends allowed state body) :
    Sends allowed state (state.parse con connection ambient body) :=
  ServerState.parse_elim (same rfl) readable

theorem relayToViewers {source : ConnectionId} {kind : Kind} {packet : Packet}
    (viewers : List Viewer) (isAllowed : ∀ target, allowed (.toVisitor source target kind packet)) :
    Sends allowed state (state.relayToViewers source kind packet viewers) := by
  induction viewers generalizing state with
  | nil => exact refl state
  | cons viewer viewers ih => exact ((refl state).put (isAllowed viewer.con)).trans ih

end Sends

section

variable (md5 : String → String)

/-- The way of a message of an unchecked kind: the room that its sender's target has, if the
handler passes it on there. A screen control is not asked for a target. -/
def visitorRelay (state : ServerState) (connection : Connection) (message : ClientMessage)
    (ambient : Ambient) : Option Kind :=
  let file : UInt32 → Option Kind := fun checkRole =>
    if roleAllowed connection.role checkRole ∧ ambient.readable ∧
        ¬ Role.has connection.role Role.flagGuard ∧ connection.targetUserId ≠ 0 then
      some .fileTransmission
    else none
  let addressed : Option Kind :=
    match message with
    | .fileRequest which _ => file which.handler.checkRole
    | .fileResponse which _ => file which.handler.checkRole
    | .screenControl _ _ => if connection.role = Role.screenVisitor then some .screen else none
    | .setClipboardText _ =>
        if Role.has connection.role Role.flagVisitor ∧ connection.targetUserId ≠ 0 then some .screen
        else none
    | _ => none
  addressed.filter fun kind =>
    connection.user.isSome && (state.rooms kind connection.targetUserId).isSome

/-- What a message makes the server pass on to a guard. -/
def PassesOn (state : ServerState) (con : ConnectionId) (connection : Connection)
    (message : ClientMessage) (ambient : Ambient) (output : Output) : Prop :=
  ∃ kind room packet, output = .toGuard con room.owner kind packet ∧ ¬ packet.body.Asks ∧
    state.rooms kind connection.targetUserId = some room ∧
    (visitorRelay state connection message ambient = some kind ∨
      kind = .terminal ∧ room.holds con = true)

variable {state : ServerState} {con : ConnectionId} {connection : Connection} {ambient : Ambient}

theorem getTerminalId_holds {room : Room} {con : ConnectionId}
    (named : (TerminalSharingRoom.getTerminalId room con).isEmpty = false) :
    room.holds con = true := by
  simp only [TerminalSharingRoom.getTerminalId] at named
  split at named
  · contradiction
  · rename_i viewer found
    rw [Room.holds_iff]
    exact ⟨viewer, List.mem_of_find?_eq_some found, by simpa using List.find?_some found⟩

theorem usualRequest_sends (which : FileRequest) (request : FileMessage) :
    Sends (fun output => output.Plain ∨
        PassesOn state con connection (.fileRequest which request) ambient output) state
      (which.handler.handle state con connection request ambient) := by
  apply Sends.checked
  intro user role bound
  apply Sends.parse
  intro readable
  simp only
  split
  · rename_i notGuard
    split
    · exact Sends.same rfl
    · rename_i targeted
      split
      · exact Sends.same rfl
      · rename_i room stands
        refine (Sends.refl state).put (Or.inr ⟨.fileTransmission, room, _, rfl, id, stands, ?_⟩)
        left
        simp only [visitorRelay]
        rw [if_pos ⟨role, readable, notGuard, targeted⟩, Option.filter_some, bound, stands]
        rfl
  · split
    · exact Sends.same rfl
    · split
      · exact (Sends.refl state).put (Or.inl id)
      · exact Sends.relayToViewers _ fun _ => Or.inl id

theorem usualResponse_sends (which : FileResponse) (response : FileMessage) :
    Sends (fun output => output.Plain ∨
        PassesOn state con connection (.fileResponse which response) ambient output) state
      (which.handler.handle state con connection response ambient) := by
  apply Sends.checked
  intro user role bound
  apply Sends.parse
  intro readable
  simp only
  split
  · rename_i notGuard
    split
    · exact Sends.same rfl
    · rename_i targeted
      split
      · exact Sends.refl state
      · rename_i room stands
        refine (Sends.refl state).put (Or.inr ⟨.fileTransmission, room, _, rfl, id, stands, ?_⟩)
        left
        simp only [visitorRelay]
        rw [if_pos ⟨role, readable, notGuard, targeted⟩, Option.filter_some, bound, stands]
        rfl
  · split
    · exact Sends.refl state
    · split
      · exact Sends.refl state
      · exact Sends.relayToViewers _ fun _ => Or.inl id

theorem screenControl_sends (control : ScreenControl) (data : List UInt8) :
    Sends (fun output => output.Plain ∨
        PassesOn state con connection (.screenControl control data) ambient output) state
      (screenVisitorTransferingOnly control state con connection data) := by
  apply Sends.checked
  intro user role bound
  split
  · exact Sends.refl state
  · rename_i room stands
    refine (Sends.refl state).put (Or.inr ⟨.screen, room, _, rfl, id, stands, ?_⟩)
    left
    simp only [visitorRelay]
    rw [if_pos (by simpa using role), Option.filter_some, bound, stands]
    rfl

theorem setClipboardText_sends (data : List UInt8) :
    Sends (fun output => output.Plain ∨
        PassesOn state con connection (.setClipboardText data) ambient output) state
      (setClipboardText state con connection data) := by
  apply Sends.checked
  intro user _ bound
  simp only
  split
  · rename_i visitor
    split
    · exact Sends.same rfl
    · rename_i targeted
      split
      · exact Sends.refl state
      · rename_i room stands
        refine (Sends.refl state).put (Or.inr ⟨.screen, room, _, rfl, id, stands, ?_⟩)
        left
        simp only [visitorRelay]
        rw [if_pos ⟨visitor, targeted⟩, Option.filter_some, bound, stands]
        rfl
  · split
    · split
      · exact Sends.refl state
      · exact Sends.relayToViewers _ fun _ => Or.inl id
    · exact Sends.same rfl

theorem terminalInput_sends (tag : UInt32) (message : ClientMessage) (request : TerminalMessage) :
    Sends (fun output => output.Plain ∨ PassesOn state con connection message ambient output) state
      (terminalInput tag state con connection request ambient) := by
  apply Sends.checked
  intro user _ _
  apply Sends.parse
  intro _
  split
  · exact Sends.same rfl
  · rename_i room stands
    simp only
    split
    · exact Sends.same rfl
    · rename_i named
      have held := getTerminalId_holds (Bool.eq_false_of_not_eq_true named)
      exact (Sends.refl state).put
        (Or.inr ⟨.terminal, room, _, rfl, id, stands, Or.inr ⟨rfl, held⟩⟩)

theorem publishToScreen_sends (tag : UInt32) (data : List UInt8) :
    Sends Output.Plain state (publishToScreen tag state con connection data) := by
  apply Sends.checked
  intro user _ _
  split
  · exact Sends.same rfl
  · exact Sends.relayToViewers _ fun _ => id

theorem publishTerminalOutput_sends (publish : TerminalMessage) :
    Sends Output.Plain state (publishTerminalOutput state con connection publish ambient) := by
  apply Sends.checked
  intro user _ _
  apply Sends.parse
  intro _
  split
  · exact Sends.same rfl
  · split
    · exact Sends.refl state
    · exact Sends.relayToViewers _ fun _ => id

theorem kickoutTerminalVisitor_sends (terminalId : String) :
    Sends Output.Plain state
      (kickoutTerminalVisitor state con connection terminalId ambient) := by
  apply Sends.checked
  intro user _ _
  apply Sends.parse
  intro _
  split
  · exact Sends.same rfl
  · split <;> exact Sends.same rfl

theorem requestEcho_sends (seq time : Int) :
    Sends Output.Plain state (requestEcho state con connection seq time ambient) := by
  apply Sends.checked
  intro user _ _
  apply Sends.parse
  intro _
  exact (Sends.refl state).put id

theorem removeRooms_outputs (userId : UserId) (kinds : List Kind) (state : ServerState) :
    (removeRooms userId kinds state).outputs = state.outputs := by
  induction kinds generalizing state with
  | nil => rfl
  | cons kind kinds ih =>
      rw [removeRooms, ih]
      simp only [ServerState.removeRoom]
      split <;> rfl

theorem requestLogin_sends (request : LoginRequest) :
    Sends Output.Plain state (requestLogin md5 state con connection request ambient) := by
  unfold requestLogin
  split
  · exact (Sends.refl state).put id
  · split
    · exact (Sends.refl state).put id
    · apply Sends.parse
      intro _
      split
      · simp only
        refine Sends.put id (Sends.same ?_)
        split <;> rfl
      · simp only [completeLogin]
        split
        · split
          · exact Sends.put id (Sends.same rfl)
          · exact Sends.put id (Sends.same (removeRooms_outputs _ _ _))
        · exact Sends.put id (Sends.same rfl)

theorem requestVisit_sends (kind : Kind) (request : VisitRequest) :
    Sends Output.Plain state (requestVisit kind state con connection request ambient) := by
  apply Sends.checked
  intro user _ _
  split
  · exact Sends.same rfl
  · apply Sends.parse
    intro _
    split
    · exact Sends.same rfl
    · split
      · exact Sends.same rfl
      · split
        · exact (Sends.refl state).put id
        · exact Sends.same rfl

theorem feedback_sends (task : VisitTask) {middle : ServerState} (errCode : Int)
    (errString : String) (response : Option VisitResponse)
    (sends : Sends Output.Plain state middle) :
    Sends Output.Plain state (task.feedback middle errCode errString response) :=
  sends.put id

theorem handleResponse_sends (task : VisitTask) (response : VisitResponse) :
    Sends Output.Plain state (task.handleResponse state con response ambient) := by
  simp only [VisitTask.handleResponse]
  split
  · split
    · exact Sends.same rfl
    · split
      · apply feedback_sends
        split
        · exact Sends.put id (Sends.same rfl)
        · exact Sends.same rfl
      · apply feedback_sends
        simp only [VisitTask.closeRefused]
        split
        · exact (Sends.refl state).put id
        · exact Sends.refl state
  · apply feedback_sends
    split <;> exact Sends.same rfl

theorem destroy_outputs (state : ServerState) (taskId : Nat) (certificate : UInt32) :
    (state.destroy taskId certificate).2.outputs = state.outputs := by
  simp only [ServerState.destroy]
  split
  · rfl
  · split <;> rfl

theorem responseVisit2_sends (kind : Kind) (response : VisitResponse) :
    Sends Output.Plain state (responseVisit2 kind state con connection response ambient) := by
  apply Sends.checked
  intro user _ _
  apply Sends.parse
  intro _
  have kept := destroy_outputs state response.taskId response.certificate
  split
  · rename_i task destroyed result
    rw [result] at kept
    split
    · exact (Sends.same kept).trans (handleResponse_sends task response)
    · exact Sends.same kept
  · rename_i missed result
    rw [result] at kept
    split
    · exact (Sends.same kept).put id
    · exact Sends.same kept

theorem manage_sends (request : ManagementRequest) :
    Sends Output.Plain state (manage md5 state con request ambient) := by
  cases request with
  | listAccount seq filter =>
      simp only [manage, requestListAccount]
      split <;> exact (Sends.refl state).put id
  | addAccount seq account password => exact Sends.put id (Sends.same rfl)
  | enableAccount seq account => exact Sends.put id (Sends.same rfl)
  | disableAccount seq account =>
      simp only [manage, requestDisableAccount]
      split <;> exact Sends.put id (Sends.same rfl)
  | deleteAccount seq account =>
      simp only [manage, requestDeleteAccount]
      split <;> exact Sends.put id (Sends.same rfl)
  | changeAccountPassword seq account password => exact Sends.put id (Sends.same rfl)
  | listBlockedIPAddresses seq =>
      simp only [manage, requestListBlockedIPAddresses]
      split
      · exact Sends.same rfl
      · exact (Sends.refl state).put id
  | removeBlockedIPAddress seq ipAddress => exact Sends.put id (Sends.same rfl)
  | addBlockedIPAddress seq ipAddress duration => exact Sends.put id (Sends.same rfl)
  | listBlockedAccounts seq =>
      simp only [manage, requestListBlockedAccounts]
      split
      · exact Sends.same rfl
      · exact (Sends.refl state).put id
  | removeBlockedAccount seq userId => exact Sends.put id (Sends.same rfl)
  | addBlockedAccount seq userId duration =>
      simp only [manage, requestAddBlockedAccount]
      split
      · exact (Sends.refl state).put id
      · exact Sends.put id (Sends.same rfl)

theorem handleManagement_sends (request : ManagementRequest) :
    Sends Output.Plain state (handleManagement md5 state con connection request ambient) := by
  simp only [handleManagement]
  split
  · exact Sends.same rfl
  · exact Sends.parse fun _ => manage_sends md5 request

theorem handle_sends (message : ClientMessage) :
    Sends (fun output => output.Plain ∨ PassesOn state con connection message ambient output) state
      (handle md5 state con connection message ambient) := by
  have plain : ∀ next, Sends Output.Plain state next →
      Sends (fun output => output.Plain ∨ PassesOn state con connection message ambient output)
        state next := fun next sends => sends.mono fun _ => Or.inl
  cases message with
  | echo seq time => exact plain _ (requestEcho_sends seq time)
  | login request => exact plain _ (requestLogin_sends md5 request)
  | requestVisit kind request => exact plain _ (requestVisit_sends kind request)
  | responseVisit2 kind response => exact plain _ (responseVisit2_sends kind response)
  | fileRequest which request => exact usualRequest_sends which request
  | fileResponse which response => exact usualResponse_sends which response
  | screenControl control data => exact screenControl_sends control data
  | setClipboardText data => exact setClipboardText_sends data
  | publishScreenFrame data => exact plain _ (publishToScreen_sends _ data)
  | publishCursorPosition data => exact plain _ (publishToScreen_sends _ data)
  | writeCommand request => exact terminalInput_sends _ _ request
  | resizeTerminal request => exact terminalInput_sends _ _ request
  | publishTerminalOutput publish => exact plain _ (publishTerminalOutput_sends publish)
  | kickoutTerminalVisitor terminalId => exact plain _ (kickoutTerminalVisitor_sends terminalId)
  | management request => exact plain _ (handleManagement_sends md5 request)

variable {md5}

theorem leaveRoom_sends (kind : Kind) (userId : UserId) :
    Sends Output.Plain state (leaveRoom state con kind userId) := by
  unfold leaveRoom
  split
  · exact Sends.refl state
  · split
    · simp only
      split
      · exact Sends.same rfl
      · exact Sends.put id (Sends.same rfl)
    · simp only
      split
      · exact Sends.put id (Sends.same rfl)
      · exact Sends.same rfl

theorem closeRooms_outputs (role : UInt32) (userId : UserId) (kinds : List Kind)
    (state : ServerState) : (closeRooms role userId kinds state).outputs = state.outputs := by
  induction kinds generalizing state with
  | nil => rfl
  | cons kind kinds ih =>
      simp only [closeRooms]
      split
      · split
        · rfl
        · rw [ih]
          simp only [ServerState.removeRoom]
          split <;> rfl
      · exact ih state

theorem cleanUserConnection_sends :
    Sends Output.Plain state (cleanUserConnection state con connection) := by
  have rooms : Sends Output.Plain state (cleanRooms state con connection) := by
    simp only [cleanRooms]
    split
    · exact Sends.refl state
    · split
      · exact Sends.same (closeRooms_outputs _ _ _ _)
      · split
        · split
          · exact Sends.refl state
          · exact leaveRoom_sends _ _
        · exact Sends.refl state
  unfold cleanUserConnection
  split
  · exact Sends.same rfl
  · simp only
    split
    · exact rooms
    · exact rooms

def AsksOwner (state : ServerState) (task : VisitTask) (output : Output) : Prop :=
  ∃ room userId, state.rooms task.kind task.partnerUserId = some room ∧
    output = .send room.owner {
      tag := task.kind.request2Tag
      body := .visit2 userId task.id task.certificate task.authString task.width task.height }

theorem executeTask_sends (task : VisitTask) :
    Sends (fun output => output.Plain ∨ AsksOwner state task output) state
      (executeTask state task) := by
  simp only [executeTask, VisitTask.execute]
  cases stands : state.rooms task.kind task.partnerUserId with
  | none =>
      have told := feedback_sends task Err.targetUnreachable
        (formatError Err.targetUnreachable) none (Sends.refl state)
      exact (told.trans (Sends.same rfl)).mono fun _ => Or.inl
  | some room =>
      have asked : AsksOwner state task (.send room.owner {
          tag := task.kind.request2Tag
          body := .visit2 ((state.userIdOf task.src).getD 0) task.id task.certificate
            task.authString task.width task.height }) := ⟨room, _, stands, rfl⟩
      exact (Sends.put (Or.inr asked) (Sends.refl state)).trans (Sends.same rfl)

/-- What a step sends: its own answers, what it passes on, and what a task asks. -/
theorem serverStep_outputs {next : ServerState} {event : Event} {output : Output}
    (stepped : serverStep md5 state event = some next) (sent : output ∈ next.outputs) :
    output.Plain ∨
      (∃ con message ambient connection, event = .message con message ambient ∧
        state.connections con = some connection ∧
        PassesOn state con connection message ambient output) ∨
      ∃ taskId task, event = .execute taskId ∧ state.findTask taskId = some task ∧
        AsksOwner state task output := by
  obtain ⟨_, happened⟩ := serverStep_some.mp stepped
  cases event with
  | message con message ambient =>
      obtain ⟨connection, known, _, _, rfl⟩ := eventStep_message happened
      rcases handle_sends md5 message output sent with earlier | plain | passes
      · contradiction
      · exact Or.inl plain
      · exact Or.inr (Or.inl ⟨con, message, ambient, connection, rfl, known, passes⟩)
  | clean con =>
      obtain ⟨connection, known, _, rfl⟩ := eventStep_clean happened
      rcases cleanUserConnection_sends output sent with earlier | plain
      · contradiction
      · exact Or.inl plain
  | execute taskId =>
      simp only [eventStep] at happened
      split at happened
      · contradiction
      · rename_i task found
        split at happened
        · contradiction
        · cases happened
          rcases executeTask_sends task output sent with earlier | plain | asks
          · contradiction
          · exact Or.inl plain
          · exact Or.inr (Or.inr ⟨taskId, task, rfl, found, asks⟩)
  | timeout taskId now =>
      simp only [eventStep] at happened
      split at happened
      · contradiction
      · rename_i task found
        split at happened
        · cases happened
          have told : Sends Output.Plain { state with outputs := [] }
              (timeoutTask { state with outputs := [] } task) :=
            (feedback_sends task Err.timeout (formatError Err.timeout) none (Sends.refl _)).trans
              (Sends.same rfl)
          rcases told output sent with earlier | plain
          · contradiction
          · exact Or.inl plain
        · contradiction
  | connect con server peerIP =>
      simp only [eventStep] at happened
      split at happened
      · contradiction
      · cases happened
        contradiction
  | disconnect con =>
      cases happened
      contradiction
  | removeConnection con =>
      cases happened
      contradiction
  | collect taskId =>
      simp only [eventStep] at happened
      split at happened
      · contradiction
      · split at happened
        · cases happened
          contradiction
        · contradiction

end

end EasyViewer
