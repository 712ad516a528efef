import EasyViewer.ServerEffects
import Mathlib.Data.List.Induction

/-!
What a step of the servers does, event by event: which change of the rooms it is, which
connections and tasks it leaves as they were, and what follows for whole runs.
-/

namespace EasyViewer

section

variable (md5 : String → String)

def messageChange (state : ServerState) (con : ConnectionId) (connection : Connection)
    (message : ClientMessage) (ambient : Ambient) : RoomChange :=
  match message with
  | .login request => loginChange md5 state con connection request ambient
  | .responseVisit2 kind response =>
      match admission kind state connection response ambient with
      | none => .keep
      | some task =>
          .letIn task.kind task.partnerUserId (task.kind.viewer task.src response.terminalId)
  | _ => .keep

/-- The change of the rooms that an event stands for, read off the state before it. -/
def roomChange (state : ServerState) (event : Event) : RoomChange :=
  match event with
  | .message con message ambient =>
      match state.connections con with
      | none => .keep
      | some connection => messageChange md5 state con connection message ambient
  | .clean con =>
      match state.connections con with
      | none => .keep
      | some connection => cleanChange con connection
  | _ => .keep

def roomHistory : ServerState → List Event → List RoomChange
  | _, [] => []
  | state, event :: events =>
      match serverStep md5 state event with
      | none => []
      | some next => roomChange md5 state event :: roomHistory next events

theorem handle_rooms (state : ServerState) (con : ConnectionId) (connection : Connection)
    (message : ClientMessage) (ambient : Ambient) :
    (handle md5 state con connection message ambient).rooms =
      (messageChange md5 state con connection message ambient).apply state.rooms := by
  by_cases quiet : message.Quiet
  · rw [(handle_quiet md5 quiet).rooms]
    cases message <;> first | rfl | contradiction
  · cases message with
    | login request =>
        simp only [messageChange, loginChange]
        cases attempt : loginAttempt md5 state connection request ambient with
        | none => exact (requestLogin_refused md5 attempt).rooms
        | some info =>
            have completed := requestLogin_attempt md5 con attempt
            cases granted : loginGranted state info request.role with
            | true =>
                obtain ⟨rooms, made, result⟩ :=
                  completeLogin_granted con connection request.secretKey granted
                have after : (handle md5 state con connection (.login request) ambient).rooms =
                    rooms := by
                  simp only [handle]
                  rw [completed, result]
                  rfl
                rw [after, made]
                simp only [granted, not_true_eq_false, if_false]
                split <;> rfl
            | false =>
                have rooms := (completeLogin_rolledBack con connection request.secretKey granted).2
                rw [← completed] at rooms
                simp only [granted, Bool.false_eq_true, not_false_eq_true, if_true]
                exact rooms
    | responseVisit2 kind response =>
        simp only [handle, messageChange]
        rw [responseVisit2_rooms]
        cases admission kind state connection response ambient <;> rfl
    | requestVisit kind request =>
        rcases handle_effect md5 state con connection (.requestVisit kind request) ambient with
          frame | _ | _ | ⟨_, _, result⟩ | _ | _
        · exact frame.rooms
        · contradiction
        · contradiction
        · rw [result]
          rfl
        · contradiction
        · contradiction
    | management request =>
        exact (handleManagement_frame md5 state con connection request ambient).rooms
    | _ => exact absurd trivial quiet

variable {md5}

theorem messageChange_valid {state : ServerState} {con : ConnectionId} {connection : Connection}
    {message : ClientMessage} {ambient : Ambient} :
    (messageChange md5 state con connection message ambient).Valid state.rooms := by
  cases message with
  | login request =>
      simp only [messageChange, loginChange]
      split
      · trivial
      · split
        · trivial
        · split <;> trivial
  | responseVisit2 kind response =>
      simp only [messageChange]
      split
      · trivial
      · rename_i task admitted
        have lets := (Option.filter_eq_some_iff.mp admitted).2
        rw [Bool.and_eq_true] at lets
        obtain ⟨_, room, registered, _⟩ := VisitTask.letsIn_room lets.2
        exact ⟨room, registered⟩
  | _ => trivial

theorem cleanChange_valid {rooms : Rooms} {con : ConnectionId} {connection : Connection} :
    (cleanChange con connection).Valid rooms := by
  simp only [cleanChange]
  split
  · split
    · trivial
    · split
      · split <;> trivial
      · trivial
  · trivial

theorem roomChange_valid (state : ServerState) (event : Event) :
    (roomChange md5 state event).Valid state.rooms := by
  simp only [roomChange]
  split
  · split
    · trivial
    · exact messageChange_valid
  · split
    · trivial
    · exact cleanChange_valid
  · trivial

theorem serverStep_some {state next : ServerState} {event : Event} :
    serverStep md5 state event = some next ↔
      state.fault = none ∧ eventStep md5 { state with outputs := [] } event = some next := by
  simp only [serverStep]
  split
  · rename_i faulty
    constructor
    · intro stepped
      contradiction
    · rintro ⟨running, _⟩
      rw [running] at faulty
      contradiction
  · rename_i running
    have none : state.fault = none := by simpa using running
    exact ⟨fun stepped => ⟨none, stepped⟩, fun stepped => stepped.2⟩

theorem eventStep_message {state next : ServerState} {con : ConnectionId} {message : ClientMessage}
    {ambient : Ambient} (stepped : eventStep md5 state (.message con message ambient) = some next) :
    ∃ connection, state.connections con = some connection ∧ state.cleaned con = false ∧
      receivedDataHandlerFactory connection.server message.tag = true ∧
      next = handle md5 state con connection message ambient := by
  simp only [eventStep] at stepped
  split at stepped
  · contradiction
  · rename_i connection registered
    split at stepped
    · rename_i allowed
      cases stepped
      exact ⟨connection, registered, by simpa using allowed.1, allowed.2, rfl⟩
    · contradiction

theorem eventStep_clean {state next : ServerState} {con : ConnectionId}
    (stepped : eventStep md5 state (.clean con) = some next) :
    ∃ connection, state.connections con = some connection ∧ state.cleaned con = false ∧
      next = cleanUserConnection { state with cleaned := updateAt state.cleaned con true } con
        connection := by
  simp only [eventStep] at stepped
  split at stepped
  · contradiction
  · rename_i connection registered
    split at stepped
    · contradiction
    · rename_i dirty
      cases stepped
      exact ⟨connection, registered, by simpa using dirty, rfl⟩

theorem executeTask_cases (state : ServerState) (task : VisitTask) :
    ServerFrame { state with tasks := (state.eraseTask task.id).tasks } (executeTask state task) ∨
      (∃ room, state.rooms task.kind task.partnerUserId = some room) ∧
        ServerFrame (state.setTask task.id fun task => { task with executed := true })
          (executeTask state task) := by
  simp only [executeTask, VisitTask.execute]
  cases registered : state.rooms task.kind task.partnerUserId with
  | none => exact Or.inl ⟨⟨rfl, rfl, rfl, rfl, rfl, rfl⟩, rfl⟩
  | some room => exact Or.inr ⟨⟨room, rfl⟩, ⟨⟨rfl, rfl, rfl, rfl, rfl, rfl⟩, rfl⟩⟩

def Event.OfTask : Event → Prop
  | .execute _ | .timeout _ _ | .collect _ => True
  | _ => False

theorem eventStep_task {state next : ServerState} {event : Event} (ofTask : event.OfTask)
    (stepped : eventStep md5 state event = some next) :
    ServerFrame { state with tasks := next.tasks } next ∧ ∃ taskId,
      next.tasks = (state.eraseTask taskId).tasks ∨
      next.tasks = (state.setTask taskId fun task => { task with executed := true }).tasks := by
  cases event with
  | execute taskId =>
      simp only [eventStep] at stepped
      split at stepped
      · contradiction
      · rename_i task found
        split at stepped
        · contradiction
        · cases stepped
          rcases executeTask_cases state task with frame | ⟨_, frame⟩
          · exact ⟨⟨⟨frame.connections, frame.connected, frame.cleaned, rfl, frame.nextTaskId,
              frame.accountManager⟩, frame.rooms⟩, task.id, Or.inl frame.tasks⟩
          · exact ⟨⟨⟨frame.connections, frame.connected, frame.cleaned, rfl, frame.nextTaskId,
              frame.accountManager⟩, frame.rooms⟩, task.id, Or.inr frame.tasks⟩
  | timeout taskId now =>
      simp only [eventStep] at stepped
      split at stepped
      · contradiction
      · rename_i task found
        split at stepped
        · cases stepped
          exact ⟨⟨⟨rfl, rfl, rfl, rfl, rfl, rfl⟩, rfl⟩, task.id, Or.inl rfl⟩
        · contradiction
  | collect taskId =>
      simp only [eventStep] at stepped
      split at stepped
      · contradiction
      · split at stepped
        · cases stepped
          exact ⟨⟨⟨rfl, rfl, rfl, rfl, rfl, rfl⟩, rfl⟩, taskId, Or.inl rfl⟩
        · contradiction
  | _ => contradiction

theorem messageChange_outputs (state : ServerState) (outputs : List Output) (con : ConnectionId)
    (connection : Connection) (message : ClientMessage) (ambient : Ambient) :
    messageChange md5 { state with outputs := outputs } con connection message ambient =
      messageChange md5 state con connection message ambient := by
  cases message <;> rfl

/-- Every step of a server that goes on is one change of the rooms. -/
theorem serverStep_rooms {state next : ServerState} {event : Event}
    (stepped : serverStep md5 state event = some next) (runs : next.fault = none) :
    next.rooms = (roomChange md5 state event).apply state.rooms := by
  obtain ⟨running, happened⟩ := serverStep_some.mp stepped
  cases event with
  | message con message ambient =>
      obtain ⟨connection, registered, _, _, rfl⟩ := eventStep_message happened
      have known : state.connections con = some connection := registered
      simp only [roomChange, known]
      rw [handle_rooms, messageChange_outputs]
  | clean con =>
      obtain ⟨connection, registered, _, rfl⟩ := eventStep_clean happened
      have known : state.connections con = some connection := registered
      simp only [roomChange, known]
      exact cleanUserConnection_rooms running runs
  | connect con server peerIP =>
      simp only [eventStep] at happened
      split at happened
      · contradiction
      · cases happened
        rfl
  | disconnect con =>
      cases happened
      rfl
  | removeConnection con =>
      cases happened
      rfl
  | execute taskId =>
      have ofTask : Event.OfTask (.execute taskId) := trivial
      exact (eventStep_task ofTask happened).1.rooms
  | timeout taskId now =>
      have ofTask : Event.OfTask (.timeout taskId now) := trivial
      exact (eventStep_task ofTask happened).1.rooms
  | collect taskId =>
      have ofTask : Event.OfTask (.collect taskId) := trivial
      exact (eventStep_task ofTask happened).1.rooms

theorem run_running {state final : ServerState} {events : List Event}
    (ran : Transition.run (serverStep md5) state events = some final) (runs : final.fault = none) :
    state.fault = none := by
  cases events with
  | nil =>
      simp only [Transition.run, Option.some.injEq] at ran
      rw [ran]
      exact runs
  | cons event events =>
      obtain ⟨next, stepped, _⟩ := (Transition.run_cons _).mp ran
      exact (serverStep_some.mp stepped).1

theorem roomHistory_step {state final next : ServerState} {events : List Event} {event : Event}
    (ran : Transition.run (serverStep md5) state events = some final)
    (stepped : serverStep md5 final event = some next) :
    roomHistory md5 state (events ++ [event]) =
      roomHistory md5 state events ++ [roomChange md5 final event] := by
  induction events generalizing state with
  | nil =>
      simp only [Transition.run, Option.some.injEq] at ran
      subst ran
      simp [roomHistory, stepped]
  | cons first events ih =>
      obtain ⟨middle, begun, rest⟩ := (Transition.run_cons _).mp ran
      simp only [List.cons_append, roomHistory, begun]
      exact congrArg (roomChange md5 state first :: ·) (ih rest)

/-- In every state that a run from the start reaches, the viewers are those whose visit was
accepted and has not ended since. -/
theorem member_iff_accepted {accountManager : AccountManager} {state : ServerState}
    {events : List Event}
    (ran : Transition.run (serverStep md5) (initialServer accountManager) events = some state)
    (runs : state.fault = none) (kind : Kind) (userId : UserId) (con : ConnectionId) :
    Member state.rooms kind userId con ↔
      Accepted (roomHistory md5 (initialServer accountManager) events) kind userId con := by
  induction events using List.reverseRecOn generalizing state kind userId con with
  | nil =>
      simp only [Transition.run, Option.some.injEq] at ran
      subst ran
      constructor
      · rintro ⟨room, registered, _⟩
        contradiction
      · rintro ⟨before, change, after, split, _⟩
        exact absurd split (by simp [roomHistory])
  | append_singleton events event ih =>
      obtain ⟨middle, before, after⟩ := (Transition.run_append _).mp ran
      obtain ⟨next, stepped, done⟩ := (Transition.run_cons _).mp after
      simp only [Transition.run, Option.some.injEq] at done
      subst done
      rw [roomHistory_step before stepped, serverStep_rooms stepped runs]
      exact accepted_step (roomChange_valid middle event)
        (ih before (serverStep_some.mp stepped).1) kind userId con

end

end EasyViewer
