import EasyViewer.RoomAgreement

/-!
Two requests that cannot be granted. A refused login should leave rooms and bindings alone,
and a file request whose guard has no room should be answered; the roll-back of the one and
the missing exit of the other decide when they are.
-/

namespace EasyViewer

def LoginFails (con : ConnectionId) (after : ServerState) : Prop :=
  ∃ errCode errString userId, errCode ≠ Err.noError ∧
    .send con { tag := Tag.responseLogin, body := .login errCode errString userId } ∈ after.outputs

section

variable {md5 : String → String} {state after : ServerState} {con : ConnectionId}
  {connection : Connection} {ambient : Ambient}

/-- The login passes all checks, and a kind of room that it asks for as a guard is taken. -/
def MeetsRoom (md5 : String → String) (state : ServerState) (connection : Connection)
    (request : LoginRequest) (ambient : Ambient) : Prop :=
  ∃ info, loginAttempt md5 state connection request ambient = some info ∧
    Role.has request.role Role.flagGuard = true ∧
      ∃ kind room, Role.has request.role kind.flag = true ∧ state.rooms kind info.id = some room

theorem loginGranted_eq_false {info : Account} {role : UInt32} :
    loginGranted state info role = false ↔ Role.has role Role.flagGuard = true ∧
      ∃ kind room, Role.has role kind.flag = true ∧ state.rooms kind info.id = some room := by
  simp only [loginGranted, registeredAny, Bool.not_eq_false', Bool.and_eq_true, List.any_eq_true,
    Option.isSome_iff_exists, Kind.mem_all, true_and]
  constructor
  · rintro ⟨isGuard, kind, flagged, room, stands⟩
    exact ⟨isGuard, kind, room, flagged, stands⟩
  · rintro ⟨isGuard, kind, room, flagged, stands⟩
    exact ⟨isGuard, kind, flagged, room, stands⟩

theorem meetsRoom_iff {request : LoginRequest} {info : Account}
    (attempt : loginAttempt md5 state connection request ambient = some info) :
    MeetsRoom md5 state connection request ambient ↔
      loginGranted state info request.role = false := by
  rw [loginGranted_eq_false]
  constructor
  · rintro ⟨other, passed, meets⟩
    rw [attempt] at passed
    cases passed
    exact meets
  · exact fun meets => ⟨info, attempt, meets⟩

theorem not_loginFails_granted {request : LoginRequest} {info : Account}
    (silent : state.outputs = [])
    (attempt : loginAttempt md5 state connection request ambient = some info)
    (granted : loginGranted state info request.role = true) :
    ¬ LoginFails con (requestLogin md5 state con connection request ambient) := by
  rintro ⟨errCode, errString, userId, isError, sent⟩
  obtain ⟨_, _, result⟩ := completeLogin_granted con connection request.secretKey granted
  rw [requestLogin_attempt md5 con attempt, result] at sent
  simp [respondLogin, bindUser, ServerState.send, ServerState.put, ServerState.setConnection,
    silent] at sent
  exact isError sent.1

theorem rooms_rolledBack (con : ConnectionId) (connection : Connection) {info : Account}
    {role : UInt32} (secretKey : String) (refused : loginGranted state info role = false) :
    (completeLogin state con connection info role secretKey).rooms ≠ state.rooms := by
  obtain ⟨_, kind, room, _, stands⟩ := loginGranted_eq_false.mp refused
  rw [(completeLogin_rolledBack con connection secretKey refused).2]
  intro same
  have here := congrFun (congrFun same kind) info.id
  simp [RoomChange.apply, stands] at here

/-- A login answered with an error leaves rooms, users, roles and keys as they were, unless it
got as far as the rooms and found one of its own taken. -/
theorem failedLogin_keeps_state_iff {request : LoginRequest}
    (registered : state.connections con = some connection)
    (stepped : serverStep md5 state (.message con (.login request) ambient) = some after)
    (failed : LoginFails con after) :
    (after.rooms = state.rooms ∧ after.connections = state.connections) ↔
      ¬ MeetsRoom md5 state connection request ambient := by
  obtain ⟨_, happened⟩ := serverStep_some.mp stepped
  obtain ⟨other, known, _, _, result⟩ := eventStep_message happened
  have same : connection = other := Option.some.inj (registered.symm.trans known)
  subst same
  simp only [handle] at result
  cases attempt : loginAttempt md5 { state with outputs := [] } connection request ambient with
  | none =>
      have frame : ServerFrame { state with outputs := [] } after :=
        result ▸ requestLogin_refused md5 attempt
      refine iff_of_true ⟨frame.rooms, frame.connections⟩ ?_
      rintro ⟨info, passed, _⟩
      have clash := attempt.symm.trans passed
      contradiction
  | some info =>
      have meets : MeetsRoom md5 state connection request ambient ↔
          loginGranted state info request.role = false := meetsRoom_iff attempt
      cases granted : loginGranted { state with outputs := [] } info request.role with
      | true =>
          rw [result] at failed
          exact absurd failed (not_loginFails_granted rfl attempt granted)
      | false =>
          rw [requestLogin_attempt md5 con attempt] at result
          have changed := rooms_rolledBack con connection request.secretKey granted
          rw [← result] at changed
          exact iff_of_false (fun kept => changed kept.1) (fun free => free (meets.mpr granted))

end

def rivalGuard : List Event := [
  .connect 1 .application "10.0.0.1",
  .connect 2 .application "10.0.0.2",
  .message 1 (.login {
    account := "guard", password := "", role := Role.terminalGuard, secretKey := "k" }) {}]

def rivalLogin (account : String) : Event :=
  .message 2 (.login {
    account := account, password := "", role := Role.terminalGuard, secretKey := "k" }) {}

theorem unknownAccount_keeps_state :
    ∃ state after, Transition.run (serverStep noDigest) (initialServer twoAccounts) rivalGuard =
        some state ∧
      serverStep noDigest state (rivalLogin "nobody") = some after ∧
      after.rooms = state.rooms ∧ after.connections = state.connections := by
  refine ⟨_, _, rfl, rfl,
    (@failedLogin_keeps_state_iff noDigest _ _ 2 _ {} _ rfl rfl ?_).mpr ?_⟩
  · exact ⟨Err.accountNotExists, formatError Err.accountNotExists, 0, by decide,
      List.mem_singleton.mpr rfl⟩
  · rintro ⟨info, passed, _⟩
    contradiction

theorem rivalLogin_takes_the_room :
    ∃ state after, Transition.run (serverStep noDigest) (initialServer twoAccounts) rivalGuard =
        some state ∧
      serverStep noDigest state (rivalLogin "guard") = some after ∧ LoginFails 2 after ∧
      ¬ (after.rooms = state.rooms ∧ after.connections = state.connections) := by
  refine ⟨_, _, rfl, rfl, ?_, ?_⟩
  · exact ⟨Err.unknow, formatError Err.unknow, 1, by decide, List.mem_singleton.mpr rfl⟩
  · rintro ⟨kept, _⟩
    have here := congrFun (congrFun kept .terminal) 1
    contradiction

structure AnsweredUnreachable (handler : UsualRequest) (request : FileMessage) (con : ConnectionId)
    (before after : ServerState) : Prop where
  running : after.fault = none
  answered : after.outputs = before.outputs ++ [.send con {
    tag := handler.tagResponse
    body := .fileError (if handler.fillSEQ then request.seq else 0)
      (if handler.fillTaskId then request.taskId else "")
      Err.targetUnreachable (formatError Err.targetUnreachable) }]

def roomUser (connection : Connection) (user : Account) : UserId :=
  if Role.has connection.role Role.flagGuard then user.id else connection.targetUserId

section

variable {state : ServerState} {con : ConnectionId} {connection : Connection} {ambient : Ambient}
  {request : FileMessage} {user : Account}

theorem usualRequest_noRoom (handler : UsualRequest)
    (allowed : roleAllowed connection.role handler.checkRole = true)
    (bound : connection.user = some user) (readable : ambient.readable = true)
    (targeted : Role.has connection.role Role.flagGuard = false → connection.targetUserId ≠ 0)
    (absent : state.rooms .fileTransmission (roomUser connection user) = none) :
    handler.handle state con connection request ambient = state.crash .nullPointer := by
  simp only [UsualRequest.handle, ServerState.checked, allowed, bound, not_true_eq_false, if_false,
    ServerState.parse_readable readable]
  by_cases isGuard : Role.has connection.role Role.flagGuard = true
  · rw [roomUser, if_pos isGuard] at absent
    simp only [isGuard, not_true_eq_false, if_false, absent]
  · rw [roomUser, if_neg isGuard] at absent
    rw [Bool.not_eq_true] at isGuard
    simp only [isGuard, Bool.false_eq_true, not_false_eq_true, if_true, targeted isGuard, if_false,
      absent]

/-- The error is noted and the missing room used all the same. -/
theorem absentGuard_never_answered (handler : UsualRequest)
    (allowed : roleAllowed connection.role handler.checkRole = true)
    (bound : connection.user = some user) (readable : ambient.readable = true)
    (targeted : Role.has connection.role Role.flagGuard = false → connection.targetUserId ≠ 0)
    (absent : state.rooms .fileTransmission (roomUser connection user) = none) :
    ¬ AnsweredUnreachable handler request con state
      (handler.handle state con connection request ambient) := by
  intro answer
  have running := answer.running
  rw [usualRequest_noRoom handler allowed bound readable targeted absent] at running
  contradiction

end

/-- A visitor is let in, and its guard leaves before the visitor's own clean-up. -/
def departedGuard : List Event := [
  .connect 1 .application "10.0.0.1",
  .connect 2 .application "10.0.0.2",
  .message 1 (.login {
    account := "guard", password := "", role := Role.fileTransmissionGuard, secretKey := "k" }) {},
  .message 2 (.login {
    account := "visitor", password := "", role := Role.fileTransmissionVisitor
    secretKey := "k" }) {},
  .message 2 (.requestVisit .fileTransmission { userId := 1, authString := "" }) {},
  .execute 1,
  .message 1 (.responseVisit2 .fileTransmission {
    taskId := 1, certificate := 0, errCode := Err.noError }) {},
  .clean 1]

theorem departedGuard_unanswered :
    ∃ state connection,
      Transition.run (serverStep noDigest) (initialServer twoAccounts) departedGuard = some state ∧
      state.connections 2 = some connection ∧
      ¬ AnsweredUnreachable FileRequest.goUp.handler { userId := 0 } 2 state
        (FileRequest.goUp.handler.handle state 2 connection { userId := 0 } {}) := by
  refine ⟨_, _, rfl, rfl, ?_⟩
  exact absentGuard_never_answered _ rfl rfl rfl (by decide) rfl

theorem departedGuard_crashes :
    ∃ state after,
      Transition.run (serverStep noDigest) (initialServer twoAccounts) departedGuard = some state ∧
      serverStep noDigest state
        (.message 2 (.fileRequest .goUp { userId := 0 }) {}) = some after ∧
      ¬ AnsweredUnreachable FileRequest.goUp.handler { userId := 0 } 2
        { state with outputs := [] } after := by
  refine ⟨_, _, rfl, rfl, fun answer => ?_⟩
  have running := answer.running
  contradiction

end EasyViewer
