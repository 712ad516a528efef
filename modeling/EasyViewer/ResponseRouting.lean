import EasyViewer.ServerOutputs
import EasyViewer.Visits

/-!
Where a guard's responses go. A forwarded file request carries its sender's own user id,
whatever the sender wrote there, and a response goes to the viewer whose user id it
carries; a guard that echoes the id answers the user who asked.
-/

namespace EasyViewer

/-- A file request as a guard receives it, with the user who issued it. -/
structure ForwardedRequest where
  source : ConnectionId
  issuer : Option UserId
  guard : ConnectionId
  which : FileRequest
  message : FileMessage
  deriving DecidableEq, Repr

def forwardedIn (state : ServerState) (event : Event) (next : ServerState) :
    List ForwardedRequest :=
  match event with
  | .message source (.fileRequest which _) _ =>
      next.outputs.filterMap fun output =>
        match output with
        | .toGuard _ guard .fileTransmission { tag := _, body := .file message } =>
            some {
              source := source, issuer := state.userIdOf source, guard := guard, which := which
              message := message }
        | _ => none
  | _ => []

section

variable (md5 : String → String)

def forwardedRequests : ServerState → List Event → List ForwardedRequest
  | _, [] => []
  | state, event :: events =>
      match serverStep md5 state event with
      | none => []
      | some next => forwardedIn state event next ++ forwardedRequests next events

/-- The guard answers the request with the user id that it found there. -/
def ForwardedRequest.AnsweredBy (request : ForwardedRequest) (guard : ConnectionId)
    (response : FileMessage) : Prop :=
  request.guard = guard ∧ response.userId = request.message.userId

variable {md5} {state : ServerState} {con : ConnectionId} {connection : Connection}
  {ambient : Ambient}

theorem usualRequest_userId (which : FileRequest) (request : FileMessage) :
    Sends (fun output => ∀ source guard kind packet, output = .toGuard source guard kind packet →
        ∃ user, connection.user = some user ∧
          packet.body = .file { request with userId := user.id }) state
      (which.handler.handle state con connection request ambient) := by
  apply Sends.checked
  intro user _ bound
  apply Sends.parse
  intro _
  simp only
  split
  · split
    · exact Sends.same rfl
    · split
      · exact Sends.same rfl
      · refine (Sends.refl state).put ?_
        rintro source guard kind packet ⟨⟩
        exact ⟨user, bound, rfl⟩
  · split
    · exact Sends.same rfl
    · split
      · refine (Sends.refl state).put ?_
        rintro source guard kind packet ⟨⟩
      · apply Sends.relayToViewers
        rintro viewer source guard kind packet ⟨⟩

theorem usualResponse_userId (which : FileResponse) (response : FileMessage) :
    Sends (fun output => ∀ source target kind packet,
        output = .toVisitor source target kind packet →
          state.userIdOf target = some response.userId) state
      (which.handler.handle state con connection response ambient) := by
  apply Sends.checked
  intro user _ bound
  apply Sends.parse
  intro _
  simp only
  split
  · split
    · exact Sends.same rfl
    · split
      · exact Sends.refl state
      · refine (Sends.refl state).put ?_
        rintro source target kind packet ⟨⟩
  · split
    · exact Sends.refl state
    · split
      · exact Sends.refl state
      · rename_i room _ _ viewer rest listed
        simp only [ServerState.relayToViewers]
        refine (Sends.refl state).put ?_
        rintro source target kind packet ⟨⟩
        have member : viewer ∈ room.getViewersOf state.userIdOf response.userId := by
          rw [listed]
          exact List.mem_cons_self
        simpa using (List.mem_filter.mp member).2

theorem forwardedIn_issuer {next : ServerState} {event : Event} {request : ForwardedRequest}
    (stepped : serverStep md5 state event = some next)
    (forwarded : request ∈ forwardedIn state event next) :
    request.issuer = some request.message.userId := by
  simp only [forwardedIn] at forwarded
  split at forwarded
  · rename_i source which asked ambient
    obtain ⟨output, sent, isRequest⟩ := List.mem_filterMap.mp forwarded
    split at isRequest
    · rename_i from' guard tag message
      cases isRequest
      obtain ⟨_, happened⟩ := serverStep_some.mp stepped
      obtain ⟨connection, known, _, _, rfl⟩ := eventStep_message happened
      rcases usualRequest_userId which asked _ sent with earlier | named
      · contradiction
      · obtain ⟨user, bound, body⟩ := named _ _ _ _ rfl
        injection body with same
        have known : state.connections source = some connection := known
        simp only [ServerState.userIdOf, ServerState.userOf, known, Option.bind_some, bound,
          Option.map_some, same]
    · contradiction
  · contradiction

theorem forwardedIn_source {next : ServerState} {event : Event} {request : ForwardedRequest}
    (forwarded : request ∈ forwardedIn state event next) :
    state.userIdOf request.source = request.issuer := by
  simp only [forwardedIn] at forwarded
  split at forwarded
  · obtain ⟨output, _, isRequest⟩ := List.mem_filterMap.mp forwarded
    split at isRequest
    · cases isRequest
      rfl
    · contradiction
  · contradiction

theorem userIdOf_step {next : ServerState} {event : Event} {userId : UserId}
    (stepped : serverStep md5 state event = some next) (bound : state.userIdOf con = some userId) :
    next.userIdOf con = some userId := by
  simp only [ServerState.userIdOf, ServerState.userOf] at bound ⊢
  rcases serverStep_connections stepped con with
    unchanged | ⟨_, fresh, _⟩ | ⟨isLogin, known, attempt, granted, result⟩ |
    ⟨_, known, _, _, result⟩
  · rw [unchanged]
    exact bound
  · rw [fresh] at bound
    contradiction
  · rename_i connection request ambient info
    have unbound : connection.user = none := by
      simp only [loginAttempt] at attempt
      split at attempt
      · contradiction
      · rename_i allowed
        simpa using (not_or.mp (not_or.mp allowed).2).1
    rw [known] at bound
    simp [unbound] at bound
  · rw [known] at bound
    rw [result]
    exact bound

theorem userIdOf_run {final : ServerState} {events : List Event} {userId : UserId}
    (ran : Transition.run (serverStep md5) state events = some final)
    (bound : state.userIdOf con = some userId) : final.userIdOf con = some userId := by
  induction events generalizing state with
  | nil =>
      simp only [Transition.run, Option.some.injEq] at ran
      exact ran ▸ bound
  | cons event events ih =>
      obtain ⟨next, stepped, rest⟩ := (Transition.run_cons _).mp ran
      exact ih rest (userIdOf_step stepped bound)

theorem forwardedRequests_issuer {events : List Event} {final : ServerState}
    {request : ForwardedRequest}
    (ran : Transition.run (serverStep md5) state events = some final)
    (forwarded : request ∈ forwardedRequests md5 state events) :
    request.issuer = some request.message.userId ∧
      final.userIdOf request.source = some request.message.userId := by
  induction events generalizing state with
  | nil => contradiction
  | cons event events ih =>
      obtain ⟨next, stepped, rest⟩ := (Transition.run_cons _).mp ran
      simp only [forwardedRequests, stepped] at forwarded
      rcases List.mem_append.mp forwarded with here | later
      · have issuer := forwardedIn_issuer stepped here
        refine ⟨issuer, userIdOf_run rest (userIdOf_step stepped ?_)⟩
        rw [← issuer]
        exact forwardedIn_source here
      · exact ih rest later

/-- In every run: a response that answers a forwarded request is delivered only to connections
of the user who issued the request. -/
theorem response_reaches_issuer (md5 : String → String) (accountManager : AccountManager)
    (events : List Event) (state next : ServerState)
    (ran : Transition.run (serverStep md5) (initialServer accountManager) events = some state)
    (guard : ConnectionId) (which : FileResponse) (response : FileMessage) (ambient : Ambient)
    (stepped : serverStep md5 state (.message guard (.fileResponse which response) ambient) =
      some next)
    (request : ForwardedRequest)
    (forwarded : request ∈ forwardedRequests md5 (initialServer accountManager) events)
    (answers : request.AnsweredBy guard response)
    (source target : ConnectionId) (kind : Kind) (packet : Packet)
    (delivered : Output.toVisitor source target kind packet ∈ next.outputs) :
    ∃ userId, request.issuer = some userId ∧ state.userIdOf request.source = some userId ∧
      state.userIdOf target = some userId := by
  obtain ⟨issuer, stillBound⟩ := forwardedRequests_issuer ran forwarded
  obtain ⟨_, happened⟩ := serverStep_some.mp stepped
  obtain ⟨connection, known, _, _, rfl⟩ := eventStep_message happened
  rcases usualResponse_userId which response _ delivered with earlier | named
  · contradiction
  · refine ⟨_, issuer, stillBound, ?_⟩
    rw [← answers.2]
    exact named _ _ _ _ rfl

def forgedUserId : List Event := [
  .connect 1 .application "10.0.0.1",
  .connect 2 .application "10.0.0.2",
  .message 1 (.login {
    account := "guard", password := "", role := Role.fileTransmissionGuard, secretKey := "k" }) {},
  .message 2 (.login {
    account := "visitor", password := "", role := Role.fileTransmissionVisitor
    secretKey := "k" }) {},
  .message 2 (.requestVisit .fileTransmission { userId := 1, authString := "" }) {},
  .execute 1,
  .message 1 (.responseVisit2 .fileTransmission { taskId := 1, certificate := 0, errCode := 0 }) {},
  .message 2 (.fileRequest .listEntries { userId := 1, seq := 3 }) {}]

theorem response_reaches_issuer_forged : ∃ state next,
    Transition.run (serverStep noDigest) (initialServer twoAccounts) forgedUserId = some state ∧
      serverStep noDigest state
        (.message 1 (.fileResponse .listEntries { userId := 2, seq := 3 }) {}) = some next ∧
      ∃ userId, some (2 : UserId) = some userId ∧ state.userIdOf 2 = some userId ∧
        state.userIdOf 2 = some userId := by
  refine ⟨_, _, rfl, rfl, ?_⟩
  exact response_reaches_issuer noDigest twoAccounts forgedUserId _ _ rfl 1 .listEntries
    { userId := 2, seq := 3 } {} rfl {
      source := 2, issuer := some 2, guard := 1, which := .listEntries
      message := { userId := 2, seq := 3 } }
    (List.mem_singleton.mpr rfl) ⟨rfl, rfl⟩ 1 2 .fileTransmission _ (List.mem_singleton.mpr rfl)

end

end EasyViewer
