import EasyViewer.SharingEffects

/-!
Who can be a viewer at all. A connection gets a target once, with a visitor's role of
one kind, and keeps both; its tasks and its places in rooms agree with them in every
state the servers reach.
-/

namespace EasyViewer

section

variable {md5 : String → String}

inductive ConnectionChange (md5 : String → String) (state : ServerState) (event : Event)
    (next : ServerState) (con : ConnectionId) : Prop where
  | same (unchanged : next.connections con = state.connections con)
  | connected {server : ServerKind} {peerIP : String} (isConnect : event = .connect con server peerIP)
      (fresh : state.connections con = none)
      (result : next.connections con = some { server := server, peerIP := peerIP })
  | bound {connection : Connection} {request : LoginRequest} {ambient : Ambient} {info : Account}
      (isLogin : event = .message con (.login request) ambient)
      (known : state.connections con = some connection)
      (attempt : loginAttempt md5 state connection request ambient = some info)
      (granted : loginGranted state info request.role = true)
      (result : next.connections con =
        some (boundConnection connection info request.role request.secretKey))
  | visiting {connection : Connection} {kind : Kind} {request : VisitRequest} {ambient : Ambient}
      (isVisit : event = .message con (.requestVisit kind request) ambient)
      (known : state.connections con = some connection)
      (server : connection.server = .application)
      (attempt : visitAttempt kind state connection request ambient = true)
      (result : next.connections con = some { connection with targetUserId := request.userId })

def SameVisit (before after : VisitTask) : Prop :=
  after.id = before.id ∧ after.certificate = before.certificate ∧ after.kind = before.kind ∧
    after.src = before.src ∧ after.partnerUserId = before.partnerUserId

theorem mem_setTask {state : ServerState} {taskId : Nat} {change : VisitTask → VisitTask}
    {task : VisitTask} (member : task ∈ (state.setTask taskId change).tasks)
    (same : ∀ task, SameVisit task (change task)) :
    ∃ before ∈ state.tasks, SameVisit before task := by
  obtain ⟨before, listed, rfl⟩ := List.mem_map.mp member
  refine ⟨before, listed, ?_⟩
  split
  · exact same before
  · exact ⟨rfl, rfl, rfl, rfl, rfl⟩

theorem mem_eraseTask {state : ServerState} {taskId : Nat} {task : VisitTask}
    (member : task ∈ (state.eraseTask taskId).tasks) : task ∈ state.tasks :=
  (List.mem_filter.mp member).1

theorem mem_dispatch {state : ServerState} {task other : VisitTask}
    (member : other ∈ (state.dispatch task).tasks) : other ∈ state.tasks ∨ other = task := by
  simp only [ServerState.dispatch] at member
  by_cases taken : (state.tasks.any fun known => known.id = task.id) = true
  · rw [if_pos taken] at member
    exact Or.inl member
  · rw [if_neg taken] at member
    rcases List.mem_append.mp member with old | new
    · exact Or.inl old
    · exact Or.inr (List.mem_singleton.mp new)

theorem management_no_visit (kind : Kind) :
    receivedDataHandlerFactory .management kind.requestTag = false := by
  cases kind <;> decide

theorem visit_application {connection : Connection} {kind : Kind} {request : VisitRequest}
    (factory : receivedDataHandlerFactory connection.server
      (ClientMessage.requestVisit kind request).tag = true) : connection.server = .application := by
  cases server : connection.server with
  | application => rfl
  | management =>
      rw [server] at factory
      exact absurd factory (by simp [ClientMessage.tag, management_no_visit])

theorem serverStep_connections {state next : ServerState} {event : Event}
    (stepped : serverStep md5 state event = some next) (con : ConnectionId) :
    ConnectionChange md5 state event next con := by
  obtain ⟨_, happened⟩ := serverStep_some.mp stepped
  cases event with
  | message who message ambient =>
      obtain ⟨connection, registered, _, factory, result⟩ := eventStep_message happened
      rcases handle_effect md5 { state with outputs := [] } who connection message ambient with
        frame | ⟨isLogin, attempt, granted, connections⟩ | ⟨_, _, _, frame⟩ |
        ⟨isVisit, attempt, effect⟩ | ⟨_, _, frame⟩ | ⟨_, frame⟩
      · exact .same (by rw [result, frame.connections])
      · by_cases same : con = who
        · subst same
          subst isLogin
          exact .bound rfl registered attempt granted
            (by rw [result, connections, updateAt_same])
        · exact .same (by rw [result, connections, updateAt_other _ _ same])
      · exact .same (by rw [result, frame.connections])
      · by_cases same : con = who
        · subst same
          subst isVisit
          exact .visiting rfl registered (visit_application factory) attempt
            (by rw [result, effect]; exact updateAt_same _ _ _)
        · exact .same (by rw [result, effect]; exact updateAt_other _ _ same)
      · exact .same (by rw [result, frame.connections]; rfl)
      · exact .same (by rw [result, frame.connections])
  | clean who =>
      obtain ⟨connection, registered, _, rfl⟩ := eventStep_clean happened
      exact .same (by rw [(cleanUserConnection_frame _ _ _).connections])
  | connect who server peerIP =>
      simp only [eventStep] at happened
      split at happened
      · contradiction
      · rename_i fresh
        cases happened
        by_cases same : con = who
        · subst same
          exact .connected rfl fresh (updateAt_same _ _ _)
        · exact .same (updateAt_other _ _ same)
  | disconnect who =>
      cases happened
      exact .same rfl
  | removeConnection who =>
      cases happened
      exact .same rfl
  | execute taskId =>
      have ofTask : Event.OfTask (.execute taskId) := trivial
      exact .same (by rw [(eventStep_task ofTask happened).1.connections])
  | timeout taskId now =>
      have ofTask : Event.OfTask (.timeout taskId now) := trivial
      exact .same (by rw [(eventStep_task ofTask happened).1.connections])
  | collect taskId =>
      have ofTask : Event.OfTask (.collect taskId) := trivial
      exact .same (by rw [(eventStep_task ofTask happened).1.connections])

theorem serverStep_granted {state next : ServerState} {event : Event} {con : ConnectionId}
    {connection : Connection} {request : LoginRequest} {ambient : Ambient} {info : Account}
    (stepped : serverStep md5 state event = some next)
    (isLogin : event = .message con (.login request) ambient)
    (known : state.connections con = some connection)
    (attempt : loginAttempt md5 state connection request ambient = some info)
    (granted : loginGranted state info request.role = true) :
    next.connections con =
        some (boundConnection connection info request.role request.secretKey) ∧
      state.cleaned con = false := by
  obtain ⟨_, happened⟩ := serverStep_some.mp stepped
  subst isLogin
  obtain ⟨other, registered, clean, _, result⟩ := eventStep_message happened
  have same : connection = other := Option.some.inj (known.symm.trans registered)
  subst same
  have still : loginAttempt md5 { state with outputs := [] } connection request ambient =
      some info := attempt
  have stillGranted : loginGranted { state with outputs := [] } info request.role = true := granted
  obtain ⟨_, _, bound⟩ := completeLogin_granted con connection request.secretKey stillGranted
  refine ⟨?_, clean⟩
  rw [result]
  simp only [handle]
  rw [requestLogin_attempt md5 con still, bound]
  exact updateAt_same _ _ _

theorem serverStep_tasks {state next : ServerState} {event : Event}
    (stepped : serverStep md5 state event = some next) {task : VisitTask}
    (member : task ∈ next.tasks) :
    (∃ before ∈ state.tasks, SameVisit before task) ∨
      ∃ con connection kind request ambient,
        event = .message con (.requestVisit kind request) ambient ∧
          state.connections con = some connection ∧
          visitAttempt kind state connection request ambient = true ∧
          next.connections con = some { connection with targetUserId := request.userId } ∧
          task = visitTask kind state con request ambient := by
  obtain ⟨_, happened⟩ := serverStep_some.mp stepped
  have kept : ∀ {other : VisitTask}, other ∈ state.tasks →
      ∃ before ∈ state.tasks, SameVisit before other :=
    fun listed => ⟨_, listed, rfl, rfl, rfl, rfl, rfl⟩
  have worked : event.OfTask → ∃ before ∈ state.tasks, SameVisit before task := by
    intro ofTask
    obtain ⟨_, taskId, erased | marked⟩ := eventStep_task ofTask happened
    · rw [erased] at member
      exact kept (mem_eraseTask member)
    · rw [marked] at member
      exact mem_setTask member fun _ => ⟨rfl, rfl, rfl, rfl, rfl⟩
  cases event with
  | message con message ambient =>
      obtain ⟨connection, registered, _, _, result⟩ := eventStep_message happened
      rcases handle_effect md5 { state with outputs := [] } con connection message ambient with
        frame | ⟨_, _, _, _, _, _, tasks⟩ | ⟨_, _, _, frame⟩ | ⟨isVisit, attempt, effect⟩ |
        ⟨_, _, frame⟩ | ⟨_, frame⟩
      · rw [result, frame.tasks] at member
        exact Or.inl (kept member)
      · rw [result, tasks] at member
        exact Or.inl (kept member)
      · rw [result, frame.tasks] at member
        exact Or.inl (kept member)
      · subst isVisit
        rw [result, effect] at member
        rcases mem_dispatch member with old | new
        · exact Or.inl (kept old)
        · refine Or.inr ⟨con, connection, _, _, ambient, rfl, registered, attempt, ?_, new⟩
          rw [result, effect]
          exact updateAt_same _ _ _
      · rw [result, frame.tasks] at member
        exact Or.inl (mem_setTask member fun _ => ⟨rfl, rfl, rfl, rfl, rfl⟩)
      · rw [result, frame.tasks] at member
        exact Or.inl (kept member)
  | clean con =>
      obtain ⟨connection, registered, _, result⟩ := eventStep_clean happened
      rw [result, (cleanUserConnection_frame _ _ _).tasks] at member
      exact Or.inl (kept member)
  | connect con server peerIP =>
      simp only [eventStep] at happened
      split at happened
      · contradiction
      · cases happened
        exact Or.inl (kept member)
  | disconnect con =>
      cases happened
      exact Or.inl (kept member)
  | removeConnection con =>
      cases happened
      exact Or.inl (kept member)
  | execute taskId => exact Or.inl (worked trivial)
  | timeout taskId now => exact Or.inl (worked trivial)
  | collect taskId => exact Or.inl (worked trivial)

theorem serverStep_cleaned {state next : ServerState} {event : Event}
    (stepped : serverStep md5 state event = some next) (con : ConnectionId) :
    next.cleaned con = true ↔ state.cleaned con = true ∨ event = .clean con := by
  obtain ⟨_, happened⟩ := serverStep_some.mp stepped
  have same : next.cleaned = state.cleaned → event ≠ .clean con →
      (next.cleaned con = true ↔ state.cleaned con = true ∨ event = .clean con) := by
    intro unchanged other
    rw [unchanged]
    exact ⟨Or.inl, fun either => either.resolve_right other⟩
  cases event with
  | message who message ambient =>
      obtain ⟨connection, registered, _, _, result⟩ := eventStep_message happened
      refine same ?_ (by simp)
      rw [result]
      rcases handle_effect md5 { state with outputs := [] } who connection message ambient with
        frame | ⟨_, _, _, _, _, cleaned⟩ | ⟨_, _, _, frame⟩ | ⟨_, _, effect⟩ |
        ⟨_, _, frame⟩ | ⟨_, frame⟩
      · exact frame.cleaned
      · exact cleaned
      · exact frame.cleaned
      · rw [effect]
        rfl
      · exact frame.cleaned
      · exact frame.cleaned
  | clean who =>
      obtain ⟨connection, registered, _, result⟩ := eventStep_clean happened
      rw [result, (cleanUserConnection_frame _ _ _).cleaned]
      by_cases isWho : con = who
      · subst isWho
        simp
      · have apart : who ≠ con := fun reversed => isWho reversed.symm
        simp [updateAt_other _ _ isWho, apart]
  | connect who server peerIP =>
      simp only [eventStep] at happened
      split at happened
      · contradiction
      · cases happened
        exact same rfl (by simp)
  | disconnect who =>
      cases happened
      exact same rfl (by simp)
  | removeConnection who =>
      cases happened
      exact same rfl (by simp)
  | execute taskId =>
      have ofTask : Event.OfTask (.execute taskId) := trivial
      exact same (eventStep_task ofTask happened).1.cleaned (by simp)
  | timeout taskId now =>
      have ofTask : Event.OfTask (.timeout taskId now) := trivial
      exact same (eventStep_task ofTask happened).1.cleaned (by simp)
  | collect taskId =>
      have ofTask : Event.OfTask (.collect taskId) := trivial
      exact same (eventStep_task ofTask happened).1.cleaned (by simp)

/-- A connection of the application server, bound with the visitor's role of the kind, whose
target is that user. -/
structure Visitor (state : ServerState) (kind : Kind) (userId : UserId) (con : ConnectionId)
    (connection : Connection) : Prop where
  known : state.connections con = some connection
  server : connection.server = .application
  role : connection.role = kind.visitorRole
  user : ∃ user, connection.user = some user
  target : connection.targetUserId = userId
  nonzero : userId ≠ 0

structure VisitsAgree (state : ServerState) : Prop where
  targets : ∀ con connection, state.connections con = some connection →
    connection.targetUserId ≠ 0 → ∃ kind, Visitor state kind connection.targetUserId con connection
  tasks : ∀ task ∈ state.tasks, ∃ connection,
    Visitor state task.kind task.partnerUserId task.src connection
  viewers : ∀ kind userId con, Member state.rooms kind userId con →
    ∃ connection, Visitor state kind userId con connection

theorem VisitsAgree.initial (accountManager : AccountManager) :
    VisitsAgree (initialServer accountManager) := by
  constructor
  · intro con connection known
    contradiction
  · intro task member
    contradiction
  · rintro kind userId con ⟨room, registered, _⟩
    contradiction

theorem Visitor.step {state next : ServerState} {event : Event} {kind : Kind} {userId : UserId}
    {con : ConnectionId} {connection : Connection}
    (visitor : Visitor state kind userId con connection)
    (stepped : serverStep md5 state event = some next) :
    Visitor next kind userId con connection := by
  obtain ⟨known, server, role, ⟨user, bound⟩, target, nonzero⟩ := visitor
  refine ⟨?_, server, role, ⟨user, bound⟩, target, nonzero⟩
  rcases serverStep_connections stepped con with
    same | ⟨_, fresh, _⟩ | ⟨_, other, attempt, _, _⟩ | ⟨_, other, _, attempt, _⟩
  · rw [same, known]
  · rw [known] at fresh
    contradiction
  · rw [known, Option.some.injEq] at other
    subst other
    simp [loginAttempt, bound] at attempt
  · rw [known, Option.some.injEq] at other
    subst other
    simp [visitAttempt, target, nonzero] at attempt

theorem visitAttempt_visitor {state next : ServerState} {kind : Kind} {con : ConnectionId}
    {connection : Connection} {request : VisitRequest} {ambient : Ambient}
    (server : connection.server = .application)
    (attempt : visitAttempt kind state connection request ambient = true)
    (result : next.connections con = some { connection with targetUserId := request.userId }) :
    Visitor next kind request.userId con { connection with targetUserId := request.userId } := by
  simp only [visitAttempt] at attempt
  simp only [Bool.and_eq_true, decide_eq_true_eq, Option.any_eq_true] at attempt
  obtain ⟨⟨⟨⟨role, _⟩, _⟩, nonzero⟩, user, bound, _⟩ := attempt
  exact ⟨result, server, role, ⟨user, bound⟩, rfl, nonzero⟩

theorem roomChange_admits {state : ServerState} {event : Event} {kind : Kind} {userId : UserId}
    {con : ConnectionId} (admits : (roomChange md5 state event).Admits kind userId con) :
    ∃ who connection response ambient task,
      event = .message who (.responseVisit2 kind response) ambient ∧
        state.connections who = some connection ∧
        admission kind state connection response ambient = some task ∧
        task ∈ state.tasks ∧ task.kind = kind ∧ task.partnerUserId = userId ∧ task.src = con := by
  simp only [roomChange] at admits
  split at admits
  · rename_i who message ambient
    split at admits
    · contradiction
    · rename_i connection known
      cases message with
      | responseVisit2 asked response =>
          simp only [messageChange] at admits
          split at admits
          · contradiction
          · rename_i task admitted
            obtain ⟨isKind, isPartner, isCon⟩ := admits
            obtain ⟨answered, passes⟩ := Option.filter_eq_some_iff.mp admitted
            rw [Bool.and_eq_true, decide_eq_true_eq] at passes
            obtain ⟨_, _, _, found, _⟩ := answeredTask_some answered
            have sameKind : asked = kind := passes.1.symm.trans isKind
            subst sameKind
            rw [Kind.viewer_con] at isCon
            exact ⟨who, connection, response, ambient, task, rfl, known, admitted,
              List.mem_of_find?_eq_some found, isKind, isPartner, isCon⟩
      | login request =>
          simp only [messageChange, loginChange] at admits
          split at admits
          · contradiction
          · split at admits
            · contradiction
            · split at admits <;> contradiction
      | _ => contradiction
  · split at admits
    · contradiction
    · simp only [cleanChange] at admits
      split at admits
      · split at admits
        · contradiction
        · split at admits
          · split at admits <;> contradiction
          · contradiction
      · contradiction
  · contradiction

theorem VisitsAgree.step {state next : ServerState} {event : Event} (agree : VisitsAgree state)
    (stepped : serverStep md5 state event = some next) (runs : next.fault = none) :
    VisitsAgree next := by
  constructor
  · intro con connection known target
    rcases serverStep_connections stepped con with
      same | ⟨_, _, result⟩ | ⟨_, before, attempt, _, result⟩ | ⟨_, _, server, attempt, result⟩
    · rw [same] at known
      obtain ⟨kind, visitor⟩ := agree.targets con connection known target
      exact ⟨kind, visitor.step stepped⟩
    · rw [known, Option.some.injEq] at result
      rw [result] at target
      contradiction
    · rw [known, Option.some.injEq] at result
      subst result
      obtain ⟨kind, visitor⟩ := agree.targets con _ before target
      obtain ⟨user, bound⟩ := visitor.user
      simp [loginAttempt, bound] at attempt
    · have visitor := visitAttempt_visitor server attempt result
      rw [known, Option.some.injEq] at result
      subst result
      exact ⟨_, visitor⟩
  · intro task member
    rcases serverStep_tasks stepped member with
      ⟨before, listed, _, _, kind, src, partner⟩ |
      ⟨con, connection, kind, request, ambient, isVisit, known, attempt, result, rfl⟩
    · obtain ⟨connection, visitor⟩ := agree.tasks before listed
      refine ⟨connection, ?_⟩
      rw [kind, src, partner]
      exact visitor.step stepped
    · obtain ⟨_, happened⟩ := serverStep_some.mp stepped
      subst isVisit
      obtain ⟨other, registered, _, factory, _⟩ := eventStep_message happened
      have same : connection = other := Option.some.inj (known.symm.trans registered)
      subst same
      exact ⟨_, visitAttempt_visitor (visit_application factory) attempt result⟩
  · intro kind userId con member
    rw [serverStep_rooms stepped runs, member_apply (roomChange_valid state event)] at member
    rcases member with admits | ⟨before, _⟩
    · obtain ⟨_, _, _, _, task, _, _, _, listed, rfl, rfl, rfl⟩ := roomChange_admits admits
      obtain ⟨connection, visitor⟩ := agree.tasks task listed
      exact ⟨connection, visitor.step stepped⟩
    · obtain ⟨connection, visitor⟩ := agree.viewers kind userId con before
      exact ⟨connection, visitor.step stepped⟩

theorem running_invariant {holds : ServerState → Prop}
    (keeps : ∀ state event next, holds state → serverStep md5 state event = some next →
      next.fault = none → holds next)
    {state final : ServerState} {events : List Event} (start : holds state)
    (ran : Transition.run (serverStep md5) state events = some final) (runs : final.fault = none) :
    holds final := by
  induction events generalizing state with
  | nil =>
      simp only [Transition.run, Option.some.injEq] at ran
      exact ran ▸ start
  | cons event events ih =>
      obtain ⟨next, stepped, rest⟩ := (Transition.run_cons _).mp ran
      exact ih (keeps state event next start stepped (run_running rest runs)) rest

theorem visitsAgree_run {accountManager : AccountManager} {state : ServerState}
    {events : List Event}
    (ran : Transition.run (serverStep md5) (initialServer accountManager) events = some state)
    (runs : state.fault = none) : VisitsAgree state :=
  running_invariant (fun _ _ _ agree stepped runs => agree.step stepped runs)
    (VisitsAgree.initial accountManager) ran runs

end

end EasyViewer
