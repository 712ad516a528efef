import EasyViewer.Visits

/-!
Viewers and the clean-up of their connections. A guard's answer may come after the
visitor's only clean-up has run, and then lets in a connection that nobody will take
out again. Exactly the runs without such an answer keep every viewer live.
-/

namespace EasyViewer

/-- Every viewer of a registered room is a connection whose clean-up has not run. -/
def ViewersLive (state : ServerState) : Prop :=
  ∀ kind userId con, Member state.rooms kind userId con → state.cleaned con = false

/-- A guard's answer that lets a visitor in comes before that visitor's clean-up. -/
def AdmitsLive (state : ServerState) (event : Event) : Prop :=
  ∀ con connection kind response ambient task,
    event = .message con (.responseVisit2 kind response) ambient →
      state.connections con = some connection →
      admission kind state connection response ambient = some task →
      state.cleaned task.src = false

section

variable {md5 : String → String}

theorem cleanChange_visitor {state : ServerState} {kind : Kind} {userId : UserId}
    {con : ConnectionId} {connection : Connection}
    (visitor : Visitor state kind userId con connection) :
    cleanChange con connection = .leave kind userId con := by
  obtain ⟨_, server, role, ⟨user, bound⟩, target, _⟩ := visitor
  have visited : visitedKind connection.role = some kind := by
    rw [role]
    cases kind <;> rfl
  simp only [cleanChange, server, bound, visited, target]
  rw [role, Kind.visitorRole_not_guard, Kind.visitorRole_visitor]
  rfl

theorem admission_runs {state : ServerState} (con : ConnectionId) {connection : Connection}
    {kind : Kind} {response : VisitResponse} {ambient : Ambient} {task : VisitTask}
    (admitted : admission kind state connection response ambient = some task) :
    (responseVisit2 kind state con connection response ambient).fault = state.fault := by
  obtain ⟨answered, passes⟩ := Option.filter_eq_some_iff.mp admitted
  rw [Bool.and_eq_true, decide_eq_true_eq] at passes
  obtain ⟨accepted, room, registered, added⟩ := VisitTask.letsIn_room passes.2
  rw [responseVisit2_answered answered, if_pos passes.1]
  simp only [VisitTask.handleResponse]
  have there : (state.setTask response.taskId fun task => { task with destroyed := true }).rooms
      task.kind task.partnerUserId = some room := registered
  rw [if_pos accepted, there]
  have taken : room.addViewer task.kind (state.setTask response.taskId
      fun task => { task with destroyed := true }).userIdOf task.src response.terminalId =
        (true, { room with
          viewers := room.viewers ++ [task.kind.viewer task.src response.terminalId] }) := added
  simp only [taken]
  split <;> rfl

theorem roomChange_admission {state : ServerState} {con : ConnectionId} {connection : Connection}
    {kind : Kind} {response : VisitResponse} {ambient : Ambient} {task : VisitTask}
    (known : state.connections con = some connection)
    (admitted : admission kind state connection response ambient = some task) :
    roomChange md5 state (.message con (.responseVisit2 kind response) ambient) =
      .letIn task.kind task.partnerUserId (task.kind.viewer task.src response.terminalId) := by
  simp only [roomChange, known, messageChange, admitted]

theorem viewersLive_step {state next : ServerState} {event : Event} (agree : VisitsAgree state)
    (live : ViewersLive state) (stepped : serverStep md5 state event = some next)
    (runs : next.fault = none) : ViewersLive next ↔ AdmitsLive state event := by
  have rooms := serverStep_rooms stepped runs
  have valid : (roomChange md5 state event).Valid state.rooms := roomChange_valid state event
  constructor
  · intro liveNext con connection kind response ambient task isAnswer known admitted
    have member : Member next.rooms task.kind task.partnerUserId task.src := by
      rw [rooms, member_apply valid, isAnswer, roomChange_admission known admitted]
      exact Or.inl ⟨rfl, rfl, Kind.viewer_con _ _ _⟩
    have dirty := liveNext _ _ _ member
    by_contra clean
    rw [Bool.not_eq_false] at clean
    rw [(serverStep_cleaned stepped task.src).mpr (Or.inl clean)] at dirty
    contradiction
  · intro admits kind userId con member
    rw [rooms, member_apply valid] at member
    by_contra clean
    rw [Bool.not_eq_false, serverStep_cleaned stepped] at clean
    rcases member with admitted | ⟨before, goesOn⟩
    · obtain ⟨who, connection, response, ambient, task, isAnswer, known, passes, _, _, _, rfl⟩ :=
        roomChange_admits admitted
      have dirty := admits who connection kind response ambient task isAnswer known passes
      rcases clean with earlier | isClean
      · rw [dirty] at earlier
        contradiction
      · rw [isAnswer] at isClean
        contradiction
    · rcases clean with earlier | isClean
      · rw [live kind userId con before] at earlier
        contradiction
      · obtain ⟨connection, visitor⟩ := agree.viewers kind userId con before
        apply goesOn
        rw [isClean]
        simp only [roomChange, visitor.known, cleanChange_visitor visitor]
        exact ⟨rfl, rfl, rfl⟩

theorem admitsLive_of_fault {state next : ServerState} {event : Event}
    (stepped : serverStep md5 state event = some next) (faulty : next.fault ≠ none) :
    AdmitsLive state event := by
  intro con connection kind response ambient task isAnswer known admitted
  obtain ⟨running, happened⟩ := serverStep_some.mp stepped
  subst isAnswer
  obtain ⟨other, registered, _, _, result⟩ := eventStep_message happened
  have same : connection = other := Option.some.inj (known.symm.trans registered)
  subst same
  have still : admission kind { state with outputs := [] } connection response ambient =
      some task := admitted
  have runs := admission_runs con still
  exact absurd ((congrArg ServerState.fault result).trans (runs.trans running)) faulty

/-- The servers keep only live viewers in exactly those runs in which no guard's answer lets in
a visitor whose clean-up has already run. -/
theorem viewers_live_iff (md5 : String → String) (accountManager : AccountManager)
    (events : List Event) :
    Transition.Throughout (serverStep md5) (fun state => state.fault = none → ViewersLive state)
        (initialServer accountManager) events ↔
      Transition.Happening (serverStep md5) AdmitsLive (initialServer accountManager) events := by
  refine Transition.Throughout.iff_happening _
    (fun state => state.fault = none → VisitsAgree state) ?_ ?_ ?_
  · intro state event next agree live stepped
    have running := (serverStep_some.mp stepped).1
    refine ⟨fun runs => (agree running).step stepped runs, ?_⟩
    by_cases runs : next.fault = none
    · rw [← viewersLive_step (agree running) (live running) stepped runs]
      exact ⟨fun holds => holds runs, fun holds _ => holds⟩
    · exact ⟨fun _ => admitsLive_of_fault stepped runs, fun _ still => absurd still runs⟩
  · exact fun _ => VisitsAgree.initial accountManager
  · rintro _ kind userId con ⟨room, registered, _⟩
    contradiction

end

def lateAnswer : List Event := [
  .connect 1 .application "10.0.0.1",
  .connect 2 .application "10.0.0.2",
  .message 1 (.login {
    account := "guard", password := "", role := Role.fileTransmissionGuard, secretKey := "k" }) {},
  .message 2 (.login {
    account := "visitor", password := "", role := Role.fileTransmissionVisitor
    secretKey := "k" }) {},
  .message 2 (.requestVisit .fileTransmission { userId := 1, authString := "" }) {},
  .execute 1,
  .clean 2,
  .message 1 (.responseVisit2 .fileTransmission {
    taskId := 1, certificate := 0, errCode := Err.noError }) {}]

theorem lateAnswer_keeps_dead_viewer :
    ∃ state, Transition.run (serverStep noDigest) (initialServer twoAccounts) lateAnswer =
      some state ∧ state.fault = none ∧ ¬ ViewersLive state := by
  refine ⟨_, rfl, rfl, fun live => ?_⟩
  have clean := live .fileTransmission 1 2 ⟨_, rfl, rfl⟩
  exact absurd clean (by decide)

end EasyViewer
