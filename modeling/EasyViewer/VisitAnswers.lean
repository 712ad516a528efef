import EasyViewer.Visits

/-!
How often a visitor is answered. The answers of a task are the visit responses to its
visitor that the steps working on the task send: its execution, its time-out, and the
handling of a guard's answer that names it.
-/

namespace EasyViewer

namespace ServerState

theorem findTask_setTask (change : VisitTask → VisitTask)
    (keeps : ∀ task, (change task).id = task.id) (state : ServerState) (taskId other : Nat) :
    (state.setTask taskId change).findTask other =
      if other = taskId then (state.findTask taskId).map change else state.findTask other := by
  simp only [findTask, setTask]
  induction state.tasks with
  | nil => simp
  | cons first rest ih =>
      simp only [List.map_cons, List.find?_cons]
      by_cases isFirst : first.id = taskId
      · rw [if_pos isFirst, keeps]
        by_cases same : other = taskId
        · subst same
          simp [isFirst]
        · rw [if_neg same] at ih ⊢
          have apart : first.id ≠ other := fun reversed => same (reversed.symm.trans isFirst)
          simp only [apart, decide_false]
          exact ih
      · rw [if_neg isFirst]
        by_cases same : other = taskId
        · subst same
          rw [if_pos rfl] at ih ⊢
          simp only [isFirst, decide_false]
          exact ih
        · rw [if_neg same] at ih ⊢
          rw [ih]

theorem findTask_eraseTask (state : ServerState) (taskId other : Nat) :
    (state.eraseTask taskId).findTask other =
      if other = taskId then none else state.findTask other := by
  simp only [findTask, eraseTask, List.find?_filter]
  by_cases same : other = taskId
  · subst same
    rw [if_pos rfl, List.find?_eq_none]
    intro task _
    simp
  · rw [if_neg same]
    congr 1
    funext task
    by_cases named : task.id = other
    · simp [named, same]
    · simp [named]

theorem findTask_dispatch {state : ServerState} {task : VisitTask}
    (fresh : state.findTask task.id = none) (other : Nat) :
    (state.dispatch task).findTask other =
      if other = task.id then some task else state.findTask other := by
  have unused : (state.tasks.any fun known => known.id = task.id) = false := by
    rw [findTask, List.find?_eq_none] at fresh
    simpa using fresh
  simp only [findTask, dispatch, unused]
  by_cases same : other = task.id
  · subst same
    rw [findTask] at fresh
    simp [List.find?_append, fresh]
  · have apart : ¬ task.id = other := fun reversed => same reversed.symm
    simp [List.find?_append, same, apart]

theorem findTask_id {state : ServerState} {taskId : Nat} {task : VisitTask}
    (found : state.findTask taskId = some task) : task.id = taskId := by
  have named := List.find?_some found
  simpa using named

end ServerState

def VisitTask.answeredBy (task : VisitTask) : Output → Bool
  | .send target { tag := tag, body := .visit _ } =>
      target = task.src ∧ tag = task.kind.responseTag
  | _ => false

def Event.worksOn (event : Event) (taskId : Nat) : Bool :=
  match event with
  | .execute id => id = taskId
  | .timeout id _ => id = taskId
  | .message _ (.responseVisit2 _ response) _ => response.taskId = taskId
  | _ => false

def answersIn (state : ServerState) (event : Event) (next : ServerState) (taskId : Nat) : Nat :=
  if event.worksOn taskId then
    match state.findTask taskId with
    | none => 0
    | some task => next.outputs.countP task.answeredBy
  else 0

/-- A server, with the answers that each task has sent so far. -/
structure AnsweringServer where
  server : ServerState
  answers : Nat → Nat := fun _ => 0

section

variable (md5 : String → String)

def answeringStep (state : AnsweringServer) (event : Event) : Option AnsweringServer :=
  (serverStep md5 state.server event).map fun next => {
    server := next
    answers := fun taskId => state.answers taskId + answersIn state.server event next taskId }

def ServerState.taskDestroyed (state : ServerState) (taskId : Nat) : Prop :=
  0 < taskId ∧ taskId < state.nextTaskId ∧
    ∀ task, state.findTask taskId = some task → task.destroyed = true

/-- No task answers twice, and a destroyed one has answered. -/
def AnsweringServer.AnsweredOnce (state : AnsweringServer) : Prop :=
  ∀ taskId, state.answers taskId ≤ 1 ∧
    (state.server.taskDestroyed taskId → state.answers taskId = 1)

/-- An answer that names an outstanding task is of the task's kind, and one that lets the
visitor in finds the room that the visitor asked for. -/
def AnswerFits (state : ServerState) : Event → Prop
  | .message con (.responseVisit2 kind response) ambient =>
      ∀ connection task, state.connections con = some connection →
        answeredTask kind state connection response ambient = some task →
          task.kind = kind ∧
            (response.errCode = Err.noError → state.rooms task.kind task.partnerUserId ≠ none)
  | _ => True

theorem feedback_answers (task : VisitTask) (state : ServerState) (errCode : Int)
    (errString : String) (response : Option VisitResponse) :
    (task.feedback state errCode errString response).outputs.countP task.answeredBy =
      state.outputs.countP task.answeredBy + 1 := by
  simp [VisitTask.feedback, ServerState.send, ServerState.put, VisitTask.answeredBy]

theorem handleResponse_answers (task : VisitTask) (state : ServerState) (con : ConnectionId)
    (response : VisitResponse) (ambient : Ambient) :
    (task.handleResponse state con response ambient).outputs.countP task.answeredBy =
      state.outputs.countP task.answeredBy +
        if response.errCode = Err.noError ∧ state.rooms task.kind task.partnerUserId = none then 0
        else 1 := by
  simp only [VisitTask.handleResponse]
  by_cases accepted : response.errCode = Err.noError
  · rw [if_pos accepted]
    cases registered : state.rooms task.kind task.partnerUserId with
    | none => simp [accepted, ServerState.crash]
    | some room =>
        simp only [accepted, reduceCtorEq, and_false, if_false]
        split
        · rw [feedback_answers]
          split
          · simp [ServerState.send, ServerState.put, ServerState.setRoom, VisitTask.answeredBy]
          · rfl
        · rw [feedback_answers]
          simp only [VisitTask.closeRefused]
          split
          · simp [ServerState.send, ServerState.put, VisitTask.answeredBy]
          · rfl
  · rw [if_neg accepted]
    simp only [accepted, false_and, if_false]
    rw [feedback_answers]
    split <;> rfl

inductive TaskChange (state : ServerState) (event : Event) (next : ServerState) : Prop where
  | same (tasks : ∀ taskId, next.findTask taskId = state.findTask taskId)
      (nextTaskId : next.nextTaskId = state.nextTaskId)
      (silent : ∀ taskId, answersIn state event next taskId = 0) (fits : AnswerFits state event)
  | dispatched (task : VisitTask) (isNew : task.id = state.nextTaskId)
      (alive : task.destroyed = false)
      (tasks : ∀ taskId, next.findTask taskId =
        if taskId = task.id then some task else state.findTask taskId)
      (nextTaskId : next.nextTaskId = state.nextTaskId + 1)
      (silent : ∀ taskId, answersIn state event next taskId = 0) (fits : AnswerFits state event)
  | changed (id : Nat) (task : VisitTask) (found : state.findTask id = some task)
      (alive : task.destroyed = false) (result : Option VisitTask)
      (tasks : ∀ taskId, next.findTask taskId =
        if taskId = id then result else state.findTask taskId)
      (nextTaskId : next.nextTaskId = state.nextTaskId)
      (others : ∀ taskId, taskId ≠ id → answersIn state event next taskId = 0)
      (ends : (∀ changed, result = some changed → changed.destroyed = true) ∧
          (answersIn state event next id = 1 ∧ AnswerFits state event ∨
            answersIn state event next id = 0 ∧ ¬ AnswerFits state event) ∨
        (∃ changed, result = some changed ∧ changed.destroyed = false) ∧
          answersIn state event next id = 0 ∧ AnswerFits state event)
  | collected (id : Nat) (task : VisitTask) (found : state.findTask id = some task)
      (dead : task.destroyed = true)
      (tasks : ∀ taskId, next.findTask taskId =
        if taskId = id then none else state.findTask taskId)
      (nextTaskId : next.nextTaskId = state.nextTaskId)
      (silent : ∀ taskId, answersIn state event next taskId = 0) (fits : AnswerFits state event)

variable {md5}

theorem silent_of_idle {state next : ServerState} {event : Event}
    (idle : ∀ taskId, event.worksOn taskId = false) (taskId : Nat) :
    answersIn state event next taskId = 0 := by
  simp [answersIn, idle]

theorem findTask_congr {state next : ServerState} (tasks : next.tasks = state.tasks)
    (taskId : Nat) :
    next.findTask taskId = state.findTask taskId := by
  simp only [ServerState.findTask, tasks]

theorem responseVisit2_missed_answers {kind : Kind} {state : ServerState} {con : ConnectionId}
    {connection : Connection} {response : VisitResponse} {ambient : Ambient}
    (missed : answeredTask kind state connection response ambient = none) (task : VisitTask) :
    (responseVisit2 kind state con connection response ambient).outputs.countP task.answeredBy =
      state.outputs.countP task.answeredBy := by
  simp only [responseVisit2]
  apply ServerState.checked_elim
    (P := fun next => next.outputs.countP task.answeredBy = state.outputs.countP task.answeredBy)
  · rfl
  · intro user role bound
    apply ServerState.parse_elim
      (P := fun next => next.outputs.countP task.answeredBy = state.outputs.countP task.answeredBy)
    · rfl
    · intro readable
      simp only [answeredTask] at missed
      rw [if_pos ⟨role, by rw [bound]; rfl, readable⟩] at missed
      rw [destroy_of_outstanding, missed]
      simp only
      split
      · simp [ServerState.send, ServerState.put, VisitTask.answeredBy]
      · rfl

theorem answered_change {kind : Kind} {state : ServerState} {con : ConnectionId}
    {connection : Connection} {response : VisitResponse} {ambient : Ambient} {task : VisitTask}
    (known : state.connections con = some connection) (noOutput : state.outputs = [])
    (answered : answeredTask kind state connection response ambient = some task) :
    TaskChange state (.message con (.responseVisit2 kind response) ambient)
      (responseVisit2 kind state con connection response ambient) := by
  obtain ⟨_, _, _, found, _, alive, _⟩ := answeredTask_some answered
  have frame : RoomFrame (state.setTask response.taskId fun task => { task with destroyed := true })
      (responseVisit2 kind state con connection response ambient) := responseVisit2_frame answered
  have fits : AnswerFits state (.message con (.responseVisit2 kind response) ambient) ↔
      task.kind = kind ∧
        (response.errCode = Err.noError → state.rooms task.kind task.partnerUserId ≠ none) := by
    constructor
    · exact fun every => every connection task known answered
    · intro here connection' task' known' answered'
      rw [known] at known'
      cases known'
      rw [answered] at answered'
      cases answered'
      exact here
  have count : answersIn state (.message con (.responseVisit2 kind response) ambient)
      (responseVisit2 kind state con connection response ambient) response.taskId =
        if task.kind = kind ∧
          (response.errCode = Err.noError → state.rooms task.kind task.partnerUserId ≠ none) then 1
        else 0 := by
    simp only [answersIn, Event.worksOn, decide_true, if_true, found]
    rw [responseVisit2_answered answered]
    by_cases same : task.kind = kind
    · rw [if_pos same, handleResponse_answers]
      simp only [ServerState.setTask, noOutput, List.countP_nil, Nat.zero_add, same, true_and]
      by_cases accepted : response.errCode = Err.noError
      · cases stands : state.rooms kind task.partnerUserId <;> simp [accepted]
      · simp [accepted]
    · rw [if_neg same]
      simp [ServerState.setTask, noOutput, same]
  apply TaskChange.changed response.taskId task found alive (some { task with destroyed := true })
  · intro taskId
    rw [findTask_congr frame.tasks,
      ServerState.findTask_setTask (fun task => { task with destroyed := true }) (fun _ => rfl),
      found]
    rfl
  · exact frame.nextTaskId
  · intro taskId other
    have apart : ¬ response.taskId = taskId := fun reversed => other reversed.symm
    simp [answersIn, Event.worksOn, apart]
  · left
    refine ⟨?_, ?_⟩
    · intro changed same
      cases same
      rfl
    · rw [count, fits]
      split
      · rename_i here
        exact Or.inl ⟨rfl, here⟩
      · rename_i here
        exact Or.inr ⟨rfl, here⟩

theorem message_change {state : ServerState} {con : ConnectionId} {connection : Connection}
    {message : ClientMessage} {ambient : Ambient} (known : state.connections con = some connection)
    (fresh : state.findTask state.nextTaskId = none) (noOutput : state.outputs = []) :
    TaskChange state (.message con message ambient)
      (handle md5 state con connection message ambient) := by
  by_cases isAnswer : ∃ kind response, message = .responseVisit2 kind response
  · obtain ⟨kind, response, rfl⟩ := isAnswer
    have result : handle md5 state con connection (.responseVisit2 kind response) ambient =
        responseVisit2 kind state con connection response ambient := rfl
    rw [result]
    cases answered : answeredTask kind state connection response ambient with
    | none =>
        have frame : ServerFrame state
            (responseVisit2 kind state con connection response ambient) :=
          responseVisit2_missed answered
        apply TaskChange.same (findTask_congr frame.tasks) frame.nextTaskId
        · intro taskId
          simp only [answersIn]
          split
          · split
            · rfl
            · rename_i task _
              rw [responseVisit2_missed_answers answered, noOutput]
              rfl
          · rfl
        · intro connection' task known' answered'
          rw [known] at known'
          cases known'
          rw [answered] at answered'
          contradiction
    | some task => exact answered_change known noOutput answered
  · have idle : ∀ taskId, (Event.message con message ambient).worksOn taskId = false := by
      intro taskId
      cases message <;> first | rfl | exact absurd ⟨_, _, rfl⟩ isAnswer
    have fits : AnswerFits state (.message con message ambient) := by
      cases message <;> first | trivial | exact absurd ⟨_, _, rfl⟩ isAnswer
    rcases handle_effect md5 state con connection message ambient with
      frame | ⟨_, _, _, _, _, _, tasks, nextTaskId, _⟩ | ⟨_, _, _, frame⟩ |
      ⟨isVisit, attempt, result⟩ | ⟨isResponse, _, _⟩ | ⟨_, frame⟩
    · exact .same (findTask_congr frame.tasks) frame.nextTaskId (silent_of_idle idle) fits
    · exact .same (findTask_congr tasks) nextTaskId (silent_of_idle idle) fits
    · exact .same (findTask_congr frame.tasks) frame.nextTaskId (silent_of_idle idle) fits
    · rename_i kind request
      rw [result]
      apply TaskChange.dispatched (visitTask kind state con request ambient) rfl rfl
      · exact ServerState.findTask_dispatch fresh
      · rfl
      · exact silent_of_idle idle
      · exact fits
    · exact absurd ⟨_, _, isResponse⟩ isAnswer
    · exact .same (findTask_congr frame.tasks) frame.nextTaskId (silent_of_idle idle) fits

theorem executeTask_change {state : ServerState} {taskId : Nat} {task : VisitTask}
    (found : state.findTask taskId = some task) (alive : task.destroyed = false)
    (noOutput : state.outputs = []) :
    TaskChange state (.execute taskId) (executeTask state task) := by
  obtain rfl : task.id = taskId := ServerState.findTask_id found
  have works : ∀ other, (Event.execute task.id).worksOn other = decide (task.id = other) :=
    fun _ => rfl
  have others : ∀ next other, other ≠ task.id →
      answersIn state (.execute task.id) next other = 0 := by
    intro next other apart
    simp [answersIn, works, Ne.symm apart]
  simp only [executeTask, VisitTask.execute]
  cases registered : state.rooms task.kind task.partnerUserId with
  | none =>
      apply TaskChange.changed task.id task found alive none
      · intro other
        simp only
        rw [ServerState.findTask_eraseTask]
        rfl
      · rfl
      · exact others _
      · left
        refine ⟨by simp, Or.inl ⟨?_, trivial⟩⟩
        have told := feedback_answers task state Err.targetUnreachable
          (formatError Err.targetUnreachable) none
        simp only [noOutput, List.countP_nil, Nat.zero_add] at told
        simp only [answersIn, works, decide_true, if_true, found]
        exact told
  | some room =>
      apply TaskChange.changed task.id task found alive (some { task with executed := true })
      · intro other
        simp only
        rw [ServerState.findTask_setTask (fun task => { task with executed := true })
          (fun _ => rfl)]
        have same : ∀ packet, (state.send room.owner packet).findTask = state.findTask :=
          fun _ => rfl
        rw [same, found]
        rfl
      · rfl
      · exact others _
      · right
        refine ⟨⟨_, rfl, alive⟩, ?_, trivial⟩
        simp only [answersIn, works, decide_true, if_true, found]
        simp [ServerState.setTask, ServerState.send, ServerState.put, noOutput,
          VisitTask.answeredBy]

theorem timeoutTask_change {state : ServerState} {taskId : Nat} {now : Int} {task : VisitTask}
    (found : state.findTask taskId = some task) (alive : task.destroyed = false)
    (noOutput : state.outputs = []) :
    TaskChange state (.timeout taskId now) (timeoutTask state task) := by
  obtain rfl : task.id = taskId := ServerState.findTask_id found
  have works : ∀ other, (Event.timeout task.id now).worksOn other = decide (task.id = other) :=
    fun _ => rfl
  apply TaskChange.changed task.id task found alive none
  · intro other
    simp only [timeoutTask]
    rw [ServerState.findTask_eraseTask]
    rfl
  · rfl
  · intro other apart
    simp [answersIn, works, Ne.symm apart]
  · left
    refine ⟨by simp, Or.inl ⟨?_, trivial⟩⟩
    have told := feedback_answers task state Err.timeout (formatError Err.timeout) none
    simp only [noOutput, List.countP_nil, Nat.zero_add] at told
    simp only [answersIn, works, decide_true, if_true, found]
    exact told

theorem serverStep_taskChange {state next : ServerState} {event : Event}
    (fresh : state.findTask state.nextTaskId = none)
    (stepped : serverStep md5 state event = some next) : TaskChange state event next := by
  obtain ⟨_, happened⟩ := serverStep_some.mp stepped
  have same : ∀ change, TaskChange { state with outputs := [] } event change →
      TaskChange state event change := by
    intro change taskChange
    cases taskChange with
    | same tasks nextTaskId silent fits => exact .same tasks nextTaskId silent fits
    | dispatched task isNew alive tasks nextTaskId silent fits =>
        exact .dispatched task isNew alive tasks nextTaskId silent fits
    | changed id task found alive result tasks nextTaskId others ends =>
        exact .changed id task found alive result tasks nextTaskId others ends
    | collected id task found dead tasks nextTaskId silent fits =>
        exact .collected id task found dead tasks nextTaskId silent fits
  apply same
  cases event with
  | message con message ambient =>
      obtain ⟨connection, known, _, _, rfl⟩ := eventStep_message happened
      exact message_change known fresh rfl
  | clean con =>
      obtain ⟨connection, known, _, rfl⟩ := eventStep_clean happened
      have frame := cleanUserConnection_frame
        { { state with outputs := [] } with cleaned := updateAt state.cleaned con true }
        con connection
      exact .same (findTask_congr frame.tasks) frame.nextTaskId (silent_of_idle fun _ => rfl)
        trivial
  | connect con server peerIP =>
      simp only [eventStep] at happened
      split at happened
      · contradiction
      · cases happened
        exact .same (fun _ => rfl) rfl (silent_of_idle fun _ => rfl) trivial
  | disconnect con =>
      cases happened
      exact .same (fun _ => rfl) rfl (silent_of_idle fun _ => rfl) trivial
  | removeConnection con =>
      cases happened
      exact .same (fun _ => rfl) rfl (silent_of_idle fun _ => rfl) trivial
  | execute taskId =>
      simp only [eventStep] at happened
      split at happened
      · contradiction
      · rename_i task found
        split at happened
        · contradiction
        · rename_i ready
          cases happened
          exact executeTask_change found (by simpa using (not_or.mp ready).1) rfl
  | timeout taskId now =>
      simp only [eventStep] at happened
      split at happened
      · contradiction
      · rename_i task found
        split at happened
        · rename_i ready
          cases happened
          exact timeoutTask_change found (by simpa using ready.1) rfl
        · contradiction
  | collect taskId =>
      simp only [eventStep] at happened
      split at happened
      · contradiction
      · rename_i task found
        split at happened
        · rename_i dead
          cases happened
          apply TaskChange.collected taskId task found dead
          · exact ServerState.findTask_eraseTask _ taskId
          · rfl
          · exact silent_of_idle fun _ => rfl
          · trivial
        · contradiction

structure Answering (state : AnsweringServer) : Prop where
  fresh : ∀ taskId, state.server.nextTaskId ≤ taskId →
    state.server.findTask taskId = none ∧ state.answers taskId = 0
  zero : 0 < state.server.nextTaskId ∧ state.server.findTask 0 = none
  alive : ∀ taskId task, state.server.findTask taskId = some task → task.destroyed = false →
    state.answers taskId = 0
  atMostOnce : ∀ taskId, state.answers taskId ≤ 1

theorem Answering.bounded {state : AnsweringServer} (answering : Answering state) {taskId : Nat}
    {task : VisitTask} (found : state.server.findTask taskId = some task) :
    0 < taskId ∧ taskId < state.server.nextTaskId := by
  constructor
  · rcases Nat.eq_zero_or_pos taskId with isZero | positive
    · rw [isZero, answering.zero.2] at found
      contradiction
    · exact positive
  · by_contra beyond
    rw [(answering.fresh taskId (by omega)).1] at found
    contradiction

theorem AnsweringServer.answeredOnce_congr {state next : AnsweringServer}
    (answered : state.AnsweredOnce) (answers : ∀ taskId, next.answers taskId = state.answers taskId)
    (destroyed : ∀ taskId, next.server.taskDestroyed taskId → state.server.taskDestroyed taskId) :
    next.AnsweredOnce := by
  intro taskId
  rw [answers]
  exact ⟨(answered taskId).1, fun dead => (answered taskId).2 (destroyed taskId dead)⟩

theorem answers_unchanged {state : AnsweringServer} {event : Event} {server : ServerState}
    (silent : ∀ taskId, answersIn state.server event server taskId = 0) (taskId : Nat) :
    state.answers taskId + answersIn state.server event server taskId = state.answers taskId := by
  rw [silent, Nat.add_zero]

theorem answering_step {state next : AnsweringServer} {event : Event}
    (answering : Answering state) (stepped : answeringStep md5 state event = some next) :
    Answering next := by
  obtain ⟨server, happened, rfl⟩ := Option.map_eq_some_iff.mp stepped
  have unused := (answering.fresh state.server.nextTaskId (Nat.le_refl _)).1
  cases serverStep_taskChange unused happened with
  | same tasks nextTaskId silent fits =>
      have answers := answers_unchanged silent
      constructor
      · intro taskId beyond
        simp only [nextTaskId] at beyond
        simp only [tasks, answers]
        exact answering.fresh taskId beyond
      · simp only [nextTaskId, tasks]
        exact answering.zero
      · simp only [tasks, answers]
        exact answering.alive
      · simp only [answers]
        exact answering.atMostOnce
  | dispatched task isNew alive tasks nextTaskId silent fits =>
      have answers := answers_unchanged silent
      constructor
      · intro taskId beyond
        simp only [nextTaskId] at beyond
        simp only [tasks, answers, isNew]
        rw [if_neg (by omega)]
        exact answering.fresh taskId (by omega)
      · have positive := answering.zero.1
        simp only [nextTaskId, tasks, isNew]
        rw [if_neg (by omega)]
        exact ⟨by omega, answering.zero.2⟩
      · simp only [tasks, answers]
        intro taskId other found stillAlive
        by_cases isTask : taskId = task.id
        · exact (answering.fresh taskId (by omega)).2
        · rw [if_neg isTask] at found
          exact answering.alive taskId other found stillAlive
      · simp only [answers]
        exact answering.atMostOnce
  | changed id task found alive result tasks nextTaskId others ends =>
      have before := answering.alive id task found alive
      have bounded := answering.bounded found
      have elsewhere : ∀ taskId, taskId ≠ id →
          state.answers taskId + answersIn state.server event server taskId =
            state.answers taskId := fun taskId apart => by rw [others taskId apart, Nat.add_zero]
      constructor
      · intro taskId beyond
        simp only [nextTaskId] at beyond
        have apart : taskId ≠ id := by omega
        simp only [tasks, if_neg apart, elsewhere taskId apart]
        exact answering.fresh taskId beyond
      · simp only [nextTaskId, tasks]
        rw [if_neg (by omega)]
        exact answering.zero
      · simp only [tasks]
        intro taskId other isFound stillAlive
        by_cases isTask : taskId = id
        · rw [if_pos isTask] at isFound
          rw [isTask, before]
          rcases ends with ⟨dead, _⟩ | ⟨_, silent, _⟩
          · rw [dead other isFound] at stillAlive
            contradiction
          · rw [silent]
        · rw [if_neg isTask] at isFound
          rw [elsewhere taskId isTask]
          exact answering.alive taskId other isFound stillAlive
      · intro taskId
        by_cases isTask : taskId = id
        · simp only [isTask, before]
          rcases ends with ⟨_, ⟨sent, _⟩ | ⟨sent, _⟩⟩ | ⟨_, sent, _⟩ <;> omega
        · simp only [elsewhere taskId isTask]
          exact answering.atMostOnce taskId
  | collected id task found dead tasks nextTaskId silent fits =>
      have answers := answers_unchanged silent
      have bounded := answering.bounded found
      constructor
      · intro taskId beyond
        simp only [nextTaskId] at beyond
        simp only [tasks, answers]
        rw [if_neg (by omega)]
        exact answering.fresh taskId beyond
      · simp only [nextTaskId, tasks]
        rw [if_neg (by omega)]
        exact answering.zero
      · simp only [tasks, answers]
        intro taskId other isFound stillAlive
        split at isFound
        · contradiction
        · exact answering.alive taskId other isFound stillAlive
      · simp only [answers]
        exact answering.atMostOnce

theorem answeredOnce_iff {state next : AnsweringServer} {event : Event}
    (answering : Answering state) (answered : state.AnsweredOnce)
    (stepped : answeringStep md5 state event = some next) :
    next.AnsweredOnce ↔ AnswerFits state.server event := by
  have after := answering_step answering stepped
  obtain ⟨server, happened, rfl⟩ := Option.map_eq_some_iff.mp stepped
  have unused := (answering.fresh state.server.nextTaskId (Nat.le_refl _)).1
  cases serverStep_taskChange unused happened with
  | same tasks nextTaskId silent fits =>
      refine iff_of_true ?_ fits
      apply AnsweringServer.answeredOnce_congr answered (answers_unchanged silent)
      intro taskId dead
      simpa only [ServerState.taskDestroyed, tasks, nextTaskId] using dead
  | dispatched task isNew alive tasks nextTaskId silent fits =>
      refine iff_of_true ?_ fits
      apply AnsweringServer.answeredOnce_congr answered (answers_unchanged silent)
      rintro taskId ⟨positive, below, dead⟩
      simp only [nextTaskId, tasks] at below dead
      by_cases isTask : taskId = task.id
      · rw [if_pos isTask] at dead
        have contrary := dead task rfl
        rw [alive] at contrary
        contradiction
      · rw [if_neg isTask] at dead
        exact ⟨positive, by omega, dead⟩
  | changed id task found alive result tasks nextTaskId others ends =>
      have before := answering.alive id task found alive
      have bounded := answering.bounded found
      have otherTasks : ∀ taskId, taskId ≠ id → server.taskDestroyed taskId →
          state.answers taskId + answersIn state.server event server taskId = 1 := by
        rintro taskId apart ⟨positive, below, dead⟩
        simp only [nextTaskId, tasks, if_neg apart] at below dead
        rw [others taskId apart, Nat.add_zero]
        exact (answered taskId).2 ⟨positive, below, dead⟩
      rcases ends with ⟨dead, ⟨sent, fits⟩ | ⟨sent, fitsNot⟩⟩ |
        ⟨⟨changed, isChanged, lives⟩, _, fits⟩
      · refine iff_of_true (fun taskId => ⟨after.atMostOnce taskId, fun gone => ?_⟩) fits
        by_cases isTask : taskId = id
        · simp only [isTask, before, sent]
        · exact otherTasks taskId isTask gone
      · refine iff_of_false (fun once => ?_) fitsNot
        have isDead : server.taskDestroyed id := by
          refine ⟨bounded.1, nextTaskId ▸ bounded.2, ?_⟩
          simp only [tasks, if_true]
          exact dead
        have answeredHere := (once id).2 isDead
        simp only [before, sent] at answeredHere
        omega
      · refine iff_of_true (fun taskId => ⟨after.atMostOnce taskId, fun gone => ?_⟩) fits
        by_cases isTask : taskId = id
        · have contrary := gone.2.2 changed (by rw [tasks, if_pos isTask, isChanged])
          rw [lives] at contrary
          contradiction
        · exact otherTasks taskId isTask gone
  | collected id task found dead tasks nextTaskId silent fits =>
      refine iff_of_true ?_ fits
      apply AnsweringServer.answeredOnce_congr answered (answers_unchanged silent)
      rintro taskId ⟨positive, below, gone⟩
      simp only [nextTaskId, tasks] at below gone
      refine ⟨positive, below, ?_⟩
      by_cases isTask : taskId = id
      · rw [isTask, found]
        rintro other ⟨⟩
        exact dead
      · rw [if_neg isTask] at gone
        exact gone

def initialAnswering (accountManager : AccountManager) : AnsweringServer :=
  { server := initialServer accountManager }

theorem answering_initial (accountManager : AccountManager) :
    Answering (initialAnswering accountManager) :=
  ⟨fun _ _ => ⟨rfl, rfl⟩, ⟨Nat.one_pos, rfl⟩, fun _ _ _ _ => rfl, fun _ => Nat.zero_le _⟩

theorem answeredOnce_initial (accountManager : AccountManager) :
    (initialAnswering accountManager).AnsweredOnce := by
  refine fun taskId => ⟨Nat.zero_le _, ?_⟩
  rintro ⟨positive, below, _⟩
  simp only [initialAnswering, initialServer] at below
  omega

/-- Whatever the guards answer, no visit is answered twice. -/
theorem visits_answered_at_most_once {accountManager : AccountManager} {state : AnsweringServer}
    (reached : Transition.Reachable (answeringStep md5) (initialAnswering accountManager) state)
    (taskId : Nat) : state.answers taskId ≤ 1 := by
  have answering : Answering state := Transition.Reachable.invariant (answeringStep md5)
    (fun _ _ _ answering stepped => answering_step answering stepped)
    (answering_initial accountManager) reached
  exact answering.atMostOnce taskId

/-- In every run: each visit is answered at most once, and exactly once when it is destroyed,
just when all the guards' answers fit. -/
theorem visits_answered_once_iff (md5 : String → String) (accountManager : AccountManager)
    (events : List Event) :
    Transition.Throughout (answeringStep md5) AnsweringServer.AnsweredOnce
        (initialAnswering accountManager) events ↔
      Transition.Happening (answeringStep md5) (fun state => AnswerFits state.server)
        (initialAnswering accountManager) events :=
  Transition.Throughout.iff_happening (answeringStep md5) Answering
    (fun _ _ _ answering answered stepped =>
      ⟨answering_step answering stepped, answeredOnce_iff answering answered stepped⟩)
    (answering_initial accountManager) (answeredOnce_initial accountManager)

def answeredForFiles : List Event := [
  .connect 1 .application "10.0.0.1",
  .connect 2 .application "10.0.0.2",
  .message 1 (.login {
    account := "guard", password := "", secretKey := "k"
    role := Role.screenGuard ||| Role.fileTransmissionGuard }) {},
  .message 2 (.login {
    account := "visitor", password := "", role := Role.screenVisitor, secretKey := "k" }) {},
  .message 2 (.requestVisit .screen { userId := 1, authString := "" }) { certificate := 7 },
  .execute 1,
  .message 1 (.responseVisit2 .fileTransmission { taskId := 1, certificate := 7, errCode := 0 }) {}]

/-- The visit is destroyed, and its visitor never hears of it. -/
theorem answeredForFiles_unanswered : ∃ state,
    Transition.run (answeringStep noDigest) (initialAnswering twoAccounts) answeredForFiles =
      some state ∧ ¬ state.AnsweredOnce := by
  refine ⟨_, rfl, fun once => ?_⟩
  have destroyed := (once 1).2 ⟨by decide, by decide, ?_⟩
  · exact absurd destroyed (by decide)
  · rintro task ⟨⟩
    rfl

end

end EasyViewer
