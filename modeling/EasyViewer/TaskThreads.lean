import EasyViewer.Library.Threads
import EasyViewer.TaskRegistry

/-!
`TaskScheduler` under any number of threads, cut where a function takes or gives back
`m_mutex` or a task's mutex. Thread 0 is `exec`. A follower's callback that calls the
scheduler again counts as a call of another thread.
-/

namespace EasyViewer

inductive TaskNotice where
  | added
  | removed
  | stateChanged
  | progressChanged
  | remoteOpenFile
  | remoteCloseFile
  | remoteWriteFileBlock (progress : Nat) (data : List UInt8)
  | remoteReadFileBlock (length : Nat)
  deriving DecidableEq, Repr

/-- What is done under a task's mutex. The block operations serve a guard, or as part of
`successReadRemoteFileBlock` and `successWriteRemoteFileBlock` are `remote`. -/
inductive TaskSection where
  | stopTask
  | resumeTask
  | remoteSuccessOpenFile
  | remoteFailureOpenFile (errCode : Int) (errString : String)
  | failureReadRemoteFileBlock (errCode : Int) (errString : String)
  | failureWriteRemoteFileBlock (errCode : Int) (errString : String)
  | writeLocalFileBlock (remote : Bool) (progress : Nat) (data : List UInt8)
  | readLocalFileBlock (remote : Bool) (progress length : Nat)
  deriving DecidableEq, Repr

/-- What a thread has yet to do. `resumed` is `resumeTask`'s `push_back`, `requeue` that of
`exec`, `erase` its `m_tasks.erase`, and `work` its switch. -/
inductive TaskAction where
  | insert (object : TaskPrivate)
  | remove (id : String)
  | returned (address : Nat)
  | find (id : String) (inside : TaskSection)
  | lock (address : Nat) (inside : TaskSection)
  | firstUpload (address : Nat)
  | notify (address : Nat) (notice : TaskNotice)
  | resumed (address : Nat)
  | work (address : Nat)
  | requeue (address : Nat)
  | erase (address : Nat)
  deriving DecidableEq, Repr

/-- The scheduler with a history of the tasks whose `removeTask` has returned, of those that
were notified about or opened after that, and of those that `exec` unregistered when it had
another task in hand. -/
structure SharedTasks where
  registry : TaskRegistry
  gone : List Nat := []
  late : List Nat := []
  evicted : List Nat := []

namespace TaskSection

def stateChanged (address : Nat) : TaskAction := .notify address .stateChanged

def closes (task : FileTask) (address : Nat) : List TaskAction :=
  if task.starter = .self then [.notify address .remoteCloseFile] else []

def perform (task : FileTask) (file : Option (List UInt8)) (io : FileIo) (address : Nat) :
    TaskSection → FileTask × Option (List UInt8) × List TaskAction
  | .stopTask =>
      let after := (TaskScheduler.stopTask task).1
      (after, file,
        if after.state = task.state then []
        else [.notify address .remoteCloseFile, stateChanged address])
  | .resumeTask =>
      let after := TaskScheduler.resumeTask task
      (after, file,
        if after.state = task.state then [] else [stateChanged address, .resumed address])
  | .remoteSuccessOpenFile =>
      if task.state ≠ .preparing then (task, file, [])
      else
        ({ task with state := .transmitting }, file,
          stateChanged address ::
            match task.starter, task.action with
            | .partner, _ => []
            | .self, .read => [.notify address (.remoteReadFileBlock blockSize)]
            | .self, .write => [.firstUpload address])
  | .remoteFailureOpenFile errCode errString =>
      let after := TaskScheduler.remoteFailureOpenFile task errCode errString
      (after, file, if after.state = task.state then [] else [stateChanged address])
  | .failureReadRemoteFileBlock errCode errString =>
      let after := (TaskScheduler.failureReadRemoteFileBlock task errCode errString).1
      (after, file,
        if after.state = task.state then []
        else [stateChanged address, .notify address .remoteCloseFile])
  | .failureWriteRemoteFileBlock errCode errString =>
      let after := (TaskScheduler.failureWriteRemoteFileBlock task errCode errString).1
      (after, file,
        if after.state = task.state then []
        else [stateChanged address, .notify address .remoteCloseFile])
  | .writeLocalFileBlock remote progress data =>
      match TaskScheduler.writeLocalFileBlock task progress data (file.getD []) io with
      | ((err, _), after, written, _) =>
          (after, file.map fun _ => written,
            if task.state ≠ .transmitting ∨ task.readsLocally then []
            else if err ≠ Err.noError then
              .notify address .progressChanged :: stateChanged address :: closes task address
            else
              .notify address .progressChanged ::
                if remote then [.notify address (.remoteReadFileBlock data.length)] else [])
  | .readLocalFileBlock remote progress length =>
      match TaskScheduler.readLocalFileBlock task progress length (file.getD []) io with
      | ((err, _), data, after, _) =>
          (after, file,
            if task.state ≠ .transmitting ∨ ¬ task.readsLocally then []
            else if err ≠ Err.noError then
              if task.starter = .self then
                [stateChanged address, .notify address .remoteCloseFile]
              else []
            else if remote then [.notify address (.remoteWriteFileBlock progress data)]
            else [])

def before (address : Nat) : TaskSection → List TaskAction
  | .readLocalFileBlock true _ _ => [.notify address .progressChanged]
  | _ => []

end TaskSection

namespace SharedTasks

def notifies (shared : SharedTasks) (address : Nat) : SharedTasks :=
  { shared with
    late := if address ∈ shared.gone then address :: shared.late else shared.late }

/-- The switch of `exec`: what the object becomes, and what `exec` does after the switch. -/
def switch (task : FileTask) (file : Option (List UInt8)) (idle : Bool) (io : FileIo)
    (address : Nat) : FileTask × Option (List UInt8) × List TaskAction :=
  match task.state with
  | .waitingForStart =>
      match task.initIo file task.overrideFile io with
      | ((err, reason), opened, after) =>
          if err ≠ Err.noError then
            ({ opened with state := .failed, error := err, reason := reason }, after,
              [.notify address .stateChanged])
          else
            ({ opened with state := .preparing }, after,
              [.notify address .stateChanged, .notify address .remoteOpenFile, .requeue address])
  | .preparing | .transmitting =>
      if idle then
        ({ task with state := .stoped }, file, [.notify address .stateChanged, .requeue address])
      else (task, file, [.requeue address])
  | .stoped | .finished | .failed =>
      (task, file, if task.starter = .partner then [.erase address] else [])

def leave (shared : SharedTasks) (address : Nat) (task : FileTask) (file : Option (List UInt8)) :
    SharedTasks :=
  { shared with
    registry := (shared.registry.put address task).putFile
      (shared.registry.objects address).path file }

def perform (idle : Bool) (io : FileIo) (shared : SharedTasks) :
    TaskAction → SharedTasks × List TaskAction
  | .insert object =>
      match shared.registry.insert object with
      | ((err, _), registry) =>
          ({ shared with registry := registry },
            if err = Err.noError then [.notify shared.registry.size .added] else [])
  | .remove id =>
      ({ shared with registry := shared.registry.removeTask id },
        match shared.registry.tasks id with
        | none => []
        | some address => [.notify address .removed, .returned address])
  | .returned address => ({ shared with gone := address :: shared.gone }, [])
  | .find id inside =>
      (shared,
        match shared.registry.tasks id with
        | none => []
        | some address => inside.before address ++ [.lock address inside])
  | .lock address inside =>
      let object := shared.registry.objects address
      if ¬ object.known then (shared, [])
      else
        match inside.perform object.task (shared.registry.fileOf address) io address with
        | (task, file, after) => (shared.leave address task file, after)
  | .firstUpload address =>
      let object := shared.registry.objects address
      (shared, [.find object.id (.readLocalFileBlock true object.task.progress blockSize)])
  | .notify address _ => (shared.notifies address, [])
  | .resumed address => ({ shared with registry := shared.registry.push address }, [])
  | .work address =>
      let object := shared.registry.objects address
      match switch object.task (shared.registry.fileOf address) idle io address with
      | (task, file, after) =>
          let left := shared.leave address task file
          (if object.task.fp.isNone ∧ task.fp.isSome then left.notifies address else left, after)
  | .requeue address => ({ shared with registry := shared.registry.push address }, [])
  | .erase address =>
      let id := (shared.registry.objects address).id
      ({ shared with
        registry := shared.registry.unregister id
        evicted :=
          match shared.registry.tasks id with
          | none => shared.evicted
          | some other => if other = address then shared.evicted else other :: shared.evicted }, [])

end SharedTasks

/-- The scheduler's functions; `loadTask` is `addTask` as `loadTasks` calls it. -/
inductive TaskOperation where
  | addTaskActively (object : TaskPrivate) (action : Action) (progress : Nat)
      (overrideFile : Bool)
  | loadTask (object : TaskPrivate) (action : Action) (progress : Nat) (state : TaskState)
  | addTaskPassively (id serverHost : String) (serverPort : UInt16) (partnerId : UserId)
      (mode : Int) (directory fileName : String) (progress fileSize : Nat) (overrideFile : Bool)
  | removeTask (id : String)
  | call (id : String) (inside : TaskSection)
  deriving DecidableEq, Repr

namespace TaskOperation

/-- What a function does before it takes the scheduler's mutex, and the actions it consists of. -/
def begin (registry : TaskRegistry) (io : FileIo) :
    TaskOperation → TaskRegistry × List TaskAction
  | .addTaskActively object action progress overrideFile =>
      (registry, [.insert { object with
        known := true
        task := {
          starter := .self
          action := action
          state := .waitingForStart
          progress := progress
          overrideFile := overrideFile } }])
  | .loadTask object action progress state =>
      (registry, [.insert { object with
        known := true
        task := {
          starter := .self
          action := action
          state := if state = .finished ∨ state = .failed then state else .stoped
          progress := progress } }])
  | .addTaskPassively id serverHost serverPort partnerId mode directory fileName progress fileSize
      overrideFile =>
      let action := (TaskRegistry.actionOf mode).getD .write
      let make := TaskRegistry.passiveTask id serverHost serverPort partnerId mode directory
        fileName fileSize
      let path := (make {
        starter := .partner
        action := action
        state := .transmitting }).path
      match TaskScheduler.addTaskPassively action progress overrideFile (registry.files path)
        io with
      | (_, none, file) => (registry.putFile path file, [])
      | (_, some task, file) => (registry.putFile path file, [.insert (make task)])
  | .removeTask id => (registry, [.remove id])
  | .call id inside => (registry, [.find id inside])

end TaskOperation

inductive TaskEvent where
  | start (thread : Nat) (operation : TaskOperation) (io : FileIo)
  | pop
  | advance (thread : Nat) (idle : Bool) (io : FileIo)
  deriving DecidableEq, Repr

abbrev TaskThreads := Threads.Pool SharedTasks TaskAction

def initialThreads (files : String → Option (List UInt8)) : TaskThreads where
  shared := { registry := TaskRegistry.empty files }
  pending := fun _ => []

def taskStep (pool : TaskThreads) : TaskEvent → Option TaskThreads
  | .start thread operation io =>
      if thread = 0 then none
      else
        match operation.begin pool.shared.registry io with
        | (registry, actions) => pool.start thread { pool.shared with registry := registry } actions
  | .pop =>
      match pool.shared.registry.queued with
      | [] => none
      | address :: rest =>
          pool.start 0
            { pool.shared with registry := { pool.shared.registry with queued := rest } }
            [.work address]
  | .advance thread idle io => pool.advance (SharedTasks.perform idle io) thread

inductive TaskStepped (pool next : TaskThreads) : TaskEvent → Prop where
  | start (thread : Nat) (operation : TaskOperation) (io : FileIo) (free : thread ≠ 0)
      (started : pool.start thread
          { pool.shared with registry := (operation.begin pool.shared.registry io).1 }
          (operation.begin pool.shared.registry io).2 = some next) :
      TaskStepped pool next (.start thread operation io)
  | pop (address : Nat) (rest : List Nat) (queue : pool.shared.registry.queued = address :: rest)
      (started : pool.start 0
          { pool.shared with registry := { pool.shared.registry with queued := rest } }
          [.work address] = some next) :
      TaskStepped pool next .pop
  | advance (thread : Nat) (idle : Bool) (io : FileIo) (action : TaskAction)
      (rest : List TaskAction) (first : pool.pending thread = action :: rest)
      (advanced : pool.advance (SharedTasks.perform idle io) thread = some next) :
      TaskStepped pool next (.advance thread idle io)

theorem taskStep_cases {pool next : TaskThreads} {event : TaskEvent}
    (stepped : taskStep pool event = some next) : TaskStepped pool next event := by
  cases event with
  | start thread operation io =>
      simp only [taskStep] at stepped
      split at stepped
      · contradiction
      · exact .start thread operation io ‹_› stepped
  | pop =>
      simp only [taskStep] at stepped
      split at stepped
      · contradiction
      · exact .pop _ _ ‹_› stepped
  | advance thread idle io =>
      simp only [taskStep] at stepped
      obtain ⟨action, rest, first, _⟩ := Threads.Pool.advance_eq_some.mp stepped
      exact .advance thread idle io action rest first stepped

def TaskEvent.thread : TaskEvent → Nat
  | .start thread _ _ | .advance thread _ _ => thread
  | .pop => 0

theorem taskStep_pending {pool next : TaskThreads} {event : TaskEvent} {other : Nat}
    (stepped : taskStep pool event = some next) (apart : other ≠ event.thread) :
    next.pending other = pool.pending other := by
  cases taskStep_cases stepped with
  | start thread operation io free started =>
      obtain ⟨-, rfl⟩ := Threads.Pool.start_eq_some.mp started
      exact Function.update_of_ne apart _ _
  | pop address rest queue started =>
      obtain ⟨-, rfl⟩ := Threads.Pool.start_eq_some.mp started
      exact Function.update_of_ne apart _ _
  | advance thread idle io action rest first advanced =>
      obtain ⟨_, _, -, rfl⟩ := Threads.Pool.advance_eq_some.mp advanced
      exact Function.update_of_ne apart _ _

theorem run_idle {pool final : TaskThreads} {events : List TaskEvent} {other : Nat}
    (ran : Transition.run taskStep pool events = some final)
    (apart : ∀ event ∈ events, other ≠ event.thread) :
    final.pending other = pool.pending other := by
  induction events generalizing pool with
  | nil => cases ran; rfl
  | cons event events ih =>
      obtain ⟨next, stepped, rest⟩ := (Transition.run_cons taskStep).mp ran
      obtain ⟨first, others⟩ := List.forall_mem_cons.mp apart
      rw [ih rest others, taskStep_pending stepped first]

namespace TaskAction

def about : TaskAction → Option Nat
  | .insert _ | .remove _ | .find _ _ => none
  | .returned address | .lock address _ | .firstUpload address | .notify address _
  | .resumed address | .work address | .requeue address | .erase address => some address

end TaskAction

def Stays (address : Nat) (action : TaskAction) : Prop :=
  action.about = some address ∧ ∀ other, action ≠ .returned other

theorem section_stays (task : FileTask) (file : Option (List UInt8)) (io : FileIo)
    (address : Nat) (inside : TaskSection) :
    ∀ follows ∈ (inside.perform task file io address).2.2, Stays address follows := by
  cases inside with
  | remoteSuccessOpenFile =>
      simp only [TaskSection.perform]
      split
      · simp
      · split <;> simp [Stays, TaskAction.about, TaskSection.stateChanged]
  | writeLocalFileBlock remote progress data =>
      simp only [TaskSection.perform, TaskSection.closes]
      split
      · simp
      · split
        · split <;> simp [Stays, TaskAction.about, TaskSection.stateChanged]
        · split <;> simp [Stays, TaskAction.about]
  | readLocalFileBlock remote progress length =>
      simp only [TaskSection.perform]
      split
      · simp
      · split
        · split <;> simp [Stays, TaskAction.about, TaskSection.stateChanged]
        · split <;> simp [Stays, TaskAction.about]
  | stopTask | resumeTask =>
      simp only [TaskSection.perform]
      split <;> simp [Stays, TaskAction.about, TaskSection.stateChanged]
  | remoteFailureOpenFile errCode errString | failureReadRemoteFileBlock errCode errString
  | failureWriteRemoteFileBlock errCode errString =>
      simp only [TaskSection.perform]
      split <;> simp [Stays, TaskAction.about, TaskSection.stateChanged]

theorem switch_stays (task : FileTask) (file : Option (List UInt8)) (idle : Bool) (io : FileIo)
    (address : Nat) :
    ∀ follows ∈ (SharedTasks.switch task file idle io address).2.2, Stays address follows := by
  simp only [SharedTasks.switch]
  split
  · split <;> simp [Stays, TaskAction.about]
  · split <;> simp [Stays, TaskAction.about]
  · split <;> simp [Stays, TaskAction.about]
  · split <;> simp [Stays, TaskAction.about]
  · split <;> simp [Stays, TaskAction.about]
  · split <;> simp [Stays, TaskAction.about]

theorem before_stays (address : Nat) (inside : TaskSection) :
    ∀ follows ∈ inside.before address ++ [.lock address inside], Stays address follows := by
  cases inside with
  | readLocalFileBlock remote progress length =>
      cases remote <;> simp [TaskSection.before, Stays, TaskAction.about]
  | _ => simp [TaskSection.before, Stays, TaskAction.about]

theorem Stays.no_insert {address : Nat} {action : TaskAction} (stays : Stays address action)
    (object : TaskPrivate) : action ≠ .insert object := by
  rintro rfl
  exact absurd stays.1 (by simp [TaskAction.about])

/-- New objects come from the scheduler's functions, never from what follows an action. -/
theorem perform_no_insert (idle : Bool) (io : FileIo) (shared : SharedTasks) (action : TaskAction) :
    ∀ follows ∈ (SharedTasks.perform idle io shared action).2, ∀ object,
      follows ≠ .insert object := by
  cases action with
  | insert object =>
      simp only [SharedTasks.perform]
      split <;> simp
  | remove id =>
      simp only [SharedTasks.perform]
      split <;> simp
  | find id inside =>
      simp only [SharedTasks.perform]
      split
      · simp
      · rename_i address _
        exact fun follows member => (before_stays address inside follows member).no_insert
  | lock address inside =>
      simp only [SharedTasks.perform]
      split
      · simp
      · exact fun follows member => (section_stays _ _ io address inside follows member).no_insert
  | work address =>
      exact fun follows member => (switch_stays _ _ idle io address follows member).no_insert
  | returned address | notify address notice | resumed address | requeue address
  | erase address | firstUpload address => simp [SharedTasks.perform]

/-! One turn of `exec` that no other thread comes between is the registry's `exec`. -/

namespace TaskRegistry

theorem put_same (registry : TaskRegistry) (address : Nat) :
    registry.put address (registry.objects address).task = registry := by
  simp only [put, Function.update_eq_self]

theorem putFile_same (registry : TaskRegistry) (address : Nat) :
    registry.putFile (registry.objects address).path (registry.fileOf address) = registry := by
  simp only [putFile, fileOf, Function.update_eq_self]

end TaskRegistry

namespace SharedTasks

theorem notifies_registry (shared : SharedTasks) (address : Nat) :
    (shared.notifies address).registry = shared.registry := rfl

def performs (idle : Bool) (io : FileIo) (shared : SharedTasks) (actions : List TaskAction) :
    SharedTasks :=
  actions.foldl (fun shared action => (perform idle io shared action).1) shared

/-- The switch and what `exec` does after it are the task's turn in `exec`. -/
theorem work_exec (shared : SharedTasks) (address : Nat) (idle : Bool) (io : FileIo) :
    ((perform idle io shared (.work address)).1.performs idle io
        (perform idle io shared (.work address)).2).registry =
      match TaskScheduler.exec (shared.registry.objects address).task
        (shared.registry.fileOf address) idle io with
      | (none, file, _) =>
          (shared.registry.putFile (shared.registry.objects address).path file).unregister
            (shared.registry.objects address).id
      | (some after, file, remotes) =>
          if after.state = .preparing ∨ (shared.registry.objects address).task.state = .preparing ∨
              (shared.registry.objects address).task.state = .transmitting then
            (shared.registry.operate address (after, file, remotes)).1.push address
          else (shared.registry.operate address (after, file, remotes)).1 := by
  cases state : (shared.registry.objects address).task.state with
  | waitingForStart =>
      rcases opens : (shared.registry.objects address).task.initIo (shared.registry.fileOf address)
        (shared.registry.objects address).task.overrideFile io with ⟨⟨err, reason⟩, opened, written⟩
      by_cases failed : err = Err.noError
      · simp [performs, perform, switch, TaskScheduler.exec, state, opens, failed,
          notifies_registry, apply_ite registry, leave, TaskRegistry.operate]
      · simp [performs, perform, switch, TaskScheduler.exec, state, opens, failed,
          notifies_registry, apply_ite registry, leave, TaskRegistry.operate]
  | preparing | transmitting =>
      cases idle
      · simp [performs, perform, switch, TaskScheduler.exec, state, notifies_registry,
          apply_ite registry, leave, TaskRegistry.operate]
      · simp [performs, perform, switch, TaskScheduler.exec, state, notifies_registry,
          apply_ite registry, leave, TaskRegistry.operate]
  | stoped | finished | failed =>
      by_cases theirs : (shared.registry.objects address).task.starter = .partner
      · simp [performs, perform, switch, TaskScheduler.exec, state, theirs, notifies_registry,
          apply_ite registry, leave, TaskRegistry.put_same, TaskRegistry.putFile_same]
      · simp [performs, perform, switch, TaskScheduler.exec, state, theirs, notifies_registry,
          apply_ite registry, leave, TaskRegistry.operate]

end SharedTasks

def TaskAction.Last (idle : Bool) (io : FileIo) (action : TaskAction) : Prop :=
  ∀ shared, (SharedTasks.perform idle io shared action).2 = []

theorem switch_last (task : FileTask) (file : Option (List UInt8)) (idle : Bool) (io : FileIo)
    (address : Nat) :
    ∀ follows ∈ (SharedTasks.switch task file idle io address).2.2, follows.Last idle io := by
  simp only [SharedTasks.switch]
  split
  · split <;> simp [TaskAction.Last, SharedTasks.perform]
  · split <;> simp [TaskAction.Last, SharedTasks.perform]
  · split <;> simp [TaskAction.Last, SharedTasks.perform]
  · split <;> simp [TaskAction.Last, SharedTasks.perform]
  · split <;> simp [TaskAction.Last, SharedTasks.perform]
  · split <;> simp [TaskAction.Last, SharedTasks.perform]

theorem advance_last {pool : TaskThreads} {thread : Nat} {idle : Bool} {io : FileIo}
    {actions : List TaskAction} (pending : pool.pending thread = actions)
    (last : ∀ action ∈ actions, action.Last idle io) :
    ∃ final, Transition.run taskStep pool
        (List.replicate actions.length (.advance thread idle io)) = some final ∧
      final.pending thread = [] ∧ final.shared = pool.shared.performs idle io actions := by
  induction actions generalizing pool with
  | nil => exact ⟨pool, rfl, pending, rfl⟩
  | cons action actions ih =>
      obtain ⟨first, others⟩ := List.forall_mem_cons.mp last
      let next : TaskThreads := {
        shared := (SharedTasks.perform idle io pool.shared action).1
        pending := Function.update pool.pending thread actions }
      have advanced : taskStep pool (.advance thread idle io) = some next := by
        change pool.advance (SharedTasks.perform idle io) thread = some next
        refine Threads.Pool.advance_eq_some.mpr ⟨action, actions, pending, ?_⟩
        rw [first, List.nil_append]
      have left : next.pending thread = actions := Function.update_self thread actions pool.pending
      obtain ⟨final, ran, free, shared⟩ := ih left others
      exact ⟨final, (Transition.run_cons taskStep).mpr ⟨next, advanced, ran⟩, free, shared⟩

/-- The loop thread alone leaves the registry as its `exec` does in one step. -/
theorem exec_uninterrupted {pool : TaskThreads} (free : pool.pending 0 = []) {address : Nat}
    {rest : List Nat} (queued : pool.shared.registry.queued = address :: rest) (idle : Bool)
    (io : FileIo) :
    ∃ steps final, Transition.run taskStep pool
        (.pop :: List.replicate steps (.advance 0 idle io)) = some final ∧
      final.pending 0 = [] ∧
      final.shared.registry = (pool.shared.registry.exec idle io).1 := by
  let popped : TaskThreads := {
    shared := { pool.shared with registry := { pool.shared.registry with queued := rest } }
    pending := Function.update pool.pending 0 [.work address] }
  have pops : taskStep pool .pop = some popped := by
    simp only [taskStep, queued]
    exact Threads.Pool.start_eq_some.mpr ⟨free, rfl⟩
  let work := SharedTasks.perform idle io popped.shared (.work address)
  let next : TaskThreads := {
    shared := work.1
    pending := Function.update popped.pending 0 work.2 }
  have works : taskStep popped (.advance 0 idle io) = some next := by
    change popped.advance (SharedTasks.perform idle io) 0 = some next
    have ready : popped.pending 0 = [.work address] := Function.update_self 0 _ pool.pending
    refine Threads.Pool.advance_eq_some.mpr ⟨.work address, [], ready, ?_⟩
    rw [List.append_nil]
  have left : next.pending 0 = work.2 := Function.update_self 0 _ popped.pending
  obtain ⟨final, ran, done, shared⟩ := advance_last left (switch_last _ _ idle io address)
  refine ⟨work.2.length + 1, final, (Transition.run_cons taskStep).mpr ⟨popped, pops, ?_⟩, done, ?_⟩
  · exact (Transition.run_cons taskStep).mpr ⟨next, works, ran⟩
  · rw [shared, SharedTasks.work_exec]
    have same : TaskScheduler.exec (popped.shared.registry.objects address).task
        (popped.shared.registry.fileOf address) idle io =
      TaskScheduler.exec (pool.shared.registry.objects address).task
        (pool.shared.registry.fileOf address) idle io := rfl
    simp only [TaskRegistry.exec, queued, same]
    rcases TaskScheduler.exec (pool.shared.registry.objects address).task
      (pool.shared.registry.fileOf address) idle io with ⟨_ | after, file, remotes⟩
    · rfl
    · rfl

end EasyViewer
