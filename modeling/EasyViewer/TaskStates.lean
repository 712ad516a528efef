import EasyViewer.TaskEffects
import EasyViewer.TaskThreads

/-!
The states that tasks go through, whatever the threads of the scheduler do: each section
under a task's mutex checks the state and writes it in one go.
-/

namespace EasyViewer

inductive LegalMove (starter : Starter) : TaskState → TaskState → Prop
  | stays (state) : LegalMove starter state state
  | prepares : LegalMove starter .waitingForStart .preparing
  | neverOpens : LegalMove starter .waitingForStart .failed
  | transmits : LegalMove starter .preparing .transmitting
  | preparingStops : LegalMove starter .preparing .stoped
  | preparingFails : LegalMove starter .preparing .failed
  | stops : LegalMove starter .transmitting .stoped
  | finishes : starter = .self → LegalMove starter .transmitting .finished
  | fails : LegalMove starter .transmitting .failed
  | resumes : starter = .self → LegalMove starter .stoped .waitingForStart

def PartnerState (task : FileTask) : Prop :=
  task.starter = .partner →
    task.state ≠ .waitingForStart ∧ task.state ≠ .preparing ∧ task.state ≠ .finished

structure Moves (before after : FileTask) : Prop where
  starter : after.starter = before.starter
  state : LegalMove before.starter before.state after.state

theorem Moves.refl (task : FileTask) : Moves task task := ⟨rfl, .stays _⟩

theorem Moves.of_keeps {before after : FileTask}
    (kept : after.state = before.state ∧ after.starter = before.starter) : Moves before after :=
  ⟨kept.2, kept.1 ▸ .stays _⟩

theorem Moves.partnerState {before after : FileTask} (moves : Moves before after)
    (partner : PartnerState before) : PartnerState after := by
  obtain ⟨starter, state⟩ := moves
  intro isPartner
  have wasPartner : before.starter = .partner := starter ▸ isPartner
  obtain ⟨notWaiting, notPreparing, notFinished⟩ := partner wasPartner
  generalize before.state = old at *
  generalize after.state = new at *
  have notSelf : before.starter ≠ .self := by rw [wasPartner]; decide
  cases state with
  | stays => exact ⟨notWaiting, notPreparing, notFinished⟩
  | prepares | neverOpens => exact absurd rfl notWaiting
  | transmits | preparingStops | preparingFails => exact absurd rfl notPreparing
  | stops | fails => decide
  | finishes self | resumes self => exact absurd self notSelf

section

variable (task : FileTask) (io : FileIo)

theorem stopTask_moves : Moves task (TaskScheduler.stopTask task).1 := by
  simp only [TaskScheduler.stopTask]
  split
  · exact .refl task
  · rename_i allowed
    simp only [ne_eq, not_or, not_not] at allowed
    exact ⟨rfl, allowed.2 ▸ .stops⟩

theorem resumeTask_moves : Moves task (TaskScheduler.resumeTask task) := by
  simp only [TaskScheduler.resumeTask]
  split
  · exact .refl task
  · rename_i allowed
    simp only [ne_eq, not_or, not_not] at allowed
    exact ⟨rfl, allowed.2 ▸ .resumes allowed.1⟩

theorem remoteFailureOpenFile_moves (errCode : Int) (errString : String) :
    Moves task (TaskScheduler.remoteFailureOpenFile task errCode errString) := by
  simp only [TaskScheduler.remoteFailureOpenFile]
  split
  · exact .refl task
  · rename_i preparing
    exact ⟨rfl, not_not.mp preparing ▸ .preparingFails⟩

theorem failureReadRemoteFileBlock_moves (errCode : Int) (errString : String) :
    Moves task (TaskScheduler.failureReadRemoteFileBlock task errCode errString).1 := by
  simp only [TaskScheduler.failureReadRemoteFileBlock]
  split
  · exact .refl task
  · rename_i allowed
    simp only [ne_eq, not_or, not_not] at allowed
    split
    · exact ⟨rfl, allowed.2 ▸ .finishes allowed.1⟩
    · exact ⟨rfl, allowed.2 ▸ .fails⟩

theorem failureWriteRemoteFileBlock_moves (errCode : Int) (errString : String) :
    Moves task (TaskScheduler.failureWriteRemoteFileBlock task errCode errString).1 := by
  simp only [TaskScheduler.failureWriteRemoteFileBlock]
  split
  · exact .refl task
  · rename_i allowed
    simp only [ne_eq, not_or, not_not] at allowed
    exact ⟨rfl, allowed.2 ▸ .fails⟩

theorem writeLocalFileBlock_moves (progress : Nat) (data file : List UInt8) :
    Moves task (TaskScheduler.writeLocalFileBlock task progress data file io).2.1 := by
  have kept := FileTask.write_keeps task progress data file io
  simp only [TaskScheduler.writeLocalFileBlock]
  split
  · exact .refl task
  · rename_i transmitting
    split
    · exact .refl task
    · split
      · exact ⟨kept.2, not_not.mp transmitting ▸ .fails⟩
      · exact .of_keeps kept

theorem readLocalFileBlock_moves (progress length : Nat) (file : List UInt8) :
    Moves task (TaskScheduler.readLocalFileBlock task progress length file io).2.2.1 := by
  have kept := FileTask.read_keeps task progress length file io
  simp only [TaskScheduler.readLocalFileBlock]
  split
  · exact .refl task
  · rename_i transmitting
    split
    · exact .refl task
    · split
      · split
        · rename_i self
          split
          · exact ⟨kept.2, not_not.mp transmitting ▸ .finishes self⟩
          · exact ⟨kept.2, not_not.mp transmitting ▸ .fails⟩
        · exact .of_keeps kept
      · exact .of_keeps kept

theorem perform_moves (file : Option (List UInt8)) (address : Nat) (inside : TaskSection) :
    Moves task (inside.perform task file io address).1 := by
  cases inside with
  | stopTask => exact stopTask_moves task
  | resumeTask => exact resumeTask_moves task
  | remoteSuccessOpenFile =>
      simp only [TaskSection.perform]
      split
      · exact .refl task
      · rename_i preparing
        exact ⟨rfl, not_not.mp preparing ▸ .transmits⟩
  | remoteFailureOpenFile errCode errString =>
      exact remoteFailureOpenFile_moves task errCode errString
  | failureReadRemoteFileBlock errCode errString =>
      exact failureReadRemoteFileBlock_moves task errCode errString
  | failureWriteRemoteFileBlock errCode errString =>
      exact failureWriteRemoteFileBlock_moves task errCode errString
  | writeLocalFileBlock remote progress data =>
      exact writeLocalFileBlock_moves task io progress data (file.getD [])
  | readLocalFileBlock remote progress length =>
      exact readLocalFileBlock_moves task io progress length (file.getD [])

theorem switch_moves (file : Option (List UInt8)) (idle : Bool) (address : Nat) :
    Moves task (SharedTasks.switch task file idle io address).1 := by
  obtain ⟨fp, opened⟩ := FileTask.initIo_keeps task file task.overrideFile io
  cases current : task.state with
  | waitingForStart =>
      simp only [SharedTasks.switch, current]
      split
      · exact ⟨by rw [opened], current ▸ .neverOpens⟩
      · exact ⟨by rw [opened], current ▸ .prepares⟩
  | preparing =>
      simp only [SharedTasks.switch, current]
      split
      · exact ⟨rfl, current ▸ .preparingStops⟩
      · exact .refl task
  | transmitting =>
      simp only [SharedTasks.switch, current]
      split
      · exact ⟨rfl, current ▸ .stops⟩
      · exact .refl task
  | stoped | finished | failed =>
      simp only [SharedTasks.switch, current]
      exact .refl task

end

structure ObjectsMove (before after : TaskRegistry) : Prop where
  size : before.size ≤ after.size
  moves : ∀ address < before.size,
    Moves (before.objects address).task (after.objects address).task

theorem ObjectsMove.same {before after : TaskRegistry} (objects : after.objects = before.objects)
    (size : after.size = before.size) : ObjectsMove before after :=
  ⟨size ▸ Nat.le_refl _, fun _ _ => objects ▸ .refl _⟩

theorem leave_moves {shared : SharedTasks} {address : Nat} {task : FileTask}
    {file : Option (List UInt8)} (moves : Moves (shared.registry.objects address).task task) :
    ObjectsMove shared.registry (shared.leave address task file).registry := by
  refine ⟨Nat.le_refl _, fun other _ => ?_⟩
  simp only [SharedTasks.leave, TaskRegistry.putFile, TaskRegistry.put]
  by_cases same : other = address
  · subst same
    rw [Function.update_self]
    exact moves
  · rw [Function.update_of_ne same]
    exact .refl _

theorem insert_moves (registry : TaskRegistry) (object : TaskPrivate) :
    ObjectsMove registry (registry.insert object).2 := by
  simp only [TaskRegistry.insert]
  split
  · exact .same rfl rfl
  · refine ⟨Nat.le_succ _, fun address bound => ?_⟩
    simp only [Function.update_of_ne (Nat.ne_of_lt bound)]
    exact .refl _

theorem action_moves (idle : Bool) (io : FileIo) (shared : SharedTasks) (action : TaskAction) :
    ObjectsMove shared.registry (SharedTasks.perform idle io shared action).1.registry := by
  cases action with
  | insert object => exact insert_moves shared.registry object
  | lock address inside =>
      simp only [SharedTasks.perform]
      split
      · exact .same rfl rfl
      · exact leave_moves (perform_moves _ io _ address inside)
  | work address =>
      have moves := switch_moves (shared.registry.objects address).task io
        (shared.registry.fileOf address) idle address
      simp only [SharedTasks.perform]
      split
      · exact leave_moves moves
      · exact leave_moves moves
  | remove id => exact .same rfl rfl
  | returned address | notify address notice | resumed address | requeue address | erase address
  | firstUpload address | find id inside => exact .same rfl rfl

theorem begin_same (registry : TaskRegistry) (io : FileIo) (operation : TaskOperation) :
    (operation.begin registry io).1.objects = registry.objects ∧
      (operation.begin registry io).1.size = registry.size := by
  cases operation with
  | addTaskPassively id serverHost serverPort partnerId mode directory fileName progress fileSize
      overrideFile =>
      simp only [TaskOperation.begin]
      split
      · exact ⟨rfl, rfl⟩
      · exact ⟨rfl, rfl⟩
  | addTaskActively object action progress overrideFile => exact ⟨rfl, rfl⟩
  | loadTask object action progress state => exact ⟨rfl, rfl⟩
  | removeTask id => exact ⟨rfl, rfl⟩
  | call id inside => exact ⟨rfl, rfl⟩

theorem taskStep_moves {pool next : TaskThreads} {event : TaskEvent}
    (stepped : taskStep pool event = some next) :
    ObjectsMove pool.shared.registry next.shared.registry := by
  cases taskStep_cases stepped with
  | start thread operation io free started =>
      have begun := begin_same pool.shared.registry io operation
      obtain ⟨_, rfl⟩ := Threads.Pool.start_eq_some.mp started
      exact .same begun.1 begun.2
  | pop address rest queue started =>
      obtain ⟨_, rfl⟩ := Threads.Pool.start_eq_some.mp started
      exact .same rfl rfl
  | advance thread idle io action rest first advanced =>
      obtain ⟨action, rest, _, rfl⟩ := Threads.Pool.advance_eq_some.mp advanced
      exact action_moves idle io pool.shared action

def PartnerStates (shared : SharedTasks) : Prop :=
  ∀ address < shared.registry.size, PartnerState (shared.registry.objects address).task

def StartsLegally (_ : SharedTasks) : TaskAction → Prop
  | .insert object => PartnerState object.task
  | _ => True

theorem begin_startsLegally (shared : SharedTasks) (registry : TaskRegistry) (io : FileIo)
    (operation : TaskOperation) :
    ∀ action ∈ (operation.begin registry io).2, StartsLegally shared action := by
  cases operation with
  | addTaskActively object action progress overrideFile =>
      intro begun member
      rw [List.mem_singleton.mp member]
      rintro ⟨⟩
  | loadTask object action progress state =>
      intro begun member
      rw [List.mem_singleton.mp member]
      rintro ⟨⟩
  | addTaskPassively id serverHost serverPort partnerId mode directory fileName progress fileSize
      overrideFile =>
      simp only [TaskOperation.begin]
      split
      · intro begun member
        cases member
      · rename_i err task file made
        intro begun member
        rw [List.mem_singleton.mp member]
        have state := TaskScheduler.addTaskPassively_state (congrArg (·.2.1) made)
        intro _
        simp only [TaskRegistry.passiveTask, state]
        decide
  | removeTask id =>
      intro begun member
      rw [List.mem_singleton.mp member]
      trivial
  | call id inside =>
      intro begun member
      rw [List.mem_singleton.mp member]
      trivial

theorem perform_startsLegally (idle : Bool) (io : FileIo) (shared after : SharedTasks)
    (action : TaskAction) :
    ∀ follows ∈ (SharedTasks.perform idle io shared action).2, StartsLegally after follows := by
  intro follows member
  cases follows with
  | insert object => exact absurd rfl (perform_no_insert idle io shared action _ member object)
  | _ => trivial

theorem perform_partnerStates {idle : Bool} {io : FileIo} {shared : SharedTasks}
    {action : TaskAction} (partners : PartnerStates shared)
    (legally : StartsLegally shared action) :
    PartnerStates (SharedTasks.perform idle io shared action).1 := by
  intro address bound
  by_cases old : address < shared.registry.size
  · exact ((action_moves idle io shared action).moves address old).partnerState
      (partners address old)
  · cases action with
    | insert object =>
        simp only [SharedTasks.perform, TaskRegistry.insert] at bound ⊢
        split at bound
        · exact absurd bound old
        · rename_i free
          rw [if_neg free]
          have last : address = shared.registry.size :=
            Nat.le_antisymm (Nat.lt_succ_iff.mp bound) (Nat.not_lt.mp old)
          subst last
          simp only [Function.update_self]
          exact legally
    | lock address inside =>
        simp only [SharedTasks.perform] at bound
        split at bound <;> exact absurd bound old
    | work address =>
        simp only [SharedTasks.perform] at bound
        split at bound <;> exact absurd bound old
    | remove id => exact absurd bound old
    | returned address | notify address notice | resumed address | requeue address
    | erase address | firstUpload address | find id inside => exact absurd bound old

theorem partnerStates_step {pool next : TaskThreads} {event : TaskEvent}
    (holds : pool.Holds PartnerStates StartsLegally)
    (stepped : taskStep pool event = some next) : next.Holds PartnerStates StartsLegally := by
  have stable : ∀ (shared after : SharedTasks) action, StartsLegally shared action →
      StartsLegally after action := by
    intro shared after action legally
    cases action <;> exact legally
  cases taskStep_cases stepped with
  | start thread operation io free started =>
      have begun := begin_same pool.shared.registry io operation
      refine holds.start started ?_ (begin_startsLegally _ _ io operation) (stable _ _)
      intro address bound
      simp only [begun.1, begun.2] at bound ⊢
      exact holds.shared address bound
  | pop address rest queue started =>
      refine holds.start started holds.shared ?_ (stable _ _)
      intro action member
      rw [List.mem_singleton.mp member]
      trivial
  | advance thread idle io action rest first advanced =>
      have legally : StartsLegally pool.shared action :=
        holds.pending thread action (Threads.Pool.first_mem first)
      exact holds.advance first advanced (perform_partnerStates holds.shared legally)
        (perform_startsLegally idle io pool.shared _ action) fun _ after _ => stable _ _ after

/-- What may happen to the states of all tasks in one step. -/
def MovesLegally (pool : TaskThreads) (event : TaskEvent) : Prop :=
  ∀ next, taskStep pool event = some next →
    ObjectsMove pool.shared.registry next.shared.registry

/-- In every run of any threads, every task moves along the legal transitions only, and no
partner's task is ever waiting, preparing or finished. -/
theorem states_legal (files : String → Option (List UInt8)) (events : List TaskEvent) :
    Transition.Along taskStep MovesLegally (initialThreads files) events ∧
      Transition.Throughout taskStep (fun pool => PartnerStates pool.shared)
        (initialThreads files) events := by
  constructor
  · exact Transition.Along.of_forall taskStep
      (fun _ _ _ stepped => taskStep_moves stepped) (initialThreads files) events
  · have start : (initialThreads files).Holds PartnerStates StartsLegally := by
      refine ⟨fun address bound => ?_, fun thread action member => ?_⟩
      · exact absurd bound (Nat.not_lt_zero address)
      · cases member
    have throughout : Transition.Throughout taskStep
        (Threads.Pool.Holds PartnerStates StartsLegally) (initialThreads files) events :=
      Transition.Throughout.of_step taskStep
        (fun _ _ _ holds stepped => partnerStates_step holds stepped) start
    exact throughout.mono taskStep fun _ holds => holds.shared

end EasyViewer
