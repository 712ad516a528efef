import EasyViewer.TaskObjects

/-!
Which tasks hold an open file when they are over. Every way into the two final states
closes the file but two: the remote end's refusal to open, and a start whose file opens
but cannot be put at the task's progress.
-/

namespace EasyViewer

namespace FileTask

def Released (task : FileTask) : Prop :=
  task.state = .finished ∨ task.state = .failed → task.fp = none

/-- A task that waits for the remote end has its own file open. -/
def Prepared (task : FileTask) : Prop := task.state = .preparing → task.fp ≠ none

/-- The file of a waiting task opens, and then its position cannot be set. -/
structure StartsBadly (task : FileTask) (file : Option (List UInt8)) (io : FileIo) : Prop where
  waiting : task.state = .waitingForStart
  opens : task.Opens file task.overrideFile io
  advanced : task.progress ≠ 0
  stuck : io.sought = false

variable {task : FileTask} {io : FileIo} {file : Option (List UInt8)}

theorem Released.of_state (state : TaskState) (current : task.state = state)
    (goesOn : state ≠ .finished ∧ state ≠ .failed) : task.Released := by
  rintro (finished | failed)
  · exact absurd (current.symm.trans finished) goesOn.1
  · exact absurd (current.symm.trans failed) goesOn.2

theorem Released.of_closed (closed : task.fp = none) : task.Released := fun _ => closed

theorem Prepared.of_state (state : TaskState) (current : task.state = state)
    (notPreparing : state ≠ .preparing) : task.Prepared :=
  fun preparing => absurd (current.symm.trans preparing) notPreparing

end FileTask

/-- The remote end refuses to open the file of a task that has its own open. -/
def TaskSection.Refuses (task : FileTask) : TaskSection → Prop
  | .remoteFailureOpenFile _ _ => task.state = .preparing
  | _ => False

section

variable (task : FileTask) (file : Option (List UInt8)) (io : FileIo) (address : Nat)

theorem writeLocalFileBlock_released (prepared : task.Prepared) (progress : Nat)
    (data given : List UInt8) :
    (TaskScheduler.writeLocalFileBlock task progress data given io).2.1.Prepared ∧
      (task.Released →
        (TaskScheduler.writeLocalFileBlock task progress data given io).2.1.Released) := by
  have kept := (FileTask.write_transmits task progress data given io).state
  simp only [TaskScheduler.writeLocalFileBlock]
  split
  · exact ⟨prepared, id⟩
  · rename_i transmitting
    rw [not_not] at transmitting
    rw [transmitting] at kept
    split
    · exact ⟨prepared, id⟩
    · split
      · exact ⟨.of_state .failed rfl (by decide), fun _ => .of_closed rfl⟩
      · exact ⟨.of_state .transmitting kept (by decide),
          fun _ => .of_state .transmitting kept (by decide)⟩

theorem readLocalFileBlock_released (prepared : task.Prepared) (progress length : Nat)
    (given : List UInt8) :
    (TaskScheduler.readLocalFileBlock task progress length given io).2.2.1.Prepared ∧
      (task.Released →
        (TaskScheduler.readLocalFileBlock task progress length given io).2.2.1.Released) := by
  have kept := (FileTask.read_transmits task progress length given io).state
  simp only [TaskScheduler.readLocalFileBlock]
  split
  · exact ⟨prepared, id⟩
  · rename_i transmitting
    rw [not_not] at transmitting
    rw [transmitting] at kept
    split
    · exact ⟨prepared, id⟩
    · split
      · refine ⟨?_, fun _ => .of_closed rfl⟩
        split
        · split
          · exact .of_state .finished rfl (by decide)
          · exact .of_state .failed rfl (by decide)
        · exact .of_state .transmitting kept (by decide)
      · exact ⟨.of_state .transmitting kept (by decide),
          fun _ => .of_state .transmitting kept (by decide)⟩

theorem section_released (prepared : task.Prepared) (inside : TaskSection) :
    (inside.perform task file io address).1.Prepared ∧
      (task.Released →
        ((inside.perform task file io address).1.Released ↔ ¬ inside.Refuses task)) := by
  cases inside with
  | stopTask =>
      simp only [TaskSection.perform, TaskScheduler.stopTask, TaskSection.Refuses]
      split
      · exact ⟨prepared, fun released => iff_of_true released id⟩
      · exact ⟨.of_state .stoped rfl (by decide),
          fun _ => iff_of_true (.of_state .stoped rfl (by decide)) id⟩
  | resumeTask =>
      simp only [TaskSection.perform, TaskScheduler.resumeTask, TaskSection.Refuses]
      split
      · exact ⟨prepared, fun released => iff_of_true released id⟩
      · exact ⟨.of_state .waitingForStart rfl (by decide),
          fun _ => iff_of_true (.of_state .waitingForStart rfl (by decide)) id⟩
  | remoteSuccessOpenFile =>
      simp only [TaskSection.perform, TaskSection.Refuses]
      split
      · exact ⟨prepared, fun released => iff_of_true released id⟩
      · exact ⟨.of_state .transmitting rfl (by decide),
          fun _ => iff_of_true (.of_state .transmitting rfl (by decide)) id⟩
  | remoteFailureOpenFile errCode errString =>
      simp only [TaskSection.perform, TaskScheduler.remoteFailureOpenFile, TaskSection.Refuses]
      split
      · rename_i notPreparing
        exact ⟨prepared, fun released => iff_of_true released notPreparing⟩
      · rename_i preparing
        rw [not_not] at preparing
        refine ⟨.of_state .failed rfl (by decide), fun _ => iff_of_false ?_ (not_not.mpr preparing)⟩
        exact fun closes => prepared preparing (closes (.inr rfl))
  | failureReadRemoteFileBlock errCode errString =>
      simp only [TaskSection.perform, TaskScheduler.failureReadRemoteFileBlock,
        TaskSection.Refuses]
      split
      · exact ⟨prepared, fun released => iff_of_true released id⟩
      · refine ⟨?_, fun _ => iff_of_true (.of_closed rfl) id⟩
        split
        · exact .of_state .finished rfl (by decide)
        · exact .of_state .failed rfl (by decide)
  | failureWriteRemoteFileBlock errCode errString =>
      simp only [TaskSection.perform, TaskScheduler.failureWriteRemoteFileBlock,
        TaskSection.Refuses]
      split
      · exact ⟨prepared, fun released => iff_of_true released id⟩
      · exact ⟨.of_state .failed rfl (by decide), fun _ => iff_of_true (.of_closed rfl) id⟩
  | writeLocalFileBlock remote progress data =>
      have kept := writeLocalFileBlock_released task io prepared progress data (file.getD [])
      exact ⟨kept.1, fun released => iff_of_true (kept.2 released) id⟩
  | readLocalFileBlock remote progress length =>
      have kept := readLocalFileBlock_released task io prepared progress length (file.getD [])
      exact ⟨kept.1, fun released => iff_of_true (kept.2 released) id⟩

theorem switch_released (prepared : task.Prepared) (idle : Bool) :
    (SharedTasks.switch task file idle io address).1.Prepared ∧
      (task.Released →
        ((SharedTasks.switch task file idle io address).1.Released ↔
          ¬ task.StartsBadly file io)) := by
  cases current : task.state with
  | waitingForStart =>
      have cases := @FileTask.initIo_cases task io file task.overrideFile
      simp only [SharedTasks.switch, current]
      generalize task.initIo file task.overrideFile io = result at cases ⊢
      obtain ⟨⟨err, reason⟩, opened, after⟩ := result
      simp only at cases ⊢
      cases cases with
      | already isOpen =>
          refine ⟨fun _ => isOpen,
            fun _ => iff_of_true (.of_state .preparing rfl (by decide)) fun bad => ?_⟩
          exact isOpen bad.opens.closed
      | refused isError closed fails =>
          rw [if_pos isError]
          exact ⟨.of_state .failed rfl (by decide),
            fun _ => iff_of_true (.of_closed closed) fun bad => fails bad.opens⟩
      | opened opens placed _ =>
          refine ⟨fun _ => Option.some_ne_none _,
            fun _ => iff_of_true (.of_state .preparing rfl (by decide)) fun bad => ?_⟩
          rcases placed with atStart | sought
          · exact bad.advanced atStart
          · rw [bad.stuck] at sought
            contradiction
      | misplaced isError opens advanced stuck _ =>
          rw [if_pos isError]
          refine ⟨.of_state .failed rfl (by decide),
            fun _ => iff_of_false (fun closes => ?_) fun never => ?_⟩
          · exact Option.some_ne_none _ (closes (.inr rfl))
          · exact never ⟨current, opens, advanced, stuck⟩
  | preparing | transmitting =>
      have never : ¬ task.StartsBadly file io := fun bad => by
        rw [bad.waiting] at current
        contradiction
      simp only [SharedTasks.switch, current]
      split
      · exact ⟨.of_state .stoped rfl (by decide),
          fun _ => iff_of_true (.of_state .stoped rfl (by decide)) never⟩
      · exact ⟨prepared, fun released => iff_of_true released never⟩
  | stoped | finished | failed =>
      have never : ¬ task.StartsBadly file io := fun bad => by
        rw [bad.waiting] at current
        contradiction
      simp only [SharedTasks.switch, current]
      exact ⟨prepared, fun released => iff_of_true released never⟩

theorem prepared_lasting : Lasting FileTask.Prepared where
  inside task file io address inside prepared :=
    (section_released task file io address prepared inside).1
  switch task file idle io address prepared :=
    (switch_released task file io address prepared idle).1

end

def Leaks (shared : SharedTasks) (io : FileIo) : TaskAction → Prop
  | .lock address inside =>
      (shared.registry.objects address).known = true ∧
        inside.Refuses (shared.registry.objects address).task
  | .work address =>
      (shared.registry.objects address).task.StartsBadly (shared.registry.fileOf address) io
  | _ => False

/-- No remote end refuses to open a preparing task's file, and no start is left at a failed
seek. -/
def ReleasesFile (pool : TaskThreads) (event : TaskEvent) : Prop :=
  ∀ thread idle io action rest, event = .advance thread idle io →
    pool.pending thread = action :: rest → ¬ Leaks pool.shared io action

theorem perform_released {shared : SharedTasks} (idle : Bool) (io : FileIo) {action : TaskAction}
    (released : AllFit FileTask.Released shared) (prepared : AllFit FileTask.Prepared shared)
    (inserts : InsertsFit FileTask.Released shared action) :
    AllFit FileTask.Released (SharedTasks.perform idle io shared action).1 ↔
      ¬ Leaks shared io action := by
  cases action with
  | insert object => exact iff_of_true (insert_fits released (inserts object rfl)) not_false
  | lock address inside =>
      have kept := (section_released (shared.registry.objects address).task
        (shared.registry.fileOf address) io address (prepared address) inside).2 (released address)
      simp only [SharedTasks.perform, Leaks]
      split
      · rename_i unknown
        exact iff_of_true released fun leaks => unknown leaks.1
      · rename_i known
        rw [not_not] at known
        refine (leave_fits released).trans ?_
        rw [kept, known]
        simp
  | work address =>
      have kept := (switch_released (shared.registry.objects address).task
        (shared.registry.fileOf address) io address (prepared address) idle).2 (released address)
      simp only [SharedTasks.perform, Leaks]
      split
      · exact (leave_fits released).trans kept
      · exact (leave_fits released).trans kept
  | remove id | returned address | notify address notice | resumed address | requeue address
  | erase address | firstUpload address | find id inside => exact iff_of_true released not_false

theorem newTask_released : FromStart FileTask.Released where
  active _ _ _ := .of_closed rfl
  loaded _ _ _ := .of_closed rfl
  passive _ _ _ _ _ _ made := by
    have state := TaskScheduler.addTaskPassively_state made
    exact .of_state .transmitting state (by decide)

theorem newTask_prepared : FromStart FileTask.Prepared where
  active _ _ _ := .of_state .waitingForStart rfl (by decide)
  loaded _ _ state := by
    split
    · rename_i ended
      rcases ended with rfl | rfl
      · exact .of_state .finished rfl (by decide)
      · exact .of_state .failed rfl (by decide)
    · exact .of_state .stoped rfl (by decide)
  passive _ _ _ _ _ _ made := by
    have state := TaskScheduler.addTaskPassively_state made
    exact .of_state .transmitting state (by decide)

theorem released_step {pool next : TaskThreads} {event : TaskEvent}
    (holds : pool.Holds (AllFit FileTask.Prepared)
      (InsertsFit fun task => task.Prepared ∧ task.Released))
    (released : AllFit FileTask.Released pool.shared)
    (stepped : taskStep pool event = some next) :
    AllFit FileTask.Released next.shared ↔ ReleasesFile pool event := by
  cases taskStep_cases stepped with
  | start thread operation io free started =>
      have begun := begin_same pool.shared.registry io operation
      obtain ⟨_, rfl⟩ := Threads.Pool.start_eq_some.mp started
      refine iff_of_true (fun address => ?_) fun _ _ _ _ _ isAdvance => by cases isAdvance
      simp only [begun.1]
      exact released address
  | pop address rest queue started =>
      obtain ⟨_, rfl⟩ := Threads.Pool.start_eq_some.mp started
      exact iff_of_true released fun _ _ _ _ _ isAdvance => by cases isAdvance
  | advance thread idle io action rest first advanced =>
      obtain ⟨_, _, again, rfl⟩ := Threads.Pool.advance_eq_some.mp advanced
      obtain ⟨rfl, rfl⟩ := List.cons.inj (first.symm.trans again)
      have inserts : InsertsFit FileTask.Released pool.shared action := fun object isInsert =>
        (holds.pending thread action (Threads.Pool.first_mem first) object isInsert).2
      refine (perform_released idle io released holds.shared inserts).trans ?_
      constructor
      · rintro sound other _ _ again _ ⟨⟩ found
        rw [first] at found
        cases found
        exact sound
      · exact fun sound => sound thread idle io action rest rfl first

/-- In every run of any threads, no task that is over holds a file, registered or not, just when
no remote end refuses a preparing task and no start fails at setting the position. -/
theorem terminal_released_iff (files : String → Option (List UInt8)) (events : List TaskEvent) :
    Transition.Throughout taskStep (fun pool => AllFit FileTask.Released pool.shared)
        (initialThreads files) events ↔
      Transition.Happening taskStep ReleasesFile (initialThreads files) events := by
  have news := newTask_prepared.and newTask_released
  refine Transition.Throughout.iff_happening taskStep (Threads.Pool.Holds
    (AllFit FileTask.Prepared) (InsertsFit fun task => task.Prepared ∧ task.Released)) ?_ ?_ ?_
  · intro pool event next holds released stepped
    exact ⟨prepared_lasting.step news (fun _ both => both.1) holds stepped,
      released_step holds released stepped⟩
  · exact ⟨(newTask_prepared.initial files).shared, (news.initial files).pending⟩
  · exact (newTask_released.initial files).shared

def refusedDownload : List TaskEvent := [
  .start 1 (.addTaskActively {
    id := "t", serverHost := "h", serverPort := 1, partnerId := 1, toDirectory := "d"
    fileName := "f", task := { starter := .self, action := .read, state := .waitingForStart } }
    .read 0 false) {},
  .advance 1 false {},
  .advance 1 false {},
  .pop,
  .advance 0 false {},
  .advance 0 false {},
  .advance 0 false {},
  .advance 0 false {},
  .start 1 (.call "t" (.remoteFailureOpenFile Err.operateFailed "open file failed")) {},
  .advance 1 false {},
  .advance 1 false {}]

theorem refusedDownload_keeps_file :
    ∃ pool, Transition.run taskStep (initialThreads fun _ => none) refusedDownload = some pool ∧
      ¬ AllFit FileTask.Released pool.shared := by
  refine ⟨_, rfl, fun released => ?_⟩
  have closed := released 0 (.inr rfl)
  contradiction

end EasyViewer
