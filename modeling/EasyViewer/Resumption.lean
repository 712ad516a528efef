import EasyViewer.FileDownload
import EasyViewer.FileTransfer
import EasyViewer.TaskEffects

/-!
Resuming a transfer onto the file that it has begun. `initIO` takes a file that is there
for somebody else's unless it holds it open or may overwrite it; the guard's task is a
new one at every request to open, and `loadTasks` forgets the permission.
-/

namespace EasyViewer

structure Opening where
  task : FileTask
  file : Option (List UInt8)
  force : Bool
  io : FileIo

namespace Opening

def rejected (opening : Opening) : Bool :=
  (opening.task.initIo opening.file opening.force opening.io).1.1 = Err.fileAlreadyExists

/-- The task writes to a file that is there, does not hold it open and may not overwrite it. -/
def Collides (opening : Opening) : Prop :=
  opening.task.fp.isNone ∧ ¬ opening.task.readsLocally ∧ ¬ opening.force ∧ opening.file.isSome

theorem rejected_iff (opening : Opening) : opening.rejected = true ↔ opening.Collides := by
  obtain ⟨task, file, force, io⟩ := opening
  have noError : Err.noError ≠ Err.fileAlreadyExists := by decide
  have operateFailed : Err.operateFailed ≠ Err.fileAlreadyExists := by decide
  simp only [rejected, Collides, decide_eq_true_eq, FileTask.initIo]
  by_cases isOpen : task.fp.isSome = true
  · rw [if_pos isOpen]
    refine ⟨fun refused => absurd refused noError, fun collides => ?_⟩
    rw [Option.isNone_iff_eq_none] at collides
    simp [collides.1] at isOpen
  · have closed : task.fp.isNone = true := by simpa using isOpen
    rw [if_neg isOpen]
    generalize (if task.readsLocally = true then OpenMode.rb
      else if task.progress ≠ 0 then OpenMode.ab else OpenMode.wb) = mode
    by_cases present : ¬ task.readsLocally = true ∧ ¬ force = true ∧ file.isSome = true
    · rw [if_pos present]
      exact ⟨fun _ => ⟨closed, present⟩, fun _ => rfl⟩
    · rw [if_neg present]
      refine ⟨fun refused => ?_, fun collides => absurd collides.2 present⟩
      by_cases failed : ¬ io.opened = true ∨ mode = .rb ∧ file.isNone = true
      · rw [if_pos failed] at refused
        exact absurd refused operateFailed
      · rw [if_neg failed] at refused
        by_cases atStart : task.progress ≠ 0
        · rw [if_pos atStart] at refused
          simp only [FileTask.seek] at refused
          split at refused
          · exact absurd refused noError
          · exact absurd refused operateFailed
        · rw [if_neg atStart] at refused
          exact absurd refused noError

end Opening

/-- `exec` opens the file of a task that waits, `addTaskPassively` that of a partner's task. -/
def openedByExec (task : FileTask) (file : Option (List UInt8)) (io : FileIo) : Option Opening :=
  if task.state = .waitingForStart then
    some { task := task, file := file, force := task.overrideFile, io := io }
  else none

def openedPassively (action : Action) (seek : Nat) (force : Bool) (file : Option (List UInt8))
    (io : FileIo) : Opening where
  task := {
    starter := .partner
    action := action
    state := .transmitting
    progress := seek
    overrideFile := force }
  file := file
  force := force
  io := io

def Transfer.opening (source : List UInt8) (transfer : Transfer) : TransferEvent → Option Opening
  | .exec _ io => openedByExec transfer.viewer (some source) io
  | .guardReceives io =>
      match transfer.toGuard with
      | .openFile _ seek force :: _ =>
          some (openedPassively .write seek force transfer.destination io)
      | _ => none
  | _ => none

def Download.opening (source : List UInt8) (download : Download) : DownloadEvent → Option Opening
  | .exec _ io => openedByExec download.viewer download.destination io
  | .guardReceives io =>
      match download.toGuard with
      | .openFile _ seek force :: _ => some (openedPassively .read seek force (some source) io)
      | _ => none
  | _ => none

/-- What `loadTasks` makes of a task whose row holds this progress and state. -/
def loadTask (task : FileTask) (progress : Nat) (state : TaskState) : FileTask where
  starter := .self
  action := task.action
  state := if state = .finished ∨ state = .failed then state else .stoped
  progress := progress

/-- The host's program starts again: its files are closed and no answer finds it any more. -/
def Transfer.restart (transfer : Transfer) (progress : Nat) (state : TaskState) : Transfer :=
  { transfer with viewer := loadTask transfer.viewer progress state, toViewer := [] }

def Download.restart (download : Download) (progress : Nat) (state : TaskState) : Download :=
  { download with viewer := loadTask download.viewer progress state, toViewer := [] }

inductive ResumedEvent (Event : Type) where
  | goesOn (event : Event)
  | restart (progress : Nat) (state : TaskState)
  deriving DecidableEq, Repr

/-- A transfer that remembers whether it has created its destination, and whether `initIO` has
rejected that file at either end. -/
structure Resumed (State : Type) where
  transfer : State
  created : Bool := false
  rejected : Bool := false
  deriving DecidableEq, Repr

section

variable {State Event : Type} (step : State → Event → Option State)
  (opening : State → Event → Option Opening) (destination : State → Option (List UInt8))
  (restart : State → Nat → TaskState → State)

def resumedStep (resumed : Resumed State) : ResumedEvent Event → Option (Resumed State)
  | .goesOn event =>
      (step resumed.transfer event).map fun next => {
        transfer := next
        created := resumed.created ||
          (destination resumed.transfer).isNone && (destination next).isSome
        rejected := resumed.rejected ||
          resumed.created && (opening resumed.transfer event).any Opening.rejected }
  | .restart progress state =>
      some { resumed with transfer := restart resumed.transfer progress state }

def NeverRejected (resumed : Resumed State) : Prop := resumed.rejected = false

/-- A step keeps the file of a transfer that has created it from being in the way. -/
def OpensAgain (resumed : Resumed State) : ResumedEvent Event → Prop
  | .goesOn event =>
      resumed.created = true → ∀ opened, opening resumed.transfer event = some opened →
        ¬ opened.Collides
  | .restart _ _ => True

theorem neverRejected_step {resumed next : Resumed State} {event : ResumedEvent Event}
    (accepted : NeverRejected resumed)
    (stepped : resumedStep step opening destination restart resumed event = some next) :
    NeverRejected next ↔ OpensAgain opening resumed event := by
  cases event with
  | goesOn event =>
      simp only [resumedStep, Option.map_eq_some_iff] at stepped
      obtain ⟨after, _, rfl⟩ := stepped
      rw [NeverRejected] at accepted ⊢
      simp only [accepted, Bool.false_or, OpensAgain]
      cases opened : opening resumed.transfer event with
      | none => simp
      | some opening =>
          simp only [Option.any_some, ← Bool.not_eq_true, Bool.and_eq_true, not_and,
            Opening.rejected_iff, Option.some.injEq, forall_eq']
  | restart progress state =>
      cases stepped
      exact ⟨fun _ => trivial, fun _ => accepted⟩

structure Stands (stands : State → Prop) (resumed : Resumed State) : Prop where
  transfer : stands resumed.transfer
  created : resumed.created = true → (destination resumed.transfer).isSome

theorem Stands.next {stands : State → Prop} {resumed next : Resumed State}
    {event : ResumedEvent Event} (holds : Stands destination stands resumed)
    (keeps : ∀ state event next, stands state → step state event = some next →
      stands next ∧ ((destination state).isSome → (destination next).isSome))
    (reloads : ∀ state progress row, stands state → stands (restart state progress row) ∧
      destination (restart state progress row) = destination state)
    (stepped : resumedStep step opening destination restart resumed event = some next) :
    Stands destination stands next := by
  cases event with
  | goesOn event =>
      simp only [resumedStep, Option.map_eq_some_iff] at stepped
      obtain ⟨after, moved, rfl⟩ := stepped
      obtain ⟨standsNext, still⟩ := keeps _ event after holds.transfer moved
      refine ⟨standsNext, fun created => ?_⟩
      simp only [Bool.or_eq_true, Bool.and_eq_true] at created
      rcases created with before | ⟨_, now⟩
      · exact still (holds.created before)
      · exact now
  | restart progress state =>
      cases stepped
      obtain ⟨standsNext, same⟩ := reloads _ progress state holds.transfer
      exact ⟨standsNext, fun created => same ▸ holds.created created⟩

end

structure Remains (before after : FileTask) : Prop where
  starter : after.starter = before.starter
  action : after.action = before.action

namespace Remains

theorem refl (task : FileTask) : Remains task task := ⟨rfl, rfl⟩

theorem trans {first second third : FileTask} (before : Remains first second)
    (after : Remains second third) : Remains first third :=
  ⟨after.starter.trans before.starter, after.action.trans before.action⟩

variable (task : FileTask) (io : FileIo)

theorem moveTo (position : Nat) : Remains task (task.moveTo position io).2 := by
  unfold FileTask.moveTo FileTask.seek
  by_cases here : position = task.progress
  · rw [if_pos here]
    exact refl task
  · rw [if_neg here]
    cases io.sought with
    | true => exact ⟨rfl, rfl⟩
    | false => exact ⟨rfl, rfl⟩

theorem write (position : Nat) (data file : List UInt8) :
    Remains task (task.write position data file io).2.1 := by
  have moved := moveTo task io position
  simp only [FileTask.write]
  split
  · exact refl task
  · split
    · exact moved
    · split
      · exact moved
      · split
        · exact ⟨moved.starter, moved.action⟩
        · exact ⟨moved.starter, moved.action⟩

theorem read (position length : Nat) (file : List UInt8) :
    Remains task (task.read position length file io).2.2 := by
  have moved := moveTo task io position
  simp only [FileTask.read]
  split
  · exact refl task
  · split
    · exact moved
    · split
      · exact moved
      · split
        · exact ⟨moved.starter, moved.action⟩
        · exact ⟨moved.starter, moved.action⟩

theorem initIo (file : Option (List UInt8)) (force : Bool) :
    Remains task (task.initIo file force io).2.1 := by
  obtain ⟨fp, kept⟩ := FileTask.initIo_keeps task file force io
  rw [kept]
  exact ⟨rfl, rfl⟩

theorem stopTask : Remains task (TaskScheduler.stopTask task).1 := by
  simp only [TaskScheduler.stopTask]
  split <;> exact ⟨rfl, rfl⟩

theorem resumeTask : Remains task (TaskScheduler.resumeTask task) := by
  simp only [TaskScheduler.resumeTask]
  split <;> exact ⟨rfl, rfl⟩

theorem remoteFailureOpenFile (errCode : Int) (errString : String) :
    Remains task (TaskScheduler.remoteFailureOpenFile task errCode errString) := by
  simp only [TaskScheduler.remoteFailureOpenFile]
  split <;> exact ⟨rfl, rfl⟩

theorem failureReadRemoteFileBlock (errCode : Int) (errString : String) :
    Remains task (TaskScheduler.failureReadRemoteFileBlock task errCode errString).1 := by
  simp only [TaskScheduler.failureReadRemoteFileBlock]
  split
  · exact refl task
  · split <;> exact ⟨rfl, rfl⟩

theorem failureWriteRemoteFileBlock (errCode : Int) (errString : String) :
    Remains task (TaskScheduler.failureWriteRemoteFileBlock task errCode errString).1 := by
  simp only [TaskScheduler.failureWriteRemoteFileBlock]
  split <;> exact ⟨rfl, rfl⟩

theorem writeLocalFileBlock (progress : Nat) (data file : List UInt8) :
    Remains task (TaskScheduler.writeLocalFileBlock task progress data file io).2.1 := by
  have written := write task io progress data file
  simp only [TaskScheduler.writeLocalFileBlock]
  split
  · exact refl task
  · split
    · exact refl task
    · split
      · exact ⟨written.starter, written.action⟩
      · exact written

theorem readLocalFileBlock (progress length : Nat) (file : List UInt8) :
    Remains task (TaskScheduler.readLocalFileBlock task progress length file io).2.2.1 := by
  have done := read task io progress length file
  simp only [TaskScheduler.readLocalFileBlock]
  split
  · exact refl task
  · split
    · exact refl task
    · split
      · split
        · split
          · exact ⟨done.starter, done.action⟩
          · exact ⟨done.starter, done.action⟩
        · exact ⟨done.starter, done.action⟩
      · exact done

theorem successWriteRemoteFileBlock (progress : Nat) (file : List UInt8) :
    Remains task (TaskScheduler.successWriteRemoteFileBlock task progress file io).1 := by
  have done := readLocalFileBlock task io progress blockSize file
  simp only [TaskScheduler.successWriteRemoteFileBlock]
  split <;> exact done

theorem successReadRemoteFileBlock (progress : Nat) (data file : List UInt8) :
    Remains task (TaskScheduler.successReadRemoteFileBlock task progress data file io).1 := by
  have done := writeLocalFileBlock task io progress data file
  simp only [TaskScheduler.successReadRemoteFileBlock]
  split <;> exact done

theorem remoteSuccessOpenFile (file : List UInt8) :
    Remains task (TaskScheduler.remoteSuccessOpenFile task file io).1 := by
  simp only [TaskScheduler.remoteSuccessOpenFile]
  split
  · exact refl task
  · split
    · exact ⟨rfl, rfl⟩
    · exact ⟨rfl, rfl⟩
    · have done := successWriteRemoteFileBlock { task with state := .transmitting } io
        task.progress file
      exact ⟨done.starter, done.action⟩

theorem exec {after : FileTask} {file : Option (List UInt8)} {idle : Bool}
    (left : (TaskScheduler.exec task file idle io).1 = some after) : Remains task after := by
  have opened := initIo task io file task.overrideFile
  simp only [TaskScheduler.exec] at left
  split at left
  · split at left
    · cases left
      exact ⟨opened.starter, opened.action⟩
    · cases left
      exact ⟨opened.starter, opened.action⟩
  · cases left
    split <;> exact ⟨rfl, rfl⟩
  · cases left
    split <;> exact ⟨rfl, rfl⟩
  · split at left
    · cases left
    · cases left
      exact refl task
  · split at left
    · cases left
    · cases left
      exact refl task
  · split at left
    · cases left
    · cases left
      exact refl task

end Remains

theorem initIo_isSome {task : FileTask} {file : Option (List UInt8)} {force : Bool} {io : FileIo}
    (there : file.isSome) : (task.initIo file force io).2.2.isSome := by
  simp only [FileTask.initIo]
  split
  · exact there
  · generalize (if task.readsLocally = true then OpenMode.rb
      else if task.progress ≠ 0 then OpenMode.ab else OpenMode.wb) = mode
    split
    · exact there
    · split
      · exact there
      · split <;> cases mode <;> first | exact there | rfl

theorem exec_isSome {task : FileTask} {file : Option (List UInt8)} {idle : Bool} {io : FileIo}
    (there : file.isSome) : (TaskScheduler.exec task file idle io).2.1.isSome := by
  have opened : (task.initIo file task.overrideFile io).2.2.isSome := initIo_isSome there
  simp only [TaskScheduler.exec]
  split
  · split <;> exact opened
  all_goals exact there

theorem addTaskPassively_isSome {action : Action} {seek : Nat} {force : Bool}
    {file : Option (List UInt8)} {io : FileIo} (there : file.isSome) :
    (TaskScheduler.addTaskPassively action seek force file io).2.2.isSome := by
  simp only [TaskScheduler.addTaskPassively]
  split <;> exact initIo_isSome there

namespace Transfer

structure Kept (before after : Transfer) : Prop where
  viewer : Remains before.viewer after.viewer
  destination : before.destination.isSome → after.destination.isSome

theorem Kept.refl (transfer : Transfer) : Kept transfer transfer :=
  ⟨Remains.refl _, fun there => there⟩

theorem Kept.trans {first second third : Transfer} (before : Kept first second)
    (after : Kept second third) : Kept first third :=
  ⟨before.viewer.trans after.viewer, fun there => after.destination (before.destination there)⟩

theorem whenTaskRemote_kept (transfer : Transfer) (io : FileIo) (remote : Remote) :
    Kept transfer (transfer.whenTaskRemote io remote) := by
  cases remote with
  | openFile seek force => exact ⟨Remains.refl _, fun there => there⟩
  | closeFile => exact ⟨Remains.refl _, fun there => there⟩
  | readFileBlock seek length => exact .refl transfer
  | writeFileBlock seek data =>
      have fails := Remains.failureWriteRemoteFileBlock transfer.viewer Err.operateFailed
        "compress data failed"
      simp only [whenTaskRemote]
      split
      · exact ⟨Remains.refl _, fun there => there⟩
      · split
        · exact .refl transfer
        · exact ⟨fails, fun there => there⟩

theorem foldl_kept {before middle : Transfer} (io : FileIo) (remotes : List Remote)
    (kept : Kept before middle) :
    Kept before (remotes.foldl (fun after remote => after.whenTaskRemote io remote) middle) := by
  induction remotes generalizing middle with
  | nil => exact kept
  | cons remote remotes ih => exact ih (kept.trans (whenTaskRemote_kept middle io remote))

theorem follow_kept {before transfer : Transfer} (io : FileIo) {result : FileTask × List Remote}
    (remains : Remains before.viewer result.1)
    (destination : before.destination.isSome → transfer.destination.isSome) :
    Kept before (transfer.follow io result) :=
  foldl_kept io result.2 ⟨remains, destination⟩

theorem transferStep_kept {source : List UInt8} {transfer next : Transfer}
    {event : TransferEvent} (stepped : transferStep source transfer event = some next) :
    Kept transfer next := by
  cases event with
  | stop =>
      cases stepped
      exact follow_kept {} (Remains.stopTask transfer.viewer) fun there => there
  | resume =>
      cases stepped
      exact ⟨Remains.resumeTask transfer.viewer, fun there => there⟩
  | exec idle io =>
      simp only [transferStep] at stepped
      split at stepped
      · contradiction
      · rename_i task file remotes left
        cases stepped
        exact follow_kept io (Remains.exec transfer.viewer io (congrArg (·.1) left))
          fun there => there
  | partnerExec idle io =>
      simp only [transferStep] at stepped
      split at stepped
      · contradiction
      · cases stepped
        exact ⟨Remains.refl _, fun there => exec_isSome there⟩
  | guardReceives io =>
      simp only [transferStep] at stepped
      split at stepped
      · contradiction
      · split at stepped
        · cases stepped
          exact ⟨Remains.refl _, fun there => addTaskPassively_isSome there⟩
        · cases stepped
          simp only [handleCommandOfWriteFile]
          split
          · exact ⟨Remains.refl _, fun there => there⟩
          · split
            · exact ⟨Remains.refl _, fun there => there⟩
            · exact ⟨Remains.refl _, fun there => by simpa [answer] using there⟩
        · cases stepped
          exact ⟨Remains.refl _, fun there => there⟩
  | viewerReceives io =>
      simp only [transferStep] at stepped
      split at stepped
      · contradiction
      · split at stepped
        · cases stepped
          simp only [handleResponseOfOpenFile]
          split
          · exact follow_kept io (Remains.remoteSuccessOpenFile transfer.viewer io source)
              fun there => there
          · exact ⟨Remains.remoteFailureOpenFile _ _ _, fun there => there⟩
        · cases stepped
          simp only [handleResponseOfWriteFileBlock]
          split
          · exact follow_kept io (Remains.failureWriteRemoteFileBlock transfer.viewer _ _)
              fun there => there
          · exact follow_kept io (Remains.successWriteRemoteFileBlock transfer.viewer io _ source)
              fun there => there
  | lose toGuard toViewer =>
      simp only [transferStep] at stepped
      split at stepped
      · cases stepped
        exact ⟨Remains.refl _, fun there => there⟩
      · contradiction

end Transfer

namespace Download

structure Kept (before after : Download) : Prop where
  viewer : Remains before.viewer after.viewer
  destination : before.destination.isSome → after.destination.isSome

theorem whenTaskRemote_same (download : Download) (remote : Remote) :
    (download.whenTaskRemote remote).viewer = download.viewer ∧
      (download.whenTaskRemote remote).destination = download.destination := by
  cases remote <;> exact ⟨rfl, rfl⟩

theorem foldl_same (download : Download) (remotes : List Remote) :
    (remotes.foldl whenTaskRemote download).viewer = download.viewer ∧
      (remotes.foldl whenTaskRemote download).destination = download.destination := by
  induction remotes generalizing download with
  | nil => exact ⟨rfl, rfl⟩
  | cons remote remotes ih =>
      obtain ⟨viewer, destination⟩ := whenTaskRemote_same download remote
      obtain ⟨laterViewer, laterDestination⟩ := ih (download.whenTaskRemote remote)
      exact ⟨laterViewer.trans viewer, laterDestination.trans destination⟩

theorem follow_kept {before download : Download} {result : FileTask × List Remote}
    (remains : Remains before.viewer result.1)
    (destination : before.destination.isSome → download.destination.isSome) :
    Kept before (download.follow result) := by
  obtain ⟨viewer, same⟩ := foldl_same { download with viewer := result.1 } result.2
  refine ⟨?_, fun there => ?_⟩
  · rwa [follow, viewer]
  · rw [follow, same]
    exact destination there

theorem downloadStep_kept {source : List UInt8} {download next : Download}
    {event : DownloadEvent} (stepped : downloadStep source download event = some next) :
    Kept download next := by
  cases event with
  | stop =>
      cases stepped
      exact follow_kept (Remains.stopTask download.viewer) fun there => there
  | resume =>
      cases stepped
      exact ⟨Remains.resumeTask download.viewer, fun there => there⟩
  | exec idle io =>
      simp only [downloadStep] at stepped
      split at stepped
      · contradiction
      · rename_i task file remotes left
        cases stepped
        refine follow_kept (Remains.exec download.viewer io (congrArg (·.1) left)) fun there => ?_
        have opened := @exec_isSome download.viewer download.destination idle io there
        rwa [left] at opened
  | partnerExec idle io =>
      simp only [downloadStep] at stepped
      split at stepped
      · contradiction
      · cases stepped
        exact ⟨Remains.refl _, fun there => there⟩
  | guardReceives io =>
      simp only [downloadStep] at stepped
      split at stepped
      · contradiction
      · split at stepped
        · cases stepped
          exact ⟨Remains.refl _, fun there => there⟩
        · cases stepped
          simp only [handleCommandOfReadFile]
          split
          · exact ⟨Remains.refl _, fun there => there⟩
          · exact ⟨Remains.refl _, fun there => there⟩
        · cases stepped
          exact ⟨Remains.refl _, fun there => there⟩
  | viewerReceives io =>
      simp only [downloadStep] at stepped
      split at stepped
      · contradiction
      · split at stepped
        · cases stepped
          simp only [handleResponseOfOpenFile]
          split
          · exact follow_kept (Remains.remoteSuccessOpenFile download.viewer io _)
              fun there => there
          · exact ⟨Remains.remoteFailureOpenFile _ _ _, fun there => there⟩
        · cases stepped
          simp only [handleResponseOfReadFileBlock]
          split
          · exact follow_kept (Remains.failureReadRemoteFileBlock download.viewer _ _)
              fun there => there
          · split
            · exact follow_kept (Remains.failureReadRemoteFileBlock download.viewer _ _)
                fun there => there
            · exact follow_kept (Remains.successReadRemoteFileBlock download.viewer io _ _ _)
                fun there => by simpa using there
  | lose toGuard toViewer =>
      simp only [downloadStep] at stepped
      split at stepped
      · cases stepped
        exact ⟨Remains.refl _, fun there => there⟩
      · contradiction

end Download

def uploadStep (source : List UInt8) :=
  resumedStep (transferStep source) (Transfer.opening source) Transfer.destination Transfer.restart

def downloadAgainStep (source : List UInt8) :=
  resumedStep (downloadStep source) (Download.opening source) Download.destination Download.restart

/-- Once the partner has created the file, it gets no request to open without `overrideFile`. -/
def ReopensByForce (resumed : Resumed Transfer) : ResumedEvent TransferEvent → Prop
  | .goesOn (.guardReceives _) =>
      match resumed.transfer.toGuard with
      | .openFile _ _ force :: _ => resumed.created = true → force = true
      | _ => True
  | _ => True

/-- Once the file has been created, `exec` comes to a waiting task only with the file still open
or with `overrideFile`. -/
def ReopensHeld (resumed : Resumed Download) : ResumedEvent DownloadEvent → Prop
  | .goesOn (.exec _ _) =>
      resumed.created = true → resumed.transfer.viewer.state = .waitingForStart →
        resumed.transfer.viewer.fp.isSome ∨ resumed.transfer.viewer.overrideFile = true
  | _ => True

def Uploads (transfer : Transfer) : Prop :=
  transfer.viewer.starter = .self ∧ transfer.viewer.action = .write

def Downloads (download : Download) : Prop :=
  download.viewer.starter = .self ∧ download.viewer.action = .read

theorem openedPassively_collides {seek : Nat} {force : Bool} {file : Option (List UInt8)}
    {io : FileIo} (there : file.isSome) :
    ¬ (openedPassively .write seek force file io).Collides ↔ force = true := by
  simp [Opening.Collides, openedPassively, FileTask.readsLocally, there]

theorem openedPassively_reads {seek : Nat} {force : Bool} {file : Option (List UInt8)}
    {io : FileIo} : ¬ (openedPassively .read seek force file io).Collides := by
  simp [Opening.Collides, openedPassively, FileTask.readsLocally]

theorem openedByExec_reads {task : FileTask} {file : Option (List UInt8)} {io : FileIo}
    {opened : Opening} (uploads : task.starter = .self ∧ task.action = .write)
    (opens : openedByExec task file io = some opened) : ¬ opened.Collides := by
  simp only [openedByExec] at opens
  split at opens
  · cases opens
    simp [Opening.Collides, FileTask.readsLocally, uploads.1, uploads.2]
  · contradiction

theorem openedByExec_writes {task : FileTask} {file : Option (List UInt8)} {io : FileIo}
    (writes : task.readsLocally = false) (there : file.isSome) :
    (∀ opened, openedByExec task file io = some opened → ¬ opened.Collides) ↔
      (task.state = .waitingForStart → task.fp.isSome ∨ task.overrideFile = true) := by
  simp only [openedByExec]
  by_cases waiting : task.state = .waitingForStart
  · rw [if_pos waiting]
    simp only [Option.some.injEq, forall_eq', Opening.Collides, writes, there, waiting,
      forall_const]
    cases isOpen : task.fp <;> simp
  · simp [waiting]

theorem upload_opensAgain_iff {source : List UInt8} {resumed : Resumed Transfer}
    {event : ResumedEvent TransferEvent}
    (stands : Stands Transfer.destination Uploads resumed) :
    OpensAgain (Transfer.opening source) resumed event ↔ ReopensByForce resumed event := by
  cases event with
  | restart progress state => exact Iff.rfl
  | goesOn event =>
      cases event with
      | exec idle io =>
          exact ⟨fun _ => trivial, fun _ _ _ opens => openedByExec_reads stands.transfer opens⟩
      | guardReceives io =>
          simp only [OpensAgain, ReopensByForce, Transfer.opening]
          split
          · simp only [Option.some.injEq, forall_eq']
            exact ⟨fun clear created => (openedPassively_collides (stands.created created)).mp
                (clear created),
              fun forced created => (openedPassively_collides (stands.created created)).mpr
                (forced created)⟩
          · simp
      | stop | resume | partnerExec idle io | viewerReceives io | lose toGuard toViewer =>
          simp [OpensAgain, ReopensByForce, Transfer.opening]

theorem download_opensAgain_iff {source : List UInt8} {resumed : Resumed Download}
    {event : ResumedEvent DownloadEvent}
    (stands : Stands Download.destination Downloads resumed) :
    OpensAgain (Download.opening source) resumed event ↔ ReopensHeld resumed event := by
  cases event with
  | restart progress state => exact Iff.rfl
  | goesOn event =>
      cases event with
      | exec idle io =>
          obtain ⟨self, reads⟩ := stands.transfer
          have writes : resumed.transfer.viewer.readsLocally = false := by
            simp [FileTask.readsLocally, self, reads]
          simp only [OpensAgain, ReopensHeld, Download.opening]
          exact imp_congr_right fun created =>
            openedByExec_writes writes (stands.created created)
      | guardReceives io =>
          refine ⟨fun _ => trivial, fun _ _ opened opens => ?_⟩
          simp only [Download.opening] at opens
          split at opens
          · cases opens
            exact openedPassively_reads
          · contradiction
      | stop | resume | partnerExec idle io | viewerReceives io | lose toGuard toViewer =>
          simp [OpensAgain, ReopensHeld, Download.opening]

theorem upload_accepted_iff (source : List UInt8) (progress : Nat) (overrideFile : Bool)
    (destination : Option (List UInt8)) (events : List (ResumedEvent TransferEvent)) :
    Transition.Throughout (uploadStep source) NeverRejected
        { transfer := initialTransfer progress overrideFile destination } events ↔
      Transition.Happening (uploadStep source) ReopensByForce
        { transfer := initialTransfer progress overrideFile destination } events := by
  refine Transition.Throughout.iff_happening (uploadStep source)
    (Stands Transfer.destination Uploads) ?_ ⟨⟨rfl, rfl⟩, fun created => by cases created⟩ rfl
  intro resumed event next stands accepted stepped
  refine ⟨stands.next _ _ _ _ ?_ ?_ stepped, ?_⟩
  · intro transfer event after uploads moved
    have kept := Transfer.transferStep_kept moved
    exact ⟨⟨kept.viewer.starter.trans uploads.1, kept.viewer.action.trans uploads.2⟩,
      kept.destination⟩
  · exact fun transfer progress row uploads => ⟨⟨rfl, uploads.2⟩, rfl⟩
  · rw [neverRejected_step _ _ _ _ accepted stepped, upload_opensAgain_iff stands]

theorem download_accepted_iff (source : List UInt8) (overrideFile : Bool)
    (destination : Option (List UInt8)) (events : List (ResumedEvent DownloadEvent)) :
    Transition.Throughout (downloadAgainStep source) NeverRejected
        { transfer := initialDownload overrideFile destination } events ↔
      Transition.Happening (downloadAgainStep source) ReopensHeld
        { transfer := initialDownload overrideFile destination } events := by
  refine Transition.Throughout.iff_happening (downloadAgainStep source)
    (Stands Download.destination Downloads) ?_ ⟨⟨rfl, rfl⟩, fun created => by cases created⟩ rfl
  intro resumed event next stands accepted stepped
  refine ⟨stands.next _ _ _ _ ?_ ?_ stepped, ?_⟩
  · intro download event after downloads moved
    have kept := Download.downloadStep_kept moved
    exact ⟨⟨kept.viewer.starter.trans downloads.1, kept.viewer.action.trans downloads.2⟩,
      kept.destination⟩
  · exact fun download progress row downloads => ⟨⟨rfl, downloads.2⟩, rfl⟩
  · rw [neverRejected_step _ _ _ _ accepted stepped, download_opensAgain_iff stands]

/-- In every run of an upload or a download no opening is rejected for the file that the
transfer has created just when the upload reopens it by force, and the download holds it. -/
theorem resumption_accepted_iff (source : List UInt8) (progress : Nat) (overrideFile : Bool)
    (destination : Option (List UInt8)) :
    (∀ events, Transition.Throughout (uploadStep source) NeverRejected
        { transfer := initialTransfer progress overrideFile destination } events ↔
      Transition.Happening (uploadStep source) ReopensByForce
        { transfer := initialTransfer progress overrideFile destination } events) ∧
    ∀ events, Transition.Throughout (downloadAgainStep source) NeverRejected
        { transfer := initialDownload overrideFile destination } events ↔
      Transition.Happening (downloadAgainStep source) ReopensHeld
        { transfer := initialDownload overrideFile destination } events :=
  ⟨upload_accepted_iff source progress overrideFile destination,
    download_accepted_iff source overrideFile destination⟩

/-- An upload without `overrideFile` is stopped after the partner has created the file, and the
resumption's request to open it is rejected. -/
theorem resumedUpload_rejected :
    ¬ Transition.Throughout (uploadStep [1]) NeverRejected
      { transfer := initialTransfer 0 false none }
      [.goesOn (.exec false {}), .goesOn (.guardReceives {}), .goesOn (.viewerReceives {}),
        .goesOn .stop, .goesOn .resume, .goesOn (.exec false {}), .goesOn (.guardReceives {}),
        .goesOn (.guardReceives {}), .goesOn (.guardReceives {})] := by
  intro accepted
  have rejected := accepted.final _ rfl
  revert rejected
  simp only [NeverRejected]
  decide

end EasyViewer
