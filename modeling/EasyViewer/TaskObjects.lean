import EasyViewer.TaskStates

/-!
What holds of every single task whatever the threads of the scheduler do: it is enough that
new tasks have it and that each section and each turn of `exec` keeps it. The first such
fact is where an open file stands, and in which mode.
-/

namespace EasyViewer

def AllFit (fits : FileTask → Prop) (shared : SharedTasks) : Prop :=
  ∀ address, fits (shared.registry.objects address).task

def InsertsFit (fits : FileTask → Prop) (_ : SharedTasks) (action : TaskAction) : Prop :=
  ∀ object, action = .insert object → fits object.task

structure FromStart (fits : FileTask → Prop) : Prop where
  active : ∀ action progress overrideFile, fits {
    starter := .self
    action := action
    state := .waitingForStart
    progress := progress
    overrideFile := overrideFile }
  loaded : ∀ action progress (state : TaskState), fits {
    starter := .self
    action := action
    state := if state = .finished ∨ state = .failed then state else .stoped
    progress := progress }
  passive : ∀ action progress overrideFile file io task,
    (TaskScheduler.addTaskPassively action progress overrideFile file io).2.1 = some task →
      fits task

structure Lasting (fits : FileTask → Prop) : Prop where
  inside : ∀ task file io address (inside : TaskSection), fits task →
    fits (inside.perform task file io address).1
  switch : ∀ task file idle io address, fits task →
    fits (SharedTasks.switch task file idle io address).1

section

variable {fits fresh : FileTask → Prop} {shared : SharedTasks}

theorem FromStart.and {other : FileTask → Prop} (first : FromStart fits)
    (second : FromStart other) :
    FromStart fun task => fits task ∧ other task where
  active action progress overrideFile :=
    ⟨first.active action progress overrideFile, second.active action progress overrideFile⟩
  loaded action progress state :=
    ⟨first.loaded action progress state, second.loaded action progress state⟩
  passive action progress overrideFile file io task made :=
    ⟨first.passive action progress overrideFile file io task made,
      second.passive action progress overrideFile file io task made⟩

theorem leave_objects (address : Nat) (task : FileTask) (file : Option (List UInt8))
    (other : Nat) :
    ((shared.leave address task file).registry.objects other).task =
      if other = address then task else (shared.registry.objects other).task := by
  simp only [SharedTasks.leave, TaskRegistry.putFile, TaskRegistry.put]
  by_cases same : other = address
  · subst same
    rw [Function.update_self, if_pos rfl]
  · rw [Function.update_of_ne same, if_neg same]

theorem leave_fits {address : Nat} {task : FileTask} {file : Option (List UInt8)}
    (all : AllFit fits shared) : AllFit fits (shared.leave address task file) ↔ fits task := by
  constructor
  · intro after
    have here := after address
    rw [leave_objects, if_pos rfl] at here
    exact here
  · intro here other
    rw [leave_objects]
    split
    · exact here
    · exact all other

theorem insert_fits {object : TaskPrivate} (all : AllFit fits shared) (fit : fits object.task)
    (address : Nat) : fits (((shared.registry.insert object).2.objects address).task) := by
  simp only [TaskRegistry.insert]
  split
  · exact all address
  · by_cases last : address = shared.registry.size
    · subst last
      simp only [Function.update_self]
      exact fit
    · simp only [Function.update_of_ne last]
      exact all address

theorem begin_fits (news : FromStart fits) (shared : SharedTasks) (registry : TaskRegistry)
    (io : FileIo) (operation : TaskOperation) :
    ∀ action ∈ (operation.begin registry io).2, InsertsFit fits shared action := by
  cases operation with
  | addTaskActively object action progress overrideFile =>
      intro begun member inserted isInsert
      rw [List.mem_singleton.mp member] at isInsert
      cases isInsert
      exact news.active action progress overrideFile
  | loadTask object action progress state =>
      intro begun member inserted isInsert
      rw [List.mem_singleton.mp member] at isInsert
      cases isInsert
      exact news.loaded action progress state
  | addTaskPassively id serverHost serverPort partnerId mode directory fileName progress fileSize
      overrideFile =>
      simp only [TaskOperation.begin]
      split
      · exact fun begun member => absurd member (List.not_mem_nil)
      · rename_i err task file made
        intro begun member inserted isInsert
        rw [List.mem_singleton.mp member] at isInsert
        cases isInsert
        exact news.passive _ _ _ _ _ task (congrArg (·.2.1) made)
  | removeTask id | call id inside =>
      intro begun member inserted isInsert
      rw [List.mem_singleton.mp member] at isInsert
      contradiction

theorem Lasting.perform (lasting : Lasting fits) (idle : Bool) (io : FileIo) {action : TaskAction}
    (all : AllFit fits shared) (inserts : InsertsFit fits shared action) :
    AllFit fits (SharedTasks.perform idle io shared action).1 := by
  cases action with
  | insert object => exact insert_fits all (inserts object rfl)
  | lock address inside =>
      simp only [SharedTasks.perform]
      split
      · exact all
      · exact (leave_fits all).mpr (lasting.inside _ _ io address inside (all address))
  | work address =>
      have kept := lasting.switch _ (shared.registry.fileOf address) idle io address (all address)
      simp only [SharedTasks.perform]
      split
      · exact (leave_fits all).mpr kept
      · exact (leave_fits all).mpr kept
  | remove id | returned address | notify address notice | resumed address | requeue address
  | erase address | firstUpload address | find id inside => exact all

theorem Lasting.step (lasting : Lasting fits) (news : FromStart fresh)
    (follows : ∀ task, fresh task → fits task) {pool next : TaskThreads} {event : TaskEvent}
    (holds : pool.Holds (AllFit fits) (InsertsFit fresh))
    (stepped : taskStep pool event = some next) :
    next.Holds (AllFit fits) (InsertsFit fresh) := by
  cases taskStep_cases stepped with
  | start thread operation io free started =>
      have begun := begin_same pool.shared.registry io operation
      refine holds.start started ?_ (begin_fits news _ _ io operation) fun _ => id
      intro address
      simp only [begun.1]
      exact holds.shared address
  | pop address rest queue started =>
      refine holds.start started holds.shared ?_ fun _ => id
      intro action member object isInsert
      rw [List.mem_singleton.mp member] at isInsert
      contradiction
  | advance thread idle io action rest first advanced =>
      have inserts : InsertsFit fits pool.shared action := fun object isInsert =>
        follows _ (holds.pending thread action (Threads.Pool.first_mem first) object isInsert)
      refine holds.advance first advanced (lasting.perform idle io holds.shared inserts) ?_
        fun _ _ _ => id
      rintro after member object rfl
      exact absurd rfl (perform_no_insert idle io pool.shared action _ member object)

theorem FromStart.initial (news : FromStart fits) (files : String → Option (List UInt8)) :
    (initialThreads files).Holds (AllFit fits) (InsertsFit fits) where
  shared _ := news.active .write 0 false
  pending _ _ member := by cases member

theorem Lasting.reachable (lasting : Lasting fits) (news : FromStart fits)
    {files : String → Option (List UInt8)} {pool : TaskThreads}
    (reached : Transition.Reachable taskStep (initialThreads files) pool) :
    AllFit fits pool.shared :=
  (reached.invariant taskStep
    (fun _ _ _ holds stepped => lasting.step news (fun _ => id) holds stepped)
    (news.initial files)).shared

end

namespace FileTask

/-- A file is open for what the task does with it; one that is written to and was not opened for
appending stands at the task's progress. -/
def Opened (task : FileTask) : Prop :=
  ∀ fp, task.fp = some fp →
    (fp.mode = .rb ↔ task.readsLocally = true) ∧ (fp.mode = .wb → fp.position = task.progress)

structure Opens (task : FileTask) (file : Option (List UInt8)) (force : Bool) (io : FileIo) :
    Prop where
  closed : task.fp = none
  allowed : task.readsLocally = false → force = true ∨ file = none
  present : task.readsLocally = true → file ≠ none
  opened : io.opened = true

variable {task : FileTask} {io : FileIo} {file : Option (List UInt8)}

theorem opens_of_possible {force : Bool} (closed : task.fp = none)
    (allowed : ¬ (¬ task.readsLocally = true ∧ ¬ force = true ∧ file.isSome = true))
    (possible : ¬ (¬ io.opened = true ∨ task.readsLocally = true ∧ file.isNone = true)) :
    task.Opens file force io := by
  refine ⟨closed, fun writes => ?_, fun reads absent => ?_, ?_⟩
  · by_contra neither
    rw [not_or] at neither
    exact allowed ⟨by simp [writes], neither.1, Option.isSome_iff_ne_none.mpr neither.2⟩
  · exact possible (.inr ⟨reads, by rw [absent]; rfl⟩)
  · by_contra notOpened
    exact possible (.inl notOpened)

/-- What `initIO` may come to: the file was open, does not open, opens, or opens at the wrong
place. -/
inductive InitIo (task : FileTask) (file : Option (List UInt8)) (force : Bool) (io : FileIo) :
    Int → FileTask → Prop
  | already (isOpen : task.fp ≠ none) : InitIo task file force io Err.noError task
  | refused {err : Int} (isError : err ≠ Err.noError) (closed : task.fp = none)
      (fails : ¬ task.Opens file force io) : InitIo task file force io err task
  | opened {fp : OpenFile} (opens : task.Opens file force io)
      (placed : task.progress = 0 ∨ io.sought = true)
      (right : Opened { task with fp := some fp }) :
      InitIo task file force io Err.noError { task with fp := some fp }
  | misplaced {err : Int} {fp : OpenFile} (isError : err ≠ Err.noError)
      (opens : task.Opens file force io) (advanced : task.progress ≠ 0)
      (stuck : io.sought = false) (right : Opened { task with fp := some fp }) :
      InitIo task file force io err { task with fp := some fp }

theorem opened_some {fp : OpenFile} (direction : fp.mode = .rb ↔ task.readsLocally = true)
    (stands : fp.mode = .wb → fp.position = task.progress) :
    Opened { task with fp := some fp } := by
  rintro other ⟨⟩
  exact ⟨direction, stands⟩

theorem opened_none (closed : task.fp = none) : task.Opened := by
  intro fp isOpen
  rw [closed] at isOpen
  contradiction

theorem initIo_cases (force : Bool) : InitIo task file force io
    (task.initIo file force io).1.1 (task.initIo file force io).2.1 := by
  simp only [initIo]
  split
  · rename_i isOpen
    exact .already (Option.isSome_iff_ne_none.mp isOpen)
  · rename_i isClosed
    have closed : task.fp = none := by simpa using isClosed
    have isRead : (if task.readsLocally = true then OpenMode.rb
        else if task.progress ≠ 0 then OpenMode.ab else OpenMode.wb) = .rb ↔
          task.readsLocally = true := by
      split
      · simp [*]
      · split <;> simp [*]
    have isTruncated : (if task.readsLocally = true then OpenMode.rb
        else if task.progress ≠ 0 then OpenMode.ab else OpenMode.wb) = .wb →
          task.progress = 0 := by
      split
      · exact fun reads => absurd reads (by decide)
      · split
        · exact fun appends => absurd appends (by decide)
        · rename_i atStart
          exact fun _ => not_not.mp atStart
    generalize (if task.readsLocally = true then OpenMode.rb
      else if task.progress ≠ 0 then OpenMode.ab else OpenMode.wb) = mode at isRead isTruncated ⊢
    split
    · rename_i refused
      refine .refused (show Err.fileAlreadyExists ≠ Err.noError by decide) closed fun opens => ?_
      rcases opens.allowed (by simpa using refused.1) with forced | absent
      · exact refused.2.1 forced
      · rw [absent] at refused
        exact absurd refused.2.2 (by decide)
    · rename_i allowed
      split
      · rename_i impossible
        refine .refused (show Err.operateFailed ≠ Err.noError by decide) closed fun opens => ?_
        rcases impossible with notOpened | ⟨reads, absent⟩
        · exact notOpened opens.opened
        · exact opens.present (isRead.mp reads) (by simpa using absent)
      · rename_i possible
        rw [isRead] at possible
        have opens := opens_of_possible closed allowed possible
        split
        · rename_i advanced
          have appends : ∀ position, Opened { task with fp := some { mode, position } } :=
            fun position => opened_some isRead fun isWb => absurd (isTruncated isWb) advanced
          simp only [seek]
          split
          · rename_i sought
            exact .opened opens (.inr sought) (appends _)
          · rename_i stuck
            exact .misplaced (show Err.operateFailed ≠ Err.noError by decide) opens advanced
              (by simpa using stuck) (appends 0)
        · rename_i atStart
          refine .opened opens (.inl (not_not.mp atStart)) (opened_some isRead fun _ => ?_)
          exact (not_not.mp atStart).symm

structure Transmits (before after : FileTask) : Prop where
  starter : after.starter = before.starter
  action : after.action = before.action
  state : after.state = before.state
  opened : before.Opened → after.Opened

theorem Transmits.refl (task : FileTask) : Transmits task task := ⟨rfl, rfl, rfl, id⟩

theorem Transmits.closed {before after : FileTask} (transmits : Transmits before after) :
    Transmits before after.closeIo :=
  ⟨transmits.starter, transmits.action, transmits.state, fun _ => opened_none rfl⟩

theorem moveTo_transmits (task : FileTask) (offset : Nat) (io : FileIo) :
    Transmits task (task.moveTo offset io).2 := by
  simp only [moveTo, seek]
  split
  · exact .refl task
  · split
    · refine ⟨rfl, rfl, rfl, fun opened fp isOpen => ?_⟩
      obtain ⟨before, wasOpen, rfl⟩ := Option.map_eq_some_iff.mp isOpen
      exact ⟨(opened before wasOpen).1, fun _ => rfl⟩
    · exact .refl task

end FileTask

namespace OpenFile

theorem fwriteAll_mode (fp : OpenFile) (file data : List UInt8) (counts : List Nat) :
    (fp.fwriteAll file data counts).2.1.mode = fp.mode := by
  have kept : ∀ (fp : OpenFile) (file data : List UInt8),
      (fp.fwrite file data).1.mode = fp.mode := by
    intro fp file data
    simp only [fwrite]
    split
    · rfl
    · rfl
    · rfl
  induction counts generalizing fp file data with
  | nil =>
      simp only [fwriteAll]
      split
      · rfl
      · exact kept fp file data
  | cons count counts ih =>
      simp only [fwriteAll]
      split
      · rfl
      · split
        · exact kept fp file _
        · rw [ih]
          exact kept fp file _

theorem fwriteAll_position {fp : OpenFile} {file data : List UInt8} {counts : List Nat}
    (isTruncated : fp.mode = .wb) (taken : (fp.fwriteAll file data counts).1 = true) :
    (fp.fwriteAll file data counts).2.1.position = fp.position + data.length := by
  have goesOn : ∀ (fp : OpenFile) (file data : List UInt8), fp.mode = .wb →
      (fp.fwrite file data).1.mode = .wb ∧
        (fp.fwrite file data).1.position = fp.position + data.length := by
    intro fp file data isWb
    simp only [fwrite, isWb, and_self]
  induction counts generalizing fp file data with
  | nil =>
      simp only [fwriteAll] at taken ⊢
      split at taken
      · contradiction
      · rename_i something
        rw [if_neg something, (goesOn fp file data isTruncated).2]
  | cons count counts ih =>
      simp only [fwriteAll] at taken ⊢
      split at taken
      · contradiction
      · rename_i something
        rw [if_neg something]
        split
        · rename_i whole
          rw [(goesOn fp file _ isTruncated).2, List.length_take]
          omega
        · rename_i part
          rw [if_neg part] at taken
          rw [ih (goesOn fp file _ isTruncated).1 taken, (goesOn fp file _ isTruncated).2,
            List.length_take, List.length_drop]
          omega

end OpenFile

namespace FileTask

variable {task : FileTask} {io : FileIo} {file : Option (List UInt8)}

theorem write_transmits (task : FileTask) (offset : Nat) (data given : List UInt8) (io : FileIo) :
    Transmits task (task.write offset data given io).2.1 := by
  have moved := moveTo_transmits task offset io
  simp only [write]
  split
  · exact .refl task
  · split
    · exact moved
    · split
      · exact moved
      · rename_i fp isOpen
        have mode := fp.fwriteAll_mode given data io.fwrites
        have position := @OpenFile.fwriteAll_position fp given data io.fwrites
        split
        · exact moved.closed
        · rename_i after written wrote
          rw [wrote] at mode position
          refine ⟨moved.starter, moved.action, moved.state, fun opened => ?_⟩
          obtain ⟨direction, stands⟩ := moved.opened opened fp isOpen
          rintro other ⟨⟩
          refine ⟨mode ▸ direction, fun isWb => ?_⟩
          have truncated := mode.symm.trans isWb
          exact (position truncated rfl).trans (congrArg (· + data.length) (stands truncated))

theorem read_transmits (task : FileTask) (offset length : Nat) (given : List UInt8) (io : FileIo) :
    Transmits task (task.read offset length given io).2.2 := by
  have moved := moveTo_transmits task offset io
  simp only [read]
  split
  · exact .refl task
  · split
    · exact moved
    · split
      · exact moved
      · rename_i fp isOpen
        split
        · rename_i nothing
          have here := List.isEmpty_iff.mp nothing
          refine ⟨moved.starter, moved.action, moved.state, fun opened => ?_⟩
          obtain ⟨direction, stands⟩ := moved.opened opened fp isOpen
          rintro other ⟨⟩
          refine ⟨direction, fun isWb => ?_⟩
          simp only [here, List.length_nil, Nat.add_zero]
          exact stands isWb
        · refine ⟨moved.starter, moved.action, moved.state, fun opened => ?_⟩
          obtain ⟨direction, stands⟩ := moved.opened opened fp isOpen
          rintro other ⟨⟩
          exact ⟨direction, fun isWb => congrArg (· + _) (stands isWb)⟩

theorem writeLocalFileBlock_opened (offset : Nat) (data given : List UInt8)
    (opened : task.Opened) :
    (TaskScheduler.writeLocalFileBlock task offset data given io).2.1.Opened := by
  have kept := (write_transmits task offset data given io).opened opened
  simp only [TaskScheduler.writeLocalFileBlock]
  split
  · exact opened
  · split
    · exact opened
    · split
      · exact opened_none rfl
      · exact kept

theorem readLocalFileBlock_opened (offset length : Nat) (given : List UInt8)
    (opened : task.Opened) :
    (TaskScheduler.readLocalFileBlock task offset length given io).2.2.1.Opened := by
  have kept := (read_transmits task offset length given io).opened opened
  simp only [TaskScheduler.readLocalFileBlock]
  split
  · exact opened
  · split
    · exact opened
    · split
      · exact opened_none rfl
      · exact kept

theorem initIo_opened (force : Bool) (opened : task.Opened) :
    (task.initIo file force io).2.1.Opened := by
  have cases := @initIo_cases task io file force
  generalize (task.initIo file force io).1.1 = err at cases
  generalize (task.initIo file force io).2.1 = after at cases ⊢
  cases cases with
  | already | refused => exact opened
  | opened _ _ right => exact right
  | misplaced _ _ _ _ right => exact right

theorem opened_lasting : Lasting Opened where
  inside task file io address inside opened := by
    cases inside with
    | stopTask =>
        simp only [TaskSection.perform, TaskScheduler.stopTask]
        split
        · exact opened
        · exact opened
    | resumeTask =>
        simp only [TaskSection.perform, TaskScheduler.resumeTask]
        split
        · exact opened
        · exact opened
    | remoteSuccessOpenFile =>
        simp only [TaskSection.perform]
        split
        · exact opened
        · exact opened
    | remoteFailureOpenFile errCode errString =>
        simp only [TaskSection.perform, TaskScheduler.remoteFailureOpenFile]
        split
        · exact opened
        · exact opened
    | failureReadRemoteFileBlock errCode errString =>
        simp only [TaskSection.perform, TaskScheduler.failureReadRemoteFileBlock]
        split
        · exact opened
        · exact opened_none rfl
    | failureWriteRemoteFileBlock errCode errString =>
        simp only [TaskSection.perform, TaskScheduler.failureWriteRemoteFileBlock]
        split
        · exact opened
        · exact opened_none rfl
    | writeLocalFileBlock remote progress data => exact writeLocalFileBlock_opened _ _ _ opened
    | readLocalFileBlock remote progress length => exact readLocalFileBlock_opened _ _ _ opened
  switch task file idle io address opened := by
    have started := @initIo_opened task io file task.overrideFile opened
    simp only [SharedTasks.switch]
    split
    · split
      · exact started
      · exact started
    · split
      · exact opened
      · exact opened
    · split
      · exact opened
      · exact opened
    · exact opened
    · exact opened
    · exact opened

theorem opened_fresh : FromStart Opened where
  active _ _ _ := opened_none rfl
  loaded _ _ _ := opened_none rfl
  passive action progress overrideFile file io task made := by
    simp only [TaskScheduler.addTaskPassively] at made
    split at made
    · contradiction
    · cases made
      exact initIo_opened overrideFile (opened_none rfl)

end FileTask

end EasyViewer
