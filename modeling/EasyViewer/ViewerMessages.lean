import EasyViewer.FileViewers

/-!
Which partners the messages of a task go to. A notification reaches every file window, so
the messages of an own task stay with its partner just while no other window is open.
-/

namespace EasyViewer

/-- Messages of the client's own tasks are sent by viewers of the tasks' own partners. -/
def SentByPartners (client : FileClient) : Prop :=
  ∀ sent ∈ client.sent, sent.task.task.starter = .self → sent.viewer.peer = sent.task.peer

instance : DecidablePred SentByPartners := fun client =>
  inferInstanceAs (Decidable (∀ sent ∈ client.sent,
    sent.task.task.starter = .self → sent.viewer.peer = sent.task.peer))

/-- Whether the call has the followers do something for an own task. -/
def TaskCall.Notifies (task : FileTask) : TaskCall → Prop
  | .stopTask => task.state = .transmitting
  | .resumeTask => False
  | .remoteSuccessOpenFile => task.state = .preparing
  | .remoteFailureOpenFile .. => False
  | .successReadRemoteFileBlock .. => task.state = .transmitting ∧ ¬ task.readsLocally = true
  | .failureReadRemoteFileBlock .. => task.state = .transmitting
  | .successWriteRemoteFileBlock _ => task.state = .transmitting ∧ task.readsLocally = true
  | .failureWriteRemoteFileBlock .. => task.state = .transmitting

/-- An own task that a partner reads from or writes to tells its followers when that fails. -/
def GuardCommand.Notifies (task : FileTask) (file : List UInt8) (io : FileIo) :
    GuardCommand → Prop
  | .openFile .. => False
  | .closeFile .. => False
  | .readFileBlock _ _ seek length =>
      (task.state = .transmitting ∧ task.readsLocally = true) ∧
        (task.read seek length file io).1.1 ≠ Err.noError
  | .writeFileBlock _ _ seek data =>
      io.unpacked = true ∧ (task.state = .transmitting ∧ ¬ task.readsLocally = true) ∧
        (task.write seek data file io).1.1 ≠ Err.noError

def SchedulerEvent.Notifies (registry : TaskRegistry) (io : FileIo) (address : Nat) :
    SchedulerEvent → Prop
  | .addTask _ => False
  | .removeTask _ => False
  | .call id operation =>
      registry.tasks id = some address ∧ (registry.objects address).known = true ∧
        operation.Notifies (registry.objects address).task
  | .command _ _ message =>
      registry.tasks message.taskId = some address ∧ (registry.objects address).known = true ∧
        message.Notifies (registry.objects address).task
          ((registry.fileOf address).getD []) io
  | .exec _ =>
      registry.queued.head? = some address ∧
        (registry.objects address).task.state = .waitingForStart ∧
          ((registry.objects address).task.initIo (registry.fileOf address)
            (registry.objects address).task.overrideFile io).1.1 = Err.noError

/-- When the followers of an own task have to do something for it, all open viewers are
viewers of the task's partner. -/
def FollowedByPartners (client : FileClient) : FileClientEvent → Prop
  | .scheduler event io _ =>
      ∀ address, event.Notifies client.registry io address →
        (client.registry.objects address).task.starter = .self →
          ∀ viewer ∈ client.followers, viewer.peer = (client.registry.objects address).peer
  | _ => True

/-- An operation on a task tells at most one thing, and an own task's followers just when it
notifies. Only a transmitting task sends a block. -/
inductive Tells (task after : FileTask) (notifies : Prop) : List Remote → Prop where
  | nothing (starter : after.starter = task.starter)
      (silent : task.starter = .self → ¬ notifies) : Tells task after notifies []
  | one (remote : Remote) (starter : after.starter = task.starter)
      (loud : task.starter = .self → notifies)
      (sending : ∀ seek data, remote = .writeFileBlock seek data → after.state = .transmitting) :
      Tells task after notifies [remote]

theorem Tells.of_iff {task other after : FileTask} {notifies loud : Prop} {remotes : List Remote}
    (tells : Tells task after notifies remotes) (starter : task.starter = other.starter)
    (same : notifies ↔ loud) : Tells other after loud remotes := by
  cases tells with
  | nothing kept silent =>
      exact .nothing (kept.trans starter) fun self now => silent (starter.trans self) (same.mpr now)
  | one remote kept tells sending =>
      exact .one remote (kept.trans starter) (fun self => same.mp (tells (starter.trans self)))
        sending

namespace TaskScheduler

variable {task : FileTask} {io : FileIo}

theorem closing_tells {after : FileTask} (starter : after.starter = task.starter) :
    Tells task (if task.starter ≠ .self ∨ task.state ≠ .transmitting then (task, [])
        else (after, [Remote.closeFile])).1 (task.state = .transmitting)
      (if task.starter ≠ .self ∨ task.state ≠ .transmitting then (task, [])
        else (after, [Remote.closeFile])).2 := by
  by_cases refused : task.starter ≠ .self ∨ task.state ≠ .transmitting
  · rw [if_pos refused]
    refine .nothing rfl fun self transmitting => ?_
    rcases refused with other | other
    · exact other self
    · exact other transmitting
  · rw [if_neg refused]
    rw [not_or, not_not, not_not] at refused
    exact .one _ starter (fun _ => refused.2) (by simp)

theorem closeFile_tells {after : FileTask} {notifies : Prop}
    (starter : after.starter = task.starter) (loud : notifies) :
    Tells task after notifies (if task.starter = .self then [.closeFile] else []) := by
  by_cases self : task.starter = .self
  · rw [if_pos self]
    exact .one _ starter (fun _ => loud) (by simp)
  · rw [if_neg self]
    exact .nothing starter fun other => absurd other self

theorem readLocalFileBlock_tells (offset length : Nat) (file : List UInt8) :
    Tells task (readLocalFileBlock task offset length file io).2.2.1
      ((task.state = .transmitting ∧ task.readsLocally = true) ∧
        (task.read offset length file io).1.1 ≠ Err.noError)
      (readLocalFileBlock task offset length file io).2.2.2 := by
  obtain ⟨_, kept⟩ := FileTask.read_keeps task offset length file io
  rcases readLocalFileBlock_cases task io offset length file with
    ⟨refused, _, same, silent⟩ | ⟨allowed, fails, _, starter, closes⟩ |
      ⟨_, succeeds, _, after, silent⟩
  · rw [same, silent]
    exact .nothing rfl fun _ both => refused both.1
  · rw [closes]
    exact closeFile_tells starter ⟨allowed, fails⟩
  · rw [after, silent]
    exact .nothing kept fun _ both => both.2 succeeds

theorem writeLocalFileBlock_tells (offset : Nat) (data file : List UInt8) :
    Tells task (writeLocalFileBlock task offset data file io).2.1
      ((task.state = .transmitting ∧ ¬ task.readsLocally = true) ∧
        (task.write offset data file io).1.1 ≠ Err.noError)
      (writeLocalFileBlock task offset data file io).2.2.2 := by
  obtain ⟨_, kept⟩ := FileTask.write_keeps task offset data file io
  rcases writeLocalFileBlock_cases task io offset data file with
    ⟨refused, _, same, silent⟩ | ⟨allowed, fails, _, starter, closes⟩ |
      ⟨_, succeeds, _, after, _, silent⟩
  · rw [same, silent]
    exact .nothing rfl fun _ both => refused both.1
  · rw [closes]
    exact closeFile_tells starter ⟨allowed, fails⟩
  · rw [after, silent]
    exact .nothing kept fun _ both => both.2 succeeds

theorem successWriteRemoteFileBlock_tells (offset : Nat) (file : List UInt8) :
    Tells task (successWriteRemoteFileBlock task offset file io).1
      (task.state = .transmitting ∧ task.readsLocally = true)
      (successWriteRemoteFileBlock task offset file io).2 := by
  obtain ⟨state, kept⟩ := FileTask.read_keeps task offset blockSize file io
  simp only [successWriteRemoteFileBlock]
  rcases readLocalFileBlock_cases task io offset blockSize file with
    ⟨refused, fails, same, silent⟩ | ⟨allowed, _, fails, starter, closes⟩ |
      ⟨allowed, _, succeeds, after, silent⟩
  · rw [if_pos fails, same, silent]
    exact .nothing rfl fun _ both => refused both
  · rw [if_pos fails, closes]
    exact closeFile_tells starter allowed
  · rw [if_neg (not_not_intro succeeds), after, silent]
    exact .one _ kept (fun _ => allowed) fun _ _ _ => state.trans allowed.1

theorem successReadRemoteFileBlock_tells (offset : Nat) (data file : List UInt8) :
    Tells task (successReadRemoteFileBlock task offset data file io).1
      (task.state = .transmitting ∧ ¬ task.readsLocally = true)
      (successReadRemoteFileBlock task offset data file io).2.2 := by
  obtain ⟨_, kept⟩ := FileTask.write_keeps task offset data file io
  simp only [successReadRemoteFileBlock]
  rcases writeLocalFileBlock_cases task io offset data file with
    ⟨refused, fails, same, silent⟩ | ⟨allowed, _, fails, starter, closes⟩ |
      ⟨allowed, _, succeeds, after, _, silent⟩
  · rw [if_pos fails, same, silent]
    exact .nothing rfl fun _ both => refused both
  · rw [if_pos fails, closes]
    exact closeFile_tells starter allowed
  · rw [if_neg (not_not_intro succeeds), after, silent]
    exact .one _ kept (fun _ => allowed) (by simp)

theorem remoteSuccessOpenFile_tells (file : List UInt8) :
    Tells task (remoteSuccessOpenFile task file io).1 (task.state = .preparing)
      (remoteSuccessOpenFile task file io).2 := by
  simp only [remoteSuccessOpenFile]
  by_cases preparing : task.state = .preparing
  · rw [if_neg (not_not_intro preparing)]
    cases starter : task.starter with
    | partner => exact .nothing starter.symm fun self => by rw [starter] at self; contradiction
    | self =>
        cases action : task.action with
        | read => exact .one _ starter.symm (fun _ => preparing) (by simp)
        | write =>
            refine (successWriteRemoteFileBlock_tells task.progress file).of_iff starter.symm ?_
            refine iff_of_true ⟨rfl, ?_⟩ preparing
            simp [FileTask.readsLocally]
  · rw [if_pos preparing]
    exact .nothing rfl fun _ => preparing

theorem exec_tells (task : FileTask) (file : Option (List UInt8)) (idle : Bool) (io : FileIo) :
    (exec task file idle io).2.2 = [] ∧
        ¬ (task.state = .waitingForStart ∧
          (task.initIo file task.overrideFile io).1.1 = Err.noError) ∨
      ∃ after, (exec task file idle io).1 = some after ∧
        Tells task after (task.state = .waitingForStart ∧
          (task.initIo file task.overrideFile io).1.1 = Err.noError)
          (exec task file idle io).2.2 ∧
        ∀ seek data, .writeFileBlock seek data ∉ (exec task file idle io).2.2 := by
  by_cases waiting : task.state = .waitingForStart
  · right
    obtain ⟨fp, opened⟩ := FileTask.initIo_keeps task file task.overrideFile io
    simp only [exec, waiting]
    by_cases fails : (task.initIo file task.overrideFile io).1.1 ≠ Err.noError
    · rw [if_pos fails]
      refine ⟨_, rfl, .nothing ?_ fun _ both => fails both.2, by simp⟩
      rw [opened]
    · rw [if_neg fails]
      refine ⟨_, rfl, .one _ ?_ (fun _ => ⟨trivial, not_not.mp fails⟩) (by simp), by simp⟩
      rw [opened]
  · left
    obtain ⟨after, result, _⟩ := @exec_stops task io file idle waiting
    rw [result]
    exact ⟨rfl, fun both => waiting both.1⟩

end TaskScheduler

theorem TaskCall.perform_tells (task : FileTask) (file : Option (List UInt8)) (io : FileIo)
    (call : TaskCall) :
    Tells task (call.perform task file io).1 (call.Notifies task)
      (call.perform task file io).2.2 := by
  cases call with
  | stopTask => exact TaskScheduler.closing_tells rfl
  | resumeTask =>
      refine .nothing ?_ fun _ never => never
      simp only [perform, TaskScheduler.resumeTask]
      split
      · rfl
      · rfl
  | remoteSuccessOpenFile => exact TaskScheduler.remoteSuccessOpenFile_tells (file.getD [])
  | remoteFailureOpenFile errCode errString =>
      refine .nothing ?_ fun _ never => never
      simp only [perform, TaskScheduler.remoteFailureOpenFile]
      split
      · rfl
      · rfl
  | successReadRemoteFileBlock progress data =>
      exact TaskScheduler.successReadRemoteFileBlock_tells progress data (file.getD [])
  | failureReadRemoteFileBlock errCode errString =>
      refine TaskScheduler.closing_tells ?_
      split
      · rfl
      · rfl
  | successWriteRemoteFileBlock currentProgress =>
      exact TaskScheduler.successWriteRemoteFileBlock_tells currentProgress (file.getD [])
  | failureWriteRemoteFileBlock errCode errString => exact TaskScheduler.closing_tells rfl

structure TaskRegistry.Sending (registry : TaskRegistry) (address : Nat) : Prop where
  registered : registry.tasks (registry.objects address).id = some address
  known : (registry.objects address).known = true
  transmitting : (registry.objects address).task.state = .transmitting

/-- The same of an operation on the registry, which tells something about one object. -/
inductive Informs (before : Nat → TaskPrivate) (after : TaskRegistry) (notifies : Nat → Prop) :
    List Notice → Prop where
  | nothing
      (silent : ∀ address, (before address).task.starter = .self → ¬ notifies address) :
      Informs before after notifies []
  | one (address : Nat) (remote : Remote)
      (loud : (before address).task.starter = .self → notifies address)
      (only : ∀ other, notifies other → other = address)
      (peer : (after.objects address).peer = (before address).peer)
      (starter : (after.objects address).task.starter = (before address).task.starter)
      (sending : ∀ seek data, remote = .writeFileBlock seek data → after.Sending address) :
      Informs before after notifies [(address, remote)]

theorem Informs.of_iff {before : Nat → TaskPrivate} {after other : TaskRegistry}
    {notifies loud : Nat → Prop}
    {notices : List Notice} (tells : Informs before after notifies notices)
    (objects : other.objects = after.objects) (tasks : other.tasks = after.tasks)
    (same : ∀ address, notifies address ↔ loud address) :
    Informs before other loud notices := by
  cases tells with
  | nothing silent =>
      exact .nothing fun address self now => silent address self ((same address).mpr now)
  | one address remote tells only peer starter sending =>
      refine .one address remote (fun self => (same address).mp (tells self))
        (fun other now => only other ((same other).mpr now)) ?_ ?_ ?_
      · rw [objects]
        exact peer
      · rw [objects]
        exact starter
      · intro seek data sent
        obtain ⟨registered, known, transmitting⟩ := sending seek data sent
        refine ⟨?_, ?_, ?_⟩
        · rw [tasks, objects]
          exact registered
        · rw [objects]
          exact known
        · rw [objects]
          exact transmitting

namespace TaskRegistry

variable {registry : TaskRegistry} {io : FileIo}

theorem operate_objects (registry : TaskRegistry) (address : Nat)
    (result : FileTask × Option (List UInt8) × List Remote) :
    (registry.operate address result).1.objects address =
      { registry.objects address with task := result.1 } :=
  Function.update_self address _ registry.objects

theorem operate_informs {address : Nat} {result : FileTask × Option (List UInt8) × List Remote}
    {notifies : Prop}
    (tells : Tells (registry.objects address).task result.1 notifies result.2.2)
    (findable : ∀ seek data, .writeFileBlock seek data ∈ result.2.2 →
      registry.tasks (registry.objects address).id = some address ∧
        (registry.objects address).known = true) :
    Informs registry.objects (registry.operate address result).1
      (fun other => address = other ∧ notifies) (registry.operate address result).2 := by
  obtain ⟨after, file, remotes⟩ := result
  have objects := operate_objects registry address (after, file, remotes)
  cases tells with
  | nothing starter silent =>
      refine .nothing fun other self both => ?_
      obtain ⟨same, now⟩ := both
      exact silent (same ▸ self) now
  | one remote starter loud sending =>
      refine .one address remote (fun self => ⟨rfl, loud self⟩) (fun other both => both.1.symm)
        ?_ ?_ ?_
      · rw [objects]
        rfl
      · rw [objects]
        exact starter
      · intro seek data sent
        have told : .writeFileBlock seek data ∈ [remote] := by
          rw [sent]
          exact List.mem_singleton_self _
        obtain ⟨registered, known⟩ := findable seek data told
        refine ⟨?_, ?_, ?_⟩
        · rw [objects]
          exact registered
        · rw [objects]
          exact known
        · rw [objects]
          exact sending seek data sent

theorem registered_informs {id : String} {address : Nat} {notifies : Nat → Prop}
    {result : FileTask × Option (List UInt8) × List Remote}
    (registered : registry.tasks id = some address)
    (known : (registry.objects address).known = true)
    (tells : Tells (registry.objects address).task result.1 (notifies address)
      result.2.2) :
    Informs registry.objects (registry.operate address result).1
      (fun other => address = other ∧ (registry.objects other).known = true ∧ notifies other)
      (registry.operate address result).2 := by
  have findable : registry.tasks (registry.objects address).id = some address := by
    rw [registry.named id address registered]
    exact registered
  refine (operate_informs tells fun _ _ _ => ⟨findable, known⟩).of_iff rfl rfl fun other => ?_
  constructor
  · rintro ⟨rfl, now⟩
    exact ⟨rfl, known, now⟩
  · rintro ⟨rfl, _, now⟩
    exact ⟨rfl, now⟩

theorem unknown_informs {address : Nat} {notifies : Nat → Prop}
    (unknown : ¬ (registry.objects address).known = true) :
    Informs registry.objects registry
      (fun other => address = other ∧ (registry.objects other).known = true ∧ notifies other)
      [] := by
  refine .nothing fun other _ both => unknown ?_
  rw [both.1]
  exact both.2.1

theorem call_informs (id : String) (operation : TaskCall) :
    Informs registry.objects (registry.call id operation io).1
      (fun address => registry.tasks id = some address ∧
        (registry.objects address).known = true ∧
          operation.Notifies (registry.objects address).task)
      (registry.call id operation io).2 := by
  simp only [call]
  cases registered : registry.tasks id with
  | none => exact .nothing fun _ _ both => by cases both.1
  | some address =>
      simp only [Option.some.injEq]
      by_cases known : (registry.objects address).known = true
      · rw [if_neg (not_not_intro known)]
        have tells := operation.perform_tells (registry.objects address).task
          (registry.fileOf address) io
        refine (registered_informs registered known tells).of_iff ?_ ?_ fun _ => Iff.rfl
        · split
          · rfl
          · rfl
        · split
          · rfl
          · rfl
      · rw [if_pos known]
        exact unknown_informs known

theorem readLocalFileBlock_informs (id : String) (progress length : Nat) :
    Informs registry.objects (registry.readLocalFileBlock id progress length io).2.1
      (fun address => registry.tasks id = some address ∧
        (registry.objects address).known = true ∧
          ((registry.objects address).task.state = .transmitting ∧
            (registry.objects address).task.readsLocally = true) ∧
          ((registry.objects address).task.read progress length
            ((registry.fileOf address).getD []) io).1.1 ≠ Err.noError)
      (registry.readLocalFileBlock id progress length io).2.2 := by
  simp only [readLocalFileBlock]
  cases registered : registry.tasks id with
  | none => exact .nothing fun _ _ both => by cases both.1
  | some address =>
      simp only [Option.some.injEq]
      by_cases known : (registry.objects address).known = true
      · rw [if_neg (not_not_intro known)]
        exact registered_informs registered known
          (TaskScheduler.readLocalFileBlock_tells progress length
            ((registry.fileOf address).getD []))
      · rw [if_pos known]
        exact unknown_informs known

theorem writeLocalFileBlock_informs (id : String) (progress : Nat) (data : List UInt8) :
    Informs registry.objects (registry.writeLocalFileBlock id progress data io).2.1
      (fun address => registry.tasks id = some address ∧
        (registry.objects address).known = true ∧
          ((registry.objects address).task.state = .transmitting ∧
            ¬ (registry.objects address).task.readsLocally = true) ∧
          ((registry.objects address).task.write progress data
            ((registry.fileOf address).getD []) io).1.1 ≠ Err.noError)
      (registry.writeLocalFileBlock id progress data io).2.2 := by
  simp only [writeLocalFileBlock]
  cases registered : registry.tasks id with
  | none => exact .nothing fun _ _ both => by cases both.1
  | some address =>
      simp only [Option.some.injEq]
      by_cases known : (registry.objects address).known = true
      · rw [if_neg (not_not_intro known)]
        exact registered_informs registered known
          (TaskScheduler.writeLocalFileBlock_tells progress data
            ((registry.fileOf address).getD []))
      · rw [if_pos known]
        exact unknown_informs known

theorem command_informs (host : String) (port : UInt16) (message : GuardCommand) :
    Informs registry.objects (message.handle host port registry io).1
      (fun address => registry.tasks message.taskId = some address ∧
        (registry.objects address).known = true ∧
          message.Notifies (registry.objects address).task
            ((registry.fileOf address).getD []) io)
      (message.handle host port registry io).2.1 := by
  cases message with
  | openFile seq userId taskId mode directory fileName fileSize seek force =>
      exact .nothing fun _ _ both => both.2.2
  | closeFile userId taskId => exact .nothing fun _ _ both => both.2.2
  | readFileBlock userId taskId seek length => exact readLocalFileBlock_informs taskId seek length
  | writeFileBlock userId taskId seek data =>
      simp only [GuardCommand.handle]
      by_cases unpacked : io.unpacked = true
      · rw [if_neg (not_not_intro unpacked)]
        refine (writeLocalFileBlock_informs taskId seek data).of_iff rfl rfl fun _ => ?_
        simp only [GuardCommand.taskId, GuardCommand.Notifies, unpacked, true_and]
      · rw [if_pos unpacked]
        exact .nothing fun _ _ both => unpacked both.2.2.1

theorem exec_informs (idle : Bool) :
    Informs registry.objects (registry.exec idle io).1
      (fun address => registry.queued.head? = some address ∧
        (registry.objects address).task.state = .waitingForStart ∧
          ((registry.objects address).task.initIo (registry.fileOf address)
            (registry.objects address).task.overrideFile io).1.1 = Err.noError)
      (registry.exec idle io).2 := by
  simp only [exec]
  cases queued : registry.queued with
  | nil => exact .nothing fun _ _ both => by cases both.1
  | cons address rest =>
      simp only [List.head?_cons, Option.some.injEq]
      have tells := TaskScheduler.exec_tells (registry.objects address).task
        (registry.fileOf address) idle io
      cases ran : TaskScheduler.exec (registry.objects address).task (registry.fileOf address)
        idle io with
      | mk after result =>
          obtain ⟨file, remotes⟩ := result
          rw [ran] at tells
          rcases tells with ⟨silent, still⟩ | ⟨left, isLeft, tells, blockless⟩
          · obtain rfl : remotes = [] := silent
            have silent : ∀ other, (registry.objects other).task.starter = .self →
                ¬ (address = other ∧ (registry.objects other).task.state = .waitingForStart ∧
                  ((registry.objects other).task.initIo (registry.fileOf other)
                    (registry.objects other).task.overrideFile io).1.1 = Err.noError) := by
              rintro other _ ⟨rfl, now⟩
              exact still now
            cases after with
            | none => exact .nothing silent
            | some left => exact .nothing silent
          · obtain rfl : after = some left := isLeft
            have informs := @operate_informs { registry with queued := rest } address
              (left, file, remotes) _ tells fun seek data sent =>
                absurd sent (blockless seek data)
            refine informs.of_iff ?_ ?_ fun other => ?_
            · simp only
              split
              · rfl
              · rfl
            · simp only
              split
              · rfl
              · rfl
            · constructor
              · rintro ⟨rfl, now⟩
                exact ⟨rfl, now⟩
              · rintro ⟨rfl, now⟩
                exact ⟨rfl, now⟩

theorem happen_informs (event : SchedulerEvent) :
    Informs registry.objects (registry.happen io event).1
      (fun address => event.Notifies registry io address) (registry.happen io event).2 := by
  cases event with
  | addTask task => exact .nothing fun _ _ never => never
  | removeTask taskId => exact .nothing fun _ _ never => never
  | call id operation => exact call_informs id operation
  | command host port message => exact command_informs host port message
  | exec idle => exact exec_informs idle

end TaskRegistry

def SentCommand.About (task : TaskPrivate) (sent : SentCommand) : Prop :=
  sent.task.peer = task.peer ∧ sent.task.task.starter = task.task.starter

structure Spreads (task : TaskPrivate) (before after : FileClient) : Prop where
  followers : after.followers = before.followers
  kept : ∀ sent ∈ before.sent, sent ∈ after.sent
  added : ∀ sent ∈ after.sent, sent ∈ before.sent ∨
    sent.viewer ∈ before.followers ∧ sent.About task

def Reaches (task : TaskPrivate) (viewer : FileViewer) (client : FileClient) : Prop :=
  ∃ sent ∈ client.sent, sent.viewer = viewer ∧ sent.About task

section

variable {task : TaskPrivate} {before middle after client : FileClient} {viewer : FileViewer}

theorem Spreads.refl (client : FileClient) : Spreads task client client :=
  ⟨rfl, fun _ there => there, fun _ there => Or.inl there⟩

theorem Spreads.trans (first : Spreads task before middle) (second : Spreads task middle after) :
    Spreads task before after := by
  refine ⟨second.followers.trans first.followers,
    fun sent there => second.kept sent (first.kept sent there), fun sent there => ?_⟩
  rcases second.added sent there with earlier | ⟨viewer, about⟩
  · exact first.added sent earlier
  · exact Or.inr ⟨first.followers ▸ viewer, about⟩

theorem Reaches.later (reaches : Reaches task viewer before) (spreads : Spreads task before after) :
    Reaches task viewer after := by
  obtain ⟨sent, there, about⟩ := reaches
  exact ⟨sent, spreads.kept sent there, about⟩

theorem foldl_spreads (task : TaskPrivate) (act : FileViewer → FileClient → FileClient)
    (keeps : FileClient → Prop)
    (each : ∀ viewer client, viewer ∈ client.followers → keeps client →
      keeps (act viewer client) ∧ Spreads task client (act viewer client) ∧
        (task.task.starter = .self → Reaches task viewer (act viewer client)))
    (viewers : List FileViewer) (client : FileClient)
    (within : ∀ viewer ∈ viewers, viewer ∈ client.followers) (now : keeps client) :
    keeps (viewers.foldl (fun after viewer => act viewer after) client) ∧
      Spreads task client (viewers.foldl (fun after viewer => act viewer after) client) ∧
        (task.task.starter = .self → ∀ viewer ∈ viewers,
          Reaches task viewer (viewers.foldl (fun after viewer => act viewer after) client)) := by
  induction viewers generalizing client with
  | nil => exact ⟨now, Spreads.refl client, fun _ _ => nofun⟩
  | cons viewer viewers ih =>
      obtain ⟨keeps, spreads, reaches⟩ := each viewer client (within viewer (by simp)) now
      obtain ⟨keepsOn, goesOn, reachesOn⟩ := ih (act viewer client)
        (fun other there => by
          rw [spreads.followers]
          exact within other (List.mem_cons_of_mem viewer there)) keeps
      refine ⟨keepsOn, spreads.trans goesOn, fun self other there => ?_⟩
      rcases List.mem_cons.mp there with rfl | later
      · exact (reaches self).later goesOn
      · exact reachesOn self other later

end

namespace FileClient

variable {task : TaskPrivate} {client : FileClient} {viewer : FileViewer}

theorem send_spreads {task object : TaskPrivate} (seq : Nat → Nat) (command : GuardCommand)
    (follows : viewer ∈ client.followers) (peer : object.peer = task.peer)
    (starter : object.task.starter = task.task.starter) :
    Spreads task client ({ client with seq := seq }.send viewer object command) ∧
      Reaches task viewer ({ client with seq := seq }.send viewer object command) := by
  refine ⟨⟨rfl, fun sent there => List.mem_append_left _ there, fun sent there => ?_⟩,
    ⟨_, List.mem_append_right _ (List.mem_singleton_self _), rfl, peer, starter⟩⟩
  rcases List.mem_append.mp there with earlier | new
  · exact Or.inl earlier
  · rw [List.mem_singleton.mp new]
    exact Or.inr ⟨follows, peer, starter⟩

theorem sends_spreads (client : FileClient) {object : TaskPrivate} (peer : object.peer = task.peer)
    (starter : object.task.starter = task.task.starter)
    {act : FileViewer → FileClient → FileClient}
    (sends : ∀ viewer client, ∃ seq command,
      act viewer client = { client with seq := seq }.send viewer object command) :
    (client.followers.foldl (fun after viewer => act viewer after) client).registry =
        client.registry ∧
      Spreads task client (client.followers.foldl (fun after viewer => act viewer after) client) ∧
        (task.task.starter = .self → ∀ viewer ∈ client.followers, Reaches task viewer
          (client.followers.foldl (fun after viewer => act viewer after) client)) := by
  refine foldl_spreads task act (fun after => after.registry = client.registry)
    (fun viewer after follows same => ?_) client.followers client (fun _ there => there) rfl
  obtain ⟨seq, command, sent⟩ := sends viewer after
  obtain ⟨spreads, reaches⟩ := send_spreads seq command follows peer starter
  rw [sent]
  exact ⟨same, spreads, fun _ => reaches⟩

theorem notifyTaskRemoteCloseFile_spreads (client : FileClient) {object : TaskPrivate}
    (peer : object.peer = task.peer) (starter : object.task.starter = task.task.starter) :
    (client.notifyTaskRemoteCloseFile object).registry = client.registry ∧
      Spreads task client (client.notifyTaskRemoteCloseFile object) ∧
        (task.task.starter = .self → ∀ viewer ∈ client.followers,
          Reaches task viewer (client.notifyTaskRemoteCloseFile object)) :=
  sends_spreads client peer starter fun _ _ => ⟨_, _, rfl⟩

structure Knows (task : TaskPrivate) (address : Nat) (client : FileClient) : Prop where
  registered : client.registry.tasks task.id = some address
  known : (client.registry.objects address).known = true
  peer : (client.registry.objects address).peer = task.peer
  starter : (client.registry.objects address).task.starter = task.task.starter

/-- While a block of the task is on its way: a viewer that gives up has all of them close the
task, and after that none gives up again. -/
structure Carries (task : TaskPrivate) (address : Nat) (client : FileClient) : Prop
    extends Knows task address client where
  pending : task.task.starter = .self →
    (client.registry.objects address).task.state = .transmitting ∨
      ∀ viewer ∈ client.followers, Reaches task viewer client

theorem Knows.operate {address : Nat} (knows : Knows task address client) (after : FileTask)
    (file : Option (List UInt8)) (remotes : List Remote)
    (starter : after.starter = task.task.starter) :
    Knows task address
      { client with registry := (client.registry.operate address (after, file, remotes)).1 } := by
  have object := TaskRegistry.operate_objects client.registry address
    (after, file, remotes)
  exact ⟨knows.registered, (congrArg TaskPrivate.known object).trans knows.known,
    (congrArg TaskPrivate.peer object).trans knows.peer,
    (congrArg (fun object => object.task.starter) object).trans starter⟩

theorem Knows.close {address : Nat} (knows : Knows task address client) :
    Carries task address (client.notifyTaskRemoteCloseFile (client.registry.objects address)) ∧
      Spreads task client
        (client.notifyTaskRemoteCloseFile (client.registry.objects address)) ∧
        (task.task.starter = .self → ∀ viewer ∈ client.followers, Reaches task viewer
          (client.notifyTaskRemoteCloseFile (client.registry.objects address))) := by
  obtain ⟨registered, known, peer, starter⟩ := knows
  obtain ⟨same, spreads, reaches⟩ := notifyTaskRemoteCloseFile_spreads client peer starter
  refine ⟨⟨⟨?_, ?_, ?_, ?_⟩, fun self => Or.inr ?_⟩, spreads, reaches⟩
  · rw [same]
    exact registered
  · rw [same]
    exact known
  · rw [same]
    exact peer
  · rw [same]
    exact starter
  · rw [spreads.followers]
    exact reaches self

theorem call_failure {registry : TaskRegistry} {id : String} {address : Nat} {errCode : Int}
    {errString : String} (registered : registry.tasks id = some address)
    (known : (registry.objects address).known = true) :
    registry.call id (.failureWriteRemoteFileBlock errCode errString) {} =
      registry.operate address
        ((TaskScheduler.failureWriteRemoteFileBlock (registry.objects address).task errCode
          errString).1, registry.fileOf address,
        (TaskScheduler.failureWriteRemoteFileBlock (registry.objects address).task errCode
          errString).2) := by
  simp only [TaskRegistry.call, registered]
  rw [if_neg (not_not_intro known), if_neg (by simp)]
  rfl

theorem failureWriteRemoteFileBlock_spreads {address : Nat} {errCode : Int} {errString : String}
    (carries : Carries task address client) :
    Carries task address (client.failureWriteRemoteFileBlock task.id errCode errString) ∧
      Spreads task client (client.failureWriteRemoteFileBlock task.id errCode errString) ∧
        (task.task.starter = .self → ∀ viewer ∈ client.followers,
          Reaches task viewer (client.failureWriteRemoteFileBlock task.id errCode errString)) := by
  have knows := carries.toKnows
  simp only [failureWriteRemoteFileBlock, call_failure knows.registered knows.known,
    TaskScheduler.failureWriteRemoteFileBlock]
  by_cases refused : (client.registry.objects address).task.starter ≠ .self ∨
      (client.registry.objects address).task.state ≠ .transmitting
  · rw [if_pos refused]
    have reached : task.task.starter = .self →
        ∀ viewer ∈ client.followers, Reaches task viewer client := by
      intro self
      rcases carries.pending self with transmitting | reached
      · rcases refused with other | stopped
        · exact absurd (knows.starter.trans self) other
        · exact absurd transmitting stopped
      · exact reached
    exact ⟨⟨knows.operate _ _ _ knows.starter, fun self => Or.inr (reached self)⟩,
      ⟨rfl, fun _ there => there, fun _ there => Or.inl there⟩, reached⟩
  · rw [if_neg refused]
    have failed := knows.operate (FileTask.closeIo { (client.registry.objects address).task with
      state := .failed, error := errCode, reason := errString })
      (client.registry.fileOf address) [.closeFile] knows.starter
    obtain ⟨carries, spreads, reaches⟩ := failed.close
    exact ⟨carries, ⟨spreads.followers, spreads.kept, spreads.added⟩, reaches⟩

theorem whenTaskRemoteWriteFileBlock_spreads {address seek : Nat} {data : List UInt8}
    (packed : Bool) (carries : Carries task address client) (follows : viewer ∈ client.followers) :
    Carries task address (client.whenTaskRemoteWriteFileBlock packed viewer task seek data) ∧
      Spreads task client (client.whenTaskRemoteWriteFileBlock packed viewer task seek data) ∧
        (task.task.starter = .self → Reaches task viewer
          (client.whenTaskRemoteWriteFileBlock packed viewer task seek data)) := by
  simp only [whenTaskRemoteWriteFileBlock]
  cases packed with
  | true =>
      rw [if_pos rfl]
      obtain ⟨spreads, reaches⟩ := @send_spreads client viewer task task client.seq
        (.writeFileBlock task.partnerId task.id seek data) follows rfl rfl
      obtain ⟨⟨registered, known, peer, starter⟩, pending⟩ := carries
      refine ⟨⟨⟨registered, known, peer, starter⟩, fun self => ?_⟩, spreads, fun _ => reaches⟩
      rcases pending self with transmitting | reached
      · exact Or.inl transmitting
      · exact Or.inr fun other there => (reached other there).later spreads
  | false =>
      rw [if_neg (by decide)]
      obtain ⟨carries, spreads, reaches⟩ := failureWriteRemoteFileBlock_spreads carries
      exact ⟨carries, spreads, fun self => reaches self viewer follows⟩

theorem notify_spreads {packed : Nat → Bool} {address : Nat} {remote : Remote}
    (sending : ∀ seek data, remote = .writeFileBlock seek data → client.registry.Sending address) :
    Spreads (client.registry.objects address) client (client.notify packed (address, remote)) ∧
      ((client.registry.objects address).task.starter = .self → ∀ viewer ∈ client.followers,
        Reaches (client.registry.objects address) viewer
          (client.notify packed (address, remote))) := by
  generalize isObject : client.registry.objects address = object
  cases remote with
  | openFile seek force =>
      simp only [notify, isObject, whenTaskRemote]
      exact (sends_spreads client rfl rfl fun _ _ => ⟨_, _, rfl⟩).2
  | closeFile =>
      simp only [notify, isObject, whenTaskRemote]
      exact (notifyTaskRemoteCloseFile_spreads client rfl rfl).2
  | writeFileBlock seek data =>
      obtain ⟨registered, known, transmitting⟩ := sending seek data rfl
      rw [isObject] at registered
      have carries : Carries object address client :=
        ⟨⟨registered, known, by rw [isObject], by rw [isObject]⟩, fun _ => Or.inl transmitting⟩
      simp only [notify, isObject, whenTaskRemote]
      exact (foldl_spreads object
        (fun viewer after =>
          after.whenTaskRemoteWriteFileBlock (packed viewer.address) viewer object seek data)
        (Carries object address) (fun viewer after follows carries =>
          whenTaskRemoteWriteFileBlock_spreads (packed viewer.address) carries follows)
        client.followers client (fun _ there => there) carries).2
  | readFileBlock seek length =>
      simp only [notify, isObject, whenTaskRemote]
      exact (sends_spreads client rfl rfl fun _ _ => ⟨_, _, rfl⟩).2

end FileClient

theorem follow_exact {client : FileClient} {packed : Nat → Bool}
    {result : TaskRegistry × List Notice} {notifies : Nat → Prop} (holds : SentByPartners client)
    (informs : Informs client.registry.objects result.1 notifies result.2) :
    SentByPartners (client.follow packed result) ↔
      ∀ address, notifies address → (client.registry.objects address).task.starter = .self →
        ∀ viewer ∈ client.followers,
          viewer.peer = (client.registry.objects address).peer := by
  obtain ⟨after, notices⟩ := result
  cases informs with
  | nothing silent =>
      exact iff_of_true holds fun address now self => absurd now (silent address self)
  | one address remote loud only peer starter sending =>
      obtain ⟨spreads, reaches⟩ := @FileClient.notify_spreads { client with registry := after }
        packed address remote sending
      constructor
      · intro later other now self viewer follows
        obtain rfl := only other now
        have own := starter.trans self
        obtain ⟨sent, there, rfl, about⟩ := reaches own viewer follows
        calc sent.viewer.peer = sent.task.peer := later sent there (about.2.trans own)
          _ = (after.objects other).peer := about.1
          _ = (client.registry.objects other).peer := peer
      · intro allowed sent there self
        rcases spreads.added sent there with earlier | ⟨follows, about⟩
        · exact holds sent earlier self
        · have own := starter.symm.trans (about.2.symm.trans self)
          calc sent.viewer.peer = (client.registry.objects address).peer :=
                allowed address (loud own) own sent.viewer follows
            _ = (after.objects address).peer := peer.symm
            _ = sent.task.peer := about.1.symm

theorem fileClientStep_exact {client next : FileClient} {event : FileClientEvent}
    (holds : SentByPartners client) (stepped : fileClientStep client event = some next) :
    SentByPartners next ↔ FollowedByPartners client event := by
  cases event with
  | subscribe viewer =>
      cases stepped
      exact iff_of_true holds trivial
  | unsubscribe address =>
      cases stepped
      exact iff_of_true holds trivial
  | scheduler event io packed =>
      cases stepped
      exact follow_exact holds (TaskRegistry.happen_informs event)

/-- For any viewers, tasks and run: every message of an own task is sent by a viewer of its
partner just when, whenever followers have to act for an own task, only such viewers are open. -/
theorem sent_by_partners_iff (files : String → Option (List UInt8))
    (events : List FileClientEvent) :
    Transition.Throughout fileClientStep SentByPartners
        { registry := TaskRegistry.empty files } events ↔
      Transition.Happening fileClientStep FollowedByPartners
        { registry := TaskRegistry.empty files } events := by
  refine Transition.Throughout.iff_happening fileClientStep (fun _ => True) ?_ trivial ?_
  · intro client event next _ holds stepped
    exact ⟨trivial, fileClientStep_exact holds stepped⟩
  · intro sent there
    cases there

def fileWindow (address : Nat) (partnerUserId : UserId) : FileViewer where
  address := address
  peerHost := "server"
  peerPort := 80
  partnerUserId := partnerUserId
  selfUserId := 1

def secondWindow : List FileClientEvent := [
  .subscribe (fileWindow 1 7),
  .subscribe (fileWindow 2 8),
  .scheduler (.addTask {
    id := "t", serverHost := "server", serverPort := 80, partnerId := 7
    fromDirectory := "/from", toDirectory := "/to", fileName := "file", fileSize := 2
    task := { starter := .self, action := .write, state := .waitingForStart } }) {} fun _ => true,
  .scheduler (.exec false) {} fun _ => true,
  .scheduler (.call "t" .remoteSuccessOpenFile) {} fun _ => true]

/-- User 8 is asked to open the file, and gets its contents. -/
theorem secondWindow_leaks : ¬ Transition.Throughout fileClientStep SentByPartners
    { registry := TaskRegistry.empty fun path => if path = "/from/file" then some [1, 2] else none }
    secondWindow := by
  intro throughout
  have holds := throughout.final fileClientStep rfl
  exact absurd holds (by decide)

end EasyViewer
