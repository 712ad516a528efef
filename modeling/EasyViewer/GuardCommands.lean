import Mathlib.Data.List.Basic
import EasyViewer.TaskEffects
import EasyViewer.TaskRegistry

/-!
The four commands of a remote viewer on the tasks of a host, as
`FileTransmissionGuardAbility` handles them. They find a task by the id that the message
names and ask neither who started it nor whose partner it is.
-/

namespace EasyViewer

inductive GuardCommand where
  | openFile (seq : Nat) (userId : UserId) (taskId : String) (mode : Int)
      (directory fileName : String) (fileSize seek : Nat) (force : Bool)
  | closeFile (userId : UserId) (taskId : String)
  | readFileBlock (userId : UserId) (taskId : String) (seek length : Nat)
  | writeFileBlock (userId : UserId) (taskId : String) (seek : Nat) (data : List UInt8)
  deriving DecidableEq, Repr

inductive GuardAnswer where
  | openFile (seq : Nat) (userId : UserId) (taskId : String) (errCode : Int) (errString : String)
  | readFileBlock (userId : UserId) (taskId : String) (errCode : Int) (errString : String)
      (seek : Nat) (data : List UInt8)
  | writeFileBlock (userId : UserId) (taskId : String) (errCode : Int) (errString : String)
      (afterSeek : Nat)
  deriving DecidableEq, Repr

namespace GuardCommand

def userId : GuardCommand → UserId
  | .openFile _ userId _ _ _ _ _ _ _ => userId
  | .closeFile userId _ => userId
  | .readFileBlock userId _ _ _ => userId
  | .writeFileBlock userId _ _ _ => userId

def taskId : GuardCommand → String
  | .openFile _ _ taskId _ _ _ _ _ _ => taskId
  | .closeFile _ taskId => taskId
  | .readFileBlock _ taskId _ _ => taskId
  | .writeFileBlock _ taskId _ _ => taskId

/-- `host` and `port` are the guard's server; the answers are what it sends back. -/
def handle (host : String) (port : UInt16) (registry : TaskRegistry) (io : FileIo) :
    GuardCommand → TaskRegistry × List Notice × List GuardAnswer
  | .openFile seq userId taskId mode directory fileName fileSize seek force =>
      match (registry.removeTask taskId).addTaskPassively taskId host port userId mode directory
        fileName seek fileSize force io with
      | ((err, reason), after) => (after, [], [.openFile seq userId taskId err reason])
  | .closeFile _ taskId => (registry.removeTask taskId, [], [])
  | .readFileBlock userId taskId seek length =>
      match registry.readLocalFileBlock taskId seek length io with
      | (((err, reason), data), after, notices) =>
          (after, notices,
            [if err ≠ Err.noError then .readFileBlock userId taskId err reason 0 []
            else if io.packed then .readFileBlock userId taskId Err.noError "" seek data
            else .readFileBlock userId taskId Err.operateFailed "compress data failed" 0 []])
  | .writeFileBlock userId taskId seek data =>
      if ¬ io.unpacked then
        (registry, [],
          [.writeFileBlock userId taskId Err.operateFailed "uncompress data failed" 0])
      else
        match registry.writeLocalFileBlock taskId seek data io with
        | ((err, reason), after, notices) =>
            (after, notices,
              [.writeFileBlock userId taskId err reason
                (if err = Err.noError then seek + data.length else 0)])

end GuardCommand

/-- A task of the host itself, or one that another partner has opened. -/
def Foreign (userId : UserId) (object : TaskPrivate) : Prop :=
  object.task.starter = .self ∨ object.partnerId ≠ userId

def SparesForeign (userId : UserId) (before after : TaskRegistry) : Prop :=
  ∀ id address, before.tasks id = some address → Foreign userId (before.objects address) →
    after.tasks id = some address ∧ after.objects address = before.objects address ∧
      after.queued.count address = before.queued.count address

namespace FileTask

/-- The next read comes back to where the task stands, or is refused and closes nothing. -/
def ReadSpares (task : FileTask) (seek length : Nat) (file : List UInt8) (io : FileIo) : Prop :=
  task.state ≠ .transmitting ∨ task.readsLocally = false ∨
    task.starter = .partner ∧ task.fp = none ∨
    ∃ fp, task.fp = some fp ∧ io.sought = true ∧
      (file.drop seek).take (io.wanted length) ≠ [] ∧
      seek + ((file.drop seek).take (io.wanted length)).length = task.progress ∧
      fp.position = task.progress ∧
      fp.eof = decide (((file.drop seek).take (io.wanted length)).length < io.wanted length)

/-- The next write comes back to where the task stands, or is refused. -/
def WriteSpares (task : FileTask) (seek : Nat) (data file : List UInt8) (io : FileIo) : Prop :=
  task.state ≠ .transmitting ∨ task.readsLocally = true ∨
    ∃ fp, task.fp = some fp ∧ io.sought = true ∧
      io.takes data.length = true ∧ seek + data.length = task.progress ∧
      ({ fp with position := seek, eof := false }.fwriteAll file data io.fwrites).2.1 = fp

end FileTask

/-- The command names no foreign task, or one that it does nothing to. -/
def Spares (registry : TaskRegistry) (io : FileIo) (command : GuardCommand) : Prop :=
  ∀ address, registry.tasks command.taskId = some address →
    Foreign command.userId (registry.objects address) →
      match command with
      | .openFile .. => False
      | .closeFile .. => False
      | .readFileBlock _ _ seek length =>
          (registry.objects address).known = false ∨
            (registry.objects address).task.ReadSpares seek length
              ((registry.fileOf address).getD []) io
      | .writeFileBlock _ _ seek data =>
          io.unpacked = false ∨ (registry.objects address).known = false ∨
            (registry.objects address).task.WriteSpares seek data
              ((registry.fileOf address).getD []) io

theorem FileIo.takes_zero (io : FileIo) : io.takes 0 = false := by
  simp only [FileIo.takes]
  cases io.fwrites with
  | nil => rfl
  | cons count counts => simp [FileIo.taken]

namespace FileTask

variable {task : FileTask} {seek length : Nat} {data file : List UInt8} {io : FileIo}

theorem closeIo_ne {fp : OpenFile} (isOpen : task.fp = some fp) {other : FileTask} :
    other.closeIo ≠ task := by
  intro same
  have closed : task.fp = none := by
    rw [← same]
    rfl
  rw [isOpen] at closed
  contradiction

theorem moveTo_here : task.moveTo task.progress io = ((Err.noError, ""), task) := by
  simp only [moveTo, if_true]

theorem moveTo_away (away : seek ≠ task.progress) : task.moveTo seek io =
    if io.sought then ((Err.noError, ""), { task with
      fp := task.fp.map fun fp => { fp with position := seek, eof := false }
      progress := seek })
    else ((Err.operateFailed, "failed to set the file position indicator"), task) := by
  simp only [moveTo, if_neg away, FileTask.seek]
  split
  · rfl
  · rfl

theorem fread_sought (fp : OpenFile) (seek length : Nat) (file : List UInt8) :
    OpenFile.fread { fp with position := seek, eof := false } file length =
      (file.drop seek).take length := rfl

theorem read_moved {moved : FileTask} {before fp : OpenFile} (isOpen : task.fp = some before)
    (moves : task.moveTo seek io = ((Err.noError, ""), moved)) (isMoved : moved.fp = some fp) :
    (fp.fread file (io.wanted length) = [] →
      (task.read seek length file io).1.1 ≠ Err.noError) ∧
    (fp.fread file (io.wanted length) ≠ [] →
      task.read seek length file io = ((Err.noError, ""),
        fp.fread file (io.wanted length), { moved with
          fp := some { fp with
            position := fp.position + (fp.fread file (io.wanted length)).length
            eof := fp.eof || (fp.fread file (io.wanted length)).length < io.wanted length }
          progress := moved.progress + (fp.fread file (io.wanted length)).length })) := by
  simp only [read, isOpen, moves, isMoved, Option.isNone_some, Bool.false_eq_true, ne_eq,
    not_true_eq_false, if_false]
  constructor
  · intro nothing
    rw [nothing, if_pos List.isEmpty_nil]
    change (if _ then Err.endOfFile else Err.operateFailed) ≠ Err.noError
    split
    · exact (by decide : Err.endOfFile ≠ Err.noError)
    · exact (by decide : Err.operateFailed ≠ Err.noError)
  · intro something
    rw [if_neg (by simpa using something)]

theorem read_stuck {fp : OpenFile} (isOpen : task.fp = some fp) (away : seek ≠ task.progress)
    (stuck : io.sought = false) : (task.read seek length file io).1.1 ≠ Err.noError := by
  simp only [read, isOpen, moveTo_away away, stuck, Option.isNone_some, Bool.false_eq_true,
    if_false]
  rw [if_pos (by decide : Err.operateFailed ≠ Err.noError)]
  exact (by decide : Err.operateFailed ≠ Err.noError)

theorem write_moved {moved : FileTask} {before fp : OpenFile} (isOpen : task.fp = some before)
    (moves : task.moveTo seek io = ((Err.noError, ""), moved)) (isMoved : moved.fp = some fp) :
    (task.write seek data file io).1.1 = Err.noError ∧
      (task.write seek data file io).2.1 =
        if io.takes data.length then { moved with
          fp := some (fp.fwriteAll file data io.fwrites).2.1
          progress := moved.progress + data.length }
        else moved.closeIo := by
  have taken := fp.fwriteAll_taken file data io.fwrites
  simp only [write, isOpen, moves, isMoved, Option.isNone_some, Bool.false_eq_true, ne_eq,
    not_true_eq_false, if_false, FileIo.takes, ← taken]
  split
  · rename_i gaveUp
    simp [gaveUp]
  · rename_i whole
    simp [whole]

theorem write_stuck {fp : OpenFile} (isOpen : task.fp = some fp) (away : seek ≠ task.progress)
    (stuck : io.sought = false) : (task.write seek data file io).1.1 ≠ Err.noError := by
  simp only [write, isOpen, moveTo_away away, stuck, Option.isNone_some, Bool.false_eq_true,
    if_false]
  rw [if_pos (by decide : Err.operateFailed ≠ Err.noError)]
  exact (by decide : Err.operateFailed ≠ Err.noError)

end FileTask

namespace TaskScheduler

variable {task : FileTask} {seek length : Nat} {data file : List UInt8} {io : FileIo}

theorem readLocalFileBlock_closes {fp : OpenFile} (transmitting : task.state = .transmitting)
    (reads : task.readsLocally = true) (isOpen : task.fp = some fp)
    (fails : (task.read seek length file io).1.1 ≠ Err.noError) :
    (readLocalFileBlock task seek length file io).2.2.1 ≠ task := by
  simp only [readLocalFileBlock]
  rw [if_neg (not_not_intro transmitting), if_neg (not_not_intro reads), if_pos fails]
  exact FileTask.closeIo_ne isOpen

theorem readLocalFileBlock_succeeds (transmitting : task.state = .transmitting)
    (reads : task.readsLocally = true)
    (succeeds : (task.read seek length file io).1.1 = Err.noError) :
    (readLocalFileBlock task seek length file io).2.2.1 =
      (task.read seek length file io).2.2 := by
  simp only [readLocalFileBlock]
  rw [if_neg (not_not_intro transmitting), if_neg (not_not_intro reads),
    if_neg (not_not_intro succeeds)]

theorem readLocalFileBlock_same {fp : OpenFile} (transmitting : task.state = .transmitting)
    (reads : task.readsLocally = true) (isOpen : task.fp = some fp) :
    (readLocalFileBlock task seek length file io).2.2.1 = task ↔
      io.sought = true ∧ (file.drop seek).take (io.wanted length) ≠ [] ∧
        seek + ((file.drop seek).take (io.wanted length)).length = task.progress ∧
        fp.position = task.progress ∧
        fp.eof = decide
          (((file.drop seek).take (io.wanted length)).length < io.wanted length) := by
  by_cases here : seek = task.progress
  · subst here
    have further : ¬ (io.sought = true ∧
        (file.drop task.progress).take (io.wanted length) ≠ [] ∧
        task.progress + ((file.drop task.progress).take (io.wanted length)).length =
          task.progress ∧ fp.position = task.progress ∧
        fp.eof = decide (((file.drop task.progress).take (io.wanted length)).length <
          io.wanted length)) := by
      rintro ⟨_, something, same, _⟩
      have positive := List.length_pos_iff.mpr something
      omega
    refine iff_of_false (fun same => ?_) further
    obtain ⟨fails, succeeds⟩ :=
      @FileTask.read_moved task task.progress length file io task fp fp isOpen
        FileTask.moveTo_here isOpen
    by_cases nothing : fp.fread file (io.wanted length) = []
    · exact readLocalFileBlock_closes transmitting reads isOpen (fails nothing) same
    · rw [readLocalFileBlock_succeeds transmitting reads (by rw [succeeds nothing]),
        succeeds nothing] at same
      have advanced := congrArg FileTask.progress same
      have positive := List.length_pos_iff.mpr nothing
      simp only at advanced
      omega
  · cases sought : io.sought with
    | false =>
        have stuck := @FileTask.read_stuck task seek length file io fp isOpen here sought
        refine iff_of_false ?_ (fun possible => absurd possible.1 (by decide))
        exact readLocalFileBlock_closes transmitting reads isOpen stuck
    | true =>
        have moves : task.moveTo seek io = ((Err.noError, ""), { task with
            fp := some { fp with position := seek, eof := false }
            progress := seek }) := by
          rw [FileTask.moveTo_away here, sought, if_pos rfl, isOpen, Option.map_some]
        obtain ⟨fails, succeeds⟩ :=
          @FileTask.read_moved task seek length file io _ fp
            { fp with position := seek, eof := false } isOpen moves rfl
        rw [FileTask.fread_sought] at fails succeeds
        by_cases nothing : (file.drop seek).take (io.wanted length) = []
        · refine iff_of_false ?_ (fun possible => possible.2.1 nothing)
          exact readLocalFileBlock_closes transmitting reads isOpen (fails nothing)
        · rw [readLocalFileBlock_succeeds transmitting reads (by rw [succeeds nothing]),
            succeeds nothing]
          constructor
          · intro same
            have progress := congrArg FileTask.progress same
            have position := congrArg (fun task => task.fp.map OpenFile.position) same
            have eof := congrArg (fun task => task.fp.map OpenFile.eof) same
            simp only [isOpen, Option.map_some, Option.some.injEq, Bool.false_or]
              at progress position eof
            exact ⟨rfl, nothing, progress, position.symm.trans progress, eof.symm⟩
          · rintro ⟨_, _, progress, position, eof⟩
            simp only [progress, ← position, Bool.false_or, ← eof]
            rw [← isOpen, position]

theorem readLocalFileBlock_closed (transmitting : task.state = .transmitting)
    (reads : task.readsLocally = true) (closed : task.fp = none) :
    (readLocalFileBlock task seek length file io).2.2.1 = task ↔ task.starter = .partner := by
  have result : task.read seek length file io =
      ((Err.fileClosed, formatError Err.fileClosed), [], task) := by
    simp only [FileTask.read, closed, Option.isNone_none, if_true]
  have isError : Err.fileClosed ≠ Err.noError := by decide
  have notEnd : Err.fileClosed ≠ Err.endOfFile := by decide
  simp only [readLocalFileBlock, result]
  rw [if_neg (not_not_intro transmitting), if_neg (not_not_intro reads), if_pos isError]
  cases started : task.starter with
  | self =>
      rw [if_pos rfl, if_neg notEnd]
      refine iff_of_false (fun same => ?_) (by decide)
      have state := congrArg FileTask.state same
      rw [transmitting] at state
      contradiction
  | partner =>
      rw [if_neg (by decide)]
      refine iff_of_true ?_ rfl
      simp only [FileTask.closeIo, ← closed]

theorem readLocalFileBlock_spares :
    (readLocalFileBlock task seek length file io).2.2.1 = task ↔
      task.ReadSpares seek length file io := by
  by_cases transmitting : task.state = .transmitting
  · by_cases reads : task.readsLocally = true
    · simp only [FileTask.ReadSpares, transmitting, reads, ne_eq, not_true_eq_false, false_or,
        Bool.true_eq_false]
      cases opened : task.fp with
      | none =>
          rw [readLocalFileBlock_closed transmitting reads opened]
          simp
      | some fp =>
          rw [readLocalFileBlock_same transmitting reads opened]
          simp
    · have refused : (readLocalFileBlock task seek length file io).2.2.1 = task := by
        simp only [readLocalFileBlock]
        rw [if_neg (not_not_intro transmitting), if_pos reads]
      exact iff_of_true refused (Or.inr (Or.inl (by simpa using reads)))
  · have refused : (readLocalFileBlock task seek length file io).2.2.1 = task := by
      simp only [readLocalFileBlock]
      rw [if_pos transmitting]
    exact iff_of_true refused (Or.inl transmitting)

theorem writeLocalFileBlock_ends (transmitting : task.state = .transmitting)
    (fails : (task.write seek data file io).1.1 ≠ Err.noError)
    (writes : ¬ task.readsLocally = true) :
    (writeLocalFileBlock task seek data file io).2.1 ≠ task := by
  simp only [writeLocalFileBlock]
  rw [if_neg (not_not_intro transmitting), if_neg writes, if_pos fails]
  intro same
  have state := congrArg FileTask.state same
  rw [transmitting] at state
  contradiction

theorem writeLocalFileBlock_succeeds (transmitting : task.state = .transmitting)
    (writes : ¬ task.readsLocally = true)
    (succeeds : (task.write seek data file io).1.1 = Err.noError) :
    (writeLocalFileBlock task seek data file io).2.1 = (task.write seek data file io).2.1 := by
  simp only [writeLocalFileBlock]
  rw [if_neg (not_not_intro transmitting), if_neg writes, if_neg (not_not_intro succeeds)]

theorem writeLocalFileBlock_refused {moved : FileTask} {before fp : OpenFile}
    (transmitting : task.state = .transmitting) (writes : ¬ task.readsLocally = true)
    (isOpen : task.fp = some before) (moves : task.moveTo seek io = ((Err.noError, ""), moved))
    (isMoved : moved.fp = some fp) (refused : io.takes data.length = false) :
    (writeLocalFileBlock task seek data file io).2.1 ≠ task := by
  obtain ⟨succeeds, result⟩ := FileTask.write_moved isOpen moves isMoved
  rw [writeLocalFileBlock_succeeds transmitting writes succeeds, result, refused,
    if_neg (by decide)]
  exact FileTask.closeIo_ne isOpen

theorem writeLocalFileBlock_same {fp : OpenFile} (transmitting : task.state = .transmitting)
    (writes : ¬ task.readsLocally = true) (isOpen : task.fp = some fp) :
    (writeLocalFileBlock task seek data file io).2.1 = task ↔
      io.sought = true ∧ io.takes data.length = true ∧ seek + data.length = task.progress ∧
        ({ fp with position := seek, eof := false }.fwriteAll file data io.fwrites).2.1 = fp := by
  by_cases here : seek = task.progress
  · subst here
    cases takes : io.takes data.length with
    | false =>
        refine iff_of_false ?_ (fun possible => absurd possible.2.1 (by decide))
        exact writeLocalFileBlock_refused transmitting writes isOpen FileTask.moveTo_here isOpen
          takes
    | true =>
        obtain ⟨succeeds, result⟩ :=
          @FileTask.write_moved task task.progress data file io task fp fp isOpen
            FileTask.moveTo_here isOpen
        rw [writeLocalFileBlock_succeeds transmitting writes succeeds, result, takes]
        have positive : data.length ≠ 0 := by
          intro none
          rw [none] at takes
          exact absurd takes (by rw [FileIo.takes_zero]; decide)
        refine iff_of_false (fun same => ?_) (fun possible => ?_)
        · rw [if_pos rfl] at same
          have advanced := congrArg FileTask.progress same
          simp only at advanced
          omega
        · have same := possible.2.2.1
          omega
  · cases sought : io.sought with
    | false =>
        have stuck := @FileTask.write_stuck task seek data file io fp isOpen here sought
        refine iff_of_false ?_ (fun possible => absurd possible.1 (by decide))
        exact writeLocalFileBlock_ends transmitting stuck writes
    | true =>
        have moves : task.moveTo seek io = ((Err.noError, ""), { task with
            fp := some { fp with position := seek, eof := false }
            progress := seek }) := by
          rw [FileTask.moveTo_away here, sought, if_pos rfl, isOpen, Option.map_some]
        cases takes : io.takes data.length with
        | false =>
            refine iff_of_false ?_ (fun possible => absurd possible.2.1 (by decide))
            exact writeLocalFileBlock_refused transmitting writes isOpen moves rfl takes
        | true =>
            obtain ⟨succeeds, result⟩ :=
              @FileTask.write_moved task seek data file io _ fp
                { fp with position := seek, eof := false } isOpen moves rfl
            rw [writeLocalFileBlock_succeeds transmitting writes succeeds, result, takes,
              if_pos rfl]
            constructor
            · intro same
              have progress := congrArg FileTask.progress same
              have position := congrArg FileTask.fp same
              simp only [isOpen, Option.some.injEq] at progress position
              exact ⟨rfl, rfl, progress, position⟩
            · rintro ⟨_, _, progress, position⟩
              simp only [progress, position, ← isOpen]

theorem writeLocalFileBlock_spares :
    (writeLocalFileBlock task seek data file io).2.1 = task ↔
      task.WriteSpares seek data file io := by
  by_cases transmitting : task.state = .transmitting
  · by_cases reads : task.readsLocally = true
    · have refused : (writeLocalFileBlock task seek data file io).2.1 = task := by
        simp only [writeLocalFileBlock]
        rw [if_neg (not_not_intro transmitting), if_pos reads]
      exact iff_of_true refused (Or.inr (Or.inl reads))
    · simp only [FileTask.WriteSpares, transmitting, reads, ne_eq, not_true_eq_false, false_or,
        Bool.false_eq_true]
      cases opened : task.fp with
      | none =>
          refine iff_of_false ?_ (by rintro ⟨_, ⟨⟩, _⟩)
          refine writeLocalFileBlock_ends transmitting ?_ reads
          rw [FileTask.write_closed opened]
          exact (by decide : Err.fileClosed ≠ Err.noError)
      | some fp =>
          rw [writeLocalFileBlock_same transmitting reads opened]
          simp
  · have refused : (writeLocalFileBlock task seek data file io).2.1 = task := by
      simp only [writeLocalFileBlock]
      rw [if_pos transmitting]
    exact iff_of_true refused (Or.inl transmitting)

end TaskScheduler

section

variable {registry : TaskRegistry} {userId : UserId}

theorem SparesForeign.refl (registry : TaskRegistry) : SparesForeign userId registry registry :=
  fun _ _ registered _ => ⟨registered, rfl, rfl⟩

theorem operate_spares {id : String} {address : Nat}
    {result : FileTask × Option (List UInt8) × List Remote}
    (registered : registry.tasks id = some address) :
    SparesForeign userId registry (registry.operate address result).1 ↔
      (Foreign userId (registry.objects address) →
        result.1 = (registry.objects address).task) := by
  have objects : (registry.operate address result).1.objects =
      Function.update registry.objects address
        { registry.objects address with task := result.1 } := rfl
  constructor
  · intro spares foreign
    obtain ⟨_, same, _⟩ := spares id address registered foreign
    rw [objects, Function.update_self] at same
    exact congrArg TaskPrivate.task same
  · intro leaves other there isRegistered foreign
    refine ⟨isRegistered, ?_, rfl⟩
    rw [objects]
    by_cases here : there = address
    · subst here
      rw [Function.update_self, leaves foreign]
    · rw [Function.update_of_ne here]

theorem count_eraseP_of_not {Element : Type} [DecidableEq Element] {drops : Element → Bool}
    {element : Element} (stays : drops element = false) (list : List Element) :
    (list.eraseP drops).count element = list.count element := by
  induction list with
  | nil => rfl
  | cons first rest ih =>
      by_cases dropped : drops first = true
      · have apart : first ≠ element := by
          rintro rfl
          rw [stays] at dropped
          contradiction
        rw [List.eraseP_cons_of_pos dropped, List.count_cons_of_ne apart]
      · rw [List.eraseP_cons_of_neg dropped, List.count_cons, List.count_cons, ih]

theorem removeTask_other {id other : String} {address : Nat}
    (registered : registry.tasks other = some address) (apart : other ≠ id) :
    (registry.removeTask id).tasks other = some address ∧
      (registry.removeTask id).objects = registry.objects ∧
      (registry.removeTask id).queued.count address = registry.queued.count address := by
  refine ⟨?_, rfl, ?_⟩
  · simp only [TaskRegistry.removeTask, TaskRegistry.unregister]
    rw [Function.update_of_ne apart]
    exact registered
  · simp only [TaskRegistry.removeTask]
    apply count_eraseP_of_not
    rw [registry.named other address registered]
    exact decide_eq_false apart

theorem removeTask_self (id : String) : (registry.removeTask id).tasks id = none := by
  simp only [TaskRegistry.removeTask, TaskRegistry.unregister, Function.update_self]

theorem addTaskPassively_adds {id host : String} {port : UInt16} {mode : Int}
    {directory fileName : String} {progress fileSize : Nat} {overrideFile : Bool} {io : FileIo}
    (absent : registry.tasks id = none) :
    let after := (registry.addTaskPassively id host port userId mode directory fileName progress
      fileSize overrideFile io).2
    (after.tasks = registry.tasks ∧ after.objects = registry.objects ∧
        after.queued = registry.queued) ∨
      ∃ object, after.tasks = Function.update registry.tasks id (some registry.size) ∧
        after.objects = Function.update registry.objects registry.size object ∧
        after.queued = registry.queued ++ [registry.size] := by
  simp only [TaskRegistry.addTaskPassively]
  split
  · exact Or.inl ⟨rfl, rfl, rfl⟩
  · rename_i task file _
    right
    simp only [TaskRegistry.insert, TaskRegistry.putFile, TaskRegistry.passiveTask, absent,
      Option.isSome_none, Bool.false_eq_true, if_false]
    exact ⟨_, trivial, rfl, trivial⟩

theorem closeFile_spares (id : String) :
    SparesForeign userId registry (registry.removeTask id) ↔
      ∀ address, registry.tasks id = some address →
        ¬ Foreign userId (registry.objects address) := by
  constructor
  · intro spares address registered foreign
    obtain ⟨stays, _⟩ := spares id address registered foreign
    rw [removeTask_self] at stays
    contradiction
  · intro own other address registered foreign
    have apart : other ≠ id := by
      rintro rfl
      exact own address registered foreign
    obtain ⟨stays, objects, queued⟩ := removeTask_other registered apart
    exact ⟨stays, by rw [objects], queued⟩

theorem openFile_spares {id host : String} {port : UInt16} {mode : Int}
    {directory fileName : String} {progress fileSize : Nat} {overrideFile : Bool} {io : FileIo} :
    SparesForeign userId registry ((registry.removeTask id).addTaskPassively id host port userId
        mode directory fileName progress fileSize overrideFile io).2 ↔
      ∀ address, registry.tasks id = some address →
        ¬ Foreign userId (registry.objects address) := by
  rw [← closeFile_spares]
  have adds := @addTaskPassively_adds (registry.removeTask id) userId id host port mode directory
    fileName progress fileSize overrideFile io (removeTask_self id)
  rcases adds with ⟨tasks, objects, queued⟩ | ⟨object, tasks, objects, queued⟩
  · simp only [SparesForeign, tasks, objects, queued]
  · have size : (registry.removeTask id).size = registry.size := rfl
    constructor
    · intro spares other address registered foreign
      have bound := registry.bounded other address registered
      obtain ⟨stays, same, count⟩ := spares other address registered foreign
      by_cases named : other = id
      · subst named
        rw [tasks, Function.update_self, Option.some.injEq, size] at stays
        omega
      · obtain ⟨stays, objects, queued⟩ := removeTask_other registered named
        exact ⟨stays, by rw [objects], queued⟩
    · intro spares other address registered foreign
      have bound := registry.bounded other address registered
      obtain ⟨stays, same, count⟩ := spares other address registered foreign
      have named : other ≠ id := by
        rintro rfl
        rw [removeTask_self] at stays
        contradiction
      have apart : address ≠ (registry.removeTask id).size := by
        rw [size]
        omega
      refine ⟨?_, ?_, ?_⟩
      · rw [tasks, Function.update_of_ne named]
        exact stays
      · rw [objects, Function.update_of_ne apart]
        exact same
      · rw [queued, List.count_append, List.count_singleton, count]
        simp [Ne.symm apart]

theorem readFileBlock_spares {id : String} {seek length : Nat} {io : FileIo} :
    SparesForeign userId registry (registry.readLocalFileBlock id seek length io).2.1 ↔
      ∀ address, registry.tasks id = some address → Foreign userId (registry.objects address) →
        (registry.objects address).known = false ∨
          (registry.objects address).task.ReadSpares seek length
            ((registry.fileOf address).getD []) io := by
  simp only [TaskRegistry.readLocalFileBlock]
  cases registered : registry.tasks id with
  | none => exact iff_of_true (SparesForeign.refl registry) nofun
  | some address =>
      simp only [Option.some.injEq, forall_eq']
      cases known : (registry.objects address).known with
      | false => exact iff_of_true (SparesForeign.refl registry) (fun _ => Or.inl rfl)
      | true =>
          simp only [not_true_eq_false, if_false, Bool.true_eq_false, false_or]
          rw [operate_spares registered]
          simp only [TaskScheduler.readLocalFileBlock_spares]

theorem writeFileBlock_spares {id : String} {seek : Nat} {data : List UInt8} {io : FileIo} :
    SparesForeign userId registry (registry.writeLocalFileBlock id seek data io).2.1 ↔
      ∀ address, registry.tasks id = some address → Foreign userId (registry.objects address) →
        (registry.objects address).known = false ∨
          (registry.objects address).task.WriteSpares seek data
            ((registry.fileOf address).getD []) io := by
  simp only [TaskRegistry.writeLocalFileBlock]
  cases registered : registry.tasks id with
  | none => exact iff_of_true (SparesForeign.refl registry) nofun
  | some address =>
      simp only [Option.some.injEq, forall_eq']
      cases known : (registry.objects address).known with
      | false => exact iff_of_true (SparesForeign.refl registry) (fun _ => Or.inl rfl)
      | true =>
          simp only [not_true_eq_false, if_false, Bool.true_eq_false, false_or]
          rw [operate_spares registered]
          simp only [TaskScheduler.writeLocalFileBlock_spares]

end

def ownDownload : TaskRegistry :=
  ((TaskRegistry.empty fun _ => none).addTaskActively {
    id := "t", serverHost := "server", serverPort := 80, partnerId := 7
    fromDirectory := "/from", toDirectory := "/to", fileName := "file", fileSize := 2
    task := { starter := .self, action := .read, state := .waitingForStart } }).2

end EasyViewer
