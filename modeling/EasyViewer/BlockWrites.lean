import EasyViewer.GuardCommands
import EasyViewer.TaskObjects

/-!
Where a block goes that a task writes, and what is said of it. A file opened for appending
takes every block at its end, whatever position was set, and a block that `fwrite` refuses
is reported as a success.
-/

namespace EasyViewer

namespace OpenFile

def pad (file : List UInt8) (position : Nat) : List UInt8 :=
  file ++ List.replicate (position - file.length) 0

theorem pad_length (file : List UInt8) (position : Nat) :
    (pad file position).length = max file.length position := by
  rw [pad, List.length_append, List.length_replicate]
  omega

variable {fp : OpenFile} {file data : List UInt8}

theorem fwrite_pad (isTruncated : fp.mode = .wb) :
    fp.fwrite file data = fp.fwrite (pad file fp.position) data := by
  have filled : fp.position - (pad file fp.position).length = 0 := by
    rw [pad_length]
    omega
  have front : (pad file fp.position).take fp.position =
      file.take fp.position ++ List.replicate (fp.position - file.length) 0 := by
    rw [pad, List.take_append, List.take_replicate, Nat.min_self]
  have back : (pad file fp.position).drop (fp.position + data.length) =
      file.drop (fp.position + data.length) := by
    rw [pad, List.drop_append, List.drop_replicate]
    have none : fp.position - file.length - (fp.position + data.length - file.length) = 0 := by
      omega
    rw [none, List.replicate_zero, List.append_nil]
  simp only [fwrite, isTruncated, filled, front, back, List.replicate_zero, List.append_nil]

theorem fwriteAll_truncated {counts : List Nat} (isTruncated : fp.mode = .wb)
    (taken : FileIo.taken counts data.length = true) :
    fp.fwriteAll file data counts = (true, { fp with position := fp.position + data.length },
      overwrite (pad file fp.position) fp.position data) := by
  have inside : fp.position ≤ (pad file fp.position).length := by
    rw [pad_length]
    omega
  rw [← fwriteAll_within isTruncated inside taken]
  cases counts with
  | nil =>
      have something : data.isEmpty = false := by
        cases data with
        | nil => contradiction
        | cons _ _ => rfl
      simp only [fwriteAll, something, ← fwrite_pad isTruncated, Bool.false_eq_true, if_false]
  | cons count counts =>
      have something : min count data.length ≠ 0 := by
        intro nothing
        simp only [FileIo.taken, nothing, if_true] at taken
        contradiction
      simp only [fwriteAll, ← fwrite_pad isTruncated, something, if_false]

theorem fwriteAll_nil (counts : List Nat) : fp.fwriteAll file [] counts = (false, fp, file) := by
  cases counts with
  | nil => rfl
  | cons count counts => simp [fwriteAll]

/-- What stands in the file after a block was taken whole by a file in that mode. -/
def landed (mode : OpenMode) (file : List UInt8) (offset : Nat) (data : List UInt8) : List UInt8 :=
  match mode with
  | .rb => file
  | .ab => file ++ data
  | .wb => overwrite (pad file offset) offset data

theorem fwriteAll_landed {counts : List Nat} (writes : fp.mode ≠ .rb)
    (taken : FileIo.taken counts data.length = true) :
    (fp.fwriteAll file data counts).2.2 = landed fp.mode file fp.position data := by
  cases mode : fp.mode with
  | rb => exact absurd mode writes
  | ab => exact (fwriteAll_atEnd (.inl mode) taken).1
  | wb => rw [fwriteAll_truncated mode taken, landed]

theorem fwrite_landed (writes : fp.mode ≠ .rb) :
    (fp.fwrite file data).2 = landed fp.mode file fp.position data := by
  cases mode : fp.mode with
  | rb => exact absurd mode writes
  | ab => simp only [fwrite, mode, landed]
  | wb =>
      rw [fwrite_pad mode, landed, fwrite_within mode]
      rw [pad_length]
      omega

end OpenFile

/-- The block stands at the offset, and all else that was in the file is as it was. -/
structure Lands (before after : List UInt8) (offset : Nat) (data : List UInt8) : Prop where
  block : (after.drop offset).take data.length = data
  others : ∀ index < before.length, index < offset ∨ offset + data.length ≤ index →
    after[index]? = before[index]?

section

variable {file data : List UInt8} {offset : Nat}

theorem lands_overwrite : Lands file (OpenFile.overwrite (OpenFile.pad file offset) offset data)
    offset data := by
  have front : ((OpenFile.pad file offset).take offset).length = offset := by
    rw [List.length_take, OpenFile.pad_length]
    omega
  constructor
  · rw [OpenFile.overwrite, List.append_assoc, List.drop_append_of_le_length (by omega)]
    rw [List.drop_of_length_le (by omega), List.nil_append, List.take_left]
  · intro index inside apart
    have kept : (OpenFile.pad file offset)[index]? = file[index]? := by
      rw [OpenFile.pad, List.getElem?_append_left inside]
    rw [← kept]
    rcases apart with below | above
    · rw [OpenFile.overwrite, List.append_assoc, List.getElem?_append_left (by omega),
        List.getElem?_take_of_lt below]
    · rw [OpenFile.overwrite, List.getElem?_append_right (by rw [List.length_append]; omega),
        List.getElem?_drop, List.length_append, front]
      congr 1
      omega

theorem lands_append : Lands file (file ++ data) offset data ↔
    ((file ++ data).drop offset).take data.length = data := by
  refine ⟨fun lands => lands.block, fun block => ⟨block, fun index inside _ => ?_⟩⟩
  exact List.getElem?_append_left inside

end

/-- All bytes of the block were accepted, by `fwrite` and by the flush after it. -/
def FileIo.Accepts (io : FileIo) (data : List UInt8) : Prop :=
  data = [] ∨ io.takes data.length = true ∧ io.flushes data.length = true

namespace FileTask

variable {task : FileTask} {before : OpenFile} {offset : Nat} {data file : List UInt8}
  {io : FileIo}

theorem moveTo_stands (opened : task.Opened) (isOpen : task.fp = some before)
    (reaches : offset = task.progress ∨ io.sought = true) :
    ∃ moved fp, task.moveTo offset io = ((Err.noError, ""), moved) ∧ moved.fp = some fp ∧
      moved.progress = offset ∧ fp.mode = before.mode ∧
        (fp.mode = .wb → fp.position = offset) := by
  by_cases here : offset = task.progress
  · subst here
    exact ⟨task, before, moveTo_here, isOpen, rfl, rfl, (opened before isOpen).2⟩
  · have sought : io.sought = true := reaches.resolve_left here
    have moves := @moveTo_away task offset io here
    rw [if_pos sought, isOpen, Option.map_some] at moves
    exact ⟨_, _, moves, rfl, rfl, rfl, fun _ => rfl⟩

theorem write_succeeds (isOpen : task.fp = some before) :
    (task.write offset data file io).1.1 = Err.noError ↔
      offset = task.progress ∨ io.sought = true := by
  constructor
  · intro succeeds
    by_contra neither
    rw [not_or, Bool.not_eq_true] at neither
    exact write_stuck isOpen neither.1 neither.2 succeeds
  · intro reaches
    by_cases here : offset = task.progress
    · subst here
      exact (write_moved isOpen moveTo_here isOpen).1
    · have moves := @moveTo_away task offset io here
      rw [if_pos (reaches.resolve_left here), isOpen, Option.map_some] at moves
      exact (write_moved isOpen moves rfl).1

theorem write_landed (opened : task.Opened) (isOpen : task.fp = some before)
    (writes : task.readsLocally = false)
    (succeeds : (task.write offset data file io).1.1 = Err.noError) (accepts : io.Accepts data) :
    (task.write offset data file io).2.2 =
      if data = [] then file else OpenFile.landed before.mode file offset data := by
  obtain ⟨moved, fp, moves, isMoved, _, mode, stands⟩ :=
    moveTo_stands opened isOpen ((write_succeeds isOpen).mp succeeds)
  have notRead : fp.mode ≠ .rb := by
    rw [mode]
    intro isRead
    rw [(opened before isOpen).1.mp isRead] at writes
    contradiction
  have place : OpenFile.landed fp.mode file fp.position data =
      OpenFile.landed before.mode file offset data := by
    rw [← mode]
    cases kind : fp.mode with
    | rb => exact absurd kind notRead
    | ab => rfl
    | wb => rw [stands kind]
  have taken := fp.fwriteAll_taken file data io.fwrites
  simp only [write, isOpen, moves, isMoved, Option.isNone_some, Bool.false_eq_true, ne_eq,
    not_true_eq_false, if_false]
  rcases accepts with rfl | ⟨takes, flushes⟩
  · rw [OpenFile.fwriteAll_nil, if_pos rfl]
  · have something : data ≠ [] := by
      rintro rfl
      rw [List.length_nil, FileIo.takes_zero] at takes
      contradiction
    have content := @OpenFile.fwriteAll_landed fp file data io.fwrites notRead takes
    rw [show FileIo.taken io.fwrites data.length = true from takes] at taken
    rw [if_neg something, ← place, ← content]
    split
    · rename_i gaveUp
      rw [gaveUp] at taken
      contradiction
    · rename_i after written whole
      rw [whole]
      simp only [FileIo.flushes] at flushes
      cases kept : io.fflush with
      | none => rfl
      | some length =>
          rw [kept] at flushes
          rw [whole] at content
          simp only [List.take_of_length_le (of_decide_eq_true flushes),
            OpenFile.fwrite_landed notRead, ← content]

end FileTask

def resumedUpload (progress : Nat) : List TaskEvent := [
  .start 1 (.addTaskPassively "t" "h" 1 7 0 "d" "f" progress 4 true) {},
  .advance 1 false {}]

def threeBytes : String → Option (List UInt8) := fun _ => some [1, 2, 3]

def firstBlock (data : List UInt8) : List TaskEvent := [
  .start 2 (.call "t" (.writeLocalFileBlock false 0 data)) {}, .advance 2 false {},
  .advance 2 false {}, .advance 2 false {}]

def OpenFile.next (fp : OpenFile) (file : List UInt8) : Nat :=
  if fp.mode = .ab then file.length else fp.position

/-- The block operation gets as far as `fwrite`. -/
structure ReachesFile (registry : TaskRegistry) (id : String) (offset : Nat) (io : FileIo)
    (address : Nat) (fp : OpenFile) : Prop where
  registered : registry.tasks id = some address
  known : (registry.objects address).known = true
  transmitting : (registry.objects address).task.state = .transmitting
  writes : (registry.objects address).task.readsLocally = false
  isOpen : (registry.objects address).task.fp = some fp
  placed : offset = (registry.objects address).task.progress ∨ io.sought = true

/-- All bytes of the block were accepted, by `fwrite` and by the flush after it, and the first of
them went to the offset. -/
def BlockWritten (registry : TaskRegistry) (id : String) (offset : Nat) (data : List UInt8)
    (io : FileIo) : Prop :=
  ∃ address before moved fp, ReachesFile registry id offset io address before ∧
    (registry.objects address).task.moveTo offset io = ((Err.noError, ""), moved) ∧
      moved.fp = some fp ∧ io.Accepts data ∧
        (data = [] ∨ fp.next ((registry.fileOf address).getD []) = offset)

/-- What a guard says of a block it was sent is what happened to it. -/
structure WriteReported (registry : TaskRegistry) (host : String) (port : UInt16) (userId : UserId)
    (id : String) (offset : Nat) (data : List UInt8) (io : FileIo) : Prop where
  success : (registry.writeLocalFileBlock id offset data io).1.1 = Err.noError ↔
    BlockWritten registry id offset data io
  progress : (registry.writeLocalFileBlock id offset data io).1.1 = Err.noError →
    ∀ address, registry.tasks id = some address →
      ((registry.writeLocalFileBlock id offset data io).2.1.objects address).task.progress =
        offset + data.length
  answer : io.unpacked = true → ∃ afterSeek,
    (GuardCommand.handle host port registry io (.writeFileBlock userId id offset data)).2.2 =
      [.writeFileBlock userId id (registry.writeLocalFileBlock id offset data io).1.1
        (registry.writeLocalFileBlock id offset data io).1.2 afterSeek]

/-- Of a block that gets as far as `fwrite` all bytes are taken and flushed, and a file opened for
appending ends at the offset. -/
def WritesInPlace (registry : TaskRegistry) (id : String) (offset : Nat) (data : List UInt8)
    (io : FileIo) : Prop :=
  ∀ address fp, ReachesFile registry id offset io address fp →
    io.Accepts data ∧
      (data = [] ∨ (fp.mode = .ab → ((registry.fileOf address).getD []).length = offset))

section

variable {registry : TaskRegistry} {id : String} {offset address : Nat} {data : List UInt8}
  {io : FileIo} {before : OpenFile}

theorem ReachesFile.unique {other : Nat} {fp : OpenFile}
    (reaches : ReachesFile registry id offset io address before)
    (again : ReachesFile registry id offset io other fp) : address = other ∧ before = fp := by
  have same := reaches.registered.symm.trans again.registered
  cases same
  exact ⟨rfl, Option.some.inj (reaches.isOpen.symm.trans again.isOpen)⟩

theorem writeLocalFileBlock_code (task : FileTask) (file : List UInt8) :
    (TaskScheduler.writeLocalFileBlock task offset data file io).1.1 = Err.noError ↔
      task.state = .transmitting ∧ task.readsLocally = false ∧
        ∃ fp, task.fp = some fp ∧ (offset = task.progress ∨ io.sought = true) := by
  have refused : Err.operateFailed ≠ Err.noError := by decide
  simp only [TaskScheduler.writeLocalFileBlock]
  split
  · rename_i still
    exact iff_of_false refused fun possible => still possible.1
  · rename_i transmitting
    split
    · rename_i reads
      refine iff_of_false refused fun possible => ?_
      rw [reads] at possible
      exact absurd possible.2.1 (by decide)
    · rename_i writes
      rw [not_not] at transmitting
      rw [Bool.not_eq_true] at writes
      have code : (task.write offset data file io).1.1 = Err.noError ↔
          ∃ fp, task.fp = some fp ∧ (offset = task.progress ∨ io.sought = true) := by
        cases isOpen : task.fp with
        | none =>
            rw [FileTask.write_closed isOpen]
            have closed : Err.fileClosed ≠ Err.noError := by decide
            exact iff_of_false closed (by rintro ⟨fp, ⟨⟩, _⟩)
        | some fp =>
            rw [FileTask.write_succeeds isOpen]
            constructor
            · exact fun placed => ⟨fp, rfl, placed⟩
            · rintro ⟨_, _, placed⟩
              exact placed
      simp only [transmitting, writes, true_and, ← code]
      split
      · rename_i fails
        exact iff_of_false fails fails
      · rename_i succeeds
        exact iff_of_true (not_not.mp succeeds) (not_not.mp succeeds)

theorem reachesFile_iff : (registry.writeLocalFileBlock id offset data io).1.1 = Err.noError ↔
    ∃ address fp, ReachesFile registry id offset io address fp := by
  have refused : Err.operateFailed ≠ Err.noError := by decide
  simp only [TaskRegistry.writeLocalFileBlock]
  split
  · rename_i absent
    refine iff_of_false refused ?_
    rintro ⟨address, fp, reaches⟩
    cases absent.symm.trans reaches.registered
  · rename_i address registered
    split
    · rename_i unknown
      refine iff_of_false refused ?_
      rintro ⟨other, fp, reaches⟩
      cases registered.symm.trans reaches.registered
      exact unknown reaches.known
    · rename_i known
      rw [not_not] at known
      refine (writeLocalFileBlock_code _ _).trans ?_
      constructor
      · rintro ⟨transmitting, writes, fp, isOpen, placed⟩
        exact ⟨address, fp, registered, known, transmitting, writes, isOpen, placed⟩
      · rintro ⟨other, fp, reaches⟩
        cases registered.symm.trans reaches.registered
        exact ⟨reaches.transmitting, reaches.writes, fp, reaches.isOpen, reaches.placed⟩

theorem ReachesFile.task (reaches : ReachesFile registry id offset io address before) :
    ((registry.writeLocalFileBlock id offset data io).2.1.objects address).task =
      ((registry.objects address).task.write offset data
        ((registry.fileOf address).getD []) io).2.1 := by
  have succeeds : ((registry.objects address).task.write offset data
      ((registry.fileOf address).getD []) io).1.1 = Err.noError :=
    (FileTask.write_succeeds reaches.isOpen).mpr reaches.placed
  have writes : ¬ (registry.objects address).task.readsLocally = true := by
    rw [reaches.writes]
    decide
  have result := TaskScheduler.writeLocalFileBlock_succeeds reaches.transmitting writes succeeds
  simp only [TaskRegistry.writeLocalFileBlock, reaches.registered, reaches.known,
    not_true_eq_false, if_false, TaskRegistry.operate, TaskRegistry.putFile, TaskRegistry.put,
    Function.update_self]
  exact result

theorem ReachesFile.blockWritten (reaches : ReachesFile registry id offset io address before)
    (opened : (registry.objects address).task.Opened) :
    BlockWritten registry id offset data io ↔ io.Accepts data ∧
      (data = [] ∨ (before.mode = .ab → ((registry.fileOf address).getD []).length = offset)) := by
  obtain ⟨moved, fp, moves, isMoved, _, mode, stands⟩ :=
    FileTask.moveTo_stands opened reaches.isOpen reaches.placed
  have notRead : fp.mode ≠ .rb := by
    rw [mode]
    intro isRead
    have reads := (opened before reaches.isOpen).1.mp isRead
    rw [reaches.writes] at reads
    contradiction
  have place : fp.next ((registry.fileOf address).getD []) = offset ↔
      (before.mode = .ab → ((registry.fileOf address).getD []).length = offset) := by
    rw [OpenFile.next, ← mode]
    cases kind : fp.mode with
    | rb => exact absurd kind notRead
    | ab => simp
    | wb => simpa using stands kind
  rw [← place]
  constructor
  · rintro ⟨other, again, came, stood, reachesAgain, cameBy, isAt, outcome⟩
    obtain ⟨rfl, rfl⟩ := reaches.unique reachesAgain
    rw [moves] at cameBy
    cases cameBy
    rw [isMoved] at isAt
    cases isAt
    exact outcome
  · exact fun outcome => ⟨address, before, moved, fp, reaches, moves, isMoved, outcome⟩

theorem ReachesFile.progress (reaches : ReachesFile registry id offset io address before)
    (opened : (registry.objects address).task.Opened)
    (accepts : io.Accepts data) :
    ((registry.writeLocalFileBlock id offset data io).2.1.objects address).task.progress =
      offset + data.length := by
  obtain ⟨moved, fp, moves, isMoved, advanced, _⟩ :=
    FileTask.moveTo_stands opened reaches.isOpen reaches.placed
  rw [reaches.task, (FileTask.write_moved reaches.isOpen moves isMoved).2]
  split
  · exact congrArg (· + data.length) advanced
  · rename_i rejects
    rw [accepts.resolve_right fun both => rejects both.1]
    exact advanced

theorem writeFileBlock_answer (host : String) (port : UInt16) (userId : UserId)
    (unpacked : io.unpacked = true) :
    ∃ afterSeek,
      (GuardCommand.handle host port registry io (.writeFileBlock userId id offset data)).2.2 =
        [.writeFileBlock userId id (registry.writeLocalFileBlock id offset data io).1.1
          (registry.writeLocalFileBlock id offset data io).1.2 afterSeek] := by
  simp only [GuardCommand.handle, unpacked, not_true_eq_false, if_false]
  exact ⟨_, rfl⟩

end

end EasyViewer
