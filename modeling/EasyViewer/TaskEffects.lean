import Mathlib.Logic.Basic
import EasyViewer.TaskScheduler

/-!
What the operations of a task come to: a write at the end of the file, a read at an
offset, opening the file anew, and the next block of the viewer's task.
-/

namespace EasyViewer

def FileIo.taken : List Nat → Nat → Bool
  | [], length => length ≠ 0
  | count :: counts, length =>
      let taken := min count length
      if taken = 0 then false
      else if taken = length then true
      else FileIo.taken counts (length - taken)

def FileIo.takes (io : FileIo) (length : Nat) : Bool := FileIo.taken io.fwrites length

def FileIo.flushes (io : FileIo) (length : Nat) : Bool :=
  match io.fflush with
  | none => true
  | some kept => length ≤ kept

/-- The next byte read is the one at the offset, and the end was met only where there is none. -/
structure OpenFile.Reads (fp : OpenFile) (file : List UInt8) (offset : Nat) : Prop where
  position : fp.position = offset
  ended : fp.eof = true → file.drop offset = []

/-- The next byte written through the file goes to its end. -/
def OpenFile.AtEnd (fp : OpenFile) (file : List UInt8) : Prop :=
  fp.mode = .ab ∨ fp.mode = .wb ∧ fp.position = file.length

namespace OpenFile

variable {fp : OpenFile} {file data : List UInt8}

theorem fwrite_atEnd (atEnd : fp.AtEnd file) :
    (fp.fwrite file data).2 = file ++ data ∧ (fp.fwrite file data).1.AtEnd (file ++ data) := by
  obtain ⟨mode, position⟩ := fp
  rcases atEnd with append | ⟨truncate, here⟩
  · cases append
    exact ⟨rfl, Or.inl rfl⟩
  · cases truncate
    cases here
    refine ⟨?_, Or.inr ⟨rfl, ?_⟩⟩
    · simp [fwrite]
    · simp [fwrite]

theorem fwriteAll_taken (fp : OpenFile) (file data : List UInt8) (counts : List Nat) :
    (fp.fwriteAll file data counts).1 = FileIo.taken counts data.length := by
  induction counts generalizing fp file data with
  | nil =>
      cases data with
      | nil => rfl
      | cons _ _ => rfl
  | cons count counts ih =>
      simp only [fwriteAll, FileIo.taken]
      by_cases nothing : min count data.length = 0
      · rw [if_pos nothing, if_pos nothing]
      · rw [if_neg nothing, if_neg nothing]
        by_cases all : min count data.length = data.length
        · rw [if_pos all, if_pos all]
        · rw [if_neg all, if_neg all, ih, List.length_drop]

theorem fwriteAll_atEnd {counts : List Nat} (atEnd : fp.AtEnd file)
    (taken : FileIo.taken counts data.length = true) :
    (fp.fwriteAll file data counts).2.2 = file ++ data ∧
      (fp.fwriteAll file data counts).2.1.AtEnd (file ++ data) := by
  induction counts generalizing fp file data with
  | nil =>
      have nonempty : data.isEmpty = false := by
        cases data with
        | nil => contradiction
        | cons _ _ => rfl
      simp only [fwriteAll, nonempty, Bool.false_eq_true, if_false]
      exact fwrite_atEnd atEnd
  | cons count counts ih =>
      simp only [FileIo.taken] at taken
      by_cases nothing : min count data.length = 0
      · rw [if_pos nothing] at taken
        contradiction
      · rw [if_neg nothing] at taken
        obtain ⟨written, atEndAfter⟩ :=
          @fwrite_atEnd fp file (data.take (min count data.length)) atEnd
        simp only [fwriteAll, if_neg nothing]
        by_cases all : min count data.length = data.length
        · rw [if_pos all]
          rw [all, List.take_length] at written atEndAfter ⊢
          exact ⟨written, atEndAfter⟩
        · rw [if_neg all] at taken ⊢
          rw [← List.length_drop] at taken
          have rest := ih atEndAfter taken
          rw [List.append_assoc, List.take_append_drop] at rest
          rw [written]
          exact rest

/-- The file with `data` in place of what was there from `position` on. -/
def overwrite (file : List UInt8) (position : Nat) (data : List UInt8) : List UInt8 :=
  file.take position ++ data ++ file.drop (position + data.length)

theorem overwrite_overwrite {position : Nat} (inside : position ≤ file.length)
    (data more : List UInt8) :
    overwrite (overwrite file position data) (position + data.length) more =
      overwrite file position (data ++ more) := by
  have front : (file.take position ++ data).length = position + data.length := by
    simp only [List.length_append, List.length_take]
    omega
  have kept : (file.take position ++ data ++ file.drop (position + data.length)).take
      (position + data.length) = file.take position ++ data := by
    rw [← front]
    exact List.take_left
  have beyond : (file.take position ++ data ++ file.drop (position + data.length)).drop
      (position + data.length + more.length) =
      file.drop (position + data.length + more.length) := by
    rw [← front, ← List.drop_drop, List.drop_left, List.drop_drop, front]
  simp only [overwrite]
  rw [kept, beyond]
  simp only [List.length_append, List.append_assoc, Nat.add_assoc]

theorem overwrite_prefix {source : List UInt8} {position : Nat} (part : file <+: source)
    (inside : position ≤ file.length) (piece : data = (source.drop position).take data.length) :
    overwrite file position data <+: source := by
  obtain ⟨rest, rfl⟩ := part
  have front : file.take position ++ data = (file ++ rest).take (position + data.length) := by
    rw [List.take_add, ← piece, List.take_append_of_le_length inside]
  have back : file.drop (position + data.length) =
      ((file ++ rest).drop (position + data.length)).take
        (file.length - (position + data.length)) := by
    rw [← List.drop_take, List.take_left]
  rw [overwrite, front, back, ← List.take_add]
  exact List.take_prefix _ _

theorem overwrite_length (position : Nat) (file data : List UInt8) :
    file.length ≤ (overwrite file position data).length ∧
      min position file.length + data.length ≤ (overwrite file position data).length := by
  simp only [overwrite, List.length_append, List.length_take, List.length_drop]
  omega

theorem fwrite_within (isTruncated : fp.mode = .wb) (inside : fp.position ≤ file.length) :
    fp.fwrite file data = ({ fp with position := fp.position + data.length },
      overwrite file fp.position data) := by
  have gap : fp.position - file.length = 0 := by omega
  simp only [fwrite, isTruncated, gap, List.replicate_zero, List.append_nil, overwrite]

theorem fwriteAll_within {counts : List Nat} (isTruncated : fp.mode = .wb)
    (inside : fp.position ≤ file.length) (taken : FileIo.taken counts data.length = true) :
    fp.fwriteAll file data counts = (true, { fp with position := fp.position + data.length },
      overwrite file fp.position data) := by
  induction counts generalizing fp file data with
  | nil =>
      have nonempty : data.isEmpty = false := by
        cases data with
        | nil => contradiction
        | cons _ _ => rfl
      simp only [fwriteAll, nonempty, Bool.false_eq_true, if_false, fwrite_within isTruncated inside]
  | cons count counts ih =>
      simp only [FileIo.taken] at taken
      by_cases nothing : min count data.length = 0
      · rw [if_pos nothing] at taken
        contradiction
      · rw [if_neg nothing] at taken
        simp only [fwriteAll, if_neg nothing, fwrite_within isTruncated inside]
        by_cases all : min count data.length = data.length
        · rw [if_pos all, all, List.take_length]
        · rw [if_neg all] at taken ⊢
          rw [← List.length_drop] at taken
          have piece : (data.take (min count data.length)).length = min count data.length := by
            rw [List.length_take]
            omega
          have longer : fp.position + min count data.length ≤
              (overwrite file fp.position (data.take (min count data.length))).length := by
            simp only [overwrite, List.length_append, List.length_take]
            omega
          have rest := @ih { fp with position := fp.position + min count data.length } _ _
            isTruncated longer taken
          have joined := overwrite_overwrite inside (data.take (min count data.length))
            (data.drop (min count data.length))
          rw [piece, List.take_append_drop] at joined
          rw [piece, rest, joined, List.length_drop]
          have total : fp.position + min count data.length +
              (data.length - min count data.length) = fp.position + data.length := by omega
          simp only [total]

end OpenFile

namespace FileTask

variable {task : FileTask} {offset : Nat} {data file : List UInt8} {io : FileIo}

theorem write_atEnd {fp : OpenFile} (isOpen : task.fp = some fp) (here : task.progress = offset)
    (atEnd : fp.AtEnd file) (takes : io.takes data.length = true)
    (flushes : io.flushes data.length = true) :
    ∃ after, task.write offset data file io =
        ((Err.noError, ""),
          { task with fp := some after, progress := offset + data.length }, file ++ data) ∧
      after.AtEnd (file ++ data) := by
  obtain ⟨written, ended⟩ := OpenFile.fwriteAll_atEnd atEnd takes
  have whole := fp.fwriteAll_taken file data io.fwrites
  rw [show FileIo.taken io.fwrites data.length = true from takes] at whole
  generalize result : fp.fwriteAll file data io.fwrites = outcome at written ended whole
  obtain ⟨_, after, content⟩ := outcome
  subst whole written
  refine ⟨after, ?_, ended⟩
  simp only [write, moveTo, isOpen, here, result, Option.isNone_some, Bool.false_eq_true, if_false,
    if_true, ne_eq, not_true_eq_false]
  simp only [FileIo.flushes] at flushes
  cases kept : io.fflush with
  | none => rfl
  | some length =>
      rw [kept] at flushes
      simp only [List.take_of_length_le (of_decide_eq_true flushes),
        (OpenFile.fwrite_atEnd atEnd).1]

theorem write_closed (closed : task.fp = none) :
    task.write offset data file io = ((Err.fileClosed, formatError Err.fileClosed), task, file) := by
  simp only [write, closed, Option.isNone_none, if_true]

/-- A block that is not taken closes the file. -/
theorem write_gives_up (rejects : io.takes data.length = false)
    (succeeds : (task.write offset data file io).1.1 = Err.noError) :
    (task.write offset data file io).2.1.fp = none := by
  simp only [write] at succeeds ⊢
  split at succeeds
  · cases succeeds
  · rename_i isOpen
    rw [if_neg isOpen]
    split at succeeds
    · rename_i failed
      exact absurd succeeds failed
    · rename_i reached
      rw [if_neg reached]
      split at succeeds
      · cases succeeds
      · rename_i fp _
        have none := fp.fwriteAll_taken file data io.fwrites
        rw [show FileIo.taken io.fwrites data.length = false from rejects] at none
        split
        · rfl
        · rename_i taken
          rw [taken] at none
          contradiction

theorem moveTo_cases {fp : OpenFile} (isOpen : task.fp = some fp)
    (here : fp.position = task.progress) :
    (∃ reason, task.moveTo offset io = ((Err.operateFailed, reason), task)) ∨
      ∃ eof, task.moveTo offset io = ((Err.noError, ""), { task with
          fp := some { fp with position := offset, eof := eof }
          progress := offset }) ∧
        (eof = true → fp.eof = true ∧ offset = task.progress) := by
  simp only [moveTo]
  by_cases stays : offset = task.progress
  · right
    refine ⟨fp.eof, ?_, fun ended => ⟨ended, stays⟩⟩
    rw [if_pos stays, stays, ← here, ← isOpen]
    cases task
    cases isOpen
    cases here
    rfl
  · rw [if_neg stays]
    unfold seek
    cases io.sought with
    | true =>
        right
        refine ⟨false, ?_, nofun⟩
        rw [isOpen]
        rfl
    | false => exact Or.inl ⟨_, rfl⟩

theorem moveTo_keeps (task : FileTask) (offset : Nat) (io : FileIo) :
    (task.moveTo offset io).2.state = task.state ∧
      (task.moveTo offset io).2.starter = task.starter := by
  unfold moveTo seek
  by_cases here : offset = task.progress
  · rw [if_pos here]
    exact ⟨rfl, rfl⟩
  · rw [if_neg here]
    cases io.sought with
    | true => exact ⟨rfl, rfl⟩
    | false => exact ⟨rfl, rfl⟩

theorem write_keeps (task : FileTask) (offset : Nat) (data file : List UInt8) (io : FileIo) :
    (task.write offset data file io).2.1.state = task.state ∧
      (task.write offset data file io).2.1.starter = task.starter := by
  have moved := moveTo_keeps task offset io
  simp only [write]
  split
  · exact ⟨rfl, rfl⟩
  · split
    · exact moved
    · split
      · exact moved
      · split
        · exact moved
        · exact moved

theorem read_keeps (task : FileTask) (offset length : Nat) (file : List UInt8) (io : FileIo) :
    (task.read offset length file io).2.2.state = task.state ∧
      (task.read offset length file io).2.2.starter = task.starter := by
  have moved := moveTo_keeps task offset io
  simp only [read]
  split
  · exact ⟨rfl, rfl⟩
  · split
    · exact moved
    · split
      · exact moved
      · split
        · exact moved
        · exact moved

theorem write_within {fp : OpenFile} (isOpen : task.fp = some fp) (isTruncated : fp.mode = .wb)
    (here : fp.position = task.progress) (inside : offset ≤ file.length)
    (takes : io.takes data.length = true) (flushes : io.flushes data.length = true) :
    (∃ reason, task.write offset data file io = ((Err.operateFailed, reason), task, file)) ∨
      ∃ eof, task.write offset data file io = ((Err.noError, ""), { task with
        fp := some { fp with position := offset + data.length, eof := eof }
        progress := offset + data.length }, OpenFile.overwrite file offset data) := by
  rcases @moveTo_cases task offset io fp isOpen here with ⟨reason, failed⟩ | ⟨eof, moved, _⟩
  · left
    refine ⟨reason, ?_⟩
    simp [write, isOpen, failed, Err.operateFailed, Err.noError]
  · right
    refine ⟨eof, ?_⟩
    have written := @OpenFile.fwriteAll_within { fp with position := offset, eof := eof } file data
      io.fwrites isTruncated inside takes
    have kept : ∀ length, io.fflush = some length → data.take length = data := by
      intro length isLength
      simp only [FileIo.flushes, isLength, decide_eq_true_eq] at flushes
      exact List.take_of_length_le flushes
    simp only [write, isOpen, moved, written, Option.isNone_some, Bool.false_eq_true, if_false,
      ne_eq, not_true_eq_false]
    cases flushed : io.fflush with
    | none => rfl
    | some length =>
        have whole := @OpenFile.fwrite_within { fp with position := offset, eof := eof } file data
          isTruncated inside
        simp only [kept length flushed, whole]

/-- What a read can come to: an error, with the end of the file where there is no more, or a
block of the file. -/
theorem read_cases {length : Nat}
    (reads : ∀ fp, task.fp = some fp → fp.Reads file task.progress) :
    (∃ err reason fp progress, task.read offset length file io =
        ((err, reason), [], { task with fp := fp, progress := progress }) ∧
        err ≠ Err.noError ∧ (err = Err.endOfFile → file.drop offset = [])) ∨
      ∃ data fp, task.read offset length file io =
          ((Err.noError, ""), data, { task with
            fp := some fp, progress := offset + data.length }) ∧
        fp.Reads file (offset + data.length) ∧ data ≠ [] ∧
        data = (file.drop offset).take data.length := by
  have refused : Err.operateFailed = Err.endOfFile → file.drop offset = [] :=
    fun impossible => absurd impossible (by decide)
  simp only [read]
  cases isOpen : task.fp with
  | none =>
      left
      refine ⟨Err.fileClosed, formatError Err.fileClosed, none, task.progress, ?_, by decide, ?_⟩
      · cases task
        cases isOpen
        rfl
      · intro impossible
        exact absurd impossible (by decide)
  | some fp =>
      have before := reads fp isOpen
      rcases @moveTo_cases task offset io fp isOpen before.position with
        ⟨reason, failed⟩ | ⟨eof, moved, kept⟩
      · left
        rw [failed]
        exact ⟨Err.operateFailed, reason, task.fp, task.progress, rfl, by decide, refused⟩
      · rw [moved]
        simp only [Option.isNone_some, Bool.false_eq_true, if_false, ne_eq, not_true_eq_false]
        have follows : OpenFile.fread { fp with position := offset, eof := eof } file
            (io.wanted length) = (file.drop offset).take (io.wanted length) := by
          cases already : eof with
          | false => rfl
          | true =>
              obtain ⟨was, stays⟩ := kept already
              rw [stays, before.ended was, List.take_nil]
              rfl
        rw [follows]
        generalize block : (file.drop offset).take (io.wanted length) = data
        have size : data.length = min (io.wanted length) (file.length - offset) := by
          rw [← block, List.length_take, List.length_drop]
        -- whether it is set already or by this read, nothing follows the block
        have ended : (eof || decide (data.length < io.wanted length)) = true →
            file.drop (offset + data.length) = [] := by
          intro isEnd
          rcases Bool.or_eq_true_iff.mp isEnd with already | short
          · obtain ⟨was, stays⟩ := kept already
            have nothing := before.ended was
            rw [← stays] at nothing
            rw [← List.drop_drop, nothing, List.drop_nil]
          · have short := of_decide_eq_true short
            exact List.drop_eq_nil_iff.mpr (by omega)
        cases data with
        | nil =>
            left
            simp only [List.isEmpty_nil, if_true, List.length_nil, Nat.add_zero] at ended ⊢
            by_cases atEnd : (eof || decide (0 < io.wanted length)) = true
            · rw [if_pos atEnd]
              exact ⟨_, _, _, offset, rfl, by decide, fun _ => ended atEnd⟩
            · rw [if_neg atEnd]
              exact ⟨_, _, _, offset, rfl, by decide, refused⟩
        | cons first rest =>
            right
            refine ⟨first :: rest, _, rfl, ⟨rfl, ended⟩, List.cons_ne_nil first rest, ?_⟩
            rw [← block, List.length_take, List.take_eq_take_min]

theorem initIo_reads {source : List UInt8} {force : Bool} (reads : task.readsLocally = true)
    (stands : ∀ fp, task.fp = some fp → fp.Reads source task.progress) :
    ∃ err reason fp, task.initIo (some source) force io =
        ((err, reason), { task with fp := fp }, some source) ∧
      (err = Err.noError → ∀ opened, fp = some opened → opened.Reads source task.progress) := by
  by_cases isOpen : task.fp.isSome = true
  · refine ⟨Err.noError, "", task.fp, ?_, fun _ => stands⟩
    simp only [initIo, if_pos isOpen]
  · simp only [initIo, if_neg isOpen, reads, not_true_eq_false, false_and, if_false, if_true,
      Option.isNone_some, Bool.false_eq_true, and_false, or_false]
    by_cases failed : ¬ io.opened = true
    · rw [if_pos failed]
      refine ⟨Err.operateFailed, "open file failed", task.fp, rfl, ?_⟩
      intro impossible
      exact absurd impossible (by decide)
    · rw [if_neg failed]
      by_cases atStart : task.progress = 0
      · rw [if_neg (by simp [atStart])]
        refine ⟨Err.noError, "", some { mode := .rb }, rfl, ?_⟩
        rintro _ opened ⟨⟩
        exact ⟨atStart.symm, nofun⟩
      · rw [if_pos atStart]
        simp only [seek]
        cases io.sought with
        | true =>
            refine ⟨Err.noError, "", some { mode := .rb, position := task.progress }, rfl, ?_⟩
            rintro _ opened ⟨⟩
            exact ⟨rfl, nofun⟩
        | false =>
            refine ⟨_, _, some { mode := .rb }, rfl, ?_⟩
            intro impossible
            exact absurd impossible (by decide)

theorem initIo_writes {file : Option (List UInt8)} {force : Bool}
    (writes : task.readsLocally = false) (closed : task.fp = none)
    (opens : (task.initIo file force io).1.1 = Err.noError) :
    ∃ fp, (task.initIo file force io).2.1 = { task with fp := some fp } ∧
      (task.progress = 0 ∧ (task.initIo file force io).2.2 = some [] ∧ fp.AtEnd [] ∨
        task.progress ≠ 0 ∧ (task.initIo file force io).2.2 = some (file.getD []) ∧
          fp.mode = .ab ∧ io.opened = true ∧ io.sought = true ∧ (force = true ∨ file = none)) := by
  simp only [initIo, closed, Option.isSome_none, Bool.false_eq_true, if_false, writes,
    not_false_eq_true, true_and] at opens ⊢
  by_cases present : ¬ force = true ∧ file.isSome = true
  · rw [if_pos present] at opens
    cases opens
  · rw [if_neg present] at opens ⊢
    by_cases opening : io.opened = true
    · by_cases atStart : task.progress = 0
      · simp only [opening, atStart, ne_eq, not_true_eq_false, if_false, false_or, reduceCtorEq,
          false_and]
        exact ⟨_, rfl, Or.inl ⟨trivial, trivial, Or.inr ⟨rfl, rfl⟩⟩⟩
      · simp only [opening, atStart, ne_eq, not_true_eq_false, not_false_eq_true, if_true,
          false_or, reduceCtorEq, false_and, if_false, seek] at opens ⊢
        cases sought : io.sought with
        | false =>
            rw [sought] at opens
            cases opens
        | true =>
            refine ⟨_, rfl, trivial, trivial, rfl, trivial, rfl, ?_⟩
            cases file with
            | none => exact Or.inr rfl
            | some _ => exact Or.inl (not_not.mp fun unforced => present ⟨unforced, rfl⟩)
    · rw [if_pos (Or.inl opening)] at opens
      cases opens

theorem initIo_truncates {file : Option (List UInt8)} {force : Bool}
    (writes : task.readsLocally = false) (closed : task.fp = none) (atStart : task.progress = 0)
    (opens : (task.initIo file force io).1.1 = Err.noError) :
    task.initIo file force io =
      ((Err.noError, ""), { task with fp := some { mode := .wb } }, some []) := by
  simp only [initIo, closed, Option.isSome_none, Bool.false_eq_true, if_false, writes,
    not_false_eq_true, true_and, atStart, ne_eq, not_true_eq_false] at opens ⊢
  split at opens
  · cases opens
  · rename_i absent
    rw [if_neg absent]
    split at opens
    · cases opens
    · rename_i opened
      rw [if_neg opened]

theorem initIo_refused {file : Option (List UInt8)} {force : Bool} (closed : task.fp = none)
    (atStart : task.progress = 0) (fails : (task.initIo file force io).1.1 ≠ Err.noError) :
    (task.initIo file force io).2 = (task, file) := by
  simp only [initIo, closed, Option.isSome_none, Bool.false_eq_true, if_false, atStart, ne_eq,
    not_true_eq_false] at fails ⊢
  generalize (if task.readsLocally = true then OpenMode.rb else OpenMode.wb) = mode at fails ⊢
  by_cases present : ¬ task.readsLocally = true ∧ ¬ force = true ∧ file.isSome = true
  · rw [if_pos present]
  · rw [if_neg present] at fails ⊢
    by_cases failed : ¬ io.opened = true ∨ mode = .rb ∧ file.isNone = true
    · rw [if_pos failed]
    · rw [if_neg failed] at fails
      exact absurd rfl fails

theorem initIo_open {file : Option (List UInt8)} {force : Bool} {fp : OpenFile}
    (isOpen : task.fp = some fp) :
    task.initIo file force io = ((Err.noError, ""), task, file) := by
  simp only [initIo, isOpen, Option.isSome_some, if_true]

theorem seek_keeps (task : FileTask) (position : Nat) (io : FileIo) :
    ∃ fp, (task.seek position io).2 = { task with fp := fp } := by
  simp only [seek]
  cases io.sought with
  | true => exact ⟨_, rfl⟩
  | false => exact ⟨task.fp, rfl⟩

theorem initIo_keeps (task : FileTask) (file : Option (List UInt8)) (force : Bool) (io : FileIo) :
    ∃ fp, (task.initIo file force io).2.1 = { task with fp := fp } := by
  by_cases isOpen : task.fp.isSome = true
  · refine ⟨task.fp, ?_⟩
    simp only [initIo, if_pos isOpen]
  · simp only [initIo, if_neg isOpen]
    generalize (if task.readsLocally = true then OpenMode.rb
      else if task.progress ≠ 0 then OpenMode.ab else OpenMode.wb) = mode
    by_cases present : ¬ task.readsLocally = true ∧ ¬ force = true ∧ file.isSome = true
    · exact ⟨task.fp, by rw [if_pos present]⟩
    · rw [if_neg present]
      by_cases failed : ¬ io.opened = true ∨ mode = .rb ∧ file.isNone = true
      · exact ⟨task.fp, by rw [if_pos failed]⟩
      · rw [if_neg failed]
        by_cases atStart : task.progress ≠ 0
        · rw [if_pos atStart]
          exact seek_keeps { task with fp := some { mode := mode } } task.progress io
        · rw [if_neg atStart]
          exact ⟨_, rfl⟩

end FileTask

namespace TaskScheduler

variable {task : FileTask} {io : FileIo}

theorem readLocalFileBlock_cases (task : FileTask) (io : FileIo) (offset length : Nat)
    (file : List UInt8) :
    (¬ (task.state = .transmitting ∧ task.readsLocally = true) ∧
      (readLocalFileBlock task offset length file io).1.1 ≠ Err.noError ∧
      (readLocalFileBlock task offset length file io).2.2.1 = task ∧
      (readLocalFileBlock task offset length file io).2.2.2 = []) ∨
    ((task.state = .transmitting ∧ task.readsLocally = true) ∧
      (task.read offset length file io).1.1 ≠ Err.noError ∧
      (readLocalFileBlock task offset length file io).1.1 ≠ Err.noError ∧
      (readLocalFileBlock task offset length file io).2.2.1.starter = task.starter ∧
      (readLocalFileBlock task offset length file io).2.2.2 =
        if task.starter = .self then [.closeFile] else []) ∨
    ((task.state = .transmitting ∧ task.readsLocally = true) ∧
      (task.read offset length file io).1.1 = Err.noError ∧
      (readLocalFileBlock task offset length file io).1.1 = Err.noError ∧
      (readLocalFileBlock task offset length file io).2.2.1 =
        (task.read offset length file io).2.2 ∧
      (readLocalFileBlock task offset length file io).2.2.2 = []) := by
  have failed : Err.operateFailed ≠ Err.noError := by decide
  obtain ⟨_, kept⟩ := FileTask.read_keeps task offset length file io
  simp only [readLocalFileBlock]
  by_cases transmitting : task.state = .transmitting
  · rw [if_neg (not_not_intro transmitting)]
    by_cases reads : task.readsLocally = true
    · rw [if_neg (not_not_intro reads)]
      right
      by_cases fails : (task.read offset length file io).1.1 ≠ Err.noError
      · left
        rw [if_pos fails]
        refine ⟨⟨transmitting, reads⟩, fails, fails, ?_, rfl⟩
        by_cases self : task.starter = .self
        · rw [if_pos self]
          split
          · exact kept
          · exact kept
        · rw [if_neg self]
          exact kept
      · right
        rw [if_neg fails]
        exact ⟨⟨transmitting, reads⟩, not_not.mp fails, not_not.mp fails, rfl, rfl⟩
    · left
      rw [if_pos reads]
      exact ⟨fun both => reads both.2, failed, rfl, rfl⟩
  · left
    rw [if_pos transmitting]
    exact ⟨fun both => transmitting both.1, failed, rfl, rfl⟩

theorem writeLocalFileBlock_cases (task : FileTask) (io : FileIo) (offset : Nat)
    (data file : List UInt8) :
    (¬ (task.state = .transmitting ∧ ¬ task.readsLocally = true) ∧
      (writeLocalFileBlock task offset data file io).1.1 ≠ Err.noError ∧
      (writeLocalFileBlock task offset data file io).2.1 = task ∧
      (writeLocalFileBlock task offset data file io).2.2.2 = []) ∨
    ((task.state = .transmitting ∧ ¬ task.readsLocally = true) ∧
      (task.write offset data file io).1.1 ≠ Err.noError ∧
      (writeLocalFileBlock task offset data file io).1.1 ≠ Err.noError ∧
      (writeLocalFileBlock task offset data file io).2.1.starter = task.starter ∧
      (writeLocalFileBlock task offset data file io).2.2.2 =
        if task.starter = .self then [.closeFile] else []) ∨
    ((task.state = .transmitting ∧ ¬ task.readsLocally = true) ∧
      (task.write offset data file io).1.1 = Err.noError ∧
      (writeLocalFileBlock task offset data file io).1.1 = Err.noError ∧
      (writeLocalFileBlock task offset data file io).2.1 =
        (task.write offset data file io).2.1 ∧
      (writeLocalFileBlock task offset data file io).2.2.1 =
        (task.write offset data file io).2.2 ∧
      (writeLocalFileBlock task offset data file io).2.2.2 = []) := by
  have failed : Err.operateFailed ≠ Err.noError := by decide
  obtain ⟨_, kept⟩ := FileTask.write_keeps task offset data file io
  simp only [writeLocalFileBlock]
  by_cases transmitting : task.state = .transmitting
  · rw [if_neg (not_not_intro transmitting)]
    by_cases reads : task.readsLocally = true
    · left
      rw [if_pos reads]
      exact ⟨fun both => both.2 reads, failed, rfl, rfl⟩
    · rw [if_neg reads]
      right
      by_cases fails : (task.write offset data file io).1.1 ≠ Err.noError
      · left
        rw [if_pos fails]
        exact ⟨⟨transmitting, reads⟩, fails, fails, kept, rfl⟩
      · right
        rw [if_neg fails]
        exact ⟨⟨transmitting, reads⟩, not_not.mp fails, not_not.mp fails, rfl, rfl, rfl⟩
  · left
    rw [if_pos transmitting]
    exact ⟨fun both => transmitting both.1, failed, rfl, rfl⟩

theorem successWriteRemoteFileBlock_cases {offset : Nat} {source : List UInt8}
    (self : task.starter = .self) (uploads : task.action = .write)
    (transmitting : task.state = .transmitting)
    (stands : ∀ fp, task.fp = some fp → fp.Reads source task.progress) :
    (∃ after, successWriteRemoteFileBlock task offset source io = (after, [.closeFile]) ∧
      after.starter = .self ∧ after.action = .write ∧ after.fp = none ∧
      (after.state = .failed ∨ after.state = .finished ∧ source.drop offset = [])) ∨
    ∃ data fp, successWriteRemoteFileBlock task offset source io =
        ({ task with fp := some fp, progress := offset + data.length },
          [.writeFileBlock offset data]) ∧
      fp.Reads source (offset + data.length) ∧ data ≠ [] ∧
      data = (source.drop offset).take data.length := by
  have reads : task.readsLocally = true := by
    simp [FileTask.readsLocally, self, uploads]
  simp only [successWriteRemoteFileBlock, readLocalFileBlock]
  rw [if_neg (not_not_intro transmitting), if_neg (not_not_intro reads)]
  rcases @FileTask.read_cases task offset source io blockSize stands with
    ⟨err, reason, fp, progress, failed, isError, ended⟩ |
    ⟨data, fp, block, ready, nonempty, follows⟩
  · left
    simp only [failed, ne_eq, isError, not_false_eq_true, if_true, if_pos self]
    by_cases atEnd : err = Err.endOfFile
    · simp only [if_pos atEnd]
      exact ⟨_, rfl, self, uploads, rfl, Or.inr ⟨rfl, ended atEnd⟩⟩
    · simp only [if_neg atEnd]
      exact ⟨_, rfl, self, uploads, rfl, Or.inl rfl⟩
  · right
    simp only [block, ne_eq, not_true_eq_false, if_false, List.nil_append]
    exact ⟨data, fp, rfl, ready, nonempty, follows⟩

theorem successWriteRemoteFileBlock_ignored {offset : Nat} {source : List UInt8}
    (otherwise : task.state ≠ .transmitting) :
    successWriteRemoteFileBlock task offset source io = (task, []) := by
  simp only [successWriteRemoteFileBlock, readLocalFileBlock]
  rw [if_pos otherwise]
  rfl

theorem successReadRemoteFileBlock_cases {fp : OpenFile} {offset : Nat} {data file : List UInt8}
    (self : task.starter = .self) (downloads : task.action = .read)
    (transmitting : task.state = .transmitting) (isOpen : task.fp = some fp)
    (isTruncated : fp.mode = .wb) (here : fp.position = task.progress)
    (inside : offset ≤ file.length) (takes : io.takes data.length = true)
    (flushes : io.flushes data.length = true) :
    (∃ reason, successReadRemoteFileBlock task offset data file io =
      ({ task with state := .failed, error := Err.operateFailed, reason := reason }.closeIo,
        file, [.closeFile])) ∨
      ∃ eof, successReadRemoteFileBlock task offset data file io = ({ task with
          fp := some { fp with position := offset + data.length, eof := eof }
          progress := offset + data.length },
        OpenFile.overwrite file offset data,
        [.readFileBlock (offset + data.length) data.length]) := by
  have writes : ¬ task.readsLocally = true := by
    simp [FileTask.readsLocally, self, downloads]
  simp only [successReadRemoteFileBlock, writeLocalFileBlock]
  rw [if_neg (not_not_intro transmitting), if_neg writes]
  rcases FileTask.write_within isOpen isTruncated here inside takes flushes with
    ⟨reason, failed⟩ | ⟨eof, written⟩
  · left
    refine ⟨reason, ?_⟩
    simp [failed, self, Err.operateFailed, Err.noError]
  · right
    refine ⟨eof, ?_⟩
    simp [written]

theorem successReadRemoteFileBlock_ignored {offset : Nat} {data file : List UInt8}
    (otherwise : task.state ≠ .transmitting) :
    successReadRemoteFileBlock task offset data file io = (task, file, []) := by
  simp only [successReadRemoteFileBlock, writeLocalFileBlock]
  rw [if_pos otherwise]
  simp [Err.operateFailed, Err.noError]

theorem remoteSuccessOpenFile_uploads {source : List UInt8} (self : task.starter = .self)
    (uploads : task.action = .write) (preparing : task.state = .preparing) :
    remoteSuccessOpenFile task source io =
      successWriteRemoteFileBlock { task with state := .transmitting } task.progress source io := by
  simp only [remoteSuccessOpenFile]
  rw [if_neg (not_not_intro preparing)]
  simp only [self, uploads]

theorem writeLocalFileBlock_writes {offset : Nat} {data file : List UInt8}
    (succeeds : (writeLocalFileBlock task offset data file io).1.1 = Err.noError) :
    task.state = .transmitting ∧ (task.write offset data file io).1.1 = Err.noError ∧
      (writeLocalFileBlock task offset data file io).2.1 = (task.write offset data file io).2.1 ∧
      (writeLocalFileBlock task offset data file io).2.2.1 =
        (task.write offset data file io).2.2 := by
  rcases writeLocalFileBlock_cases task io offset data file with
    ⟨_, fails, _⟩ | ⟨_, _, fails, _⟩ | ⟨allowed, taken, _, after, written, _⟩
  · exact absurd succeeds fails
  · exact absurd succeeds fails
  · exact ⟨allowed.1, taken, after, written⟩

theorem writeLocalFileBlock_state (task : FileTask) (offset : Nat) (data file : List UInt8)
    (io : FileIo) :
    (writeLocalFileBlock task offset data file io).2.1.state = task.state ∨
      (writeLocalFileBlock task offset data file io).2.1.state = .failed := by
  simp only [writeLocalFileBlock]
  split
  · exact Or.inl rfl
  · split
    · exact Or.inl rfl
    · split
      · exact Or.inr rfl
      · exact Or.inl (FileTask.write_keeps task offset data file io).1

theorem addTaskPassively_opens {seek : Nat} {force : Bool} {file : Option (List UInt8)}
    (adds : (addTaskPassively .write seek force file io).1.1 = Err.noError) :
    ∃ task fp, (addTaskPassively .write seek force file io).2.1 = some task ∧
      task.progress = seek ∧ task.fp = some fp ∧
      (seek = 0 ∧ (addTaskPassively .write seek force file io).2.2 = some [] ∧ fp.AtEnd [] ∨
        seek ≠ 0 ∧ (addTaskPassively .write seek force file io).2.2 = some (file.getD []) ∧
          fp.mode = .ab ∧ io.opened = true ∧ io.sought = true ∧ (force = true ∨ file = none)) := by
  simp only [addTaskPassively] at adds ⊢
  split at adds
  · rename_i fails
    exact absurd adds fails
  · rename_i succeeds
    rw [if_neg succeeds]
    obtain ⟨fp, opened, written⟩ := FileTask.initIo_writes rfl rfl (not_not.mp succeeds)
    refine ⟨_, fp, rfl, ?_, ?_, written⟩
    · rw [opened]
    · rw [opened]

theorem addTaskPassively_reads {seek : Nat} {force : Bool} {source : List UInt8}
    {task : FileTask}
    (adds : (addTaskPassively .read seek force (some source) io).2.1 = some task) :
    task.starter = .partner ∧ task.action = .read ∧ task.state = .transmitting ∧
      ∀ fp, task.fp = some fp → fp.Reads source task.progress := by
  let fresh : FileTask := {
    starter := .partner
    action := .read
    state := .transmitting
    progress := seek
    overrideFile := force }
  obtain ⟨err, reason, fp, opened, stands⟩ :=
    @FileTask.initIo_reads fresh io source force rfl nofun
  simp only [addTaskPassively] at adds
  rw [opened] at adds
  split at adds
  · contradiction
  · rename_i succeeds
    cases adds
    exact ⟨rfl, rfl, rfl, stands (not_not.mp succeeds)⟩

theorem readLocalFileBlock_partner {offset length : Nat} {source : List UInt8}
    (partner : task.starter = .partner)
    (stands : ∀ fp, task.fp = some fp → fp.Reads source task.progress) :
    (∃ err reason after, readLocalFileBlock task offset length source io =
        ((err, reason), [], after, []) ∧ err ≠ Err.noError ∧
        (err = Err.endOfFile → source.drop offset = []) ∧
        (after = task ∨ ∃ progress, after = { task with fp := none, progress := progress })) ∨
      ∃ data fp, readLocalFileBlock task offset length source io =
          ((Err.noError, ""), data,
            { task with fp := some fp, progress := offset + data.length }, []) ∧
        fp.Reads source (offset + data.length) ∧ data = (source.drop offset).take data.length := by
  have other : ¬ task.starter = .self := by rw [partner]; nofun
  have refused : Err.operateFailed = Err.endOfFile → source.drop offset = [] :=
    fun impossible => absurd impossible (by decide)
  simp only [readLocalFileBlock]
  by_cases transmitting : task.state = .transmitting
  · rw [if_neg (not_not_intro transmitting)]
    by_cases reads : task.readsLocally = true
    · rw [if_neg (not_not_intro reads)]
      rcases @FileTask.read_cases task offset source io length stands with
        ⟨err, reason, fp, progress, failed, isError, ended⟩ |
        ⟨data, fp, block, ready, _, follows⟩
      · left
        refine ⟨err, reason, { task with fp := none, progress := progress }, ?_, isError, ended,
          Or.inr ⟨progress, rfl⟩⟩
        simp only [failed, ne_eq, isError, not_false_eq_true, if_true, if_neg other]
        rfl
      · right
        refine ⟨data, fp, ?_, ready, follows⟩
        simp only [block, ne_eq, not_true_eq_false, if_false]
    · rw [if_pos reads]
      exact Or.inl ⟨_, _, _, rfl, by decide, refused, Or.inl rfl⟩
  · rw [if_pos transmitting]
    exact Or.inl ⟨_, _, _, rfl, by decide, refused, Or.inl rfl⟩

theorem addTaskPassively_state {action : Action} {seek : Nat} {force : Bool}
    {file : Option (List UInt8)} {task : FileTask}
    (adds : (addTaskPassively action seek force file io).2.1 = some task) :
    task.state = .transmitting := by
  simp only [addTaskPassively] at adds
  split at adds
  · cases adds
  · obtain ⟨fp, kept⟩ := FileTask.initIo_keeps {
      starter := .partner
      action := action
      state := .transmitting
      progress := seek
      overrideFile := force } file force io
    cases adds
    rw [kept]

theorem exec_stops {file : Option (List UInt8)} {idle : Bool}
    (begun : task.state ≠ .waitingForStart) :
    ∃ after, exec task file idle io = (after, file, []) ∧
      ∀ left, after = some left → left = task ∨ left = { task with state := .stoped } := by
  cases current : task.state with
  | waitingForStart => exact absurd current begun
  | preparing | transmitting =>
      simp only [exec, current]
      refine ⟨_, rfl, ?_⟩
      rintro left ⟨⟩
      cases idle with
      | false => exact Or.inl rfl
      | true => exact Or.inr rfl
  | stoped | finished | failed =>
      simp only [exec, current]
      refine ⟨_, rfl, ?_⟩
      intro left remains
      split at remains
      · cases remains
      · exact Or.inl (Option.some.inj remains).symm

theorem exec_begun {file : Option (List UInt8)} {idle : Bool}
    (begun : task.state ≠ .waitingForStart) :
    ∃ after, exec task file idle io = (after, file, []) ∧
      ∀ left, after = some left → left = task ∨ left.state = .stoped := by
  obtain ⟨after, result, stops⟩ := exec_stops begun
  refine ⟨after, result, fun left isLeft => ?_⟩
  rcases stops left isLeft with same | stoped
  · exact Or.inl same
  · exact Or.inr (by rw [stoped])

end TaskScheduler

end EasyViewer
