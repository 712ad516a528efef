import EasyViewer.FileTask
import Mathlib.Algebra.Ring.Nat
import Mathlib.Data.List.TakeWhile

/-!
The table in which a host keeps its own tasks over a restart. `persistNewTask` binds twelve
values to twelve columns, `flushTaskProgress` rewrites up to four of them, and `loadTasks`
reads fourteen by their places and hands twelve of them to `addTask`.
-/

namespace EasyViewer

def Action.number : Action → Int
  | .write => 0
  | .read => 1

def Action.ofNumber (number : Int) : Action := if number = 1 then .read else .write

def TaskState.number : TaskState → Int
  | .waitingForStart => 0
  | .preparing => 1
  | .transmitting => 2
  | .stoped => 3
  | .finished => 4
  | .failed => 5

def TaskState.ofNumber (number : Int) : TaskState :=
  if number = 0 then .waitingForStart
  else if number = 1 then .preparing
  else if number = 2 then .transmitting
  else if number = 4 then .finished
  else if number = 5 then .failed
  else .stoped

namespace FileTransmission

/-- Times are in milliseconds; an invalid one is bound and read as `NULL`. -/
structure Task where
  id : String
  serverHost : String
  serverPort : UInt16
  partnerId : UserId
  starter : Starter
  action : Action
  fromDirectory : String
  toDirectory : String
  fileName : String
  state : TaskState
  progress : UInt64
  fileSize : UInt64
  error : Int := 0
  reason : String
  creatingTime : Int
  finishingTime : Option Int := none
  overrideFile : Bool
  deriving DecidableEq, Repr

inductive Column where
  | id
  | serverHost
  | serverPort
  | partnerId
  | action
  | fromDirectory
  | toDirectory
  | fileName
  | fileSize
  | creatingTime
  | progress
  | state
  | finishingTime
  | reason
  deriving DecidableEq, Repr

inductive Datum where
  | null
  | integer (value : Int)
  | text (value : String)
  | dateTime (value : Int)
  deriving DecidableEq, Repr

namespace Datum

def toInteger : Datum → Int
  | .integer value => value
  | _ => 0

def toText : Datum → String
  | .text value => value
  | _ => ""

def toDateTime : Datum → Option Int
  | .dateTime value => some value
  | _ => none

def ofDateTime : Option Int → Datum
  | none => .null
  | some time => .dateTime time

end Datum

abbrev Row := Column → Datum

/-- The row with the bound values in their columns, as `SET` and `VALUES` name them. -/
def Row.assign (row : Row) (values : List (Column × Datum)) : Row :=
  fun column => (values.lookup column).getD (row column)

def defaultRow : Row
  | .reason => .text ""
  | _ => .null

def keyOf (task : Task) : Datum := .text (cStr task.id)

def insertColumns : List Column := [
  .id, .serverHost, .serverPort, .partnerId, .action, .fromDirectory, .toDirectory, .fileName,
  .fileSize, .creatingTime, .progress, .state]

def insertValues (task : Task) : List Datum := [
  .text (cStr task.id), .text (cStr task.serverHost), .integer task.serverPort.toNat,
  .integer task.partnerId, .integer task.action.number, .text (cStr task.fromDirectory),
  .text (cStr task.toDirectory), .text (cStr task.fileName), .integer task.fileSize.toNat,
  .dateTime task.creatingTime, .integer task.progress.toInt64.toInt, .integer task.state.number]

/-- `INSERT OR IGNORE`. -/
def persistNewTask (table : List Row) (task : Task) : List Row :=
  if task.starter ≠ .self then table
  else if table.any fun row => row .id = keyOf task then table
  else table ++ [defaultRow.assign (insertColumns.zip (insertValues task))]

def flushedValues (task : Task) : List (Column × Datum) :=
  [(.progress, .integer task.progress.toNat), (.state, .integer task.state.number),
    (.reason, .text (cStr task.reason))] ++
    if task.state = .finished then [(.finishingTime, .ofDateTime task.finishingTime)] else []

def flushTaskProgress (table : List Row) (task : Task) : List Row :=
  if task.starter ≠ .self then table
  else
    table.map fun row => if row .id = keyOf task then row.assign (flushedValues task) else row

def newTask (id serverHost : String) (serverPort : UInt16) (partnerId : UserId) (starter : Starter)
    (action : Action) (state : TaskState) (fromDirectory toDirectory fileName : String)
    (progress fileSize : UInt64) (reason : String) (overrideFile : Bool) (now : Int) : Task where
  id := id
  serverHost := serverHost
  serverPort := serverPort
  partnerId := partnerId
  starter := starter
  action := action
  fromDirectory := fromDirectory
  toDirectory := toDirectory
  fileName := fileName
  state := state
  progress := progress
  fileSize := fileSize
  reason := reason
  creatingTime := now
  overrideFile := overrideFile

def selectColumns : List Column := [
  .id, .partnerId, .action, .fromDirectory, .toDirectory, .fileName, .fileSize, .creatingTime,
  .progress, .state, .serverHost, .serverPort, .finishingTime, .reason]

def loadedState (state : TaskState) : TaskState :=
  if state ≠ .finished ∧ state ≠ .failed then .stoped else state

/-- One turn of the loop in `loadTasks`; the times are read, but not passed on. -/
def loadRow (row : Row) (now : Int) : Task :=
  let values := selectColumns.map row
  let value index := values.getD index .null
  let id := (value 0).toText
  let partnerId := (value 1).toInteger
  let action := Action.ofNumber (value 2).toInteger
  let fromDirectory := (value 3).toText
  let toDirectory := (value 4).toText
  let fileName := (value 5).toText
  let fileSize := UInt64.ofInt (value 6).toInteger
  let _creatingTime := (value 7).toDateTime
  let progress := UInt64.ofInt (value 8).toInteger
  let state := TaskState.ofNumber (value 9).toInteger
  let serverHost := (value 10).toText
  let serverPort := UInt16.ofInt (value 11).toInteger
  let _finishingTime := (value 12).toDateTime
  let reason := (value 13).toText
  newTask id serverHost serverPort partnerId .self action (loadedState state) fromDirectory
    toDirectory fileName progress fileSize reason false now

/-- `m_tasks` after the loop over the remaining rows; a task whose id is taken is not added. -/
def loadTasks (clock : Nat → Int) : Nat → List Row → List Task → List Task
  | _, [], tasks => tasks
  | turn, row :: rows, tasks =>
      let task := loadRow row (clock turn)
      loadTasks clock (turn + 1) rows
        (if tasks.any fun other => other.id = task.id then tasks else tasks ++ [task])

structure Standing where
  state : TaskState
  progress : UInt64
  reason : String
  finishingTime : Option Int
  deriving DecidableEq, Repr

def Task.at (task : Task) (standing : Standing) : Task :=
  { task with
    state := standing.state
    progress := standing.progress
    reason := standing.reason
    finishingTime := standing.finishingTime }

inductive PersistCall where
  | persistNewTask (standing : Standing)
  | flushTaskProgress (standing : Standing)
  deriving DecidableEq, Repr

def PersistCall.perform (task : Task) (table : List Row) : PersistCall → List Row
  | .persistNewTask standing => FileTransmission.persistNewTask table (task.at standing)
  | .flushTaskProgress standing => FileTransmission.flushTaskProgress table (task.at standing)

def PersistCall.flushed : PersistCall → Option Standing
  | .persistNewTask _ => none
  | .flushTaskProgress standing => some standing

def persistAll (task : Task) (table : List Row) (calls : List PersistCall) : List Row :=
  calls.foldl (PersistCall.perform task) table

section

variable {task : Task} {standing : Standing} {row : Row}

theorem ofInt_toNat (number : UInt64) : UInt64.ofInt number.toNat = number := by
  have bound := number.toNat_lt
  rw [UInt64.ofInt, Int.emod_eq_of_lt (by omega) (by omega), Int.toNat_natCast, UInt64.ofNat_toNat]

theorem ofInt_toInt64 (number : UInt64) : UInt64.ofInt number.toInt64.toInt = number := by
  have same : number.toInt64.toInt % 2 ^ 64 = number.toNat := by
    rw [Int64.toInt, UInt64.toBitVec_toInt64, BitVec.toInt_eq_toNat_cond, UInt64.toNat_toBitVec]
    have bound := number.toNat_lt
    split <;> omega
  rw [UInt64.ofInt, same, Int.toNat_natCast, UInt64.ofNat_toNat]

theorem port_ofInt_toNat (number : UInt16) : UInt16.ofInt number.toNat = number := by
  have bound := number.toNat_lt
  rw [UInt16.ofInt, Int.emod_eq_of_lt (by omega) (by omega), Int.toNat_natCast, UInt16.ofNat_toNat]

@[simp] theorem actionOfNumber_number (action : Action) :
    Action.ofNumber action.number = action := by
  cases action <;> rfl

@[simp] theorem stateOfNumber_number (state : TaskState) :
    TaskState.ofNumber state.number = state := by
  cases state <;> rfl

theorem loadRow_id (row : Row) (now : Int) : (loadRow row now).id = (row .id).toText := rfl

theorem loadRow_inserted (task : Task) (now : Int) :
    loadRow (defaultRow.assign (insertColumns.zip (insertValues task))) now =
      { task with
        id := cStr task.id
        serverHost := cStr task.serverHost
        starter := .self
        fromDirectory := cStr task.fromDirectory
        toDirectory := cStr task.toDirectory
        fileName := cStr task.fileName
        state := loadedState task.state
        error := 0
        reason := ""
        creatingTime := now
        finishingTime := none
        overrideFile := false } := by
  have fields : loadRow (defaultRow.assign (insertColumns.zip (insertValues task))) now =
      newTask (cStr task.id) (cStr task.serverHost) (UInt16.ofInt task.serverPort.toNat)
        task.partnerId .self (Action.ofNumber task.action.number)
        (loadedState (TaskState.ofNumber task.state.number)) (cStr task.fromDirectory)
        (cStr task.toDirectory) (cStr task.fileName) (UInt64.ofInt task.progress.toInt64.toInt)
        (UInt64.ofInt task.fileSize.toNat) "" false now := rfl
  rw [fields, port_ofInt_toNat, actionOfNumber_number, stateOfNumber_number, ofInt_toInt64,
    ofInt_toNat]
  rfl

theorem assign_flushed (row : Row) (task : Task) {column : Column}
    (apart : column ≠ .progress ∧ column ≠ .state ∧ column ≠ .reason ∧ column ≠ .finishingTime) :
    row.assign (flushedValues task) column = row column := by
  rw [Row.assign, flushedValues]
  split <;> cases column <;> first | rfl | simp at apart

theorem loadRow_flushed (row : Row) (task : Task) (now : Int) :
    loadRow (row.assign (flushedValues task)) now =
      { loadRow row now with
        state := loadedState task.state
        progress := task.progress
        reason := cStr task.reason } := by
  have progress : row.assign (flushedValues task) .progress = .integer task.progress.toNat := rfl
  have state : row.assign (flushedValues task) .state = .integer task.state.number := rfl
  have reason : row.assign (flushedValues task) .reason = .text (cStr task.reason) := rfl
  simp [loadRow, selectColumns, progress, state, reason, assign_flushed, Datum.toInteger,
    Datum.toText, ofInt_toNat, newTask]

def lastFlush (calls : List PersistCall) : Option Standing :=
  (calls.filterMap PersistCall.flushed).getLast?

/-- What a task in the table is read as, after the flushes among the calls. -/
def Task.flushedBy (loaded : Task) (calls : List PersistCall) : Task :=
  match lastFlush calls with
  | none => loaded
  | some standing =>
      { loaded with
        state := loadedState standing.state
        progress := standing.progress
        reason := cStr standing.reason }

theorem flush_unknown (self : task.starter = .self) (standing : Standing) {table : List Row}
    (fresh : ∀ row ∈ table, row .id ≠ keyOf task) :
    flushTaskProgress table (task.at standing) = table :=
  calc
    flushTaskProgress table (task.at standing) = table.map fun row =>
        if row .id = keyOf task then row.assign (flushedValues (task.at standing)) else row :=
      if_neg (not_not.mpr self)
    _ = table.map id := List.map_congr_left fun row member => if_neg (fresh row member)
    _ = table := List.map_id table

theorem flush_known (self : task.starter = .self) (standing : Standing) {table : List Row}
    (fresh : ∀ row ∈ table, row .id ≠ keyOf task) (known : row .id = keyOf task) :
    flushTaskProgress (table ++ [row]) (task.at standing) =
      table ++ [row.assign (flushedValues (task.at standing))] :=
  calc
    flushTaskProgress (table ++ [row]) (task.at standing) = (table ++ [row]).map fun row =>
        if row .id = keyOf task then row.assign (flushedValues (task.at standing)) else row :=
      if_neg (not_not.mpr self)
    _ = flushTaskProgress table (task.at standing) ++
        [row.assign (flushedValues (task.at standing))] := by
      rw [List.map_append, List.map_singleton, if_pos known]
      congr 1
      exact (if_neg (not_not.mpr self)).symm
    _ = table ++ [row.assign (flushedValues (task.at standing))] := by
      rw [flush_unknown self standing fresh]

theorem persist_known (self : task.starter = .self) (standing : Standing) {table : List Row}
    (known : row .id = keyOf task) :
    persistNewTask (table ++ [row]) (task.at standing) = table ++ [row] := by
  have listed : ((table ++ [row]).any fun row => row .id = keyOf (task.at standing)) = true :=
    List.any_eq_true.mpr ⟨row, by simp, decide_eq_true known⟩
  exact (if_neg (not_not.mpr self)).trans (if_pos listed)

theorem persist_unknown (self : task.starter = .self) (standing : Standing) {table : List Row}
    (fresh : ∀ row ∈ table, row .id ≠ keyOf task) :
    persistNewTask table (task.at standing) =
      table ++ [defaultRow.assign (insertColumns.zip (insertValues (task.at standing)))] := by
  have absent : ¬ (table.any fun row => row .id = keyOf (task.at standing)) = true := by
    rw [List.any_eq_true]
    rintro ⟨other, member, known⟩
    exact fresh other member (of_decide_eq_true known)
  exact (if_neg (not_not.mpr self)).trans (if_neg absent)

theorem persistAll_unknown (self : task.starter = .self) {table : List Row}
    (fresh : ∀ row ∈ table, row .id ≠ keyOf task) {calls : List PersistCall}
    (flushes : ∀ call ∈ calls, call.flushed ≠ none) : persistAll task table calls = table := by
  induction calls with
  | nil => rfl
  | cons call calls ih =>
      have rest := ih fun later member => flushes later (List.mem_cons_of_mem _ member)
      cases call with
      | persistNewTask standing => exact absurd rfl (flushes _ List.mem_cons_self)
      | flushTaskProgress standing =>
          rw [persistAll, List.foldl_cons, PersistCall.perform, flush_unknown self standing fresh]
          exact rest

/-- A task in the table stays in its row, which is read as the last flush has it. -/
theorem persistAll_known (self : task.starter = .self) {table : List Row}
    (fresh : ∀ row ∈ table, row .id ≠ keyOf task) (known : row .id = keyOf task)
    (calls : List PersistCall) :
    ∃ after, persistAll task (table ++ [row]) calls = table ++ [after] ∧
      after .id = keyOf task ∧ ∀ now, loadRow after now = (loadRow row now).flushedBy calls := by
  induction calls generalizing row with
  | nil => exact ⟨row, rfl, known, fun _ => rfl⟩
  | cons call calls ih =>
      cases call with
      | persistNewTask standing =>
          obtain ⟨after, result, still, loads⟩ := ih known
          refine ⟨after, ?_, still, loads⟩
          rw [persistAll, List.foldl_cons, PersistCall.perform, persist_known self standing known]
          exact result
      | flushTaskProgress standing =>
          have kept : row.assign (flushedValues (task.at standing)) .id = keyOf task :=
            (assign_flushed row _ (by decide)).trans known
          obtain ⟨after, result, still, loads⟩ := ih kept
          refine ⟨after, ?_, still, fun now => ?_⟩
          · rw [persistAll, List.foldl_cons, PersistCall.perform,
              flush_known self standing fresh known]
            exact result
          · rw [loads, loadRow_flushed]
            simp only [Task.flushedBy, lastFlush, List.filterMap_cons, PersistCall.flushed,
              List.getLast?_cons]
            cases (List.filterMap PersistCall.flushed calls).getLast? with
            | none => rfl
            | some later => rfl

theorem loadTasks_append (clock : Nat → Int) (turn : Nat) (first second : List Row)
    (tasks : List Task) :
    loadTasks clock turn (first ++ second) tasks =
      loadTasks clock (turn + first.length) second (loadTasks clock turn first tasks) := by
  induction first generalizing turn tasks with
  | nil => rfl
  | cons row first ih =>
      rw [List.cons_append, loadTasks, ih, loadTasks, List.length_cons]
      congr 1
      omega

theorem loadTasks_others (clock : Nat → Int) (turn : Nat) {rows : List Row} {tasks : List Task}
    {id : String} (others : ∀ row ∈ rows, (row .id).toText ≠ id)
    (absent : ∀ task ∈ tasks, task.id ≠ id) : ∀ task ∈ loadTasks clock turn rows tasks,
      task.id ≠ id := by
  induction rows generalizing turn tasks with
  | nil => exact absent
  | cons row rows ih =>
      refine ih (turn + 1) (fun later member => others later (List.mem_cons_of_mem _ member)) ?_
      split
      · exact absent
      · intro task member
        rcases List.mem_append.mp member with before | new
        · exact absent task before
        · rw [List.mem_singleton.mp new]
          exact others row List.mem_cons_self

theorem loadTasks_last (clock : Nat → Int) {table : List Row} {id : String}
    (others : ∀ row ∈ table, (row .id).toText ≠ id) (named : (row .id).toText = id) :
    (loadTasks clock 0 (table ++ [row]) []).find? (fun task => task.id = id) =
      some (loadRow row (clock table.length)) := by
  have before : ∀ task ∈ loadTasks clock 0 table [], task.id ≠ id :=
    loadTasks_others clock 0 others (List.forall_mem_nil _)
  rw [loadTasks_append, Nat.zero_add]
  generalize loadTasks clock 0 table [] = loaded at before
  have absent : ¬ (loaded.any fun other =>
      other.id = (loadRow row (clock table.length)).id) = true := by
    rw [List.any_eq_true, loadRow_id, named]
    rintro ⟨other, member, same⟩
    exact before other member (of_decide_eq_true same)
  have unfound : loaded.find? (fun task => task.id = id) = none := by
    rw [List.find?_eq_none]
    intro other member
    simpa using before other member
  simp only [loadTasks]
  rw [if_neg absent, List.find?_append, unfound, Option.none_or, List.find?_singleton, loadRow_id,
    named]
  simp

theorem loadTasks_none (clock : Nat → Int) {table : List Row} {id : String}
    (others : ∀ row ∈ table, (row .id).toText ≠ id) :
    (loadTasks clock 0 table []).find? (fun task => task.id = id) = none := by
  have absent : ∀ task ∈ loadTasks clock 0 table [], task.id ≠ id :=
    loadTasks_others clock 0 others (List.forall_mem_nil _)
  rw [List.find?_eq_none]
  intro task member
  simpa using absent task member

end

/-- What a restart should bring back of the changing fields: the last flush, or what was persisted
if there is none. -/
def lastStanding (calls : List PersistCall) : Option Standing :=
  (lastFlush calls).or (calls.findSome? fun
    | .persistNewTask standing => some standing
    | .flushTaskProgress _ => none)

structure Restored (task : Task) (standing : Standing) (rebuilt : Task) : Prop where
  serverHost : rebuilt.serverHost = task.serverHost
  serverPort : rebuilt.serverPort = task.serverPort
  partnerId : rebuilt.partnerId = task.partnerId
  starter : rebuilt.starter = .self
  action : rebuilt.action = task.action
  fromDirectory : rebuilt.fromDirectory = task.fromDirectory
  toDirectory : rebuilt.toDirectory = task.toDirectory
  fileName : rebuilt.fileName = task.fileName
  fileSize : rebuilt.fileSize = task.fileSize
  creatingTime : rebuilt.creatingTime = task.creatingTime
  finishingTime : rebuilt.finishingTime = standing.finishingTime
  reason : rebuilt.reason = standing.reason
  progress : rebuilt.progress = standing.progress
  ended : standing.state = .finished ∨ standing.state = .failed → rebuilt.state = standing.state
  stoped : standing.state ≠ .finished ∧ standing.state ≠ .failed → rebuilt.state = .stoped

def RoundTrip (clock : Nat → Int) (table : List Row) (task : Task) (calls : List PersistCall) :
    Prop :=
  ∃ rebuilt standing,
    (loadTasks clock 0 (persistAll task table calls) []).find? (fun other => other.id = task.id) =
        some rebuilt ∧
      lastStanding calls = some standing ∧ Restored task standing rebuilt

def Plain (text : String) : Prop := '\x00' ∉ text.toList

instance (text : String) : Decidable (Plain text) := inferInstanceAs (Decidable (¬ _))

/-- The task is loaded at the time it was made, its texts hold no NUL; it was persisted, and the
last flush came after that, with a plain reason and no finishing time, or had nothing to tell that
the persisted task had not. -/
structure SurvivesRestart (clock : Nat → Int) (table : List Row) (task : Task)
    (calls : List PersistCall) : Prop where
  id : Plain task.id
  serverHost : Plain task.serverHost
  fromDirectory : Plain task.fromDirectory
  toDirectory : Plain task.toDirectory
  fileName : Plain task.fileName
  sameTime : clock table.length = task.creatingTime
  persisted : ∃ before first after, calls = before ++ .persistNewTask first :: after ∧
    (∀ call ∈ before, call.flushed ≠ none) ∧
      match lastFlush after with
      | some last => Plain last.reason ∧ last.finishingTime = none
      | none =>
          let last := (lastFlush before).getD first
          first.progress = last.progress ∧ loadedState first.state = loadedState last.state ∧
            last.reason = "" ∧ last.finishingTime = none

section

variable {clock : Nat → Int} {table : List Row} {task : Task}
  {calls before after : List PersistCall}
  {first : Standing}

theorem persisted_or (calls : List PersistCall) :
    (∀ call ∈ calls, call.flushed ≠ none) ∨
      ∃ before first after, calls = before ++ .persistNewTask first :: after ∧
        ∀ call ∈ before, call.flushed ≠ none := by
  induction calls with
  | nil => exact .inl nofun
  | cons call calls ih =>
      cases call with
      | persistNewTask standing => exact .inr ⟨[], standing, calls, rfl, nofun⟩
      | flushTaskProgress standing =>
          rcases ih with never | ⟨before, first, after, rfl, flushes⟩
          · exact .inl (List.forall_mem_cons.mpr ⟨nofun, never⟩)
          · exact .inr ⟨_ :: before, first, after, rfl, List.forall_mem_cons.mpr ⟨nofun, flushes⟩⟩

theorem lastStanding_split (flushes : ∀ call ∈ before, call.flushed ≠ none) :
    lastStanding (before ++ .persistNewTask first :: after) =
      some ((lastFlush after).getD ((lastFlush before).getD first)) := by
  have persisted : (before ++ .persistNewTask first :: after).findSome? (fun
      | PersistCall.persistNewTask standing => some standing
      | .flushTaskProgress _ => none) = some first := by
    rw [List.findSome?_append, List.findSome?_eq_none_iff.mpr]
    · rfl
    · intro call member
      cases call with
      | persistNewTask standing => exact absurd rfl (flushes _ member)
      | flushTaskProgress standing => rfl
  have flushed : lastFlush (before ++ .persistNewTask first :: after) =
      (lastFlush after).or (lastFlush before) := by
    simp only [lastFlush, List.filterMap_append, List.filterMap_cons, PersistCall.flushed,
      List.getLast?_append]
  rw [lastStanding, persisted, flushed]
  cases lastFlush after with
  | some last => rfl
  | none => cases lastFlush before <;> rfl

def rebuiltTask (task : Task) (first : Standing) (after : List PersistCall) (now : Int) : Task :=
  { task with
    id := cStr task.id
    serverHost := cStr task.serverHost
    starter := .self
    fromDirectory := cStr task.fromDirectory
    toDirectory := cStr task.toDirectory
    fileName := cStr task.fileName
    state := loadedState first.state
    progress := first.progress
    error := 0
    reason := ""
    creatingTime := now
    finishingTime := none
    overrideFile := false : Task }.flushedBy after

theorem loaded_split (self : task.starter = .self)
    (fresh : ∀ row ∈ table, (row .id).toText ≠ cStr task.id ∧ (row .id).toText ≠ task.id)
    (flushes : ∀ call ∈ before, call.flushed ≠ none) :
    (loadTasks clock 0 (persistAll task table (before ++ .persistNewTask first :: after)) []).find?
        (fun other => other.id = task.id) =
      if cStr task.id = task.id then some (rebuiltTask task first after (clock table.length))
      else none := by
  have freshKey : ∀ row ∈ table, row .id ≠ keyOf task := fun row member known =>
    (fresh row member).1 (congrArg Datum.toText known)
  obtain ⟨row, result, known, loads⟩ := persistAll_known self freshKey
    (show defaultRow.assign (insertColumns.zip (insertValues (task.at first))) .id = keyOf task
      from rfl) after
  have calls : persistAll task table (before ++ .persistNewTask first :: after) =
      table ++ [row] := by
    rw [persistAll, List.foldl_append, List.foldl_cons]
    have unknown := persistAll_unknown self freshKey flushes
    rw [persistAll] at unknown
    rw [unknown, PersistCall.perform, persist_unknown self first freshKey]
    exact result
  rw [calls]
  split
  · rename_i plain
    rw [loadTasks_last clock (fun row member => (fresh row member).2)
      ((congrArg Datum.toText known).trans plain), loads, loadRow_inserted]
    rfl
  · rename_i cut
    refine loadTasks_none clock fun other member => ?_
    rcases List.mem_append.mp member with old | new
    · exact (fresh other old).2
    · rw [List.mem_singleton.mp new, known]
      exact cut

theorem ended_iff (state other : TaskState) :
    ((other = .finished ∨ other = .failed → loadedState state = other) ∧
      (other ≠ .finished ∧ other ≠ .failed → loadedState state = .stoped)) ↔
        loadedState state = loadedState other := by
  cases state <;> cases other <;> simp [loadedState]

theorem read_restored {standing : Standing} {state : TaskState} {progress : UInt64}
    {reason : String} {now : Int} :
    Restored task standing { task with
      id := cStr task.id
      serverHost := cStr task.serverHost
      starter := .self
      fromDirectory := cStr task.fromDirectory
      toDirectory := cStr task.toDirectory
      fileName := cStr task.fileName
      state := loadedState state
      progress := progress
      error := 0
      reason := reason
      creatingTime := now
      finishingTime := none
      overrideFile := false } ↔
      (Plain task.serverHost ∧ Plain task.fromDirectory ∧ Plain task.toDirectory ∧
        Plain task.fileName) ∧ now = task.creatingTime ∧ standing.finishingTime = none ∧
        reason = standing.reason ∧ progress = standing.progress ∧
          loadedState state = loadedState standing.state := by
  simp only [Plain, ← cStr_eq_self]
  rw [← ended_iff]
  constructor
  · intro restored
    exact ⟨⟨restored.serverHost, restored.fromDirectory, restored.toDirectory,
      restored.fileName⟩, restored.creatingTime, restored.finishingTime.symm,
      restored.reason, restored.progress, restored.ended, restored.stoped⟩
  · rintro ⟨⟨host, source, target, name⟩, made, finished, reason, progress, ended, stoped⟩
    exact ⟨host, rfl, rfl, rfl, rfl, source, target, name, rfl, made, finished.symm, reason,
      progress, ended, stoped⟩

theorem restored_iff {standing : Standing} {now : Int} :
    Restored task standing (rebuiltTask task first after now) ↔
      (Plain task.serverHost ∧ Plain task.fromDirectory ∧ Plain task.toDirectory ∧
        Plain task.fileName) ∧ now = task.creatingTime ∧ standing.finishingTime = none ∧
        match lastFlush after with
        | some last => cStr last.reason = standing.reason ∧ last.progress = standing.progress ∧
            loadedState last.state = loadedState standing.state
        | none => "" = standing.reason ∧ first.progress = standing.progress ∧
            loadedState first.state = loadedState standing.state := by
  rw [rebuiltTask, Task.flushedBy]
  cases lastFlush after with
  | none => exact read_restored
  | some last => exact read_restored

theorem roundTrip_split (self : task.starter = .self)
    (fresh : ∀ row ∈ table, (row .id).toText ≠ cStr task.id ∧ (row .id).toText ≠ task.id)
    (flushes : ∀ call ∈ before, call.flushed ≠ none) :
    RoundTrip clock table task (before ++ .persistNewTask first :: after) ↔
      cStr task.id = task.id ∧
        Restored task ((lastFlush after).getD ((lastFlush before).getD first))
          (rebuiltTask task first after (clock table.length)) := by
  rw [RoundTrip, loaded_split self fresh flushes, lastStanding_split flushes]
  constructor
  · rintro ⟨rebuilt, standing, found, ⟨⟩, restored⟩
    split at found
    · rename_i plain
      cases found
      exact ⟨plain, restored⟩
    · contradiction
  · rintro ⟨plain, restored⟩
    exact ⟨_, _, if_pos plain, rfl, restored⟩

/-- A restart brings a task back as it was just when it is loaded at the time it was made, has not
finished, has no NUL in its texts, and its row was there before the last flush or needed none. -/
theorem restart_iff (self : task.starter = .self)
    (fresh : ∀ row ∈ table, (row .id).toText ≠ cStr task.id ∧ (row .id).toText ≠ task.id) :
    RoundTrip clock table task calls ↔ SurvivesRestart clock table task calls := by
  constructor
  · intro roundTrip
    rcases persisted_or calls with never | ⟨before, first, after, rfl, flushes⟩
    · obtain ⟨rebuilt, _, found, _⟩ := roundTrip
      rw [persistAll_unknown self (fun row member known =>
        (fresh row member).1 (congrArg Datum.toText known)) never,
        loadTasks_none clock fun row member => (fresh row member).2] at found
      contradiction
    · obtain ⟨plain, restored⟩ := (roundTrip_split self fresh flushes).mp roundTrip
      obtain ⟨⟨host, source, target, name⟩, made, finished, rest⟩ := restored_iff.mp restored
      refine ⟨cStr_eq_self.mp plain, host, source, target, name, made, before, first, after, rfl,
        flushes, ?_⟩
      cases flushed : lastFlush after with
      | none =>
          rw [flushed] at finished rest
          exact ⟨rest.2.1, rest.2.2, rest.1.symm, finished⟩
      | some last =>
          rw [flushed] at finished rest
          exact ⟨cStr_eq_self.mp rest.1, finished⟩
  · rintro ⟨plain, host, source, target, name, made, before, first, after, rfl, flushes, rest⟩
    refine (roundTrip_split self fresh flushes).mpr ⟨cStr_eq_self.mpr plain, restored_iff.mpr ?_⟩
    cases flushed : lastFlush after with
    | none =>
        rw [flushed] at rest
        obtain ⟨progress, state, reason, finished⟩ := rest
        exact ⟨⟨host, source, target, name⟩, made, finished, reason.symm, progress, state⟩
    | some last =>
        rw [flushed] at rest
        exact ⟨⟨host, source, target, name⟩, made, rest.2, cStr_eq_self.mpr rest.1, rfl, rfl⟩

end

/-- An upload that finishes, and a restart ten seconds after it was made. -/
def finishedUpload : Task where
  id := "t"
  serverHost := "h"
  serverPort := 1
  partnerId := 7
  starter := .self
  action := .write
  fromDirectory := "d"
  toDirectory := "e"
  fileName := "f"
  state := .waitingForStart
  progress := 0
  fileSize := 4
  reason := ""
  creatingTime := 1000
  overrideFile := false

def uploadCalls : List PersistCall := [
  .persistNewTask { state := .waitingForStart, progress := 0, reason := "", finishingTime := none },
  .flushTaskProgress {
    state := .finished, progress := 4, reason := "", finishingTime := some 5000 }]

theorem finishedUpload_forgets_times :
    ¬ RoundTrip (fun _ => 11000) [] finishedUpload uploadCalls := by
  rintro ⟨rebuilt, standing, found, _, restored⟩
  cases Option.some.inj found
  have made := restored.creatingTime
  contradiction

def earlierTask : List Row := persistNewTask [] { finishedUpload with id := "s" }

def failedCalls : List PersistCall := [
  .persistNewTask { state := .waitingForStart, progress := 0, reason := "", finishingTime := none },
  .flushTaskProgress {
    state := .transmitting, progress := 2, reason := "", finishingTime := none },
  .flushTaskProgress {
    state := .failed, progress := 3, reason := "disk full", finishingTime := none }]

theorem failedUpload_survives_at_once :
    RoundTrip (fun _ => 1000) earlierTask finishedUpload failedCalls := by
  refine (restart_iff rfl ?_).mpr ?_
  · intro row member
    cases List.mem_singleton.mp member
    decide
  · refine ⟨by decide, by decide, by decide, by decide, by decide, rfl, [], _, _, rfl, nofun, ?_⟩
    exact ⟨by decide, rfl⟩

end FileTransmission

end EasyViewer
