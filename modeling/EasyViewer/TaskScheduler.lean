import EasyViewer.FileTask

/-!
The operations of `TaskScheduler` on one task, each with what it tells its followers to
do at the remote end. What only the table on disk and the user interface see is left out.
-/

namespace EasyViewer

inductive Remote where
  | openFile (seek : Nat) (force : Bool)
  | closeFile
  | writeFileBlock (seek : Nat) (data : List UInt8)
  | readFileBlock (seek length : Nat)
  deriving DecidableEq, Repr

namespace TaskScheduler

def addTaskPassively (action : Action) (progress : Nat) (overrideFile : Bool)
    (file : Option (List UInt8)) (io : FileIo) :
    (Int × String) × Option FileTask × Option (List UInt8) :=
  let task : FileTask := {
    starter := .partner
    action := action
    state := .transmitting
    progress := progress
    overrideFile := overrideFile }
  match task.initIo file overrideFile io with
  | ((err, reason), opened, after) =>
      if err ≠ Err.noError then ((err, reason), none, after)
      else ((Err.noError, ""), some opened, after)

def stopTask (task : FileTask) : FileTask × List Remote :=
  if task.starter ≠ .self ∨ task.state ≠ .transmitting then (task, [])
  else ({ task with state := .stoped }, [.closeFile])

def resumeTask (task : FileTask) : FileTask :=
  if task.starter ≠ .self ∨ task.state ≠ .stoped then task
  else { task with state := .waitingForStart }

def writeLocalFileBlock (task : FileTask) (progress : Nat) (data file : List UInt8) (io : FileIo) :
    (Int × String) × FileTask × List UInt8 × List Remote :=
  if task.state ≠ .transmitting then
    ((Err.operateFailed, "The task is not in the transferring state"), task, file, [])
  else if task.readsLocally then
    ((Err.operateFailed, "Write operations cannot be performed on this task"), task, file, [])
  else
    match task.write progress data file io with
    | ((err, reason), after, written) =>
        if err ≠ Err.noError then
          ((err, reason),
            { after with state := .failed, error := err, reason := reason }.closeIo,
            written, if task.starter = .self then [.closeFile] else [])
        else ((err, reason), after, written, [])

def readLocalFileBlock (task : FileTask) (progress length : Nat) (file : List UInt8) (io : FileIo) :
    (Int × String) × List UInt8 × FileTask × List Remote :=
  if task.state ≠ .transmitting then
    ((Err.operateFailed, "The task is not in the transferring state"), [], task, [])
  else if ¬ task.readsLocally then
    ((Err.operateFailed, "Read operations cannot be performed on this task"), [], task, [])
  else
    match task.read progress length file io with
    | ((err, reason), data, after) =>
        if err ≠ Err.noError then
          let ended :=
            if task.starter = .self then
              if err = Err.endOfFile then { after with state := .finished }
              else { after with state := .failed, error := err, reason := reason }
            else after
          ((err, reason), [], ended.closeIo, if task.starter = .self then [.closeFile] else [])
        else ((err, reason), data, after, [])

def failureWriteRemoteFileBlock (task : FileTask) (errCode : Int) (errString : String) :
    FileTask × List Remote :=
  if task.starter ≠ .self ∨ task.state ≠ .transmitting then (task, [])
  else
    ({ task with state := .failed, error := errCode, reason := errString }.closeIo, [.closeFile])

/-- The progress runs ahead: it counts a block when it is read, not when it is written. -/
def successWriteRemoteFileBlock (task : FileTask) (currentProgress : Nat) (file : List UInt8)
    (io : FileIo) : FileTask × List Remote :=
  match readLocalFileBlock task currentProgress blockSize file io with
  | ((err, _), data, after, remotes) =>
      if err ≠ Err.noError then (after, remotes)
      else (after, remotes ++ [.writeFileBlock currentProgress data])

/-- Any success answer will do, also one to an earlier request. -/
def remoteSuccessOpenFile (task : FileTask) (file : List UInt8) (io : FileIo) :
    FileTask × List Remote :=
  if task.state ≠ .preparing then (task, [])
  else
    let transmitting := { task with state := .transmitting }
    match task.starter, task.action with
    | .partner, _ => (transmitting, [])
    | .self, .read => (transmitting, [.readFileBlock task.progress blockSize])
    | .self, .write => successWriteRemoteFileBlock transmitting task.progress file io

def remoteFailureOpenFile (task : FileTask) (errCode : Int) (errString : String) : FileTask :=
  if task.state ≠ .preparing then task
  else
    { task with
      state := .failed
      error := errCode
      reason := "[" ++ toString errCode ++ "]" ++ errString }

def failureReadRemoteFileBlock (task : FileTask) (errCode : Int) (errString : String) :
    FileTask × List Remote :=
  if task.starter ≠ .self ∨ task.state ≠ .transmitting then (task, [])
  else
    let ended :=
      if errCode = Err.endOfFile then { task with state := .finished }
      else { task with state := .failed, error := errCode, reason := errString }
    (ended.closeIo, [.closeFile])

/-- The next request asks for as many bytes as the last answer had. -/
def successReadRemoteFileBlock (task : FileTask) (progress : Nat) (data file : List UInt8)
    (io : FileIo) : FileTask × List UInt8 × List Remote :=
  match writeLocalFileBlock task progress data file io with
  | ((err, _), after, written, remotes) =>
      if err ≠ Err.noError then (after, written, remotes)
      else (after, written, remotes ++ [.readFileBlock after.progress data.length])

/-- One turn of `exec` at the task; `idle` says that it has been inactive for a minute. A
partner's task that is over is forgotten. -/
def exec (task : FileTask) (file : Option (List UInt8)) (idle : Bool) (io : FileIo) :
    Option FileTask × Option (List UInt8) × List Remote :=
  match task.state with
  | .waitingForStart =>
      match task.initIo file task.overrideFile io with
      | ((err, reason), opened, after) =>
          if err ≠ Err.noError then
            (some { opened with state := .failed, error := err, reason := reason }, after, [])
          else
            (some { opened with state := .preparing }, after,
              [.openFile opened.progress opened.overrideFile])
  | .preparing | .transmitting =>
      (some (if idle then { task with state := .stoped } else task), file, [])
  | .stoped | .finished | .failed =>
      (if task.starter = .partner then none else some task, file, [])

end TaskScheduler

end EasyViewer
