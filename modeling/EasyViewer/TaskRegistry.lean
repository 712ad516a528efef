import Mathlib.Logic.Function.Basic
import EasyViewer.TaskScheduler

/-!
All tasks of a host's `TaskScheduler`: the objects, the map from ids to the registered
ones, the queue of `exec`, and the files they open. An operation returns, beside what
it leaves, which object's followers it tells what.
-/

namespace EasyViewer

structure Peer where
  host : String
  port : UInt16
  userId : UserId
  deriving DecidableEq, Repr

/-- An action that came over the network may be neither of the two; `known` says it is not. -/
structure TaskPrivate where
  id : String
  serverHost : String
  serverPort : UInt16
  partnerId : UserId
  fromDirectory : String := ""
  toDirectory : String := ""
  fileName : String
  fileSize : Nat := 0
  known : Bool := true
  task : FileTask
  deriving DecidableEq, Repr

namespace TaskPrivate

def peer (object : TaskPrivate) : Peer :=
  { host := object.serverHost, port := object.serverPort, userId := object.partnerId }

def path (object : TaskPrivate) : String :=
  (if object.task.readsLocally then object.fromDirectory else object.toDirectory) ++ "/" ++
    object.fileName

end TaskPrivate

abbrev Notice := Nat × Remote

/-- An object lives at an address; the addresses from `size` on are free. -/
structure TaskRegistry where
  objects : Nat → TaskPrivate
  size : Nat
  tasks : String → Option Nat
  queued : List Nat
  files : String → Option (List UInt8)
  bounded : ∀ id address, tasks id = some address → address < size
  named : ∀ id address, tasks id = some address → (objects address).id = id

namespace TaskRegistry

def put (registry : TaskRegistry) (address : Nat) (task : FileTask) : TaskRegistry :=
  { registry with
    objects := Function.update registry.objects address
      { registry.objects address with task := task }
    named := by
      intro id other registered
      by_cases same : other = address
      · subst same
        rw [Function.update_self]
        exact registry.named id other registered
      · rw [Function.update_of_ne same]
        exact registry.named id other registered }

def putFile (registry : TaskRegistry) (path : String) (file : Option (List UInt8)) :
    TaskRegistry :=
  { registry with files := Function.update registry.files path file }

def push (registry : TaskRegistry) (address : Nat) : TaskRegistry :=
  { registry with queued := registry.queued ++ [address] }

def unregister (registry : TaskRegistry) (id : String) : TaskRegistry :=
  { registry with
    tasks := Function.update registry.tasks id none
    bounded := by
      intro other address registered
      by_cases same : other = id
      · subst same
        rw [Function.update_self] at registered
        contradiction
      · rw [Function.update_of_ne same] at registered
        exact registry.bounded other address registered
    named := by
      intro other address registered
      by_cases same : other = id
      · subst same
        rw [Function.update_self] at registered
        contradiction
      · rw [Function.update_of_ne same] at registered
        exact registry.named other address registered }

/-- The queue loses the first object of that id, registered or not. -/
def removeTask (registry : TaskRegistry) (id : String) : TaskRegistry :=
  { registry.unregister id with
    queued := registry.queued.eraseP fun address => (registry.objects address).id = id }

/-- The last part of `addTask`: a new object is registered and queued, unless its id is taken. -/
def insert (registry : TaskRegistry) (object : TaskPrivate) :
    (Int × String) × TaskRegistry :=
  if (registry.tasks object.id).isSome then
    ((Err.operateFailed, "Task " ++ object.id ++ "  already exists"), registry)
  else
    ((Err.noError, ""), {
      objects := Function.update registry.objects registry.size object
      size := registry.size + 1
      tasks := Function.update registry.tasks object.id (some registry.size)
      queued := registry.queued ++ [registry.size]
      files := registry.files
      bounded := by
        intro id address registered
        by_cases same : id = object.id
        · subst same
          rw [Function.update_self, Option.some.injEq] at registered
          omega
        · rw [Function.update_of_ne same] at registered
          have bound := registry.bounded id address registered
          omega
      named := by
        intro id address registered
        by_cases same : id = object.id
        · subst same
          rw [Function.update_self, Option.some.injEq] at registered
          subst registered
          rw [Function.update_self]
        · rw [Function.update_of_ne same] at registered
          have bound := registry.bounded id address registered
          rw [Function.update_of_ne (by omega)]
          exact registry.named id address registered })

def empty (files : String → Option (List UInt8)) : TaskRegistry where
  objects := fun _ => {
    id := "", serverHost := "", serverPort := 0, partnerId := 0, fileName := ""
    task := { starter := .self, action := .write, state := .waitingForStart } }
  size := 0
  tasks := fun _ => none
  queued := []
  files := files
  bounded := nofun
  named := nofun

/-- The mode of an open request, as the enumeration of actions is numbered. -/
def actionOf (mode : Int) : Option Action :=
  if mode = 0 then some .write else if mode = 1 then some .read else none

def passiveTask (id serverHost : String) (serverPort : UInt16) (partnerId : UserId) (mode : Int)
    (directory fileName : String) (fileSize : Nat) (task : FileTask) : TaskPrivate where
  id := id
  serverHost := serverHost
  serverPort := serverPort
  partnerId := partnerId
  fromDirectory := if actionOf mode = some .write then "" else directory
  toDirectory := if actionOf mode = some .write then directory else ""
  fileName := fileName
  fileSize := fileSize
  known := (actionOf mode).isSome
  task := task

def addTaskPassively (registry : TaskRegistry) (id serverHost : String) (serverPort : UInt16)
    (partnerId : UserId) (mode : Int) (directory fileName : String) (progress fileSize : Nat)
    (overrideFile : Bool) (io : FileIo) : (Int × String) × TaskRegistry :=
  let action := (actionOf mode).getD .write
  let unopened : FileTask := {
    starter := .partner
    action := action
    state := .transmitting
    progress := progress
    overrideFile := overrideFile }
  let path := (passiveTask id serverHost serverPort partnerId mode directory fileName fileSize
    unopened).path
  match TaskScheduler.addTaskPassively action progress overrideFile (registry.files path) io with
  | (err, none, file) => (err, registry.putFile path file)
  | (_, some task, file) =>
      (registry.putFile path file).insert
        (passiveTask id serverHost serverPort partnerId mode directory fileName fileSize task)

def addTaskActively (registry : TaskRegistry) (object : TaskPrivate) :
    (Int × String) × TaskRegistry :=
  registry.insert object

def operate (registry : TaskRegistry) (address : Nat)
    (result : FileTask × Option (List UInt8) × List Remote) : TaskRegistry × List Notice :=
  ((registry.put address result.1).putFile (registry.objects address).path result.2.1,
    result.2.2.map fun remote => (address, remote))

def fileOf (registry : TaskRegistry) (address : Nat) : Option (List UInt8) :=
  registry.files (registry.objects address).path

def readLocalFileBlock (registry : TaskRegistry) (id : String) (progress length : Nat)
    (io : FileIo) : ((Int × String) × List UInt8) × TaskRegistry × List Notice :=
  match registry.tasks id with
  | none => (((Err.operateFailed, "The task does not exist"), []), registry, [])
  | some address =>
      let object := registry.objects address
      let file := registry.fileOf address
      if ¬ object.known then
        (((Err.operateFailed,
          if object.task.state ≠ .transmitting then "The task is not in the transferring state"
          else "Read operations cannot be performed on this task"), []), registry, [])
      else
        match TaskScheduler.readLocalFileBlock object.task progress length (file.getD []) io with
        | (err, data, after, remotes) =>
            ((err, data), registry.operate address (after, file, remotes))

def writeLocalFileBlock (registry : TaskRegistry) (id : String) (progress : Nat)
    (data : List UInt8) (io : FileIo) : (Int × String) × TaskRegistry × List Notice :=
  match registry.tasks id with
  | none => ((Err.operateFailed, "The task does not exist"), registry, [])
  | some address =>
      let object := registry.objects address
      let file := registry.fileOf address
      if ¬ object.known then
        ((Err.operateFailed,
          if object.task.state ≠ .transmitting then "The task is not in the transferring state"
          else "Write operations cannot be performed on this task"), registry, [])
      else
        match TaskScheduler.writeLocalFileBlock object.task progress data (file.getD []) io with
        | (err, after, written, remotes) =>
            (err, registry.operate address (after, file.map fun _ => written, remotes))

end TaskRegistry

inductive TaskCall where
  | stopTask
  | resumeTask
  | remoteSuccessOpenFile
  | remoteFailureOpenFile (errCode : Int) (errString : String)
  | successReadRemoteFileBlock (progress : Nat) (data : List UInt8)
  | failureReadRemoteFileBlock (errCode : Int) (errString : String)
  | successWriteRemoteFileBlock (currentProgress : Nat)
  | failureWriteRemoteFileBlock (errCode : Int) (errString : String)
  deriving DecidableEq, Repr

def TaskCall.perform (task : FileTask) (file : Option (List UInt8)) (io : FileIo) :
    TaskCall → FileTask × Option (List UInt8) × List Remote
  | .stopTask =>
      let (after, remotes) := TaskScheduler.stopTask task
      (after, file, remotes)
  | .resumeTask => (TaskScheduler.resumeTask task, file, [])
  | .remoteSuccessOpenFile =>
      let (after, remotes) := TaskScheduler.remoteSuccessOpenFile task (file.getD []) io
      (after, file, remotes)
  | .remoteFailureOpenFile errCode errString =>
      (TaskScheduler.remoteFailureOpenFile task errCode errString, file, [])
  | .successReadRemoteFileBlock progress data =>
      let (after, written, remotes) :=
        TaskScheduler.successReadRemoteFileBlock task progress data (file.getD []) io
      (after, file.map fun _ => written, remotes)
  | .failureReadRemoteFileBlock errCode errString =>
      let (after, remotes) := TaskScheduler.failureReadRemoteFileBlock task errCode errString
      (after, file, remotes)
  | .successWriteRemoteFileBlock currentProgress =>
      let (after, remotes) :=
        TaskScheduler.successWriteRemoteFileBlock task currentProgress (file.getD []) io
      (after, file, remotes)
  | .failureWriteRemoteFileBlock errCode errString =>
      let (after, remotes) := TaskScheduler.failureWriteRemoteFileBlock task errCode errString
      (after, file, remotes)

namespace TaskRegistry

/-- A call by id. A resumed task is queued again; a task of neither action takes no blocks, and
nothing else is ever called on one. -/
def call (registry : TaskRegistry) (id : String) (call : TaskCall) (io : FileIo) :
    TaskRegistry × List Notice :=
  match registry.tasks id with
  | none => (registry, [])
  | some address =>
      let object := registry.objects address
      if ¬ object.known then (registry, [])
      else
        let (after, notices) :=
          registry.operate address (call.perform object.task (registry.fileOf address) io)
        (if call = .resumeTask ∧ object.task.starter = .self ∧ object.task.state = .stoped then
          after.push address else after, notices)

def exec (registry : TaskRegistry) (idle : Bool) (io : FileIo) : TaskRegistry × List Notice :=
  match registry.queued with
  | [] => (registry, [])
  | address :: rest =>
      let object := registry.objects address
      let popped := { registry with queued := rest }
      match TaskScheduler.exec object.task (registry.fileOf address) idle io with
      | (none, file, _) => ((popped.putFile object.path file).unregister object.id, [])
      | (some after, file, remotes) =>
          let (next, notices) := popped.operate address (after, file, remotes)
          (if after.state = .preparing ∨ object.task.state = .preparing ∨
            object.task.state = .transmitting then next.push address else next, notices)

end TaskRegistry

end EasyViewer
