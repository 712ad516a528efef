import Mathlib.Data.List.Sort
import EasyViewer.GuardCommands
import EasyViewer.Library.Run

/-!
The file windows of one client, towards any number of partners. All of them follow the one
scheduler, and what it tells its followers to do at the remote end each of them does at
its own partner.
-/

namespace EasyViewer

/-- A `FileTransmissionViewer`; the address is its key among the followers. -/
structure FileViewer where
  address : Nat
  peerHost : String
  peerPort : UInt16
  partnerUserId : UserId
  selfUserId : UserId
  deriving DecidableEq, Repr

def FileViewer.peer (viewer : FileViewer) : Peer :=
  { host := viewer.peerHost, port := viewer.peerPort, userId := viewer.partnerUserId }

structure SentCommand where
  viewer : FileViewer
  task : TaskPrivate
  command : GuardCommand
  deriving DecidableEq, Repr

/-- `seq` counts the open requests of each viewer; no step reads `sent`. -/
structure FileClient where
  registry : TaskRegistry
  followers : List FileViewer := []
  seq : Nat → Nat := fun _ => 0
  sent : List SentCommand := []

def Action.mode : Action → Int
  | .write => 0
  | .read => 1

namespace FileClient

def send (client : FileClient) (viewer : FileViewer) (task : TaskPrivate)
    (command : GuardCommand) : FileClient :=
  { client with
    sent := client.sent ++ [{ viewer := viewer, task := task, command := command }] }

def whenTaskRemoteOpenFile (viewer : FileViewer) (task : TaskPrivate) (seek : Nat)
    (force : Bool) (client : FileClient) : FileClient :=
  let seq := client.seq viewer.address + 1
  { client with seq := Function.update client.seq viewer.address seq }.send viewer task
    (.openFile seq viewer.selfUserId task.id task.task.action.mode
      (if task.task.action = Action.read then task.fromDirectory else task.toDirectory)
      task.fileName task.fileSize seek force)

def whenTaskRemoteCloseFile (viewer : FileViewer) (task : TaskPrivate) (client : FileClient) :
    FileClient :=
  client.send viewer task (.closeFile viewer.selfUserId task.id)

def whenTaskRemoteReadFileBlock (viewer : FileViewer) (task : TaskPrivate)
    (progress length : Nat) (client : FileClient) : FileClient :=
  client.send viewer task (.readFileBlock task.partnerId task.id progress length)

def notifyTaskRemoteCloseFile (task : TaskPrivate) (client : FileClient) : FileClient :=
  client.followers.foldl (fun after viewer => after.whenTaskRemoteCloseFile viewer task) client

/-- The scheduler's operation, called by a viewer in the middle of a notification. -/
def failureWriteRemoteFileBlock (taskId : String) (errCode : Int) (errString : String)
    (client : FileClient) : FileClient :=
  let (registry, notices) :=
    client.registry.call taskId (.failureWriteRemoteFileBlock errCode errString) {}
  notices.foldl
    (fun after notice => after.notifyTaskRemoteCloseFile (registry.objects notice.1))
    { client with registry := registry }

def whenTaskRemoteWriteFileBlock (packed : Bool) (viewer : FileViewer) (task : TaskPrivate)
    (progress : Nat) (data : List UInt8) (client : FileClient) : FileClient :=
  if packed then client.send viewer task (.writeFileBlock task.partnerId task.id progress data)
  else client.failureWriteRemoteFileBlock task.id Err.operateFailed "compress data failed"

def whenTaskRemote (packed : Nat → Bool) (viewer : FileViewer) (task : TaskPrivate) :
    Remote → FileClient → FileClient
  | .openFile seek force => whenTaskRemoteOpenFile viewer task seek force
  | .closeFile => whenTaskRemoteCloseFile viewer task
  | .writeFileBlock progress data =>
      whenTaskRemoteWriteFileBlock (packed viewer.address) viewer task progress data
  | .readFileBlock progress length => whenTaskRemoteReadFileBlock viewer task progress length

/-- `notifyTaskRemoteOpenFile` and its siblings. -/
def notify (packed : Nat → Bool) (client : FileClient) (notice : Notice) : FileClient :=
  client.followers.foldl
    (fun after viewer =>
      after.whenTaskRemote packed viewer (client.registry.objects notice.1) notice.2) client

def follow (packed : Nat → Bool) (client : FileClient) (result : TaskRegistry × List Notice) :
    FileClient :=
  result.2.foldl (notify packed) { client with registry := result.1 }

end FileClient

inductive SchedulerEvent where
  | addTask (task : TaskPrivate)
  | removeTask (taskId : String)
  | call (taskId : String) (call : TaskCall)
  | command (host : String) (port : UInt16) (command : GuardCommand)
  | exec (idle : Bool)
  deriving DecidableEq, Repr

def TaskRegistry.happen (registry : TaskRegistry) (io : FileIo) :
    SchedulerEvent → TaskRegistry × List Notice
  | .addTask task => ((registry.addTaskActively task).2, [])
  | .removeTask taskId => (registry.removeTask taskId, [])
  | .call taskId call => registry.call taskId call io
  | .command host port command =>
      let (after, notices, _) := command.handle host port registry io
      (after, notices)
  | .exec idle => registry.exec idle io

inductive FileClientEvent where
  | subscribe (viewer : FileViewer)
  | unsubscribe (address : Nat)
  | scheduler (event : SchedulerEvent) (io : FileIo) (packed : Nat → Bool)

def fileClientStep (client : FileClient) (event : FileClientEvent) : Option FileClient :=
  match event with
  | .subscribe viewer =>
      some { client with
        followers :=
          (client.followers.filter fun other => other.address ≠ viewer.address).orderedInsert
            (fun one other => one.address ≤ other.address) viewer }
  | .unsubscribe address =>
      some { client with
        followers := client.followers.filter fun other => other.address ≠ address }
  | .scheduler event io packed => some (client.follow packed (client.registry.happen io event))

end EasyViewer
