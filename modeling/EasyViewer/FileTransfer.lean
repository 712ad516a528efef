import EasyViewer.Library.Channel
import EasyViewer.Library.Run
import EasyViewer.TaskScheduler

/-!
An upload between two hosts: the viewer's own task, the task that its requests make at
the guard, the destination file there, and the messages on their way. The connection
delivers in order and may lose what is in flight.
-/

namespace EasyViewer

inductive GuardMessage where
  | openFile (seq seek : Nat) (force : Bool)
  | writeFileBlock (seek : Nat) (data : List UInt8)
  | closeFile
  deriving DecidableEq, Repr

inductive ViewerMessage where
  | openFile (seq : Nat) (errCode : Int) (errString : String)
  | writeFileBlock (errCode : Int) (errString : String) (afterSeek : Nat)
  deriving DecidableEq, Repr

/-- `seq` is the number of the latest request to open. -/
structure Transfer where
  viewer : FileTask
  partner : Option FileTask := none
  destination : Option (List UInt8) := none
  seq : Nat := 0
  toGuard : List GuardMessage := []
  toViewer : List ViewerMessage := []
  deriving DecidableEq, Repr

namespace Transfer

def send (transfer : Transfer) (message : GuardMessage) : Transfer :=
  { transfer with toGuard := transfer.toGuard ++ [message] }

def answer (transfer : Transfer) (message : ViewerMessage) : Transfer :=
  { transfer with toViewer := transfer.toViewer ++ [message] }

/-- `whenTaskRemoteOpenFile` and its siblings; an upload reads no blocks from the partner. -/
def whenTaskRemote (transfer : Transfer) (io : FileIo) : Remote → Transfer
  | .openFile seek force =>
      { transfer with seq := transfer.seq + 1 }.send (.openFile (transfer.seq + 1) seek force)
  | .closeFile => transfer.send .closeFile
  | .writeFileBlock seek data =>
      if io.packed then transfer.send (.writeFileBlock seek data)
      else
        let (task, remotes) := TaskScheduler.failureWriteRemoteFileBlock transfer.viewer
          Err.operateFailed "compress data failed"
        if remotes.isEmpty then transfer else { transfer with viewer := task }.send .closeFile
  | .readFileBlock _ _ => transfer

def follow (transfer : Transfer) (io : FileIo) (result : FileTask × List Remote) : Transfer :=
  result.2.foldl (fun after remote => after.whenTaskRemote io remote)
    { transfer with viewer := result.1 }

/-- A task of that id that is there already is removed first. -/
def handleCommandOfOpenFile (transfer : Transfer) (seq seek : Nat) (force : Bool) (io : FileIo) :
    Transfer :=
  match TaskScheduler.addTaskPassively .write seek force transfer.destination io with
  | ((err, reason), partner, destination) =>
      { transfer with partner := partner, destination := destination }.answer
        (.openFile seq err reason)

def handleCommandOfCloseFile (transfer : Transfer) : Transfer := { transfer with partner := none }

def handleCommandOfWriteFile (transfer : Transfer) (seek : Nat) (data : List UInt8) (io : FileIo) :
    Transfer :=
  if ¬ io.unpacked then
    transfer.answer (.writeFileBlock Err.operateFailed "uncompress data failed" 0)
  else
    match transfer.partner with
    | none => transfer.answer (.writeFileBlock Err.operateFailed "The task does not exist" 0)
    | some task =>
        match TaskScheduler.writeLocalFileBlock task seek data (transfer.destination.getD []) io with
        | ((err, reason), after, written, _) =>
            { transfer with
              partner := some after
              destination := transfer.destination.map fun _ => written }.answer
              (.writeFileBlock err reason (if err = Err.noError then seek + data.length else 0))

section

variable (source : List UInt8)

def handleResponseOfOpenFile (transfer : Transfer) (errCode : Int) (errString : String)
    (io : FileIo) : Transfer :=
  if errCode = Err.noError then
    transfer.follow io (TaskScheduler.remoteSuccessOpenFile transfer.viewer source io)
  else
    { transfer with
      viewer := TaskScheduler.remoteFailureOpenFile transfer.viewer errCode errString }

def handleResponseOfWriteFileBlock (transfer : Transfer) (errCode : Int) (errString : String)
    (afterSeek : Nat) (io : FileIo) : Transfer :=
  if errCode ≠ Err.noError then
    transfer.follow io
      (TaskScheduler.failureWriteRemoteFileBlock transfer.viewer errCode errString)
  else
    transfer.follow io
      (TaskScheduler.successWriteRemoteFileBlock transfer.viewer afterSeek source io)

end

end Transfer

/-- `lose` leaves what is not lost of either direction. -/
inductive TransferEvent where
  | stop
  | resume
  | exec (idle : Bool) (io : FileIo)
  | partnerExec (idle : Bool) (io : FileIo)
  | guardReceives (io : FileIo)
  | viewerReceives (io : FileIo)
  | lose (toGuard : List GuardMessage) (toViewer : List ViewerMessage)
  deriving DecidableEq, Repr

def transferStep (source : List UInt8) (transfer : Transfer) (event : TransferEvent) :
    Option Transfer :=
  match event with
  | .stop => some (transfer.follow {} (TaskScheduler.stopTask transfer.viewer))
  | .resume => some { transfer with viewer := TaskScheduler.resumeTask transfer.viewer }
  | .exec idle io =>
      match TaskScheduler.exec transfer.viewer (some source) idle io with
      | (none, _, _) => none
      | (some task, _, remotes) => some (transfer.follow io (task, remotes))
  | .partnerExec idle io =>
      match transfer.partner with
      | none => none
      | some task =>
          match TaskScheduler.exec task transfer.destination idle io with
          | (after, destination, _) =>
              some { transfer with partner := after, destination := destination }
  | .guardReceives io =>
      match transfer.toGuard with
      | [] => none
      | message :: rest =>
          let received := { transfer with toGuard := rest }
          match message with
          | .openFile seq seek force => some (received.handleCommandOfOpenFile seq seek force io)
          | .writeFileBlock seek data => some (received.handleCommandOfWriteFile seek data io)
          | .closeFile => some received.handleCommandOfCloseFile
  | .viewerReceives io =>
      match transfer.toViewer with
      | [] => none
      | message :: rest =>
          let received := { transfer with toViewer := rest }
          match message with
          | .openFile _ errCode errString =>
              some (received.handleResponseOfOpenFile source errCode errString io)
          | .writeFileBlock errCode errString afterSeek =>
              some (received.handleResponseOfWriteFileBlock source errCode errString afterSeek io)
  | .lose toGuard toViewer =>
      if toGuard.Sublist transfer.toGuard ∧ toViewer.Sublist transfer.toViewer then
        some { transfer with toGuard := toGuard, toViewer := toViewer }
      else none

def initialTransfer (progress : Nat) (overrideFile : Bool) (destination : Option (List UInt8)) :
    Transfer where
  viewer := {
    starter := .self
    action := .write
    state := .waitingForStart
    progress := progress
    overrideFile := overrideFile }
  destination := destination

end EasyViewer
