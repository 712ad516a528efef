import EasyViewer.Library.Run
import EasyViewer.TaskScheduler

/-!
A download between two hosts: the viewer's own task and its local file, the task that its
requests make at the guard, and the messages on their way. The source does not change;
the connection delivers in order and may lose what is in flight.
-/

namespace EasyViewer

inductive DownloadRequest where
  | openFile (seq seek : Nat) (force : Bool)
  | readFileBlock (seek length : Nat)
  | closeFile
  deriving DecidableEq, Repr

/-- An answer with an error leaves the fields of a block empty. -/
inductive DownloadResponse where
  | openFile (seq : Nat) (errCode : Int) (errString : String)
  | readFileBlock (errCode : Int) (errString : String) (seek : Nat) (data : List UInt8)
  deriving DecidableEq, Repr

structure Download where
  viewer : FileTask
  partner : Option FileTask := none
  destination : Option (List UInt8) := none
  seq : Nat := 0
  toGuard : List DownloadRequest := []
  toViewer : List DownloadResponse := []
  deriving DecidableEq, Repr

namespace Download

def send (download : Download) (message : DownloadRequest) : Download :=
  { download with toGuard := download.toGuard ++ [message] }

def answer (download : Download) (message : DownloadResponse) : Download :=
  { download with toViewer := download.toViewer ++ [message] }

/-- `whenTaskRemoteOpenFile` and its siblings; a download writes no blocks at the partner. -/
def whenTaskRemote (download : Download) : Remote → Download
  | .openFile seek force =>
      { download with seq := download.seq + 1 }.send (.openFile (download.seq + 1) seek force)
  | .closeFile => download.send .closeFile
  | .readFileBlock seek length => download.send (.readFileBlock seek length)
  | .writeFileBlock _ _ => download

def follow (download : Download) (result : FileTask × List Remote) : Download :=
  result.2.foldl whenTaskRemote { download with viewer := result.1 }

section

variable (source : List UInt8)

/-- A task of that id that is there already is removed first. -/
def handleCommandOfOpenFile (download : Download) (seq seek : Nat) (force : Bool) (io : FileIo) :
    Download :=
  match TaskScheduler.addTaskPassively .read seek force (some source) io with
  | ((err, reason), partner, _) =>
      { download with partner := partner }.answer (.openFile seq err reason)

def handleCommandOfCloseFile (download : Download) : Download := { download with partner := none }

def handleCommandOfReadFile (download : Download) (seek length : Nat) (io : FileIo) : Download :=
  match download.partner with
  | none =>
      download.answer (.readFileBlock Err.operateFailed "The task does not exist" 0 [])
  | some task =>
      match TaskScheduler.readLocalFileBlock task seek length source io with
      | ((err, reason), data, after, _) =>
          { download with partner := some after }.answer
            (if err ≠ Err.noError then .readFileBlock err reason 0 []
            else if io.packed then .readFileBlock Err.noError "" seek data
            else .readFileBlock Err.operateFailed "compress data failed" 0 [])

def handleResponseOfOpenFile (download : Download) (errCode : Int) (errString : String)
    (io : FileIo) : Download :=
  if errCode = Err.noError then
    download.follow (TaskScheduler.remoteSuccessOpenFile download.viewer
      (download.destination.getD []) io)
  else
    { download with
      viewer := TaskScheduler.remoteFailureOpenFile download.viewer errCode errString }

def handleResponseOfReadFileBlock (download : Download) (errCode : Int) (errString : String)
    (seek : Nat) (data : List UInt8) (io : FileIo) : Download :=
  if errCode ≠ Err.noError then
    download.follow (TaskScheduler.failureReadRemoteFileBlock download.viewer errCode errString)
  else if ¬ io.unpacked then
    download.follow (TaskScheduler.failureReadRemoteFileBlock download.viewer
      Err.operateFailed "uncompress failed")
  else
    match TaskScheduler.successReadRemoteFileBlock download.viewer seek data
      (download.destination.getD []) io with
    | (after, written, remotes) =>
        { download with destination := download.destination.map fun _ => written }.follow
          (after, remotes)

end

end Download

/-- `lose` leaves what is not lost of either direction. -/
inductive DownloadEvent where
  | stop
  | resume
  | exec (idle : Bool) (io : FileIo)
  | partnerExec (idle : Bool) (io : FileIo)
  | guardReceives (io : FileIo)
  | viewerReceives (io : FileIo)
  | lose (toGuard : List DownloadRequest) (toViewer : List DownloadResponse)
  deriving DecidableEq, Repr

def downloadStep (source : List UInt8) (download : Download) (event : DownloadEvent) :
    Option Download :=
  match event with
  | .stop => some (download.follow (TaskScheduler.stopTask download.viewer))
  | .resume => some { download with viewer := TaskScheduler.resumeTask download.viewer }
  | .exec idle io =>
      match TaskScheduler.exec download.viewer download.destination idle io with
      | (none, _, _) => none
      | (some task, destination, remotes) =>
          some ({ download with destination := destination }.follow (task, remotes))
  | .partnerExec idle io =>
      match download.partner with
      | none => none
      | some task =>
          match TaskScheduler.exec task (some source) idle io with
          | (after, _, _) => some { download with partner := after }
  | .guardReceives io =>
      match download.toGuard with
      | [] => none
      | message :: rest =>
          let received := { download with toGuard := rest }
          match message with
          | .openFile seq seek force =>
              some (received.handleCommandOfOpenFile source seq seek force io)
          | .readFileBlock seek length =>
              some (received.handleCommandOfReadFile source seek length io)
          | .closeFile => some received.handleCommandOfCloseFile
  | .viewerReceives io =>
      match download.toViewer with
      | [] => none
      | message :: rest =>
          let received := { download with toViewer := rest }
          match message with
          | .openFile _ errCode errString =>
              some (received.handleResponseOfOpenFile errCode errString io)
          | .readFileBlock errCode errString seek data =>
              some (received.handleResponseOfReadFileBlock errCode errString seek data io)
  | .lose toGuard toViewer =>
      if toGuard.Sublist download.toGuard ∧ toViewer.Sublist download.toViewer then
        some { download with toGuard := toGuard, toViewer := toViewer }
      else none

def initialDownload (overrideFile : Bool) (destination : Option (List UInt8)) : Download where
  viewer := {
    starter := .self
    action := .read
    state := .waitingForStart
    overrideFile := overrideFile }
  destination := destination

end EasyViewer
