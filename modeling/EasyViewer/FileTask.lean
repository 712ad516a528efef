import EasyViewer.Define

/-!
`TaskPrivate` of the file transfer: the task's open file in the mode that `initIO`
chooses, and reading and writing by blocks as C stdio does it. A file is the list of its
bytes, and `FileIo` is what the library calls under one operation return.
-/

namespace EasyViewer

inductive TaskState where
  | waitingForStart
  | preparing
  | transmitting
  | stoped
  | finished
  | failed
  deriving DecidableEq, Repr

inductive Action where
  | write
  | read
  deriving DecidableEq, Repr

inductive Starter where
  | self
  | partner
  deriving DecidableEq, Repr

inductive OpenMode where
  | rb
  | ab
  | wb
  deriving DecidableEq, Repr

/-- A read that comes short sets the end-of-file indicator, and a seek clears it. -/
structure OpenFile where
  mode : OpenMode
  position : Nat := 0
  eof : Bool := false
  deriving DecidableEq, Repr

structure FileTask where
  starter : Starter
  action : Action
  state : TaskState
  progress : Nat := 0
  fp : Option OpenFile := none
  error : Int := 0
  reason : String := ""
  overrideFile : Bool := false
  deriving DecidableEq, Repr

/-- `fread` is the number of bytes before a read error, `fwrites` are the successive results
of `fwrite` (full ones after the last), `fflush` is how much of a block is kept when flushing
fails; `packed` and `unpacked` are the results of zlib. -/
structure FileIo where
  opened : Bool := true
  sought : Bool := true
  fread : Option Nat := none
  fwrites : List Nat := []
  fflush : Option Nat := none
  packed : Bool := true
  unpacked : Bool := true
  deriving DecidableEq, Repr

def FileIo.wanted (io : FileIo) (length : Nat) : Nat :=
  match io.fread with
  | none => length
  | some count => min count length

def blockSize : Nat := 65536

namespace OpenFile

/-- Once the end was met nothing more is read until a seek, even if the file has grown. -/
def fread (fp : OpenFile) (file : List UInt8) (length : Nat) : List UInt8 :=
  if fp.eof then [] else (file.drop fp.position).take length

/-- In append mode every write goes to the end; a gap before the position reads as zeros. -/
def fwrite (fp : OpenFile) (file data : List UInt8) : OpenFile × List UInt8 :=
  match fp.mode with
  | .rb => (fp, file)
  | .ab => ({ fp with position := file.length + data.length }, file ++ data)
  | .wb =>
      ({ fp with position := fp.position + data.length },
        file.take fp.position ++ List.replicate (fp.position - file.length) 0 ++ data ++
          file.drop (fp.position + data.length))

def fwriteAll (fp : OpenFile) (file data : List UInt8) : List Nat → Bool × OpenFile × List UInt8
  | [] => if data.isEmpty then (false, fp, file) else (true, fp.fwrite file data)
  | count :: counts =>
      let taken := min count data.length
      if taken = 0 then (false, fp, file)
      else
        let (after, written) := fp.fwrite file (data.take taken)
        if taken = data.length then (true, after, written)
        else after.fwriteAll written (data.drop taken) counts

end OpenFile

namespace FileTask

/-- Whether the task reads its local file and writes the remote one. -/
def readsLocally (task : FileTask) : Bool :=
  task.starter = .self ∧ task.action = .write ∨ task.starter = .partner ∧ task.action = .read

def seek (task : FileTask) (position : Nat) (io : FileIo) : (Int × String) × FileTask :=
  if io.sought then
    ((Err.noError, ""),
      { task with fp := task.fp.map fun fp => { fp with position := position, eof := false } })
  else ((Err.operateFailed, "failed to set the file position indicator"), task)

def initIo (task : FileTask) (file : Option (List UInt8)) (force : Bool) (io : FileIo) :
    (Int × String) × FileTask × Option (List UInt8) :=
  if task.fp.isSome then ((Err.noError, ""), task, file)
  else
    let mode : OpenMode :=
      if task.readsLocally then .rb else if task.progress ≠ 0 then .ab else .wb
    if ¬ task.readsLocally ∧ ¬ force ∧ file.isSome then
      ((Err.fileAlreadyExists, formatError Err.fileAlreadyExists), task, file)
    else if ¬ io.opened ∨ (mode = .rb ∧ file.isNone) then
      ((Err.operateFailed, "open file failed"), task, file)
    else
      let opened := { task with fp := some { mode := mode } }
      let after :=
        match mode with
        | .rb => file
        | .ab => some (file.getD [])
        | .wb => some []
      if task.progress ≠ 0 then
        let (err, sought) := opened.seek task.progress io
        (err, sought, after)
      else ((Err.noError, ""), opened, after)

def closeIo (task : FileTask) : FileTask := { task with fp := none }

def moveTo (task : FileTask) (position : Nat) (io : FileIo) : (Int × String) × FileTask :=
  if position = task.progress then ((Err.noError, ""), task)
  else
    match task.seek position io with
    | ((err, reason), sought) =>
        if err = Err.noError then ((err, reason), { sought with progress := position })
        else ((err, reason), sought)

/-- A block that is not taken closes the file, and is no error. -/
def write (task : FileTask) (position : Nat) (data file : List UInt8) (io : FileIo) :
    (Int × String) × FileTask × List UInt8 :=
  if task.fp.isNone then ((Err.fileClosed, formatError Err.fileClosed), task, file)
  else
    match task.moveTo position io with
    | ((err, reason), moved) =>
        if err ≠ Err.noError then ((err, reason), moved, file)
        else
          match moved.fp with
          | none => ((Err.fileClosed, formatError Err.fileClosed), moved, file)
          | some fp =>
              match fp.fwriteAll file data io.fwrites with
              | (false, _, written) =>
                  ((Err.noError, "write file failed"), moved.closeIo, written)
              | (true, after, written) =>
                  let flushed :=
                    match io.fflush with
                    | none => written
                    | some kept => (fp.fwrite file (data.take kept)).2
                  ((Err.noError, ""),
                    { moved with fp := some after, progress := moved.progress + data.length },
                    flushed)

def read (task : FileTask) (position length : Nat) (file : List UInt8) (io : FileIo) :
    (Int × String) × List UInt8 × FileTask :=
  if task.fp.isNone then ((Err.fileClosed, formatError Err.fileClosed), [], task)
  else
    match task.moveTo position io with
    | ((err, reason), moved) =>
        if err ≠ Err.noError then ((err, reason), [], moved)
        else
          match moved.fp with
          | none => ((Err.fileClosed, formatError Err.fileClosed), [], moved)
          | some fp =>
              let data := fp.fread file (io.wanted length)
              let after := { fp with
                position := fp.position + data.length
                eof := fp.eof || data.length < io.wanted length }
              if data.isEmpty then
                let err := if after.eof then Err.endOfFile else Err.operateFailed
                ((err, formatError err), [], { moved with fp := some after })
              else
                ((Err.noError, ""), data, { moved with
                  fp := some after
                  progress := moved.progress + data.length })

end FileTask

end EasyViewer
