import EasyViewer.FileTransfer
import EasyViewer.TaskEffects

/-!
Uploads that arrive whole. Three things can go wrong unnoticed: a block that the partner's
disk does not take, a resume that continues behind the end of what is there, and an
answer to an earlier request to open. In runs without them the sender's progress, the
message in flight and the partner's file go together.
-/

namespace EasyViewer

/-- Of the blocks that come as far as the partner's open file, those that are taken are flushed,
and the last one is taken. -/
def WritesWhole (source : List UInt8) (transfer : Transfer) (event : TransferEvent) : Prop :=
  ∀ io seek data rest task, event = .guardReceives io →
    transfer.toGuard = .writeFileBlock seek data :: rest → io.unpacked = true →
    transfer.partner = some task → task.state = .transmitting → task.fp.isSome = true →
    (seek = task.progress ∨ io.sought = true) →
    (io.takes data.length = true → io.flushes data.length = true) ∧
      (seek + data.length = source.length → io.takes data.length = true)

/-- A file that is opened to be continued holds the source up to there. -/
def ContinuesSource (source : List UInt8) (transfer : Transfer) (event : TransferEvent) : Prop :=
  ∀ io seq seek force rest, event = .guardReceives io →
    transfer.toGuard = .openFile seq seek force :: rest → seek ≠ 0 → io.opened = true →
    io.sought = true → (force = true ∨ transfer.destination = none) →
    transfer.destination.getD [] = source.take seek

/-- The success answer that a preparing task takes answers its latest request to open. -/
def AnswersLatest (transfer : Transfer) (event : TransferEvent) : Prop :=
  ∀ io seq errString rest, event = .viewerReceives io →
    transfer.toViewer = .openFile seq Err.noError errString :: rest →
    transfer.viewer.state = .preparing → seq = transfer.seq

def KeepsInStep (source : List UInt8) (transfer : Transfer) (event : TransferEvent) : Prop :=
  WritesWhole source transfer event ∧ ContinuesSource source transfer event ∧
    AnswersLatest transfer event

def GuardMessage.Opens (number : Nat) : GuardMessage → Prop
  | .openFile seq _ _ => seq = number
  | _ => False

def ViewerMessage.Answers (number : Nat) : ViewerMessage → Prop
  | .openFile seq _ _ => seq = number
  | _ => False

/-- The file holds the source up to the offset, and the partner is ready to go on there. -/
structure InPlace (source : List UInt8) (transfer : Transfer) (offset : Nat) : Prop where
  content : transfer.destination = some (source.take offset)
  aligned : ∀ task, transfer.partner = some task → task.state = .transmitting →
    task.progress = offset ∧ ∀ fp, task.fp = some fp → fp.AtEnd (source.take offset)

/-- A block was not taken: the partner's file is closed, with more of the source to come. -/
structure GivenUp (source : List UInt8) (transfer : Transfer) (offset : Nat) : Prop where
  more : offset < source.length
  closed : ∀ task, transfer.partner = some task → task.state = .transmitting → task.fp = none

def Reached (source : List UInt8) (transfer : Transfer) (offset : Nat) : Prop :=
  InPlace source transfer offset ∨ GivenUp source transfer offset

/-- The viewer's task keeps its role and reads where its progress says, and no message bears a
number that is yet to come. -/
structure Steady (source : List UInt8) (transfer : Transfer) : Prop where
  self : transfer.viewer.starter = .self
  uploads : transfer.viewer.action = .write
  stands : transfer.viewer.state ≠ .failed →
    ∀ fp, transfer.viewer.fp = some fp → fp.Reads source transfer.viewer.progress
  hosted : ∀ task, transfer.partner = some task → task.state ≠ .waitingForStart
  requested : ∀ number, transfer.seq < number →
    ∀ message ∈ transfer.toGuard, ¬ message.Opens number
  answered : ∀ number, transfer.seq < number →
    ∀ message ∈ transfer.toViewer, ¬ message.Answers number

/-- The latest request to open is the last message to the guard or answered by the last message
to the viewer, and with a success answer the partner is ready at the progress. -/
structure Preparing (source : List UInt8) (transfer : Transfer) : Prop where
  request : ∀ message ∈ transfer.toGuard, message.Opens transfer.seq →
    ∃ force, message = .openFile transfer.seq transfer.viewer.progress force
  lastRequest : Channel.OnlyLast (GuardMessage.Opens transfer.seq) transfer.toGuard
  lastAnswer : Channel.OnlyLast (ViewerMessage.Answers transfer.seq) transfer.toViewer
  alone : ∀ message ∈ transfer.toViewer, message.Answers transfer.seq → transfer.toGuard = []
  ready : ∀ errString, ViewerMessage.openFile transfer.seq Err.noError errString ∈
    transfer.toViewer → InPlace source transfer transfer.viewer.progress

/-- One block is on its way, or its answer is. -/
structure Transmitting (source : List UInt8) (transfer : Transfer) : Prop where
  single : transfer.toGuard.length + transfer.toViewer.length ≤ 1
  writing : ∀ message ∈ transfer.toGuard, ∃ offset data,
    message = .writeFileBlock offset data ∧ data ≠ [] ∧
      data = (source.drop offset).take data.length ∧
      transfer.viewer.progress = offset + data.length ∧ Reached source transfer offset
  written : ∀ errString offset,
    ViewerMessage.writeFileBlock Err.noError errString offset ∈ transfer.toViewer →
      Reached source transfer offset

structure Finished (source : List UInt8) (transfer : Transfer) : Prop where
  content : transfer.destination = some source
  closing : ∀ message ∈ transfer.toGuard, message = .closeFile

structure InStep (source : List UInt8) (transfer : Transfer) : Prop where
  steady : Steady source transfer
  preparing : transfer.viewer.state = .preparing → Preparing source transfer
  transmitting : transfer.viewer.state = .transmitting → Transmitting source transfer
  finished : transfer.viewer.state = .finished → Finished source transfer

section

variable {source : List UInt8} {transfer : Transfer} {io : FileIo}

theorem Reached.congr {next : Transfer} {offset : Nat} (reached : Reached source transfer offset)
    (partner : next.partner = transfer.partner)
    (destination : next.destination = transfer.destination) : Reached source next offset := by
  rcases reached with inPlace | givenUp
  · exact Or.inl ⟨destination.trans inPlace.content, by rw [partner]; exact inPlace.aligned⟩
  · exact Or.inr ⟨givenUp.more, by rw [partner]; exact givenUp.closed⟩

namespace Transfer

theorem follow_packed {task : FileTask} {offset : Nat} {data : List UInt8}
    (packed : io.packed = true) :
    transfer.follow io (task, [.writeFileBlock offset data]) =
      { transfer with viewer := task }.send (.writeFileBlock offset data) :=
  if_pos packed

theorem follow_unpacked {task : FileTask} {offset : Nat} {data : List UInt8}
    (unpacked : ¬ io.packed = true) (self : task.starter = .self)
    (transmitting : task.state = .transmitting) :
    transfer.follow io (task, [.writeFileBlock offset data]) =
      { transfer with viewer := { task with
        state := .failed
        fp := none
        error := Err.operateFailed
        reason := "compress data failed" } }.send .closeFile := by
  have ends : TaskScheduler.failureWriteRemoteFileBlock task Err.operateFailed
      "compress data failed" = _ :=
    if_neg (not_or_intro (not_not_intro self) (not_not_intro transmitting))
  change { transfer with viewer := task }.whenTaskRemote io (.writeFileBlock offset data) = _
  simp only [whenTaskRemote, if_neg unpacked, ends]
  rfl

theorem handleCommandOfWriteFile_answers (transfer : Transfer) (seek : Nat) (data : List UInt8)
    (io : FileIo)
    (hosted : ∀ task, transfer.partner = some task → task.state ≠ .waitingForStart) :
    ∃ partner destination err reason,
      transfer.handleCommandOfWriteFile seek data io =
        { transfer with partner := partner, destination := destination }.answer
          (.writeFileBlock err reason (if err = Err.noError then seek + data.length else 0)) ∧
      (∀ task, partner = some task → task.state ≠ .waitingForStart) ∧
      (err = Err.noError → io.unpacked = true ∧ ∃ task, transfer.partner = some task ∧
        task.state = .transmitting ∧
        (task.write seek data (transfer.destination.getD []) io).1.1 = Err.noError ∧
        partner = some (task.write seek data (transfer.destination.getD []) io).2.1 ∧
        destination = transfer.destination.map fun _ =>
          (task.write seek data (transfer.destination.getD []) io).2.2) := by
  simp only [handleCommandOfWriteFile]
  by_cases unpacked : io.unpacked = true
  · rw [if_neg (not_not_intro unpacked)]
    cases isPartner : transfer.partner with
    | none =>
        refine ⟨none, transfer.destination, Err.operateFailed, "The task does not exist", ?_, ?_, ?_⟩
        · rw [if_neg (by decide)]
          simp only [isPartner, answer]
        · intro task absent
          cases absent
        · exact fun impossible => absurd impossible (by decide)
    | some task =>
        have kept := TaskScheduler.writeLocalFileBlock_state task seek data
          (transfer.destination.getD []) io
        generalize result : TaskScheduler.writeLocalFileBlock task seek data
          (transfer.destination.getD []) io = outcome at kept
        obtain ⟨⟨err, reason⟩, after, contents, remotes⟩ := outcome
        refine ⟨some after, transfer.destination.map fun _ => contents, err, reason, ?_, ?_, ?_⟩
        · simp only [result]
        · rintro next ⟨⟩
          rcases kept with same | failed
          · rw [same]
            exact hosted task isPartner
          · rw [failed]
            decide
        · rintro rfl
          obtain ⟨transmitting, written, becomes, contains⟩ :=
            TaskScheduler.writeLocalFileBlock_writes (congrArg (fun outcome => outcome.1.1) result)
          rw [result] at becomes contains
          exact ⟨unpacked, task, rfl, transmitting, written, by rw [← becomes], by rw [← contains]⟩
  · rw [if_pos unpacked]
    refine ⟨transfer.partner, transfer.destination, Err.operateFailed, "uncompress data failed", ?_,
      hosted, fun impossible => absurd impossible (by decide)⟩
    rw [if_neg (by decide)]

end Transfer

/-- A block at the offset that the partner's task writes moves the place behind it, or closes the
partner's file. -/
theorem Reached.writes {next : Transfer} {task : FileTask} {seek : Nat} {data : List UInt8}
    (reached : Reached source transfer seek) (isPartner : transfer.partner = some task)
    (transmitting : task.state = .transmitting) (nonempty : data ≠ [])
    (block : data = (source.drop seek).take data.length)
    (whole : task.fp.isSome = true → task.progress = seek →
      (io.takes data.length = true → io.flushes data.length = true) ∧
        (seek + data.length = source.length → io.takes data.length = true))
    (written : (task.write seek data (transfer.destination.getD []) io).1.1 = Err.noError)
    (becomes : next.partner = some (task.write seek data (transfer.destination.getD []) io).2.1)
    (contains : next.destination = transfer.destination.map fun _ =>
      (task.write seek data (transfer.destination.getD []) io).2.2) :
    Reached source next (seek + data.length) := by
  rcases reached with inPlace | givenUp
  · cases isOpen : task.fp with
    | none =>
        rw [FileTask.write_closed isOpen] at written
        cases written
    | some fp =>
        obtain ⟨here, positioned⟩ := inPlace.aligned task isPartner transmitting
        obtain ⟨flushes, last⟩ := whole (by rw [isOpen]; rfl) here
        cases takes : io.takes data.length with
        | true =>
            obtain ⟨after, result, atEnd⟩ :=
              FileTask.write_atEnd isOpen here (positioned fp isOpen) takes (flushes takes)
            have longer : source.take seek ++ data = source.take (seek + data.length) := by
              rw [List.take_add, ← block]
            rw [inPlace.content, Option.getD_some, result] at becomes
            rw [inPlace.content, Option.getD_some, result, Option.map_some, longer] at contains
            rw [longer] at atEnd
            refine Or.inl ⟨contains, ?_⟩
            intro partner listed _
            rw [becomes] at listed
            cases listed
            refine ⟨rfl, ?_⟩
            rintro opened ⟨⟩
            exact atEnd
        | false =>
            refine Or.inr ⟨?_, ?_⟩
            · have short : data.length ≤ source.length - seek := by
                rw [block, List.length_take, List.length_drop]
                exact Nat.min_le_right _ _
              have some : 0 < data.length := List.length_pos_iff.mpr nonempty
              have early : seek + data.length ≠ source.length := by
                intro ends
                rw [last ends] at takes
                contradiction
              omega
            · intro partner listed _
              rw [becomes] at listed
              cases listed
              exact FileTask.write_gives_up takes written
  · rw [FileTask.write_closed (givenUp.closed task isPartner transmitting)] at written
    cases written

namespace Steady

theorem lose {toGuard : List GuardMessage} {toViewer : List ViewerMessage}
    (steady : Steady source transfer) (fewerRequests : toGuard.Sublist transfer.toGuard)
    (fewerAnswers : toViewer.Sublist transfer.toViewer) :
    Steady source { transfer with toGuard := toGuard, toViewer := toViewer } where
  self := steady.self
  uploads := steady.uploads
  stands := steady.stands
  hosted := steady.hosted
  requested number later message listed :=
    steady.requested number later message (fewerRequests.subset listed)
  answered number later message listed :=
    steady.answered number later message (fewerAnswers.subset listed)

theorem send {message : GuardMessage} (steady : Steady source transfer)
    (known : ∀ number, transfer.seq < number → ¬ message.Opens number) :
    Steady source (transfer.send message) := by
  refine ⟨steady.self, steady.uploads, steady.stands, steady.hosted, ?_, steady.answered⟩
  intro number later request listed
  rcases List.mem_append.mp listed with earlier | last
  · exact steady.requested number later request earlier
  · rw [List.mem_singleton.mp last]
    exact known number later

theorem answer {message : ViewerMessage} (steady : Steady source transfer)
    (known : ∀ number, transfer.seq < number → ¬ message.Answers number) :
    Steady source (transfer.answer message) := by
  refine ⟨steady.self, steady.uploads, steady.stands, steady.hosted, steady.requested, ?_⟩
  intro number later reply listed
  rcases List.mem_append.mp listed with earlier | last
  · exact steady.answered number later reply earlier
  · rw [List.mem_singleton.mp last]
    exact known number later

theorem withViewer {task : FileTask} (steady : Steady source transfer) (self : task.starter = .self)
    (uploads : task.action = .write)
    (stands : task.state ≠ .failed →
      ∀ fp, task.fp = some fp → fp.Reads source task.progress) :
    Steady source { transfer with viewer := task } :=
  ⟨self, uploads, stands, steady.hosted, steady.requested, steady.answered⟩

theorem withPartner {partner : Option FileTask} {destination : Option (List UInt8)}
    (steady : Steady source transfer)
    (hosted : ∀ task, partner = some task → task.state ≠ .waitingForStart) :
    Steady source { transfer with partner := partner, destination := destination } :=
  ⟨steady.self, steady.uploads, steady.stands, hosted, steady.requested, steady.answered⟩

theorem inStep (steady : Steady source transfer)
    (pausing : transfer.viewer.state = .waitingForStart ∨ transfer.viewer.state = .stoped ∨
      transfer.viewer.state = .failed) : InStep source transfer := by
  refine ⟨steady, ?_, ?_, ?_⟩ <;> intro current <;> simp [current] at pausing

end Steady

namespace Preparing

theorem unanswered {message : GuardMessage} {rest : List GuardMessage}
    (preparing : Preparing source transfer) (waiting : transfer.toGuard = message :: rest) :
    ∀ reply ∈ transfer.toViewer, ¬ reply.Answers transfer.seq := by
  intro reply listed answers
  have none := preparing.alone reply listed answers
  rw [waiting] at none
  cases none

theorem passes {next : Transfer} {message : GuardMessage}
    (preparing : Preparing source transfer) (waiting : transfer.toGuard = message :: next.toGuard)
    (viewer : next.viewer = transfer.viewer) (seq : next.seq = transfer.seq)
    (unanswered : ∀ reply ∈ next.toViewer, ¬ reply.Answers transfer.seq) :
    Preparing source next := by
  have requests := preparing.request
  have last := preparing.lastRequest
  rw [waiting] at requests last
  refine ⟨?_, ?_, ?_, ?_, ?_⟩
  · rw [viewer, seq]
    exact fun request listed => requests request (List.mem_cons_of_mem _ listed)
  · rw [seq]
    exact last.receive
  · rw [seq]
    exact Channel.OnlyLast.of_absent unanswered
  · rw [seq]
    exact fun reply listed answers => absurd answers (unanswered reply listed)
  · rw [seq]
    exact fun errString listed => absurd rfl (unanswered _ listed)

theorem lose {toGuard : List GuardMessage} {toViewer : List ViewerMessage}
    (preparing : Preparing source transfer) (fewerRequests : toGuard.Sublist transfer.toGuard)
    (fewerAnswers : toViewer.Sublist transfer.toViewer) :
    Preparing source { transfer with toGuard := toGuard, toViewer := toViewer } where
  request message listed := preparing.request message (fewerRequests.subset listed)
  lastRequest := preparing.lastRequest.lose fewerRequests
  lastAnswer := preparing.lastAnswer.lose fewerAnswers
  alone message listed answers := by
    have none := preparing.alone message (fewerAnswers.subset listed) answers
    rw [none] at fewerRequests
    exact List.sublist_nil.mp fewerRequests
  ready errString listed :=
    have inPlace := preparing.ready errString (fewerAnswers.subset listed)
    ⟨inPlace.content, inPlace.aligned⟩

end Preparing

namespace Transmitting

theorem quiet {message : GuardMessage} {rest : List GuardMessage}
    (transmitting : Transmitting source transfer) (waiting : transfer.toGuard = message :: rest) :
    rest = [] ∧ transfer.toViewer = [] := by
  have single := transmitting.single
  rw [waiting, List.length_cons] at single
  exact ⟨List.length_eq_zero_iff.mp (by omega), List.length_eq_zero_iff.mp (by omega)⟩

theorem silent {message : ViewerMessage} {rest : List ViewerMessage}
    (transmitting : Transmitting source transfer) (waiting : transfer.toViewer = message :: rest) :
    rest = [] ∧ transfer.toGuard = [] := by
  have single := transmitting.single
  rw [waiting, List.length_cons] at single
  exact ⟨List.length_eq_zero_iff.mp (by omega), List.length_eq_zero_iff.mp (by omega)⟩

theorem lose {toGuard : List GuardMessage} {toViewer : List ViewerMessage}
    (transmitting : Transmitting source transfer)
    (fewerRequests : toGuard.Sublist transfer.toGuard)
    (fewerAnswers : toViewer.Sublist transfer.toViewer) :
    Transmitting source { transfer with toGuard := toGuard, toViewer := toViewer } where
  single := by
    have single := transmitting.single
    have fewer := fewerRequests.length_le
    have replies := fewerAnswers.length_le
    show toGuard.length + toViewer.length ≤ 1
    omega
  writing message listed := by
    obtain ⟨offset, data, isBlock, nonempty, block, ahead, reached⟩ :=
      transmitting.writing message (fewerRequests.subset listed)
    exact ⟨offset, data, isBlock, nonempty, block, ahead, reached.congr rfl rfl⟩
  written errString offset listed :=
    (transmitting.written errString offset (fewerAnswers.subset listed)).congr rfl rfl

end Transmitting

namespace InStep

theorem lose {toGuard : List GuardMessage} {toViewer : List ViewerMessage}
    (inStep : InStep source transfer) (fewerRequests : toGuard.Sublist transfer.toGuard)
    (fewerAnswers : toViewer.Sublist transfer.toViewer) :
    InStep source { transfer with toGuard := toGuard, toViewer := toViewer } where
  steady := inStep.steady.lose fewerRequests fewerAnswers
  preparing current := (inStep.preparing current).lose fewerRequests fewerAnswers
  transmitting current := (inStep.transmitting current).lose fewerRequests fewerAnswers
  finished current :=
    have finished := inStep.finished current
    ⟨finished.content,
      fun message listed => finished.closing message (fewerRequests.subset listed)⟩

/-- With nothing in flight and the partner ready at the offset, the next block is sent or the
task is over. -/
theorem goes_on {offset : Nat} (steady : Steady source transfer)
    (transmitting : transfer.viewer.state = .transmitting) (quiet : transfer.toGuard = [])
    (silent : transfer.toViewer = []) (reached : Reached source transfer offset) :
    InStep source (transfer.follow io
      (TaskScheduler.successWriteRemoteFileBlock transfer.viewer offset source io)) := by
  have stands := steady.stands (by simp [transmitting])
  rcases @TaskScheduler.successWriteRemoteFileBlock_cases transfer.viewer io offset source
    steady.self steady.uploads transmitting stands with
    ⟨after, result, self, uploads, closed, ended⟩ |
    ⟨data, fp, result, ready, nonempty, block⟩
  · rw [result]
    have closes : Steady source ({ transfer with viewer := after }.send .closeFile) := by
      refine (steady.withViewer self uploads ?_).send fun _ _ => id
      intro _ fp isOpen
      rw [closed] at isOpen
      cases isOpen
    rcases ended with failed | ⟨finished, nothing⟩
    · exact closes.inStep (Or.inr (Or.inr failed))
    · refine ⟨closes, ?_, ?_, fun _ => ⟨?_, ?_⟩⟩
      · exact fun current => absurd (finished.symm.trans current) (by decide)
      · exact fun current => absurd (finished.symm.trans current) (by decide)
      · rcases reached with inPlace | givenUp
        · have whole := List.take_append_drop offset source
          rw [nothing, List.append_nil] at whole
          exact inPlace.content.trans (congrArg some whole)
        · exact absurd (List.drop_eq_nil_iff.mp nothing) (Nat.not_le.mpr givenUp.more)
      · intro message listed
        change message ∈ transfer.toGuard ++ [.closeFile] at listed
        rw [quiet] at listed
        exact List.mem_singleton.mp listed
  · rw [result]
    have running : Steady source { transfer with
        viewer := { transfer.viewer with fp := some fp, progress := offset + data.length } } := by
      refine steady.withViewer steady.self steady.uploads ?_
      rintro _ opened ⟨⟩
      exact ready
    by_cases packed : io.packed = true
    · rw [Transfer.follow_packed packed]
      refine ⟨running.send fun _ _ => id, ?_, fun _ => ⟨?_, ?_, ?_⟩, ?_⟩
      · exact fun current => absurd (transmitting.symm.trans current) (by decide)
      · change (transfer.toGuard ++ [_]).length + transfer.toViewer.length ≤ 1
        rw [quiet, silent]
        exact Nat.le_refl 1
      · intro message listed
        change message ∈ transfer.toGuard ++ [_] at listed
        rw [quiet] at listed
        exact ⟨offset, data, List.mem_singleton.mp listed, nonempty, block, rfl,
          reached.congr rfl rfl⟩
      · intro errString reached listed
        change _ ∈ transfer.toViewer at listed
        rw [silent] at listed
        cases listed
      · exact fun current => absurd (transmitting.symm.trans current) (by decide)
    · rw [Transfer.follow_unpacked packed (by exact steady.self) (by exact transmitting)]
      refine Steady.inStep (Steady.send (steady.withViewer steady.self steady.uploads ?_)
        fun _ _ => id) (Or.inr (Or.inr rfl))
      exact fun current => absurd rfl current

theorem handleCommandOfOpenFile_inPlace {seq seek : Nat} {force : Bool}
    (continues : seek ≠ 0 → io.opened = true → io.sought = true →
      (force = true ∨ transfer.destination = none) →
      transfer.destination.getD [] = source.take seek)
    (opens : (TaskScheduler.addTaskPassively .write seek force transfer.destination io).1.1 =
      Err.noError) :
    InPlace source (transfer.handleCommandOfOpenFile seq seek force io) seek := by
  obtain ⟨task, fp, adds, here, isOpen, written⟩ := TaskScheduler.addTaskPassively_opens opens
  have content : (transfer.handleCommandOfOpenFile seq seek force io).destination =
      some (source.take seek) := by
    change (TaskScheduler.addTaskPassively .write seek force transfer.destination io).2.2 = _
    rcases written with ⟨rfl, truncated, _⟩ | ⟨ahead, appended, _, opened, sought, forced⟩
    · exact truncated
    · rw [appended, continues ahead opened sought forced]
  refine ⟨content, ?_⟩
  intro added listed _
  have same : task = added := Option.some.inj (adds.symm.trans listed)
  subst same
  refine ⟨here, fun file listedFile => ?_⟩
  have sameFile : fp = file := Option.some.inj (isOpen.symm.trans listedFile)
  subst sameFile
  rcases written with ⟨rfl, _, atEnd⟩ | ⟨_, _, append, _⟩
  · exact atEnd
  · exact Or.inl append

theorem guardReceives_openFile {seq seek : Nat} {force : Bool} {rest : List GuardMessage}
    (inStep : InStep source transfer)
    (waiting : transfer.toGuard = .openFile seq seek force :: rest)
    (continues : seek ≠ 0 → io.opened = true → io.sought = true →
      (force = true ∨ transfer.destination = none) →
      transfer.destination.getD [] = source.take seek) :
    InStep source
      ({ transfer with toGuard := rest }.handleCommandOfOpenFile seq seek force io) := by
  have received : InStep source { transfer with toGuard := rest } :=
    inStep.lose (Channel.rest_sublist waiting) (List.Sublist.refl _)
  have known : seq ≤ transfer.seq := by
    by_contra later
    exact inStep.steady.requested seq (Nat.lt_of_not_le later) (.openFile seq seek force)
      (Channel.head_mem waiting) rfl
  refine ⟨?_, fun current => ?_, fun current => ?_, fun current => ?_⟩
  · refine Steady.answer (received.steady.withPartner ?_) ?_
    · intro task added
      rw [TaskScheduler.addTaskPassively_state added]
      decide
    · rintro number later rfl
      exact absurd known (Nat.not_le.mpr later)
  · have preparing := inStep.preparing current
    have unanswered := preparing.unanswered waiting
    by_cases latest : seq = transfer.seq
    · subst latest
      have last := preparing.lastRequest
      rw [waiting] at last
      have alone : rest = [] := last.alone rfl
      obtain ⟨asked, request⟩ := preparing.request (.openFile transfer.seq seek force)
        (Channel.head_mem waiting) rfl
      injection request with _ here _
      refine ⟨?_, ?_, ?_, ?_, ?_⟩
      · intro message listed
        change message ∈ rest at listed
        rw [alone] at listed
        cases listed
      · change Channel.OnlyLast _ rest
        exact last.receive
      · exact Channel.OnlyLast.send _ unanswered
      · exact fun _ _ _ => alone
      · intro errString listed
        rcases List.mem_append.mp listed with earlier | answer
        · exact absurd rfl (unanswered _ earlier)
        · injection List.mem_singleton.mp answer with _ succeeds _
          change InPlace source _ transfer.viewer.progress
          rw [← here]
          exact handleCommandOfOpenFile_inPlace continues succeeds.symm
    · refine preparing.passes waiting rfl rfl ?_
      intro reply listed
      rcases List.mem_append.mp listed with earlier | answer
      · exact unanswered reply earlier
      · rw [List.mem_singleton.mp answer]
        exact latest
  · obtain ⟨_, _, isBlock, _⟩ := (inStep.transmitting current).writing (.openFile seq seek force)
      (Channel.head_mem waiting)
    cases isBlock
  · have closing := (inStep.finished current).closing (.openFile seq seek force)
      (Channel.head_mem waiting)
    cases closing

theorem guardReceives_closeFile {rest : List GuardMessage} (inStep : InStep source transfer)
    (waiting : transfer.toGuard = .closeFile :: rest) :
    InStep source { transfer with toGuard := rest }.handleCommandOfCloseFile := by
  have received : InStep source { transfer with toGuard := rest } :=
    inStep.lose (Channel.rest_sublist waiting) (List.Sublist.refl _)
  refine ⟨received.steady.withPartner ?_, fun current => ?_, fun current => ?_, fun current => ?_⟩
  · exact fun _ absent => nomatch absent
  · have preparing := inStep.preparing current
    exact preparing.passes waiting rfl rfl (preparing.unanswered waiting)
  · obtain ⟨_, _, isBlock, _⟩ := (inStep.transmitting current).writing .closeFile
      (Channel.head_mem waiting)
    cases isBlock
  · have finished := received.finished current
    exact ⟨finished.content, finished.closing⟩

theorem guardReceives_writeFileBlock {seek : Nat} {data : List UInt8} {rest : List GuardMessage}
    (inStep : InStep source transfer)
    (waiting : transfer.toGuard = .writeFileBlock seek data :: rest)
    (whole : ∀ task, io.unpacked = true → transfer.partner = some task →
      task.state = .transmitting → task.fp.isSome = true → task.progress = seek →
      (io.takes data.length = true → io.flushes data.length = true) ∧
        (seek + data.length = source.length → io.takes data.length = true)) :
    InStep source ({ transfer with toGuard := rest }.handleCommandOfWriteFile seek data io) := by
  have received : InStep source { transfer with toGuard := rest } :=
    inStep.lose (Channel.rest_sublist waiting) (List.Sublist.refl _)
  obtain ⟨partner, destination, err, reason, answers, hosted, writes⟩ :=
    { transfer with toGuard := rest }.handleCommandOfWriteFile_answers seek data io
      received.steady.hosted
  rw [answers]
  refine ⟨(received.steady.withPartner hosted).answer fun _ _ => id, fun current => ?_,
    fun current => ?_, fun current => ?_⟩
  · have preparing := inStep.preparing current
    refine preparing.passes waiting rfl rfl ?_
    intro reply listed
    rcases List.mem_append.mp listed with earlier | answer
    · exact preparing.unanswered waiting reply earlier
    · rw [List.mem_singleton.mp answer]
      exact id
  · have transmitting := inStep.transmitting current
    obtain ⟨alone, silent⟩ := transmitting.quiet waiting
    refine ⟨?_, ?_, ?_⟩
    · change rest.length + (transfer.toViewer ++ [_]).length ≤ 1
      rw [alone, silent]
      exact Nat.le_refl 1
    · intro message listed
      change message ∈ rest at listed
      rw [alone] at listed
      cases listed
    · intro errString offset listed
      change _ ∈ transfer.toViewer ++ [_] at listed
      rw [silent] at listed
      injection List.mem_singleton.mp listed with succeeds _ after
      subst succeeds
      obtain ⟨unpacked, task, isPartner, active, written, becomes, contains⟩ := writes rfl
      obtain ⟨_, _, isBlock, nonempty, block, _, reached⟩ :=
        transmitting.writing (.writeFileBlock seek data)
          (Channel.head_mem waiting)
      injection isBlock with here same
      subst here same
      rw [after, if_pos rfl]
      exact reached.writes isPartner active nonempty block
        (whole task unpacked isPartner active) written becomes contains
  · have closing := (inStep.finished current).closing (.writeFileBlock seek data)
      (Channel.head_mem waiting)
    cases closing

theorem viewerReceives_openFile {seq : Nat} {errCode : Int} {errString : String}
    {rest : List ViewerMessage} (inStep : InStep source transfer)
    (waiting : transfer.toViewer = .openFile seq errCode errString :: rest)
    (latest : errCode = Err.noError → transfer.viewer.state = .preparing → seq = transfer.seq) :
    InStep source
      ({ transfer with toViewer := rest }.handleResponseOfOpenFile source errCode errString io) := by
  have received : InStep source { transfer with toViewer := rest } :=
    inStep.lose (List.Sublist.refl _) (Channel.rest_sublist waiting)
  simp only [Transfer.handleResponseOfOpenFile]
  by_cases current : transfer.viewer.state = .preparing
  · by_cases succeeds : errCode = Err.noError
    · rw [if_pos succeeds, TaskScheduler.remoteSuccessOpenFile_uploads (by exact inStep.steady.self)
        (by exact inStep.steady.uploads) (by exact current)]
      have preparing := inStep.preparing current
      have answers := latest succeeds current
      subst succeeds answers
      have last := preparing.lastAnswer
      have inPlace := preparing.ready errString (Channel.head_mem waiting)
      have quiet := preparing.alone (.openFile transfer.seq Err.noError errString)
        (Channel.head_mem waiting) rfl
      rw [waiting] at last
      have silent : rest = [] := last.alone rfl
      have stands := inStep.steady.stands (by simp [current])
      have running : Steady source { transfer with
          viewer := { transfer.viewer with state := .transmitting }
          toViewer := rest } :=
        received.steady.withViewer inStep.steady.self inStep.steady.uploads fun _ => stands
      exact goes_on running rfl quiet silent (Or.inl ⟨inPlace.content, inPlace.aligned⟩)
    · rw [if_neg succeeds]
      have fails : TaskScheduler.remoteFailureOpenFile transfer.viewer errCode errString = _ :=
        if_neg (not_not_intro current)
      simp only [fails]
      refine Steady.inStep (received.steady.withViewer inStep.steady.self inStep.steady.uploads ?_)
        (Or.inr (Or.inr rfl))
      exact fun unfailed => absurd rfl unfailed
  · have ignored : TaskScheduler.remoteSuccessOpenFile transfer.viewer source io = _ :=
      if_pos current
    have ignoredFailure :
        TaskScheduler.remoteFailureOpenFile transfer.viewer errCode errString = _ :=
      if_pos current
    simp only [ignored, ignoredFailure]
    split
    · exact received
    · exact received

theorem viewerReceives_writeFileBlock {errCode : Int} {errString : String} {afterSeek : Nat}
    {rest : List ViewerMessage} (inStep : InStep source transfer)
    (waiting : transfer.toViewer = .writeFileBlock errCode errString afterSeek :: rest) :
    InStep source ({ transfer with toViewer := rest }.handleResponseOfWriteFileBlock source
      errCode errString afterSeek io) := by
  have received : InStep source { transfer with toViewer := rest } :=
    inStep.lose (List.Sublist.refl _) (Channel.rest_sublist waiting)
  simp only [Transfer.handleResponseOfWriteFileBlock]
  by_cases current : transfer.viewer.state = .transmitting
  · by_cases succeeds : errCode = Err.noError
    · rw [if_neg (not_not_intro succeeds)]
      have transmitting := inStep.transmitting current
      subst succeeds
      have reached := transmitting.written errString afterSeek
        (Channel.head_mem waiting)
      obtain ⟨silent, quiet⟩ := transmitting.silent waiting
      exact goes_on received.steady current quiet silent (reached.congr rfl rfl)
    · rw [if_pos succeeds]
      have fails : TaskScheduler.failureWriteRemoteFileBlock transfer.viewer errCode errString = _ :=
        if_neg (not_or_intro (not_not_intro inStep.steady.self) (not_not_intro current))
      simp only [fails]
      refine Steady.inStep (Steady.send (received.steady.withViewer inStep.steady.self
        inStep.steady.uploads ?_) fun _ _ => id) (Or.inr (Or.inr rfl))
      exact fun unfailed => absurd rfl unfailed
  · have ignoredFailure :
        TaskScheduler.failureWriteRemoteFileBlock transfer.viewer errCode errString = _ :=
      if_pos (Or.inr current)
    simp only [ignoredFailure, TaskScheduler.successWriteRemoteFileBlock_ignored current]
    split
    · exact received
    · exact received

theorem stops (inStep : InStep source transfer) :
    InStep source (transfer.follow io (TaskScheduler.stopTask transfer.viewer)) := by
  simp only [TaskScheduler.stopTask]
  by_cases current : transfer.viewer.state = .transmitting
  · rw [if_neg (not_or_intro (not_not_intro inStep.steady.self) (not_not_intro current))]
    have stands := inStep.steady.stands (by simp [current])
    have stopped : Steady source ({ transfer with
        viewer := { transfer.viewer with state := .stoped } }.send .closeFile) :=
      Steady.send (inStep.steady.withViewer inStep.steady.self inStep.steady.uploads
        fun _ => stands) fun _ _ => id
    exact stopped.inStep (Or.inr (Or.inl rfl))
  · rw [if_pos (Or.inr current)]
    exact inStep

theorem resumes (inStep : InStep source transfer) :
    InStep source { transfer with viewer := TaskScheduler.resumeTask transfer.viewer } := by
  simp only [TaskScheduler.resumeTask]
  by_cases current : transfer.viewer.state = .stoped
  · rw [if_neg (not_or_intro (not_not_intro inStep.steady.self) (not_not_intro current))]
    have stands := inStep.steady.stands (by simp [current])
    have resumed : Steady source { transfer with
        viewer := { transfer.viewer with state := .waitingForStart } } :=
      inStep.steady.withViewer inStep.steady.self inStep.steady.uploads fun _ => stands
    exact resumed.inStep (Or.inl rfl)
  · rw [if_pos (Or.inr current)]
    exact inStep

theorem requests {force : Bool} (steady : Steady source transfer)
    (preparing : transfer.viewer.state = .preparing) :
    InStep source ({ transfer with seq := transfer.seq + 1 }.send
      (.openFile (transfer.seq + 1) transfer.viewer.progress force)) := by
  have unasked := steady.requested (transfer.seq + 1) (Nat.lt_succ_self _)
  have unanswered := steady.answered (transfer.seq + 1) (Nat.lt_succ_self _)
  have numbered : Steady source { transfer with seq := transfer.seq + 1 } :=
    ⟨steady.self, steady.uploads, steady.stands, steady.hosted,
      fun number later => steady.requested number (Nat.lt_of_succ_lt later),
      fun number later => steady.answered number (Nat.lt_of_succ_lt later)⟩
  refine ⟨numbered.send ?_, fun _ => ⟨?_, ?_, ?_, ?_, ?_⟩, ?_, ?_⟩
  · rintro number later rfl
    exact Nat.lt_irrefl _ later
  · intro message listed opens
    rcases List.mem_append.mp listed with earlier | last
    · exact absurd opens (unasked message earlier)
    · exact ⟨force, List.mem_singleton.mp last⟩
  · exact Channel.OnlyLast.send _ unasked
  · exact Channel.OnlyLast.of_absent unanswered
  · exact fun message listed answers => absurd answers (unanswered message listed)
  · exact fun errString listed => absurd rfl (unanswered _ listed)
  · exact fun current => absurd (preparing.symm.trans current) (by decide)
  · exact fun current => absurd (preparing.symm.trans current) (by decide)

theorem executes {next : Transfer} {idle : Bool} (inStep : InStep source transfer)
    (stepped : transferStep source transfer (.exec idle io) = some next) : InStep source next := by
  have steady := inStep.steady
  simp only [transferStep] at stepped
  cases current : transfer.viewer.state with
  | waitingForStart =>
      have reads : transfer.viewer.readsLocally = true := by
        simp [FileTask.readsLocally, steady.self, steady.uploads]
      obtain ⟨err, reason, fp, inited, opens⟩ := @FileTask.initIo_reads transfer.viewer io source
        transfer.viewer.overrideFile reads (steady.stands (by simp [current]))
      simp only [TaskScheduler.exec, current, inited] at stepped
      by_cases fails : err = Err.noError
      · rw [if_neg (not_not_intro fails)] at stepped
        cases stepped
        have opened : Steady source { transfer with
            viewer := { transfer.viewer with state := .preparing, fp := fp } } :=
          steady.withViewer steady.self steady.uploads fun _ => opens fails
        exact requests opened rfl
      · rw [if_pos fails] at stepped
        cases stepped
        refine Steady.inStep (steady.withViewer (by exact steady.self) (by exact steady.uploads) ?_)
          (Or.inr (Or.inr rfl))
        exact fun unfailed => absurd rfl unfailed
  | preparing | transmitting =>
      simp only [TaskScheduler.exec, current] at stepped
      cases stepped
      cases idle with
      | false => exact inStep
      | true =>
          have stands := steady.stands (by simp [current])
          exact Steady.inStep (steady.withViewer (by exact steady.self) (by exact steady.uploads)
            fun _ => stands) (Or.inr (Or.inl rfl))
  | stoped | finished | failed =>
      simp only [TaskScheduler.exec, current, steady.self, reduceCtorEq, if_false] at stepped
      cases stepped
      exact inStep

theorem partnerExecutes {next : Transfer} {idle : Bool} (inStep : InStep source transfer)
    (stepped : transferStep source transfer (.partnerExec idle io) = some next) :
    InStep source next := by
  simp only [transferStep] at stepped
  cases isPartner : transfer.partner with
  | none =>
      rw [isPartner] at stepped
      cases stepped
  | some task =>
      have begun := inStep.steady.hosted task isPartner
      obtain ⟨after, executed, remains⟩ :=
        @TaskScheduler.exec_begun task io transfer.destination idle begun
      rw [isPartner] at stepped
      simp only [executed] at stepped
      cases stepped
      have inPlace : ∀ offset, InPlace source transfer offset →
          InPlace source { transfer with partner := after } offset := by
        refine fun offset inPlace => ⟨inPlace.content, fun left listed active => ?_⟩
        rcases remains left listed with rfl | stopped
        · exact inPlace.aligned left isPartner active
        · exact absurd (stopped.symm.trans active) (by decide)
      have reached : ∀ offset, Reached source transfer offset →
          Reached source { transfer with partner := after } offset := by
        rintro offset (before | givenUp)
        · exact Or.inl (inPlace offset before)
        · refine Or.inr ⟨givenUp.more, fun left listed active => ?_⟩
          rcases remains left listed with rfl | stopped
          · exact givenUp.closed left isPartner active
          · exact absurd (stopped.symm.trans active) (by decide)
      refine ⟨inStep.steady.withPartner ?_, fun current => ?_, fun current => ?_,
        fun current => ?_⟩
      · intro left listed
        rcases remains left listed with rfl | stopped
        · exact begun
        · rw [stopped]
          decide
      · have preparing := inStep.preparing current
        exact ⟨preparing.request, preparing.lastRequest, preparing.lastAnswer, preparing.alone,
          fun errString listed => inPlace _ (preparing.ready errString listed)⟩
      · have transmitting := inStep.transmitting current
        refine ⟨transmitting.single, ?_, ?_⟩
        · intro message listed
          obtain ⟨offset, data, isBlock, nonempty, block, ahead, before⟩ :=
            transmitting.writing message listed
          exact ⟨offset, data, isBlock, nonempty, block, ahead, reached offset before⟩
        · exact fun errString offset listed =>
            reached offset (transmitting.written errString offset listed)
      · have finished := inStep.finished current
        exact ⟨finished.content, finished.closing⟩

/-- Every step in which nothing goes wrong unnoticed keeps both ends in step. -/
theorem step {next : Transfer} {event : TransferEvent} (inStep : InStep source transfer)
    (keeps : KeepsInStep source transfer event)
    (stepped : transferStep source transfer event = some next) : InStep source next := by
  obtain ⟨whole, continues, latest⟩ := keeps
  cases event with
  | stop =>
      cases stepped
      exact inStep.stops
  | resume =>
      cases stepped
      exact inStep.resumes
  | exec idle io => exact inStep.executes stepped
  | partnerExec idle io => exact inStep.partnerExecutes stepped
  | guardReceives io =>
      simp only [transferStep] at stepped
      cases waiting : transfer.toGuard with
      | nil =>
          rw [waiting] at stepped
          cases stepped
      | cons message rest =>
          rw [waiting] at stepped
          cases message with
          | openFile seq seek force =>
              cases stepped
              exact inStep.guardReceives_openFile waiting
                (continues io seq seek force rest rfl waiting)
          | writeFileBlock seek data =>
              cases stepped
              refine inStep.guardReceives_writeFileBlock waiting ?_
              intro task unpacked isPartner active isOpen here
              exact whole io seek data rest task rfl waiting unpacked isPartner active isOpen
                (Or.inl here.symm)
          | closeFile =>
              cases stepped
              exact inStep.guardReceives_closeFile waiting
  | viewerReceives io =>
      simp only [transferStep] at stepped
      cases waiting : transfer.toViewer with
      | nil =>
          rw [waiting] at stepped
          cases stepped
      | cons message rest =>
          rw [waiting] at stepped
          cases message with
          | openFile seq errCode errString =>
              cases stepped
              refine inStep.viewerReceives_openFile waiting ?_
              rintro rfl preparing
              exact latest io seq errString rest rfl waiting preparing
          | writeFileBlock errCode errString afterSeek =>
              cases stepped
              exact inStep.viewerReceives_writeFileBlock waiting
  | lose toGuard toViewer =>
      simp only [transferStep] at stepped
      split at stepped
      · rename_i fewer
        cases stepped
        exact inStep.lose fewer.1 fewer.2
      · cases stepped

theorem initial (source : List UInt8) (progress : Nat) (overrideFile : Bool)
    (destination : Option (List UInt8)) :
    InStep source (initialTransfer progress overrideFile destination) := by
  refine Steady.inStep ⟨rfl, rfl, ?_, ?_, ?_, ?_⟩ (Or.inl rfl)
  · exact fun _ _ absent => nomatch absent
  · exact fun _ absent => nomatch absent
  · exact fun _ _ _ listed => nomatch listed
  · exact fun _ _ _ listed => nomatch listed

end InStep

end

/-- In every run in which nothing goes wrong unnoticed, the partner has the source whenever the
task is finished. -/
theorem upload_intact (source : List UInt8) (progress : Nat) (overrideFile : Bool)
    (destination : Option (List UInt8)) (events : List TransferEvent)
    (keeps : Transition.Happening (transferStep source) (KeepsInStep source)
      (initialTransfer progress overrideFile destination) events) :
    Transition.Throughout (transferStep source)
      (fun transfer => transfer.viewer.state = .finished → transfer.destination = some source)
      (initialTransfer progress overrideFile destination) events := by
  have throughout := keeps.throughout (transferStep source)
    (fun _ _ _ inStep allowed stepped => InStep.step inStep allowed stepped)
    (InStep.initial source progress overrideFile destination)
  exact throughout.mono _ fun _ inStep finished => (inStep.finished finished).content

def twoByteUpload (io : FileIo) : List TransferEvent := [
  .exec false {}, .guardReceives {}, .viewerReceives {}, .guardReceives io, .viewerReceives {},
  .guardReceives {}]

theorem twoByteUpload_intact :
    (∃ final, Transition.run (transferStep [7, 8]) (initialTransfer 0 false none)
        (twoByteUpload {}) = some final ∧ final.viewer.state = .finished) ∧
      Transition.Throughout (transferStep [7, 8])
        (fun transfer => transfer.viewer.state = .finished → transfer.destination = some [7, 8])
        (initialTransfer 0 false none) (twoByteUpload {}) := by
  refine ⟨⟨_, rfl, rfl⟩, upload_intact [7, 8] 0 false none (twoByteUpload {}) ?_⟩
  refine ⟨fun _ _ => ⟨?_, ?_, ?_⟩, fun _ opening => ?_⟩
  · rintro _ _ _ _ _ ⟨⟩
  · rintro _ _ _ _ _ ⟨⟩
  · rintro _ _ _ _ ⟨⟩
  cases opening
  refine ⟨fun _ _ => ⟨?_, ?_, ?_⟩, fun _ opened => ?_⟩
  · rintro _ _ _ _ _ _ ⟨⟩
  · rintro _ _ _ _ _ _ ⟨⟩ ahead
    exact absurd rfl ahead
  · rintro _ _ _ _ ⟨⟩
  cases opened
  refine ⟨fun _ _ => ⟨?_, ?_, ?_⟩, fun _ sending => ?_⟩
  · rintro _ _ _ _ _ ⟨⟩
  · rintro _ _ _ _ _ ⟨⟩
  · rintro _ _ _ _ _ ⟨⟩ _
    rfl
  cases sending
  refine ⟨fun _ _ => ⟨?_, ?_, ?_⟩, fun _ written => ?_⟩
  · rintro _ _ _ _ _ ⟨⟩ ⟨⟩ _ _ _ _ _
    exact ⟨fun _ => rfl, fun _ => rfl⟩
  · rintro _ _ _ _ _ _ ⟨⟩
  · rintro _ _ _ _ ⟨⟩
  cases written
  refine ⟨fun _ _ => ⟨?_, ?_, ?_⟩, fun _ ended => ?_⟩
  · rintro _ _ _ _ _ ⟨⟩
  · rintro _ _ _ _ _ ⟨⟩
  · rintro _ _ _ _ _ ⟨⟩
  cases ended
  refine ⟨fun _ _ => ⟨?_, ?_, ?_⟩, fun _ _ => trivial⟩
  · rintro _ _ _ _ _ _ ⟨⟩
  · rintro _ _ _ _ _ _ ⟨⟩
  · rintro _ _ _ _ ⟨⟩

/-- The only block is not taken, and the task is finished with nothing at the partner. -/
theorem untakenBlock_finishes :
    ∃ final, Transition.run (transferStep [7, 8]) (initialTransfer 0 false none)
        (twoByteUpload { fwrites := [0] }) = some final ∧
      final.viewer.state = .finished ∧ final.destination ≠ some [7, 8] :=
  ⟨_, rfl, rfl, by decide⟩

end EasyViewer
