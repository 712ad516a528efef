import Mathlib.Data.List.Basic
import EasyViewer.FileDownload
import EasyViewer.TaskEffects

/-!
What a download leaves at the viewer. The local file is always a beginning of the source,
and requests and blocks on their way lie within it: a late block is written over the same
bytes again, and the end of the source is found only by a request from its end.
-/

namespace EasyViewer

/-- If the step writes a block to the local file, the block is taken whole. -/
def WritesBlock (download : Download) (event : DownloadEvent) : Prop :=
  match event, download.toViewer with
  | .viewerReceives io, .readFileBlock errCode _ _ data :: _ =>
      errCode = Err.noError → io.unpacked = true → download.viewer.state = .transmitting →
        io.takes data.length = true ∧ io.flushes data.length = true
  | _, _ => True

/-- The local file has the source's bytes as far as the progress says, and all of them when
the task is finished. -/
structure Intact (source : List UInt8) (download : Download) : Prop where
  reached : download.viewer.progress ≤ (download.destination.getD []).length
  same : (download.destination.getD []).take download.viewer.progress =
    source.take download.viewer.progress
  whole : download.viewer.state = .finished → download.destination = some source

def DownloadRequest.Within (length : Nat) : DownloadRequest → Prop
  | .readFileBlock seek _ => seek ≤ length
  | _ => True

/-- A block lies at its place within the file or at its end, and says that the source is at
its end only when the file is. -/
def DownloadResponse.Fits (source file : List UInt8) : DownloadResponse → Prop
  | .readFileBlock errCode _ seek data =>
      (errCode = Err.noError →
        seek ≤ file.length ∧ data = (source.drop seek).take data.length) ∧
        (errCode = Err.endOfFile → file = source)
  | .openFile _ _ _ => True

structure PartnerReads (source : List UInt8) (task : FileTask) : Prop where
  partner : task.starter = .partner
  reads : task.action = .read
  begun : task.state ≠ .waitingForStart
  stands : ∀ fp, task.fp = some fp → fp.Reads source task.progress

/-- Nothing has been asked for yet, or never will be. -/
structure Fresh (download : Download) : Prop where
  closed : download.viewer.fp = none
  untouched : download.viewer.progress = 0
  waits : download.viewer.state = .waitingForStart ∨ download.viewer.state = .failed
  noRequests : download.toGuard = []
  noResponses : download.toViewer = []

structure Begun (source : List UInt8) (download : Download) (file : List UInt8) : Prop where
  stored : download.destination = some file
  part : file <+: source
  reached : download.viewer.progress ≤ file.length
  isOpen : download.viewer.state ≠ .finished → download.viewer.state ≠ .failed →
    ∃ fp, download.viewer.fp = some fp ∧ fp.mode = .wb ∧ fp.position = download.viewer.progress
  whole : download.viewer.state = .finished → file = source
  requests : ∀ message ∈ download.toGuard, message.Within file.length
  responses : ∀ message ∈ download.toViewer, message.Fits source file

structure Downloading (source : List UInt8) (download : Download) : Prop where
  self : download.viewer.starter = .self
  reads : download.viewer.action = .read
  partner : ∀ task, download.partner = some task → PartnerReads source task
  contents : Fresh download ∨ ∃ file, Begun source download file

section

variable {source file : List UInt8} {download : Download} {io : FileIo}

theorem DownloadResponse.Fits.grow {response : DownloadResponse} {grown : List UInt8}
    (fits : response.Fits source file) (longer : file.length ≤ grown.length)
    (part : grown <+: source) : response.Fits source grown := by
  cases response with
  | openFile seq errCode errString => trivial
  | readFileBlock errCode errString seek data =>
      refine ⟨fun succeeds => ?_, fun ended => ?_⟩
      · obtain ⟨inside, piece⟩ := fits.1 succeeds
        exact ⟨Nat.le_trans inside longer, piece⟩
      · have whole := fits.2 ended
        subst whole
        exact part.eq_of_length_le longer

theorem DownloadRequest.Within.grow {request : DownloadRequest} {length longer : Nat}
    (within : request.Within length) (grows : length ≤ longer) : request.Within longer := by
  cases request with
  | openFile seq seek force => trivial
  | closeFile => trivial
  | readFileBlock seek count => exact Nat.le_trans within grows

theorem Downloading.intact (downloading : Downloading source download) :
    Intact source download := by
  rcases downloading.contents with fresh | ⟨file, begun⟩
  · refine ⟨?_, ?_, ?_⟩
    · simp [fresh.untouched]
    · simp [fresh.untouched]
    · intro finished
      rcases fresh.waits with waiting | failed
      · rw [waiting] at finished
        contradiction
      · rw [failed] at finished
        contradiction
  · have stored : download.destination.getD [] = file := by rw [begun.stored, Option.getD_some]
    refine ⟨?_, ?_, ?_⟩
    · rw [stored]
      exact begun.reached
    · rw [stored]
      obtain ⟨rest, rfl⟩ := begun.part
      exact (List.take_append_of_le_length begun.reached).symm
    · intro finished
      rw [begun.stored, begun.whole finished]

namespace Begun

theorem congr {next : Download} (begun : Begun source download file)
    (stored : next.destination = download.destination)
    (progress : next.viewer.progress = download.viewer.progress)
    (fp : next.viewer.fp = download.viewer.fp)
    (state : next.viewer.state = .failed ∨
      next.viewer.state ≠ .finished ∧ download.viewer.state ≠ .finished ∧
        download.viewer.state ≠ .failed ∨
      next.viewer.state = download.viewer.state)
    (requests : ∀ message ∈ next.toGuard, message.Within file.length)
    (responses : ∀ message ∈ next.toViewer, message.Fits source file) :
    Begun source next file := by
  refine ⟨stored.trans begun.stored, begun.part, progress ▸ begun.reached, ?_, ?_, requests,
    responses⟩
  · intro unfinished unfailed
    rw [fp, progress]
    rcases state with failed | ⟨_, wasUnfinished, wasUnfailed⟩ | same
    · exact absurd failed unfailed
    · exact begun.isOpen wasUnfinished wasUnfailed
    · exact begun.isOpen (same ▸ unfinished) (same ▸ unfailed)
  · intro finished
    rcases state with failed | ⟨notFinished, _, _⟩ | same
    · rw [failed] at finished
      contradiction
    · exact absurd finished notFinished
    · exact begun.whole (same ▸ finished)

theorem asks {message : DownloadRequest} (begun : Begun source download file)
    (within : message.Within file.length) :
    ∀ other ∈ download.toGuard ++ [message], other.Within file.length := by
  intro other listed
  rcases List.mem_append.mp listed with old | new
  · exact begun.requests other old
  · rw [List.mem_singleton] at new
    exact new ▸ within

theorem answers {message : DownloadResponse} (begun : Begun source download file)
    (fits : message.Fits source file) :
    ∀ other ∈ download.toViewer ++ [message], other.Fits source file := by
  intro other listed
  rcases List.mem_append.mp listed with old | new
  · exact begun.responses other old
  · rw [List.mem_singleton] at new
    exact new ▸ fits

end Begun

namespace Downloading

theorem stops (downloading : Downloading source download) :
    Downloading source (download.follow (TaskScheduler.stopTask download.viewer)) := by
  simp only [TaskScheduler.stopTask]
  split
  · exact ⟨downloading.self, downloading.reads, downloading.partner, downloading.contents⟩
  · rename_i stops
    have transmitting : download.viewer.state = .transmitting :=
      not_not.mp fun otherwise => stops (Or.inr otherwise)
    refine ⟨downloading.self, downloading.reads, downloading.partner, ?_⟩
    rcases downloading.contents with fresh | ⟨file, begun⟩
    · rcases fresh.waits with waiting | failed
      · rw [waiting] at transmitting
        contradiction
      · rw [failed] at transmitting
        contradiction
    · refine Or.inr ⟨file, begun.congr rfl rfl rfl ?_ (begun.asks trivial) begun.responses⟩
      rw [transmitting]
      exact Or.inr (Or.inl ⟨by rintro ⟨⟩, by rintro ⟨⟩, by rintro ⟨⟩⟩)

theorem resumes (downloading : Downloading source download) :
    Downloading source { download with viewer := TaskScheduler.resumeTask download.viewer } := by
  simp only [TaskScheduler.resumeTask]
  split
  · exact downloading
  · rename_i resumes
    have stoped : download.viewer.state = .stoped :=
      not_not.mp fun otherwise => resumes (Or.inr otherwise)
    refine ⟨downloading.self, downloading.reads, downloading.partner, ?_⟩
    rcases downloading.contents with fresh | ⟨file, begun⟩
    · rcases fresh.waits with waiting | failed
      · rw [waiting] at stoped
        contradiction
      · rw [failed] at stoped
        contradiction
    · refine Or.inr ⟨file, begun.congr rfl rfl rfl ?_ begun.requests begun.responses⟩
      rw [stoped]
      exact Or.inr (Or.inl ⟨by rintro ⟨⟩, by rintro ⟨⟩, by rintro ⟨⟩⟩)

theorem starts (idle : Bool) (io : FileIo) (downloading : Downloading source download)
    (waiting : download.viewer.state = .waitingForStart) :
    ∃ task destination remotes,
      TaskScheduler.exec download.viewer download.destination idle io =
        (some task, destination, remotes) ∧
      Downloading source
        ({ download with destination := destination }.follow (task, remotes)) := by
  have writes : download.viewer.readsLocally = false := by
    simp [FileTask.readsLocally, downloading.self, downloading.reads]
  simp only [TaskScheduler.exec, waiting]
  rcases downloading.contents with fresh | ⟨file, begun⟩
  · by_cases opens : (download.viewer.initIo download.destination
        download.viewer.overrideFile io).1.1 = Err.noError
    · rw [FileTask.initIo_truncates writes fresh.closed fresh.untouched opens]
      refine ⟨_, _, _, rfl, downloading.self, downloading.reads, downloading.partner, ?_⟩
      refine Or.inr ⟨[], rfl, List.nil_prefix, ?_, ?_, by rintro ⟨⟩, ?_, ?_⟩
      · exact Nat.le_of_eq fresh.untouched
      · exact fun _ _ => ⟨_, rfl, rfl, fresh.untouched.symm⟩
      · intro message listed
        simp only [Download.follow, List.foldl_cons, List.foldl_nil, Download.whenTaskRemote,
          Download.send, fresh.noRequests, List.nil_append, List.mem_singleton] at listed
        subst listed
        trivial
      · intro message listed
        simp only [Download.follow, List.foldl_cons, List.foldl_nil, Download.whenTaskRemote,
          Download.send, fresh.noResponses, List.not_mem_nil] at listed
    · have refused := FileTask.initIo_refused fresh.closed fresh.untouched opens
      simp only [if_pos opens, refused]
      refine ⟨_, _, _, rfl, downloading.self, downloading.reads, downloading.partner, Or.inl ?_⟩
      exact ⟨fresh.closed, fresh.untouched, Or.inr rfl, fresh.noRequests, fresh.noResponses⟩
  · obtain ⟨fp, isOpen, _⟩ := begun.isOpen (by simp [waiting]) (by simp [waiting])
    rw [FileTask.initIo_open isOpen]
    refine ⟨_, _, _, rfl, downloading.self, downloading.reads, downloading.partner, ?_⟩
    refine Or.inr ⟨file, begun.congr rfl rfl rfl ?_ (begun.asks trivial) begun.responses⟩
    rw [waiting]
    exact Or.inr (Or.inl ⟨by rintro ⟨⟩, by rintro ⟨⟩, by rintro ⟨⟩⟩)

theorem executes {next : Download} {idle : Bool} (downloading : Downloading source download)
    (stepped : downloadStep source download (.exec idle io) = some next) :
    Downloading source next := by
  simp only [downloadStep] at stepped
  by_cases waiting : download.viewer.state = .waitingForStart
  · obtain ⟨task, destination, remotes, result, after⟩ :=
      downloading.starts idle io waiting
    rw [result] at stepped
    cases stepped
    exact after
  · cases current : download.viewer.state with
    | waitingForStart => exact absurd current waiting
    | preparing | transmitting =>
        simp only [TaskScheduler.exec, current] at stepped
        cases stepped
        cases idle with
        | false => exact downloading
        | true =>
            refine ⟨downloading.self, downloading.reads, downloading.partner, ?_⟩
            rcases downloading.contents with fresh | ⟨file, begun⟩
            · rcases fresh.waits with still | failed
              · exact absurd still waiting
              · rw [current] at failed
                contradiction
            · refine Or.inr ⟨file, begun.congr rfl rfl rfl ?_ begun.requests begun.responses⟩
              rw [current]
              exact Or.inr (Or.inl ⟨by rintro ⟨⟩, by rintro ⟨⟩, by rintro ⟨⟩⟩)
    | stoped | finished | failed =>
        simp only [TaskScheduler.exec, current, downloading.self] at stepped
        cases stepped
        exact downloading

theorem partnerExecutes {next : Download} {idle : Bool}
    (downloading : Downloading source download)
    (stepped : downloadStep source download (.partnerExec idle io) = some next) :
    Downloading source next := by
  simp only [downloadStep] at stepped
  split at stepped
  · contradiction
  · rename_i task isPartner
    have reads := downloading.partner task isPartner
    obtain ⟨after, result, unchanged⟩ :=
      @TaskScheduler.exec_stops task io (some source) idle reads.begun
    rw [result] at stepped
    cases stepped
    refine ⟨downloading.self, downloading.reads, ?_, ?_⟩
    · intro left isLeft
      rcases unchanged left isLeft with rfl | rfl
      · exact reads
      · exact ⟨reads.partner, reads.reads, nofun, reads.stands⟩
    · rcases downloading.contents with fresh | ⟨file, begun⟩
      · exact Or.inl ⟨fresh.closed, fresh.untouched, fresh.waits, fresh.noRequests,
          fresh.noResponses⟩
      · exact Or.inr ⟨file, begun.congr rfl rfl rfl (Or.inr (Or.inr rfl)) begun.requests
          begun.responses⟩

theorem guardReceives {next : Download} (downloading : Downloading source download)
    (stepped : downloadStep source download (.guardReceives io) = some next) :
    Downloading source next := by
  simp only [downloadStep] at stepped
  split at stepped
  · contradiction
  · rename_i message rest waiting
    have noFresh : ¬ Fresh download := by
      intro fresh
      rw [fresh.noRequests] at waiting
      contradiction
    obtain ⟨file, begun⟩ := downloading.contents.resolve_left noFresh
    have within := begun.requests message (waiting ▸ List.mem_cons_self)
    have requests : ∀ other ∈ rest, other.Within file.length := fun other listed =>
      begun.requests other (waiting ▸ List.mem_cons_of_mem message listed)
    have answers : ∀ next : Download, next.destination = download.destination →
        next.viewer = download.viewer → next.toGuard = rest →
        (∀ message ∈ next.toViewer, message.Fits source file) →
        (∀ task, next.partner = some task → PartnerReads source task) → Downloading source next := by
      intro next stored viewer left fits partner
      refine ⟨viewer ▸ downloading.self, viewer ▸ downloading.reads, partner, ?_⟩
      refine Or.inr ⟨file, begun.congr stored (by rw [viewer]) (by rw [viewer])
        (Or.inr (Or.inr (by rw [viewer]))) (left ▸ requests) fits⟩
    split at stepped
    · cases stepped
      simp only [Download.handleCommandOfOpenFile]
      refine answers _ rfl rfl rfl (begun.answers trivial) ?_
      intro task isTask
      obtain ⟨partner, reads, transmitting, stands⟩ :=
        TaskScheduler.addTaskPassively_reads isTask
      exact ⟨partner, reads, by rw [transmitting]; nofun, stands⟩
    · rename_i seek length
      cases stepped
      simp only [Download.handleCommandOfReadFile]
      split
      · refine answers _ rfl rfl rfl (begun.answers ⟨nofun, nofun⟩) ?_
        intro task isTask
        exact downloading.partner task isTask
      · rename_i task isPartner
        have partner := downloading.partner task isPartner
        rcases @TaskScheduler.readLocalFileBlock_partner task io seek length source
          partner.partner partner.stands with
          ⟨err, reason, after, failed, isError, ended, left⟩ |
          ⟨data, fp, block, ready, piece⟩
        · rw [failed]
          simp only [ne_eq, isError, not_false_eq_true, if_true]
          refine answers _ rfl rfl rfl (begun.answers ⟨?_, ?_⟩) ?_
          · intro succeeds
            exact absurd succeeds isError
          · intro atEnd
            -- the request lies within the file, and the source has no byte from there on
            have longer : source.length ≤ seek := List.drop_eq_nil_iff.mp (ended atEnd)
            exact begun.part.eq_of_length_le (Nat.le_trans longer within)
          · rintro _ ⟨⟩
            rcases left with rfl | ⟨progress, rfl⟩
            · exact partner
            · exact ⟨partner.partner, partner.reads, partner.begun, nofun⟩
        · rw [block]
          simp only [ne_eq, not_true_eq_false, if_false]
          refine answers _ rfl rfl rfl (begun.answers ?_) ?_
          · split
            · exact ⟨fun _ => ⟨within, piece⟩, nofun⟩
            · exact ⟨nofun, nofun⟩
          · rintro _ ⟨⟩
            refine ⟨partner.partner, partner.reads, partner.begun, ?_⟩
            rintro _ ⟨⟩
            exact ready
    · cases stepped
      exact answers _ rfl rfl rfl begun.responses fun _ absent => (by cases absent)

theorem loses {toGuard : List DownloadRequest} {toViewer : List DownloadResponse}
    (downloading : Downloading source download) (less : toGuard.Sublist download.toGuard)
    (fewer : toViewer.Sublist download.toViewer) :
    Downloading source { download with toGuard := toGuard, toViewer := toViewer } := by
  refine ⟨downloading.self, downloading.reads, downloading.partner, ?_⟩
  rcases downloading.contents with fresh | ⟨file, begun⟩
  · refine Or.inl ⟨fresh.closed, fresh.untouched, fresh.waits, ?_, ?_⟩
    · rw [fresh.noRequests] at less
      exact List.sublist_nil.mp less
    · rw [fresh.noResponses] at fewer
      exact List.sublist_nil.mp fewer
  · refine Or.inr ⟨file, begun.congr rfl rfl rfl (Or.inr (Or.inr rfl)) ?_ ?_⟩
    · exact fun message listed => begun.requests message (less.subset listed)
    · exact fun message listed => begun.responses message (fewer.subset listed)

/-- An answer with an error ends the task; the end of the source finds the file complete. -/
theorem fails {errCode : Int} {errString : String} (downloading : Downloading source download)
    (ended : errCode = Err.endOfFile → ∀ file, Begun source download file → file = source) :
    Downloading source (download.follow
      (TaskScheduler.failureReadRemoteFileBlock download.viewer errCode errString)) := by
  simp only [TaskScheduler.failureReadRemoteFileBlock]
  split
  · exact ⟨downloading.self, downloading.reads, downloading.partner, downloading.contents⟩
  · rename_i ends
    have transmitting : download.viewer.state = .transmitting :=
      not_not.mp fun otherwise => ends (Or.inr otherwise)
    rcases downloading.contents with fresh | ⟨file, begun⟩
    · rcases fresh.waits with waiting | failed
      · rw [waiting] at transmitting
        contradiction
      · rw [failed] at transmitting
        contradiction
    · by_cases atEnd : errCode = Err.endOfFile
      · rw [if_pos atEnd]
        refine ⟨downloading.self, downloading.reads, downloading.partner, Or.inr ⟨file, ?_⟩⟩
        exact ⟨begun.stored, begun.part, begun.reached, fun unfinished => absurd rfl unfinished,
          fun _ => ended atEnd file begun, begun.asks trivial, begun.responses⟩
      · rw [if_neg atEnd]
        refine ⟨downloading.self, downloading.reads, downloading.partner, Or.inr ⟨file, ?_⟩⟩
        exact ⟨begun.stored, begun.part, begun.reached, fun _ unfailed => absurd rfl unfailed,
          nofun, begun.asks trivial, begun.responses⟩

theorem writes {seek : Nat} {data : List UInt8} (downloading : Downloading source download)
    (begun : Begun source download file) (inside : seek ≤ file.length)
    (piece : data = (source.drop seek).take data.length)
    (whole : download.viewer.state = .transmitting →
      io.takes data.length = true ∧ io.flushes data.length = true) :
    Downloading source
      (match TaskScheduler.successReadRemoteFileBlock download.viewer seek data
        (download.destination.getD []) io with
      | (after, written, remotes) =>
          { download with destination := download.destination.map fun _ => written }.follow
            (after, remotes)) := by
  have stored : download.destination.getD [] = file := by rw [begun.stored, Option.getD_some]
  by_cases transmitting : download.viewer.state = .transmitting
  · obtain ⟨fp, isOpen, isTruncated, here⟩ :=
      begun.isOpen (by simp [transmitting]) (by simp [transmitting])
    obtain ⟨takes, flushes⟩ := whole transmitting
    rw [stored]
    rcases TaskScheduler.successReadRemoteFileBlock_cases downloading.self downloading.reads
      transmitting isOpen isTruncated here inside takes flushes with
      ⟨reason, failed⟩ | ⟨eof, written⟩
    · rw [failed]
      refine ⟨downloading.self, downloading.reads, downloading.partner, Or.inr ⟨file, ?_⟩⟩
      refine ⟨?_, begun.part, begun.reached, fun _ unfailed => absurd rfl unfailed, nofun,
        begun.asks trivial, begun.responses⟩
      simp [Download.follow, Download.whenTaskRemote, Download.send, begun.stored]
    · rw [written]
      have part := OpenFile.overwrite_prefix begun.part inside piece
      have lengths := OpenFile.overwrite_length seek file data
      have longer : seek + data.length ≤ (OpenFile.overwrite file seek data).length := by
        rw [Nat.min_eq_left inside] at lengths
        exact lengths.2
      refine ⟨downloading.self, downloading.reads, downloading.partner,
        Or.inr ⟨OpenFile.overwrite file seek data, ?_, part, longer, ?_, ?_, ?_, ?_⟩⟩
      · simp [Download.follow, Download.whenTaskRemote, Download.send, begun.stored]
      · exact fun _ _ => ⟨_, rfl, isTruncated, rfl⟩
      · intro finished
        have stays : download.viewer.state = .finished := finished
        rw [transmitting] at stays
        contradiction
      · intro message listed
        rcases List.mem_append.mp listed with old | new
        · exact (begun.requests message old).grow lengths.1
        · rw [List.mem_singleton] at new
          subst new
          exact longer
      · exact fun message listed => (begun.responses message listed).grow lengths.1 part
  · rw [TaskScheduler.successReadRemoteFileBlock_ignored transmitting, stored]
    refine ⟨downloading.self, downloading.reads, downloading.partner, Or.inr ⟨file, ?_⟩⟩
    refine begun.congr ?_ rfl rfl (Or.inr (Or.inr rfl)) begun.requests begun.responses
    simp [Download.follow, begun.stored]

theorem opens {errCode : Int} {errString : String} (downloading : Downloading source download)
    (begun : Begun source download file) :
    Downloading source (download.handleResponseOfOpenFile errCode errString io) := by
  simp only [Download.handleResponseOfOpenFile]
  by_cases preparing : download.viewer.state = .preparing
  · by_cases succeeds : errCode = Err.noError
    · rw [if_pos succeeds]
      simp only [TaskScheduler.remoteSuccessOpenFile]
      rw [if_neg (not_not_intro preparing)]
      simp only [downloading.self, downloading.reads]
      refine ⟨rfl, rfl, downloading.partner, Or.inr ⟨file, ?_⟩⟩
      refine begun.congr rfl rfl rfl ?_ (begun.asks begun.reached) begun.responses
      rw [preparing]
      exact Or.inr (Or.inl ⟨by rintro ⟨⟩, by rintro ⟨⟩, by rintro ⟨⟩⟩)
    · rw [if_neg succeeds]
      simp only [TaskScheduler.remoteFailureOpenFile]
      rw [if_neg (not_not_intro preparing)]
      refine ⟨downloading.self, downloading.reads, downloading.partner, Or.inr ⟨file, ?_⟩⟩
      exact begun.congr rfl rfl rfl (Or.inl rfl) begun.requests begun.responses
  · simp only [TaskScheduler.remoteSuccessOpenFile, TaskScheduler.remoteFailureOpenFile]
    rw [if_pos preparing, if_pos preparing]
    split
    · exact ⟨downloading.self, downloading.reads, downloading.partner, downloading.contents⟩
    · exact downloading

theorem viewerReceives {next : Download} (downloading : Downloading source download)
    (whole : WritesBlock download (.viewerReceives io))
    (stepped : downloadStep source download (.viewerReceives io) = some next) :
    Downloading source next := by
  simp only [downloadStep] at stepped
  simp only [WritesBlock] at whole
  split at stepped
  · contradiction
  · rename_i message rest waiting
    have noFresh : ¬ Fresh download := by
      intro fresh
      rw [fresh.noResponses] at waiting
      contradiction
    obtain ⟨file, begun⟩ := downloading.contents.resolve_left noFresh
    have fits := begun.responses message (waiting ▸ List.mem_cons_self)
    have responses : ∀ other ∈ rest, other.Fits source file := fun other listed =>
      begun.responses other (waiting ▸ List.mem_cons_of_mem message listed)
    have received : Begun source { download with toViewer := rest } file :=
      begun.congr rfl rfl rfl (Or.inr (Or.inr rfl)) begun.requests responses
    have downloading : Downloading source { download with toViewer := rest } :=
      ⟨downloading.self, downloading.reads, downloading.partner, Or.inr ⟨file, received⟩⟩
    split at stepped
    · cases stepped
      exact downloading.opens received
    · rename_i errCode errString seek data
      cases stepped
      simp only [Download.handleResponseOfReadFileBlock]
      by_cases isError : errCode = Err.noError
      · rw [if_neg (not_not_intro isError)]
        by_cases unpacked : io.unpacked = true
        · rw [if_neg (not_not_intro unpacked)]
          obtain ⟨inside, piece⟩ := fits.1 isError
          rw [waiting] at whole
          exact downloading.writes received inside piece (whole isError unpacked)
        · rw [if_pos unpacked]
          exact downloading.fails fun atEnd => absurd atEnd (by decide)
      · rw [if_pos isError]
        refine downloading.fails fun atEnd other otherBegun => ?_
        have same : file = other := Option.some.inj (received.stored.symm.trans otherBegun.stored)
        exact same ▸ fits.2 atEnd

theorem step {next : Download} {event : DownloadEvent}
    (downloading : Downloading source download) (whole : WritesBlock download event)
    (stepped : downloadStep source download event = some next) : Downloading source next := by
  cases event with
  | stop =>
      cases stepped
      exact downloading.stops
  | resume =>
      cases stepped
      exact downloading.resumes
  | exec idle io => exact downloading.executes stepped
  | partnerExec idle io => exact downloading.partnerExecutes stepped
  | guardReceives io => exact downloading.guardReceives stepped
  | viewerReceives io => exact downloading.viewerReceives whole stepped
  | lose toGuard toViewer =>
      simp only [downloadStep] at stepped
      split at stepped
      · rename_i kept
        cases stepped
        exact downloading.loses kept.1 kept.2
      · contradiction

theorem initial (source : List UInt8) (overrideFile : Bool) (destination : Option (List UInt8)) :
    Downloading source (initialDownload overrideFile destination) :=
  ⟨rfl, rfl, fun _ absent => (by cases absent), Or.inl ⟨rfl, rfl, Or.inl rfl, rfl, rfl⟩⟩

end Downloading

/-- In every run of a download from the start whose local writes are taken whole: at every
moment the local file has the source's bytes as far as the progress says, and it is the
source when the task is finished. -/
theorem download_intact (source : List UInt8) (overrideFile : Bool)
    (destination : Option (List UInt8)) (events : List DownloadEvent)
    (whole : Transition.Happening (downloadStep source) WritesBlock
      (initialDownload overrideFile destination) events) :
    Transition.Throughout (downloadStep source) (Intact source)
      (initialDownload overrideFile destination) events := by
  have along := Transition.Happening.throughout (downloadStep source)
    (fun _ _ _ downloading allowed stepped => Downloading.step downloading allowed stepped)
    whole (Downloading.initial source overrideFile destination)
  exact along.mono (downloadStep source) fun _ downloading => downloading.intact

def twoByteDownload : List DownloadEvent := [
  .exec false {}, .guardReceives {}, .viewerReceives {}, .guardReceives {}, .stop, .resume,
  .exec false {}, .guardReceives {}, .guardReceives {}, .viewerReceives {}, .viewerReceives {},
  .guardReceives {}, .viewerReceives {}, .guardReceives {}, .viewerReceives {}]

theorem twoByteDownload_intact :
    (∃ final, Transition.run (downloadStep [7, 8]) (initialDownload false none)
        twoByteDownload = some final ∧ final.viewer.state = .finished) ∧
      Transition.Throughout (downloadStep [7, 8]) (Intact [7, 8]) (initialDownload false none)
        twoByteDownload := by
  refine ⟨⟨_, rfl, rfl⟩, download_intact [7, 8] false none twoByteDownload ?_⟩
  refine .cons _ rfl trivial <| .cons _ rfl trivial <| .cons _ rfl trivial <|
    .cons _ rfl trivial <| .cons _ rfl trivial <| .cons _ rfl trivial <|
    .cons _ rfl trivial <| .cons _ rfl trivial <| .cons _ rfl trivial <|
    .cons _ rfl nofun <| .cons _ rfl trivial <| .cons _ rfl trivial <|
    .cons _ rfl (fun _ _ _ => ⟨rfl, rfl⟩) <| .cons _ rfl trivial <| .cons _ rfl nofun ?_
  trivial

end

end EasyViewer
