import EasyViewer.ConnectionReader
import EasyViewer.RequestHeap

/-!
The heaps of all threads, with the connections that they share. A connection's first chunk
may be decoded on another thread than all the rest, the acceptor's, where it would be queued
in this thread's heap if one of its requests had to wait.
-/

namespace EasyViewer

/-- A connection with the thread that decodes its present chunk, and the last time that was read
for one of its requests. -/
structure ThreadReception (Thread : Type) where
  reception : Reception := {}
  numChunk : Nat := 0
  decoder : Option Thread := none
  read : Int

structure ThreadHeaps (Thread : Type) where
  now : Int
  clients : ConnectionId → Client := fun _ => {}
  queues : Thread → Array ConnectionId := fun _ => #[]
  locks : Thread → HeapLock := fun _ => .free
  receptions : ConnectionId → ThreadReception Thread

inductive ThreadEvent (Thread : Type) where
  | tick (now : Int)
  | recv (thread : Thread) (con : ConnectionId) (data : List UInt8)
  | decode (thread : Thread) (con : ConnectionId) (arrival t again : Int)
  | disconnect (con : ConnectionId)
  | disconnected (thread : Thread) (con : ConnectionId) (arrival t again : Int)
  | exec (thread : Thread) (t : Int)
  | pull (thread : Thread)
  | handled (thread : Thread) (raised : Bool)
  deriving DecidableEq

def ThreadEvent.heap {Thread : Type} : ThreadEvent Thread → Option Thread
  | .decode thread _ _ _ _ | .disconnected thread _ _ _ _ | .exec thread _ | .pull thread
  | .handled thread _ => some thread
  | _ => none

namespace ThreadHeaps

section

variable {Thread : Type}

def heap (state : ThreadHeaps Thread) (thread : Thread) : RequestHeap where
  clients := state.clients
  queue := state.queues thread
  lock := state.locks thread

def receive (state : ThreadHeaps Thread) (con : ConnectionId)
    (reception : ThreadReception Thread) : ThreadHeaps Thread :=
  { state with receptions := updateAt state.receptions con reception }

/-- The times that a push reads one after another, the first of them after the last one that was
read for the connection. -/
def ReadsInOrder (state : ThreadHeaps Thread) (con : ConnectionId) (arrival t again : Int) : Prop :=
  (state.receptions con).read ≤ arrival ∧ arrival ≤ t ∧ t ≤ again ∧ again ≤ state.now

instance (state : ThreadHeaps Thread) (con : ConnectionId) (arrival t again : Int) :
    Decidable (state.ReadsInOrder con arrival t again) := by
  unfold ReadsInOrder
  infer_instance

def nextFrameOf (kind : ConnectionId → ServerKind) (state : ThreadHeaps Thread)
    (con : ConnectionId) : Decoded :=
  nextFrame (receivedDataHandlerFactory (kind con))
    (state.receptions con).reception.buffer.readableBytes

variable [DecidableEq Thread]

def put (state : ThreadHeaps Thread) (thread : Thread) (heap : RequestHeap) : ThreadHeaps Thread :=
  { state with
    clients := heap.clients
    queues := Function.update state.queues thread heap.queue
    locks := Function.update state.locks thread heap.lock }

def sectionStep (state : ThreadHeaps Thread) (thread : Thread) (event : SectionEvent) :
    Option (ThreadHeaps Thread) :=
  ((state.heap thread).step event).map (state.put thread)

variable (kind : ConnectionId → ServerKind) (loop : ConnectionId → Thread)

def decodeStep (state : ThreadHeaps Thread) (thread : Thread) (con : ConnectionId)
    (arrival t again : Int) : Option (ThreadHeaps Thread) :=
  let known := state.receptions con
  match nextFrameOf kind state con with
  | .incomplete => some (state.receive con { known with reception := known.reception.leaveLoop })
  | .oversize | .unknownTag =>
      some (state.receive con { known with
        reception := { known.reception with disconnecting := true }.leaveLoop })
  | .frame frame =>
      let request := { arrival := arrival, tag := frame.tag, data := frame.payload }
      let accepted := ((state.heap thread).push con request t again).1
      (state.sectionStep thread (.push con request t again)).map fun next =>
        next.receive con { known with
          read := t
          reception := { known.reception with
            buffer := known.reception.buffer.moveReaderIndex (frame.payload.length + 8 : Nat)
            disconnecting := known.reception.disconnecting || !accepted
            received := known.reception.received ++ [(frame, accepted)] } }

/-- A step of any thread. All chunks but the first are received on the connection's event loop,
where it is cleaned up too; before the first chunk is decoded nothing else happens to it, since
`recv` holds the connection's lock. -/
def step (state : ThreadHeaps Thread) (event : ThreadEvent Thread) : Option (ThreadHeaps Thread) :=
  match event with
  | .tick now => if state.now ≤ now then some { state with now := now } else none
  | .recv thread con data =>
      let known := state.receptions con
      if known.reception.phase = .idle ∧ 0 < data.length ∧ data.length ≤ maxChunk ∧
          (thread = loop con ∨ known.numChunk = 0) then
        some (state.receive con { known with
          numChunk := known.numChunk + 1
          decoder := some thread
          reception := { known.reception with
            buffer := known.reception.buffer.write data, phase := .decoding } })
      else none
  | .decode thread con arrival t again =>
      if (state.receptions con).reception.phase = .decoding ∧
          (state.receptions con).decoder = some thread ∧
          state.ReadsInOrder con arrival t again then
        state.decodeStep kind thread con arrival t again
      else none
  | .disconnect con =>
      let known := state.receptions con
      some (state.receive con { known with
        reception := { known.reception with disconnecting := true } })
  | .disconnected thread con arrival t again =>
      let known := state.receptions con
      if thread = loop con ∧ (known.reception.phase = .idle ∨ known.reception.phase = .closing) ∧
          state.ReadsInOrder con arrival t again then
        (state.sectionStep thread (.push con (cleanRequest arrival) t again)).map fun next =>
          next.receive con { known with
            read := t
            reception := { known.reception with phase := .down } }
      else none
  | .exec thread t => if t ≤ state.now then state.sectionStep thread (.exec t) else none
  | .pull thread => state.sectionStep thread .pull
  | .handled thread raised => state.sectionStep thread (.handled raised)

end

def initial (Thread : Type) (start : Int) : ThreadHeaps Thread :=
  { now := start, receptions := fun _ => { read := start } }

structure Light (client : Client) : Prop where
  requests : client.requests = []
  pending : client.numPendingBytes = 0
  rate : client.R = 50 * 1024

def lightReservation (client : Client) (request : Request) : ℚ :=
  max ((request.arrival : ℚ) - 500)
    (client.reservation + (request.data.length : ℚ) / (50 * 1024 : Nat) * 1000)

theorem push_light {heap : RequestHeap} {con : ConnectionId} {request : Request} {t : Int}
    (again : Int) (tags : (heap.clients con).TagsOk) (light : Light (heap.clients con))
    (due : lightReservation (heap.clients con) request ≤ t) :
    ∃ client, heap.push con request t again =
        (true, { heap with
          clients := updateAt heap.clients con client, lock := .handling con request none }) ∧
      client.TagsOk ∧ Light client ∧
        client.reservation = lightReservation (heap.clients con) request := by
  let taken : Client := { heap.clients con with
    requests := [request], numPendingBytes := request.data.length }
  have pushed : (heap.clients con).pushRequest request =
      ((true, 0), taken.updateRLW request.arrival request.data.length) := by
    simp [Client.pushRequest, light.requests, light.pending, maxPendingBytes, taken]
  have isPopped : (taken.updateRLW request.arrival request.data.length).popRequest = some (request,
      { taken.updateRLW request.arrival request.data.length with
        requests := [], numPendingBytes := 0 }) := by
    simp [Client.popRequest, Client.updateRLW, taken]
  have reservation : (taken.updateRLW request.arrival request.data.length).reservation =
      lightReservation (heap.clients con) request := by
    simp [Client.updateRLW, lightReservation, taken, light.rate]
  have pushedTags := tags.pushRequest request
  rw [pushed] at pushedTags
  refine ⟨_, ?_, pushedTags.popRequest isPopped, ⟨rfl, rfl, light.rate⟩, reservation⟩
  simp only [RequestHeap.push, pushed, isPopped]
  rw [if_pos trivial, if_pos trivial, if_pos (by rwa [reservation])]

section

variable {Thread : Type} {kind : ConnectionId → ServerKind} {loop : ConnectionId → Thread}
  {state next : ThreadHeaps Thread} {start : Int}

structure HeapsHold (loop : ConnectionId → Thread) (state : ThreadHeaps Thread) : Prop where
  holds : ∀ thread, QueueHolds (fun con => loop con = thread) state.clients (state.queues thread)
  sound : ∀ thread, state.locks thread ≠ .aborted

/-- Where the first chunk of a connection stands: what its requests have reserved so far fits in
the bytes that were taken out of the chunk. -/
structure FirstChunk (loop : ConnectionId → Thread) (con : ConnectionId) (client : Client)
    (known : ThreadReception Thread) : Prop where
  counted : known.reception.phase = .decoding → 0 < known.numChunk
  unseen : known.reception.phase = .idle → known.numChunk = 0 →
    Light client ∧ client.reservation = 0 ∧ known.reception.buffer.readableBytes = []
  reserved : known.reception.phase = .decoding → ∀ thread, known.decoder = some thread →
    thread ≠ loop con → Light client ∧ known.reception.buffer.readableBytes.length ≤ maxChunk ∧
      client.reservation ≤ max 0 ((known.read : ℚ) - 500) +
        ((maxChunk : ℚ) - known.reception.buffer.readableBytes.length) / (50 * 1024) * 1000

theorem FirstChunk.mono {con : ConnectionId} {client after : Client}
    {known : ThreadReception Thread} (first : FirstChunk loop con client known)
    (light : Light client → Light after ∧ after.reservation = client.reservation) :
    FirstChunk loop con after known where
  counted := first.counted
  unseen := by
    intro idle none
    obtain ⟨isLight, reservation, empty⟩ := first.unseen idle none
    obtain ⟨afterLight, same⟩ := light isLight
    exact ⟨afterLight, same.trans reservation, empty⟩
  reserved := by
    intro decoding thread decoder other
    obtain ⟨isLight, short, bound⟩ := first.reserved decoding thread decoder other
    obtain ⟨afterLight, same⟩ := light isLight
    exact ⟨afterLight, short, same ▸ bound⟩

theorem HeapsHold.other (hold : HeapsHold loop state) {thread : Thread} {con : ConnectionId}
    {client : Client} (tags : client.TagsOk)
    (apart : loop con ≠ thread ∨ client = { state.clients con with L := 1024 * 1024 * 1024 }) :
    QueueHolds (fun con => loop con = thread) (updateAt state.clients con client)
      (state.queues thread) := by
  rcases apart with elsewhere | rfl
  · refine (hold.holds thread).update_absent ?_ tags fun own => absurd own elsewhere
    exact fun member => elsewhere (((hold.holds thread).listed con).mp member).1
  · exact (hold.holds thread).update_kept tags rfl rfl Iff.rfl

structure Separate (loop : ConnectionId → Thread) (start : Int) (state : ThreadHeaps Thread) :
    Prop where
  heaps : HeapsHold loop state
  first : ∀ con, FirstChunk loop con (state.clients con) (state.receptions con)
  read : ∀ con, start ≤ (state.receptions con).read

theorem Separate.receive {con : ConnectionId} {known : ThreadReception Thread}
    (heaps : HeapsHold loop next) (reads : ∀ other, start ≤ (next.receptions other).read)
    (others : ∀ other, other ≠ con →
      FirstChunk loop other (next.clients other) (next.receptions other))
    (first : FirstChunk loop con (next.clients con) known) (read : start ≤ known.read) :
    Separate loop start (next.receive con known) where
  heaps := ⟨heaps.holds, heaps.sound⟩
  first := by
    intro other
    change FirstChunk loop other (next.clients other) (updateAt next.receptions con known other)
    by_cases same : other = con
    · subst same
      rwa [updateAt_same]
    · rw [updateAt_other _ _ same]
      exact others other same
  read := by
    intro other
    change start ≤ (updateAt next.receptions con known other).read
    by_cases same : other = con
    · subst same
      rwa [updateAt_same]
    · rw [updateAt_other _ _ same]
      exact reads other

theorem FirstChunk.past {con : ConnectionId} {client : Client} {known : ThreadReception Thread}
    (left : known.reception.phase ≠ .decoding)
    (seen : known.reception.phase = .idle → known.numChunk ≠ 0) :
    FirstChunk loop con client known where
  counted := fun decoding => absurd decoding left
  unseen := fun idle none => absurd none (seen idle)
  reserved := fun decoding => absurd decoding left

/-- What a frame of a first chunk reserves: it takes eight bytes more out of the chunk than it
counts, and the whole chunk reserves 80 ms. -/
theorem chunk_reserves {read arrival reservation : ℚ} {left size : Nat} (reads : read ≤ arrival)
    (fits : size + 8 ≤ left) (short : left ≤ maxChunk) (bound : reservation ≤ max 0 (read - 500) +
      ((maxChunk : ℚ) - left) / (50 * 1024) * 1000) :
    max (arrival - 500) (reservation + (size : ℚ) / (50 * 1024 : Nat) * 1000) ≤
      max 0 (arrival - 500) +
        ((maxChunk : ℚ) - (left - (size + 8) : Nat)) / (50 * 1024) * 1000 := by
  have leftOver : (((left - (size + 8) : Nat)) : ℚ) = left - (size + 8) := by
    rw [Nat.cast_sub fits]
    push_cast
    ring
  have inChunk : (left : ℚ) ≤ maxChunk := by exact_mod_cast short
  have sizeNonneg : (0 : ℚ) ≤ size := Nat.cast_nonneg size
  have rate : ((50 * 1024 : Nat) : ℚ) = 50 * 1024 := by norm_num
  have later : max 0 (read - 500) ≤ max 0 (arrival - 500) := by gcongr
  rw [leftOver, rate]
  apply max_le
  · have credit : arrival - 500 ≤ max 0 (arrival - 500) := le_max_right _ _
    linarith
  · linarith

theorem Separate.inline (separate : Separate loop start state) (late : 80 ≤ start)
    {thread : Thread} {con : ConnectionId} {arrival t again : Int} {frame : Frame}
    (decoding : (state.receptions con).reception.phase = .decoding)
    (decoder : (state.receptions con).decoder = some thread) (other : thread ≠ loop con)
    (reads : state.ReadsInOrder con arrival t again)
    (decoded : nextFrameOf kind state con = .frame frame) :
    ∃ client, (state.heap thread).push con
        { arrival := arrival, tag := frame.tag, data := frame.payload } t again =
      (true, { state.heap thread with
        clients := updateAt state.clients con client
        lock := .handling con
          { arrival := arrival, tag := frame.tag, data := frame.payload } none }) ∧
      client.TagsOk ∧ Light client ∧
      client.reservation ≤ max 0 ((t : ℚ) - 500) + ((maxChunk : ℚ) -
        ((state.receptions con).reception.buffer.readableBytes.length -
          (frame.payload.length + 8 : Nat) : Nat)) / (50 * 1024) * 1000 := by
  obtain ⟨light, short, bound⟩ := (separate.first con).reserved decoding thread decoder other
  obtain ⟨readFirst, arrived, -, -⟩ := reads
  have fits := nextFrame_frame decoded
  have reserves := chunk_reserves (show ((state.receptions con).read : ℚ) ≤ arrival by
    exact_mod_cast readFirst) fits short bound
  have left : (0 : ℚ) ≤ ((state.receptions con).reception.buffer.readableBytes.length -
    (frame.payload.length + 8) : Nat) := Nat.cast_nonneg _
  have lateArrival : (80 : ℚ) ≤ arrival := by
    exact_mod_cast late.trans ((separate.read con).trans readFirst)
  have arrivedFirst : (arrival : ℚ) ≤ t := by exact_mod_cast arrived
  have due : lightReservation (state.clients con)
      { arrival := arrival, tag := frame.tag, data := frame.payload } ≤ t := by
    refine reserves.trans ?_
    have whole : ((maxChunk : ℚ) - ((state.receptions con).reception.buffer.readableBytes.length -
        (frame.payload.length + 8) : Nat)) / (50 * 1024) * 1000 ≤ 80 := by
      simp only [maxChunk]
      linarith
    have credit : max 0 ((arrival : ℚ) - 500) ≤ arrival - 80 := max_le (by linarith) (by linarith)
    linarith
  obtain ⟨client, pushed, tags, isLight, reservation⟩ := @push_light (state.heap thread) con _ t
    again ((separate.heaps.holds thread).tags con) light due
  refine ⟨client, pushed, tags, isLight, ?_⟩
  rw [reservation]
  refine reserves.trans ?_
  gcongr

theorem initial_separate (loop : ConnectionId → Thread) (start : Int) :
    Separate loop start (initial Thread start) where
  heaps := ⟨fun _ => RequestHeap.initial_holds, fun _ => by simp [initial]⟩
  first := fun con => ⟨fun decoding => (by cases decoding),
    fun _ _ => ⟨⟨rfl, rfl, rfl⟩, rfl, ByteBuffer.empty_readableBytes⟩,
    fun decoding => (by cases decoding)⟩
  read := fun _ => Int.le_refl start

variable [DecidableEq Thread]

theorem HeapsHold.section (hold : HeapsHold loop state) {thread : Thread} {event : SectionEvent}
    (owned : ∀ con request t now, event = .push con request t now → loop con = thread)
    (stepped : state.sectionStep thread event = some next) : HeapsHold loop next := by
  simp only [sectionStep, Option.map_eq_some_iff] at stepped
  obtain ⟨heap, happened, rfl⟩ := stepped
  have holds : QueueHolds (fun con => loop con = thread) (state.heap thread).clients
    (state.heap thread).queue := hold.holds thread
  constructor
  · intro other
    by_cases same : other = thread
    · subst same
      have own := RequestHeap.step_holds holds owned happened
      simpa [put] using own
    · have untouched : (state.put thread heap).queues other = state.queues other :=
        Function.update_of_ne same _ _
      rw [untouched]
      change QueueHolds _ heap.clients _
      rcases RequestHeap.step_clients holds happened with
        unchanged | ⟨con, client, changed, tags, ⟨request, t, now, pushed⟩ | member | raised⟩
      · rw [unchanged]
        exact hold.holds other
      · rw [changed]
        exact hold.other tags (Or.inl ((owned _ _ _ _ pushed).trans_ne (Ne.symm same)))
      · rw [changed]
        exact hold.other tags (Or.inl (((holds.listed con).mp member).1.trans_ne (Ne.symm same)))
      · rw [changed]
        exact hold.other tags (Or.inr raised)
  · intro other
    by_cases same : other = thread
    · subst same
      have own := RequestHeap.step_unaborted holds happened
      simpa [put] using own
    · have untouched : (state.put thread heap).locks other = state.locks other :=
        Function.update_of_ne same _ _
      rw [untouched]
      exact hold.sound other

theorem HeapsHold.light (hold : HeapsHold loop state) {thread : Thread} {event : SectionEvent}
    (stepped : state.sectionStep thread event = some next) {con : ConnectionId}
    (unpushed : ∀ request t now, event ≠ .push con request t now)
    (light : Light (state.clients con)) :
    Light (next.clients con) ∧
      (next.clients con).reservation = (state.clients con).reservation := by
  simp only [sectionStep, Option.map_eq_some_iff] at stepped
  obtain ⟨heap, happened, rfl⟩ := stepped
  have holds : QueueHolds (fun con => loop con = thread) (state.heap thread).clients
    (state.heap thread).queue := hold.holds thread
  have same : ∀ other client, heap.clients = updateAt state.clients other client → con ≠ other →
      Light (heap.clients con) ∧
        (heap.clients con).reservation = (state.clients con).reservation := by
    intro other client changed different
    rw [changed, updateAt_other _ _ different]
    exact ⟨light, rfl⟩
  change Light (heap.clients con) ∧
    (heap.clients con).reservation = (state.clients con).reservation
  rcases RequestHeap.step_clients holds happened with
    unchanged | ⟨other, client, changed, -, ⟨request, t, now, pushed⟩ | member | raised⟩
  · rw [unchanged]
    exact ⟨light, rfl⟩
  · refine same other client changed ?_
    rintro rfl
    exact unpushed request t now pushed
  · refine same other client changed ?_
    rintro rfl
    exact ((holds.listed con).mp member).2 light.requests
  · by_cases different : con = other
    · subst different
      rw [changed, updateAt_same, raised]
      exact ⟨⟨light.requests, light.pending, light.rate⟩, rfl⟩
    · exact same other client changed different

theorem leaveLoop_phase (reception : Reception) : reception.leaveLoop.phase ≠ .decoding := by
  simp only [Reception.leaveLoop]
  split <;> simp

theorem sectionStep_receptions {thread : Thread} {event : SectionEvent}
    (stepped : state.sectionStep thread event = some next) :
    next.receptions = state.receptions := by
  simp only [sectionStep, Option.map_eq_some_iff] at stepped
  obtain ⟨heap, -, rfl⟩ := stepped
  rfl

theorem Separate.section (separate : Separate loop start state) {thread : Thread}
    {event : SectionEvent} (pushless : ∀ con request t now, event ≠ .push con request t now)
    (stepped : state.sectionStep thread event = some next) : Separate loop start next where
  heaps := separate.heaps.section (fun con request t now same =>
    absurd same (pushless con request t now)) stepped
  first := by
    intro con
    rw [sectionStep_receptions stepped]
    exact (separate.first con).mono (separate.heaps.light stepped (pushless con))
  read := by
    rw [sectionStep_receptions stepped]
    exact separate.read

theorem Separate.pushOwn (separate : Separate loop start state) {con : ConnectionId}
    {request : Request} {t again : Int} {known : ThreadReception Thread}
    (stepped : state.sectionStep (loop con) (.push con request t again) = some next)
    (first : FirstChunk loop con (next.clients con) known) (read : start ≤ known.read) :
    Separate loop start (next.receive con known) := by
  have receptions := sectionStep_receptions stepped
  refine Separate.receive (separate.heaps.section ?_ stepped) ?_ ?_ first read
  · rintro other _ _ _ same
    cases same
    rfl
  · rw [receptions]
    exact separate.read
  · intro other different
    rw [receptions]
    refine (separate.first other).mono (separate.heaps.light stepped ?_)
    rintro _ _ _ same
    cases same
    exact different rfl

theorem inline_eq {thread : Thread} {con : ConnectionId} {request : Request} {t again : Int}
    {client : Client}
    (inline : (state.heap thread).push con request t again = (true, { state.heap thread with
      clients := updateAt state.clients con client, lock := .handling con request none }))
    (stepped : state.sectionStep thread (.push con request t again) = some next) :
    next = state.put thread { state.heap thread with
      clients := updateAt state.clients con client, lock := .handling con request none } := by
  simp only [sectionStep, Option.map_eq_some_iff, RequestHeap.step] at stepped
  obtain ⟨heap, happened, rfl⟩ := stepped
  split at happened
  · rename_i same _
    cases same
    cases happened
    rw [inline]
  all_goals simp_all

theorem Separate.pushInline (separate : Separate loop start state) {thread : Thread}
    {con : ConnectionId} {request : Request} {t again : Int} {client : Client}
    {known : ThreadReception Thread} (light : Light (state.clients con))
    (inline : (state.heap thread).push con request t again = (true, { state.heap thread with
      clients := updateAt state.clients con client, lock := .handling con request none }))
    (tags : client.TagsOk) (isLight : Light client)
    (stepped : state.sectionStep thread (.push con request t again) = some next)
    (first : FirstChunk loop con client known) (read : start ≤ known.read) :
    Separate loop start (next.receive con known) := by
  have pushed := inline_eq inline stepped
  have queues : next.queues = state.queues := by
    rw [pushed]
    exact Function.update_eq_self thread state.queues
  have clients : next.clients = updateAt state.clients con client := by rw [pushed]; rfl
  have receptions : next.receptions = state.receptions := by rw [pushed]; rfl
  refine Separate.receive ⟨?_, ?_⟩ ?_ ?_ ?_ read
  · intro other
    have holds := separate.heaps.holds other
    rw [queues, clients]
    refine holds.update_absent ?_ tags fun _ => isLight.requests
    exact fun member => ((holds.listed con).mp member).2 light.requests
  · intro other
    by_cases same : other = thread
    · subst same
      simp [pushed, put]
    · have untouched : next.locks other = state.locks other := by
        rw [pushed]
        exact Function.update_of_ne same _ _
      rw [untouched]
      exact separate.heaps.sound other
  · rw [receptions]
    exact separate.read
  · intro other different
    rw [receptions, clients, updateAt_other _ _ different]
    exact separate.first other
  · rw [clients, updateAt_same]
    exact first

theorem Separate.decode (separate : Separate loop start state) (late : 80 ≤ start)
    {thread : Thread} {con : ConnectionId} {arrival t again : Int}
    (decoding : (state.receptions con).reception.phase = .decoding)
    (decoder : (state.receptions con).decoder = some thread)
    (reads : state.ReadsInOrder con arrival t again)
    (stepped : state.decodeStep kind thread con arrival t again = some next) :
    Separate loop start next := by
  have seen : (state.receptions con).numChunk ≠ 0 :=
    Nat.pos_iff_ne_zero.mp ((separate.first con).counted decoding)
  have left : ∀ reception : Reception, Separate loop start
      (state.receive con { state.receptions con with reception := reception.leaveLoop }) :=
    fun reception => Separate.receive separate.heaps separate.read
      (fun other _ => separate.first other)
      (.past (leaveLoop_phase reception) fun _ => seen) (separate.read con)
  simp only [decodeStep] at stepped
  split at stepped
  · cases stepped
    exact left _
  · cases stepped
    exact left _
  · cases stepped
    exact left _
  · rename_i frame decoded
    simp only [Option.map_eq_some_iff] at stepped
    obtain ⟨after, pushed, rfl⟩ := stepped
    have read : start ≤ t := (separate.read con).trans (reads.1.trans reads.2.1)
    by_cases own : thread = loop con
    · subst own
      refine separate.pushOwn pushed ⟨fun _ => Nat.pos_of_ne_zero seen,
        fun _ none => absurd none seen, fun _ other isDecoder different => ?_⟩ read
      rw [decoder, Option.some.injEq] at isDecoder
      exact absurd isDecoder.symm different
    · obtain ⟨light, short, -⟩ := (separate.first con).reserved decoding thread decoder own
      obtain ⟨client, inline, tags, isLight, bound⟩ :=
        separate.inline late decoding decoder own reads decoded
      have taken : ((state.receptions con).reception.buffer.moveReaderIndex
          (frame.payload.length + 8 : Nat)).readableBytes.length =
          (state.receptions con).reception.buffer.readableBytes.length -
            (frame.payload.length + 8) := by
        rw [ByteBuffer.moveReaderIndex_readableBytes, List.length_drop]
      refine separate.pushInline light inline tags isLight pushed
        ⟨fun _ => Nat.pos_of_ne_zero seen, fun _ none => absurd none seen,
          fun _ other _ _ => ⟨isLight, ?_, ?_⟩⟩ read
      · simp only [taken]
        omega
      · simp only [taken]
        exact bound

theorem Separate.step (separate : Separate loop start state) (late : 80 ≤ start)
    {event : ThreadEvent Thread} (stepped : step kind loop state event = some next) :
    Separate loop start next := by
  cases event with
  | tick now =>
      simp only [ThreadHeaps.step, Option.ite_none_right_eq_some] at stepped
      obtain ⟨-, stepped⟩ := stepped
      cases stepped
      exact ⟨⟨separate.heaps.holds, separate.heaps.sound⟩, separate.first, separate.read⟩
  | recv thread con data =>
      simp only [ThreadHeaps.step, Option.ite_none_right_eq_some] at stepped
      obtain ⟨⟨idle, _, short, allowed⟩, stepped⟩ := stepped
      cases stepped
      refine Separate.receive separate.heaps separate.read (fun other _ => separate.first other)
        ⟨fun _ => Nat.succ_pos _, fun phase => (by cases phase),
          fun _ other decoder different => ?_⟩
        (separate.read con)
      cases decoder
      have none := allowed.resolve_left different
      obtain ⟨light, reservation, empty⟩ := (separate.first con).unseen idle none
      have readable :
          ((state.receptions con).reception.buffer.write data).readableBytes = data := by
        rw [ByteBuffer.write_readableBytes, empty, List.nil_append]
      simp only [readable]
      refine ⟨light, short, ?_⟩
      have inChunk : (data.length : ℚ) ≤ maxChunk := by exact_mod_cast short
      have credit : (0 : ℚ) ≤ max 0 (((state.receptions con).read : ℚ) - 500) := le_max_left _ _
      rw [reservation]
      linarith
  | decode thread con arrival t again =>
      simp only [ThreadHeaps.step, Option.ite_none_right_eq_some] at stepped
      obtain ⟨⟨decoding, decoder, reads⟩, stepped⟩ := stepped
      exact separate.decode late decoding decoder reads stepped
  | disconnect con =>
      cases stepped
      obtain ⟨counted, unseen, reserved⟩ := separate.first con
      exact Separate.receive separate.heaps separate.read (fun other _ => separate.first other)
        ⟨counted, unseen, reserved⟩ (separate.read con)
  | disconnected thread con arrival t again =>
      simp only [ThreadHeaps.step, Option.ite_none_right_eq_some, Option.map_eq_some_iff] at stepped
      obtain ⟨⟨rfl, _, reads⟩, after, pushed, rfl⟩ := stepped
      have read : start ≤ t := (separate.read con).trans (reads.1.trans reads.2.1)
      exact separate.pushOwn pushed (.past (by simp) (by simp)) read
  | exec thread t =>
      simp only [ThreadHeaps.step, Option.ite_none_right_eq_some] at stepped
      exact separate.section (fun _ _ _ _ => by simp) stepped.2
  | pull thread => exact separate.section (fun _ _ _ _ => by simp) stepped
  | handled thread raised => exact separate.section (fun _ _ _ _ => by simp) stepped

def KeysKept (state next : ThreadHeaps Thread) (other : Thread) (con : ConnectionId) : Prop :=
  next.queues other = state.queues other ∧
    (next.clients con).reservation = (state.clients con).reservation ∧
      (next.clients con).limit = (state.clients con).limit

theorem HeapsHold.keys (hold : HeapsHold loop state) {thread other : Thread} {event : SectionEvent}
    (stepped : state.sectionStep thread event = some next) (apart : other ≠ thread)
    {con : ConnectionId} (member : con ∈ state.queues other)
    (unpushed : ∀ request t now, event ≠ .push con request t now) :
    KeysKept state next other con := by
  simp only [sectionStep, Option.map_eq_some_iff] at stepped
  obtain ⟨heap, happened, rfl⟩ := stepped
  have holds : QueueHolds (fun con => loop con = thread) (state.heap thread).clients
    (state.heap thread).queue := hold.holds thread
  have isOther : loop con = other := (((hold.holds other).listed con).mp member).1
  have same : heap.clients con = state.clients con ∨
      heap.clients con = { state.clients con with L := 1024 * 1024 * 1024 } := by
    rcases RequestHeap.step_clients holds happened with
      unchanged | ⟨changed, client, clients, -, ⟨request, t, now, pushed⟩ | listed | raised⟩
    · exact Or.inl (congrFun unchanged con)
    · left
      rw [clients]
      refine updateAt_other _ _ ?_
      rintro rfl
      exact unpushed request t now pushed
    · left
      rw [clients]
      refine updateAt_other _ _ ?_
      rintro rfl
      exact apart (isOther.symm.trans ((holds.listed con).mp listed).1)
    · by_cases own : con = changed
      · subst own
        right
        rw [clients, updateAt_same, raised]
        rfl
      · left
        rw [clients]
        exact updateAt_other _ _ own
  refine ⟨Function.update_of_ne apart _ _, ?_⟩
  change (heap.clients con).reservation = _ ∧ (heap.clients con).limit = _
  rcases same with unchanged | raised
  · rw [unchanged]
    exact ⟨rfl, rfl⟩
  · rw [raised]
    exact ⟨rfl, rfl⟩

/-- A connection is queued in the heap of its event loop only, where nobody else's step changes
its keys; every frame of a first chunk that another thread decodes is handled inline; and no
assertion has failed. -/
structure InOneHeap (kind : ConnectionId → ServerKind) (loop : ConnectionId → Thread)
    (state : ThreadHeaps Thread) : Prop where
  queued : ∀ thread con, con ∈ state.queues thread → thread = loop con
  inline : ∀ thread con arrival t again frame next, thread ≠ loop con →
    nextFrameOf kind state con = .frame frame →
      step kind loop state (.decode thread con arrival t again) = some next →
        next.locks thread = .handling con
          { arrival := arrival, tag := frame.tag, data := frame.payload } none
  keys : ∀ event next, step kind loop state event = some next → ∀ other con,
    con ∈ state.queues other → event.heap ≠ some other → KeysKept state next other con
  sound : ∀ thread, state.locks thread ≠ .aborted

theorem Separate.decodes_inline (separate : Separate loop start state) (late : 80 ≤ start)
    {thread : Thread} {con : ConnectionId} {arrival t again : Int} {frame : Frame}
    (other : thread ≠ loop con) (decoded : nextFrameOf kind state con = .frame frame)
    (stepped : ThreadHeaps.step kind loop state (.decode thread con arrival t again) = some next) :
    next.locks thread = .handling con
      { arrival := arrival, tag := frame.tag, data := frame.payload } none := by
  simp only [ThreadHeaps.step, Option.ite_none_right_eq_some] at stepped
  obtain ⟨⟨decoding, decoder, reads⟩, stepped⟩ := stepped
  obtain ⟨client, inline, -, -, -⟩ := separate.inline late decoding decoder other reads decoded
  simp only [decodeStep, decoded, Option.map_eq_some_iff] at stepped
  obtain ⟨after, pushed, rfl⟩ := stepped
  change after.locks thread = _
  rw [inline_eq inline pushed]
  exact Function.update_self _ _ _

theorem Separate.decode_keys (separate : Separate loop start state) {thread other : Thread}
    {decoded con : ConnectionId} {arrival t again : Int}
    (decoding : (state.receptions decoded).reception.phase = .decoding)
    (decoder : (state.receptions decoded).decoder = some thread)
    (stepped : state.decodeStep kind thread decoded arrival t again = some next)
    (apart : other ≠ thread) (member : con ∈ state.queues other) :
    KeysKept state next other con := by
  simp only [decodeStep] at stepped
  split at stepped
  · cases stepped
    exact ⟨rfl, rfl, rfl⟩
  · cases stepped
    exact ⟨rfl, rfl, rfl⟩
  · cases stepped
    exact ⟨rfl, rfl, rfl⟩
  · simp only [Option.map_eq_some_iff] at stepped
    obtain ⟨after, pushed, rfl⟩ := stepped
    refine separate.heaps.keys pushed apart member ?_
    rintro _ _ _ same
    cases same
    obtain ⟨isOther, waiting⟩ := ((separate.heaps.holds other).listed decoded).mp member
    by_cases own : thread = loop decoded
    · exact apart (isOther.symm.trans own.symm)
    · obtain ⟨light, -, -⟩ := (separate.first decoded).reserved decoding thread decoder own
      exact waiting light.requests

theorem Separate.inOneHeap (separate : Separate loop start state) (late : 80 ≤ start) :
    InOneHeap kind loop state where
  queued thread con member := (((separate.heaps.holds thread).listed con).mp member).1.symm
  inline := fun _ _ _ _ _ _ _ other decoded stepped =>
    separate.decodes_inline late other decoded stepped
  keys := by
    intro event next stepped other con member apart
    have waiting : loop con = other ∧ (state.clients con).requests ≠ [] :=
      ((separate.heaps.holds other).listed con).mp member
    cases event with
    | tick now =>
        simp only [ThreadHeaps.step, Option.ite_none_right_eq_some] at stepped
        obtain ⟨-, stepped⟩ := stepped
        cases stepped
        exact ⟨rfl, rfl, rfl⟩
    | recv thread received data =>
        simp only [ThreadHeaps.step, Option.ite_none_right_eq_some] at stepped
        obtain ⟨-, stepped⟩ := stepped
        cases stepped
        exact ⟨rfl, rfl, rfl⟩
    | decode thread decoded arrival t again =>
        simp only [ThreadHeaps.step, Option.ite_none_right_eq_some] at stepped
        obtain ⟨⟨decoding, decoder, -⟩, stepped⟩ := stepped
        exact separate.decode_keys decoding decoder stepped (fun same => apart (same ▸ rfl)) member
    | disconnect lost =>
        cases stepped
        exact ⟨rfl, rfl, rfl⟩
    | disconnected thread lost arrival t again =>
        simp only [ThreadHeaps.step, Option.ite_none_right_eq_some,
          Option.map_eq_some_iff] at stepped
        obtain ⟨⟨rfl, _, -⟩, after, pushed, rfl⟩ := stepped
        have elsewhere : other ≠ loop lost := fun same => apart (same ▸ rfl)
        refine separate.heaps.keys pushed elsewhere member ?_
        rintro _ _ _ same
        cases same
        exact elsewhere waiting.1.symm
    | exec thread t =>
        simp only [ThreadHeaps.step, Option.ite_none_right_eq_some] at stepped
        exact separate.heaps.keys stepped.2 (fun same => apart (same ▸ rfl)) member (by simp)
    | pull thread =>
        exact separate.heaps.keys stepped (fun same => apart (same ▸ rfl)) member (by simp)
    | handled thread raised =>
        exact separate.heaps.keys stepped (fun same => apart (same ▸ rfl)) member (by simp)
  sound := separate.heaps.sound

/-- With a clock of at least 80 ms, which is what a whole first chunk reserves, every run keeps
every connection in one heap. -/
theorem connections_in_one_heap (kind : ConnectionId → ServerKind) (loop : ConnectionId → Thread)
    (start : Int) (late : 80 ≤ start) (events : List (ThreadEvent Thread)) :
    Transition.Throughout (step kind loop) (InOneHeap kind loop) (initial Thread start) events :=
  (Transition.Throughout.of_step (step kind loop)
    (fun _ _ _ separate stepped => Separate.step separate late stepped)
    (initial_separate loop start)).mono (step kind loop) fun _ separate => separate.inOneHeap late

end

def firstChunk (time : Int) : List (ThreadEvent Bool) := [
  .recv false 7 [101, 0, 0, 0, 1, 0, 0, 0, 9], .decode false 7 time time time]

def echoChunk : List UInt8 := [101, 0, 0, 0, 160, 15, 0, 0] ++ List.replicate 4000 9

/-- The acceptor handles a first chunk inline. Within the same millisecond the event loop has to
queue a second one and, as the peer closes the connection, the clean-up behind it; it pulls both
when time has passed. -/
def twoChunks : List (ThreadEvent Bool) := [
  .recv false 7 echoChunk, .decode false 7 100 100 100, .handled false false,
  .decode false 7 100 100 100,
  .recv true 7 echoChunk, .decode true 7 100 100 100, .pull true, .decode true 7 100 100 100,
  .disconnect 7, .disconnected true 7 100 100 100, .pull true,
  .tick 200, .exec true 200, .pull true, .handled true false, .pull true, .handled true false,
  .pull true]

theorem connections_in_one_heap_sample :
    (Transition.run (step (fun _ => .application) fun _ => true) (initial Bool 100)
      twoChunks).isSome ∧
      Transition.Throughout (step (fun _ => .application) fun _ => true)
        (InOneHeap (fun _ => .application) fun _ => true) (initial Bool 100) twoChunks :=
  ⟨by decide +kernel,
    connections_in_one_heap (fun _ => .application) (fun _ => true) 100 (by decide) _⟩

/-- At the time 0 this request has reserved more than has passed, and is queued. -/
theorem firstChunk_queued : ¬ Transition.Throughout
    (step (fun _ => .application) fun _ => true) (InOneHeap (fun _ => .application) fun _ => true)
    (initial Bool 0) (firstChunk 0) := by
  intro throughout
  let final := (Transition.run (step (fun _ => .application) fun _ => true) (initial Bool 0)
    (firstChunk 0)).get (by decide +kernel)
  have inOneHeap := throughout.final _ (show _ = some final from (Option.some_get _).symm)
  have member : 7 ∈ final.queues false := by decide +kernel
  have impossible := inOneHeap.queued false 7 member
  contradiction

end ThreadHeaps

end EasyViewer
