import Mathlib.Data.List.TakeWhile
import EasyViewer.ConnectionReader
import EasyViewer.ProtocolWrapper
import EasyViewer.RequestOrder

/-!
What the bound on pending bytes does to a connection's stream. A refused push only
asks for the disconnect; the rest of the chunk is decoded all the same, so a worker
that drains the list in between lets a later frame in. The clean-up request goes
through the same bound.
-/

namespace EasyViewer

/-! The log of accepted requests. -/

theorem pull_accepted (state : HeapState) (t : Int) :
    (pull state t).2.accepted = state.accepted := by
  simp only [pull]
  split
  · rfl
  · split <;> rfl

theorem processPossible_accepted (state : HeapState) (caller : Caller) (t : Int) :
    (processPossible state caller t).accepted = state.accepted := by
  have kept := pull_accepted state t
  simp only [processPossible]
  split
  · rename_i pulled
    rw [pulled] at kept
    exact kept
  · rename_i pulled
    rw [pulled] at kept
    exact kept
  · rename_i pulled
    rw [pulled] at kept
    split <;> exact kept

theorem HeapState.push_answer (state : HeapState) (con : ConnectionId) (request : Request)
    (t : Int) : (state.push con request t).1 = true ↔
      (state.clients con).numPendingBytes < maxPendingBytes := by
  rw [← Client.pushRequest_accepted _ request]
  unfold HeapState.push
  simp only
  split
  · rename_i accepted
    simp only [accepted, iff_true]
    split
    · split
      · split <;> rfl
      · rfl
    · rfl
  · rename_i refused
    simp [refused]

theorem HeapState.push_accepted (state : HeapState) (con : ConnectionId) (request : Request)
    (t : Int) : (state.push con request t).2.accepted =
      if (state.push con request t).1 = true then
        updateAt state.accepted con (state.accepted con ++ [request])
      else state.accepted := by
  unfold HeapState.push
  simp only
  split
  · split
    · split
      · split <;> rfl
      · simp only [if_true]
        exact processPossible_accepted ..
    · simp only [if_true]
      exact processPossible_accepted ..
  · rfl

theorem heapStep_push {state next : HeapState} {con : ConnectionId} {request : Request} {t : Int}
    (stepped : heapStep state (.push con request t) = some next) :
    next = (state.push con request t).2 := by
  simp only [heapStep] at stepped
  split at stepped
  · contradiction
  · split at stepped <;> simp_all

theorem heapStep_accepted {state next : HeapState} {event : HeapEvent}
    (stepped : heapStep state event = some next)
    (noPush : ∀ con request t, event ≠ .push con request t) :
    next.accepted = state.accepted := by
  simp only [heapStep] at stepped
  split at stepped
  · contradiction
  · split at stepped
    · split at stepped
      · simp only [Option.some.injEq] at stepped
        exact stepped ▸ rfl
      · contradiction
    · exact absurd rfl (noPush _ _ _)
    · split at stepped
      · simp only [Option.some.injEq] at stepped
        exact stepped ▸ processPossible_accepted ..
      · contradiction
    · simp only [Option.some.injEq] at stepped
      rw [← stepped]
      unfold HeapState.handled
      simp only
      split
      · rfl
      · exact processPossible_accepted ..
    · split at stepped
      · contradiction
      · simp only [Option.some.injEq] at stepped
        exact stepped ▸ rfl
    · contradiction

/-! What a step of the reader can do. -/

inductive ReceptionMove (known : UInt32 → Bool) (event : ReaderEvent) (con : ConnectionId)
    (before : Reception) : Reception → Prop
  | recv (data : List UInt8) (isRecv : event = .recv con data) (idle : before.phase = .idle) :
      ReceptionMove known event con before
        { before with buffer := before.buffer.write data, phase := .decoding }
  | leave (disconnecting : Bool) (decoding : before.phase = .decoding)
      (last : ∀ frame, nextFrame known before.buffer.readableBytes ≠ .frame frame)
      (kept : before.disconnecting = true → disconnecting = true) :
      ReceptionMove known event con before
        { before with disconnecting := disconnecting }.leaveLoop
  | disconnect : ReceptionMove known event con before { before with disconnecting := true }

/-- A step moves the heap without a push, moves one reception, pushes the next frame of a
connection, or pushes a clean-up request. -/
inductive ReaderMove (kind : ConnectionId → ServerKind) (state : ReaderState)
    (event : ReaderEvent) (next : ReaderState) : Prop
  | heap (moved : HeapEvent) (noPush : ∀ con request t, moved ≠ .push con request t)
      (stepped : heapStep state.heap moved = some next.heap)
      (kept : next.receptions = state.receptions)
  | reception (con : ConnectionId) (reception : Reception) (heap : next.heap = state.heap)
      (moved : next.receptions = updateAt state.receptions con reception)
      (alone : ReceptionMove (receivedDataHandlerFactory (kind con)) event con
        (state.receptions con) reception)
  | frame (con : ConnectionId) (reception : Reception) (frame : Frame) (arrival t : Int)
      (isDecode : event = .decode con arrival t)
      (decoding : (state.receptions con).phase = .decoding)
      (decoded : nextFrame (receivedDataHandlerFactory (kind con))
        (state.receptions con).buffer.readableBytes = .frame frame)
      (stepped : heapStep state.heap
        (.push con { arrival := arrival, tag := frame.tag, data := frame.payload } t) =
          some next.heap)
      (moved : next.receptions = updateAt state.receptions con reception)
      (log : reception.received = (state.receptions con).received ++
        [(frame, (state.heap.push con
          { arrival := arrival, tag := frame.tag, data := frame.payload } t).1)])
      (refusal : (state.receptions con).disconnecting = true ∨ (state.heap.push con
        { arrival := arrival, tag := frame.tag, data := frame.payload } t).1 = false →
          reception.disconnecting = true)
      (stays : reception.phase = .decoding)
      (rest : reception.buffer.readableBytes =
        (state.receptions con).buffer.readableBytes.drop (frame.payload.length + 8))
  | clean (con : ConnectionId) (reception : Reception) (arrival t : Int)
      (isDisconnected : event = .disconnected con arrival t)
      (up : (state.receptions con).phase ≠ .down)
      (stepped : heapStep state.heap (.push con (cleanRequest arrival) t) = some next.heap)
      (moved : next.receptions = updateAt state.receptions con reception)
      (log : reception.received = (state.receptions con).received)
      (rest : reception.buffer = (state.receptions con).buffer)
      (down : reception.phase = .down)

namespace ReceptionMove

variable {known : UInt32 → Bool} {event : ReaderEvent} {con : ConnectionId}
  {before after : Reception}

theorem received (moved : ReceptionMove known event con before after) :
    after.received = before.received := by
  cases moved <;> rfl

theorem down (moved : ReceptionMove known event con before after) (isDown : before.phase = .down) :
    after.phase = .down := by
  cases moved with
  | recv data isRecv idle => exact absurd (isDown.symm.trans idle) (by decide)
  | leave disconnecting decoding last kept =>
      exact absurd (isDown.symm.trans decoding) (by decide)
  | disconnect => exact isDown

end ReceptionMove

theorem decodeStep_move {kind : ConnectionId → ServerKind} {state next : ReaderState}
    {con : ConnectionId} {arrival t : Int} (decoding : (state.receptions con).phase = .decoding)
    (stepped : decodeStep kind state con arrival t = some next) :
    ReaderMove kind state (.decode con arrival t) next := by
  unfold decodeStep at stepped
  simp only at stepped
  split at stepped
  · rename_i short
    simp only [Option.some.injEq] at stepped
    subst stepped
    exact .reception con _ rfl rfl (.leave _ decoding (by simp [short]) id)
  · rename_i large
    simp only [Option.some.injEq] at stepped
    subst stepped
    exact .reception con _ rfl rfl (.leave true decoding (by simp [large]) fun _ => rfl)
  · rename_i unknown
    simp only [Option.some.injEq] at stepped
    subst stepped
    exact .reception con _ rfl rfl (.leave true decoding (by simp [unknown]) fun _ => rfl)
  · rename_i frame decoded
    obtain ⟨heap, pushed, rfl⟩ := Option.map_eq_some_iff.mp stepped
    refine .frame con _ frame arrival t rfl decoding decoded pushed rfl rfl ?_ decoding ?_
    · rintro (earlier | refused)
      · simp [earlier]
      · simp [refused]
    · exact ByteBuffer.moveReaderIndex_readableBytes _ _

theorem readerStep_move {kind : ConnectionId → ServerKind} {state next : ReaderState}
    {event : ReaderEvent} (stepped : readerStep kind state event = some next) :
    ReaderMove kind state event next := by
  unfold readerStep at stepped
  split at stepped
  · contradiction
  · rename_i event notPush
    obtain ⟨heap, moved, rfl⟩ := Option.map_eq_some_iff.mp stepped
    exact .heap event (fun con request t same => notPush con request t same) moved rfl
  · simp only at stepped
    split at stepped
    · rename_i idle
      simp only [Option.some.injEq] at stepped
      subst stepped
      exact .reception _ _ rfl rfl (.recv _ rfl idle.1)
    · contradiction
  · split at stepped
    · rename_i decoding
      exact decodeStep_move decoding stepped
    · contradiction
  · simp only [Option.some.injEq] at stepped
    subst stepped
    exact .reception _ _ rfl rfl .disconnect
  · simp only at stepped
    split at stepped
    · rename_i up
      obtain ⟨heap, pushed, rfl⟩ := Option.map_eq_some_iff.mp stepped
      refine .clean _ _ _ _ rfl ?_ pushed rfl rfl rfl rfl
      intro down
      rcases up with idle | closing
      · rw [down] at idle
        contradiction
      · rw [down] at closing
        contradiction
    · contradiction

structure ReaderOk (state : ReaderState) : Prop where
  heap : HeapOk state.heap
  log : ∀ con, ((state.heap.accepted con).filter fun request => request.tag ≠ Tag.clean).map
      Request.frame = ((state.receptions con).received.filter Prod.snd).map Prod.fst

theorem nextFrame_known {known : UInt32 → Bool} {readable : List UInt8} {frame : Frame}
    (decoded : nextFrame known readable = .frame frame) : known frame.tag = true := by
  simp only [nextFrame] at decoded
  split at decoded
  · contradiction
  · split at decoded
    · contradiction
    · split at decoded
      · contradiction
      · split at decoded
        · rename_i isKnown
          simp only [Decoded.frame.injEq] at decoded
          subst decoded
          exact isKnown
        · contradiction

theorem ReaderOk.move {kind : ConnectionId → ServerKind} {state next : ReaderState}
    {event : ReaderEvent} (ok : ReaderOk state) (move : ReaderMove kind state event next) :
    ReaderOk next := by
  cases move with
  | heap moved noPush stepped kept =>
      refine ⟨heapStep_ok ok.heap stepped, ?_⟩
      intro con
      rw [heapStep_accepted stepped noPush, kept]
      exact ok.log con
  | reception con reception heap moved alone =>
      refine ⟨heap ▸ ok.heap, ?_⟩
      intro other
      rw [heap, moved]
      by_cases same : other = con
      · subst same
        rw [updateAt_same, alone.received]
        exact ok.log other
      · rw [updateAt_other _ _ same]
        exact ok.log other
  | frame con reception frame arrival t isDecode decoding decoded stepped moved log _ _ _ =>
      refine ⟨heapStep_ok ok.heap stepped, ?_⟩
      have tag : frame.tag ≠ Tag.clean := by
        intro isClean
        have known := nextFrame_known decoded
        rw [isClean, factory_clean] at known
        contradiction
      intro other
      rw [heapStep_push stepped, HeapState.push_accepted, moved]
      by_cases same : other = con
      · subst same
        rw [updateAt_same, log, List.filter_append, List.map_append]
        cases answer : (state.heap.push other
            { arrival := arrival, tag := frame.tag, data := frame.payload } t).1 with
        | true => simpa [tag, Request.frame] using ok.log other
        | false => simpa using ok.log other
      · rw [updateAt_other _ _ same]
        split
        · rw [updateAt_other _ _ same]
          exact ok.log other
        · exact ok.log other
  | clean con reception arrival t isDisconnected up stepped moved log _ down =>
      refine ⟨heapStep_ok ok.heap stepped, ?_⟩
      intro other
      rw [heapStep_push stepped, HeapState.push_accepted, moved]
      by_cases same : other = con
      · subst same
        rw [updateAt_same, log]
        split
        · simpa [cleanRequest] using ok.log other
        · exact ok.log other
      · rw [updateAt_other _ _ same]
        split
        · rw [updateAt_other _ _ same]
          exact ok.log other
        · exact ok.log other

theorem ReaderOk.initial (now : Int) : ReaderOk { heap := { now := now } } :=
  ⟨HeapOk.initial now, fun _ => rfl⟩

theorem ReaderOk.reachable {kind : ConnectionId → ServerKind} {now : Int} {state : ReaderState}
    (reached : Transition.Reachable (readerStep kind) { heap := { now := now } } state) :
    ReaderOk state :=
  reached.invariant (readerStep kind) (fun _ _ _ ok stepped => ok.move (readerStep_move stepped))
    (ReaderOk.initial now)

theorem ReaderOk.handled_prefix {state : ReaderState} (ok : ReaderOk state) (con : ConnectionId) :
    state.handledFrames con <+: ((state.receptions con).received.filter Prod.snd).map Prod.fst := by
  rw [← ok.log con]
  have inOrder : state.heap.handed con <+: state.heap.accepted con :=
    ⟨_, (ok.heap.order con).symm⟩
  exact (inOrder.filter _).map _

/-! Feeding one connection. -/

structure Reading (state : ReaderState) (con : ConnectionId) (readable : List UInt8)
    (phase : Phase) (disconnecting : Bool) (received : List (Frame × Bool)) : Prop where
  readable : (state.receptions con).buffer.readableBytes = readable
  phase : (state.receptions con).phase = phase
  disconnecting : (state.receptions con).disconnecting = disconnecting
  received : (state.receptions con).received = received

theorem Reading.recv (kind : ConnectionId → ServerKind) {state : ReaderState} {con : ConnectionId}
    {received : List (Frame × Bool)} (reading : Reading state con [] .idle false received)
    (data : List UInt8) (nonempty : 0 < data.length) (small : data.length ≤ maxChunk) :
    ∃ next, readerStep kind state (.recv con data) = some next ∧ next.heap = state.heap ∧
      Reading next con data .decoding false received := by
  have stepped : readerStep kind state (.recv con data) = some (state.receive con
      { state.receptions con with
        buffer := (state.receptions con).buffer.write data
        phase := .decoding }) := by
    simp [readerStep, reading.phase, nonempty, small]
  refine ⟨_, stepped, rfl, ?_⟩
  constructor
  · simp [ReaderState.receive, reading.readable]
  · simp [ReaderState.receive]
  · simp [ReaderState.receive, reading.disconnecting]
  · simp [ReaderState.receive, reading.received]

theorem Reading.decode (kind : ConnectionId → ServerKind) {state : ReaderState}
    {con : ConnectionId} {frame : Frame} {rest : List UInt8} {disconnecting : Bool}
    {received : List (Frame × Bool)}
    (reading : Reading state con (frame.bytes ++ rest) .decoding disconnecting received)
    (known : receivedDataHandlerFactory (kind con) frame.tag = true)
    (small : frame.payload.length ≤ maxLen) {arrival t : Int} {heap : HeapState}
    (pushed : heapStep state.heap
      (.push con { arrival := arrival, tag := frame.tag, data := frame.payload } t) = some heap) :
    ∃ next, readerStep kind state (.decode con arrival t) = some next ∧ next.heap = heap ∧
      Reading next con rest .decoding
        (disconnecting || !(state.heap.push con
          { arrival := arrival, tag := frame.tag, data := frame.payload } t).1)
        (received ++ [(frame, (state.heap.push con
          { arrival := arrival, tag := frame.tag, data := frame.payload } t).1)]) := by
  have decoded := nextFrame_bytes rest known small
  rw [← reading.readable] at decoded
  have stepped : ∃ next, readerStep kind state (.decode con arrival t) = some next ∧
      next = ReaderState.receive { state with heap := heap } con { state.receptions con with
        buffer := (state.receptions con).buffer.moveReaderIndex (frame.payload.length + 8 : Nat)
        disconnecting := (state.receptions con).disconnecting || !(state.heap.push con
          { arrival := arrival, tag := frame.tag, data := frame.payload } t).1
        received := (state.receptions con).received ++ [(frame, (state.heap.push con
          { arrival := arrival, tag := frame.tag, data := frame.payload } t).1)] } := by
    simp only [readerStep]
    rw [if_pos reading.phase]
    unfold decodeStep
    simp only
    split
    · simp_all
    · simp_all
    · simp_all
    · rename_i other otherDecoded
      rw [decoded] at otherDecoded
      simp only [Decoded.frame.injEq] at otherDecoded
      subst otherDecoded
      rw [pushed]
      exact ⟨_, rfl, rfl⟩
  obtain ⟨next, ran, rfl⟩ := stepped
  refine ⟨_, ran, rfl, ?_⟩
  have length : frame.bytes.length = frame.payload.length + 8 := by
    rw [Frame.bytes, List.length_append, frameHeader_length, Nat.add_comm]
  constructor
  · simp only [ReaderState.receive, updateAt_same, ByteBuffer.moveReaderIndex_readableBytes,
      reading.readable, ← length, List.drop_left]
  · simp [ReaderState.receive, reading.phase]
  · simp [ReaderState.receive, reading.disconnecting]
  · simp [ReaderState.receive, reading.received]

theorem Reading.settle (kind : ConnectionId → ServerKind) {state : ReaderState}
    {con : ConnectionId} {disconnecting : Bool} {received : List (Frame × Bool)}
    (reading : Reading state con [] .decoding disconnecting received) (arrival t : Int) :
    ∃ next, readerStep kind state (.decode con arrival t) = some next ∧ next.heap = state.heap ∧
      Reading next con [] (if disconnecting then .closing else .idle) disconnecting received := by
  have decoded : nextFrame (receivedDataHandlerFactory (kind con))
      (state.receptions con).buffer.readableBytes = .incomplete := by
    rw [reading.readable]
    rfl
  have stepped : readerStep kind state (.decode con arrival t) =
      some (state.receive con (state.receptions con).leaveLoop) := by
    simp only [readerStep]
    rw [if_pos reading.phase]
    unfold decodeStep
    simp only
    split <;> simp_all
  refine ⟨_, stepped, rfl, ?_⟩
  constructor
  · simp [ReaderState.receive, Reception.leaveLoop, reading.readable]
  · simp [ReaderState.receive, Reception.leaveLoop, reading.disconnecting]
  · simp [ReaderState.receive, Reception.leaveLoop, reading.disconnecting]
  · simp [ReaderState.receive, Reception.leaveLoop, reading.received]

theorem Reading.heap (kind : ConnectionId → ServerKind) {state : ReaderState} {con : ConnectionId}
    {readable : List UInt8} {phase : Phase} {disconnecting : Bool} {received : List (Frame × Bool)}
    (reading : Reading state con readable phase disconnecting received) {event : HeapEvent}
    (noPush : ∀ con request t, event ≠ .push con request t) {heap : HeapState}
    (stepped : heapStep state.heap event = some heap) :
    ∃ next, readerStep kind state (.heap event) = some next ∧ next.heap = heap ∧
      Reading next con readable phase disconnecting received := by
  refine ⟨{ state with heap := heap }, ?_, rfl,
    ⟨reading.readable, reading.phase, reading.disconnecting, reading.received⟩⟩
  cases event with
  | push other request t => exact absurd rfl (noPush other request t)
  | tick now => simp only [readerStep, stepped, Option.map_some]
  | exec => simp only [readerStep, stepped, Option.map_some]
  | handled raised => simp only [readerStep, stepped, Option.map_some]
  | wake => simp only [readerStep, stepped, Option.map_some]

/-! Serving one connection. -/

structure Serving (heap : HeapState) (con : ConnectionId) (now : Int)
    (queue : Array ConnectionId) (client : Client) : Prop where
  now : heap.now = now
  idle : heap.running = none
  sound : heap.aborted = false
  queue : heap.queue = queue
  client : heap.clients con = client

theorem heapStep_push_eq {heap : HeapState} {con : ConnectionId} {request : Request} {t : Int}
    (idle : heap.running = none) (sound : heap.aborted = false)
    (early : request.arrival ≤ t) (late : t ≤ heap.now) :
    heapStep heap (.push con request t) = some (heap.push con request t).2 := by
  simp [heapStep, idle, sound, early, late]

/-- A request of an idle connection that is within its rate is served at once. -/
theorem Serving.inline {heap : HeapState} {con : ConnectionId} {now : Int} {client : Client}
    (serving : Serving heap con now #[] client) (none : client.requests = [])
    (nothing : client.numPendingBytes = 0) (request : Request) (early : request.arrival ≤ now)
    (within : (client.updateRLW request.arrival request.data.length).reservation ≤ now) :
    ∃ called, heapStep heap (.push con request now) = some called ∧
      (heap.push con request now).1 = true ∧ (called.clients con).requests = [] ∧
      ∃ next, heapStep called (.handled false) = some next ∧ next.exec = heap.exec ∧
        Serving next con now #[] (client.updateRLW request.arrival request.data.length) := by
  obtain ⟨requests, numPendingBytes, reservation, limit, proportion, R, L, W⟩ := client
  simp only at none nothing
  subst none nothing
  have pushed : heap.push con request now = (true,
      { heap with
        clients := updateAt heap.clients con (Client.updateRLW
          ⟨[], 0, reservation, limit, proportion, R, L, W⟩ request.arrival request.data.length)
        accepted := updateAt heap.accepted con (heap.accepted con ++ [request]) }.hand
          { caller := .inline, time := now, con := con, request := request }) := by
    simp only [Client.updateRLW] at within
    simp [HeapState.push, serving.client, Client.pushRequest, maxPendingBytes, Client.updateRLW,
      Client.popRequest, within]
  refine ⟨_, heapStep_push_eq serving.idle serving.sound early serving.now.ge, ?_, ?_, ?_⟩
  · rw [pushed]
  · rw [pushed]
    simp [HeapState.hand, Client.updateRLW]
  · rw [pushed]
    refine ⟨_, by simp [heapStep, HeapState.hand, serving.sound]; rfl, ?_, ?_⟩
    · simp [HeapState.handled]
    · constructor
      · simp [HeapState.handled, serving.now]
      · simp [HeapState.handled]
      · simp [HeapState.handled]
      · simp [HeapState.handled, serving.queue]
      · simp [HeapState.handled]

theorem takeClient_late {clients : ConnectionId → Client} {con : ConnectionId} {t : Int}
    (reservation : (t : ℚ) < (clients con).reservation) (limit : (t : ℚ) < (clients con).limit) :
    takeClient clients #[con] t = none := by
  simp [takeClient, selectClient, maxCount, not_le.mpr reservation, not_le.mpr limit]

theorem pushHeap_single (less : ConnectionId → ConnectionId → Bool) (con : ConnectionId) :
    BinaryHeap.pushHeap less #[con] 1 = #[con] := by
  simp [BinaryHeap.pushHeap, BinaryHeap.siftUp]

theorem popHeap_single (less : ConnectionId → ConnectionId → Bool) (con : ConnectionId) :
    BinaryHeap.popHeap less #[con] = #[con] := by
  simp [BinaryHeap.popHeap]

theorem processPossible_late {state : HeapState} {con : ConnectionId} {t : Int} (emptied : Bool)
    (only : state.queue = #[con]) (active : state.exec = .active)
    (reservation : (t : ℚ) < (state.clients con).reservation)
    (limit : (t : ℚ) < (state.clients con).limit) :
    processPossible state (.push emptied) t = state := by
  have nothing : pull state t = (.nothing, state) := by
    simp only [pull]
    rw [only, takeClient_late reservation limit]
  simp only [processPossible, nothing, active, notify, ite_self]
  rw [← active]

theorem Serving.wait {heap : HeapState} {con : ConnectionId} {now : Int}
    {queue : Array ConnectionId} {client : Client} (serving : Serving heap con now queue client)
    (queued : queue = if client.requests = [] then #[] else #[con])
    (room : client.numPendingBytes < maxPendingBytes) (request : Request)
    (early : request.arrival ≤ now) {waiting : Client}
    (isWaiting : (client.pushRequest request).2 = waiting)
    (reservation : (now : ℚ) < waiting.reservation) (limit : (now : ℚ) < waiting.limit)
    (active : heap.exec = .active) :
    ∃ next, heapStep heap (.push con request now) = some next ∧
      (heap.push con request now).1 = true ∧ next.exec = .active ∧
      Serving next con now #[con] waiting := by
  have accepted := (Client.pushRequest_accepted client request).mpr room
  have size := Client.pushRequest_size client request
  have isQueued := serving.queue
  have late : ¬ waiting.reservation ≤ (now : ℚ) := not_le.mpr reservation
  have pushed : heap.push con request now = (true, { heap with
      queue := #[con]
      clients := updateAt heap.clients con waiting
      accepted := updateAt heap.accepted con (heap.accepted con ++ [request]) }) := by
    simp only [HeapState.push]
    simp only [serving.client, accepted, if_true, size, isWaiting, serving.now, isQueued]
    by_cases first : client.requests = []
    · rw [if_pos first] at queued
      subst queued
      simp only [first, List.length_nil, if_true, if_neg late, Array.size_empty, Nat.zero_add,
        List.push_toArray, List.nil_append, pushHeap_single]
      rw [processPossible_late]
      · rfl
      · exact active
      · simpa using reservation
      · simpa using limit
    · rw [if_neg first] at queued
      subst queued
      rw [if_neg (by simpa [List.length_eq_zero_iff] using first)]
      rw [processPossible_late]
      · rfl
      · exact active
      · simpa using reservation
      · simpa using limit
  refine ⟨_, heapStep_push_eq serving.idle serving.sound early serving.now.ge, ?_, ?_, ?_⟩
  · rw [pushed]
  · rw [pushed]
    exact active
  · rw [pushed]
    exact ⟨serving.now, serving.idle, serving.sound, rfl, by simp⟩

theorem Serving.refuse {heap : HeapState} {con : ConnectionId} {now : Int}
    {queue : Array ConnectionId} {client : Client} (serving : Serving heap con now queue client)
    (full : maxPendingBytes ≤ client.numPendingBytes) (request : Request)
    (early : request.arrival ≤ now) :
    heapStep heap (.push con request now) = some heap ∧
      (heap.push con request now).1 = false := by
  have pushed : heap.push con request now = (false, heap) := by
    simp [HeapState.push, serving.client, Client.pushRequest, full]
  rw [heapStep_push_eq serving.idle serving.sound early serving.now.ge, pushed]
  exact ⟨rfl, rfl⟩

/-! Draining one connection. -/

/-- The worker runs a handler of `con`, with `waiting` more requests behind it that all come
within the rate before `now`. -/
structure Draining (heap : HeapState) (con : ConnectionId) (now : Int) (request : Request)
    (waiting : Nat) : Prop where
  clock : heap.now = now
  running : ∃ running, heap.running = some running ∧ running.caller = .exec ∧ running.time = now
  sound : heap.aborted = false
  active : heap.exec = .active
  queue : heap.queue = if waiting = 0 then #[] else #[con]
  requests : (heap.clients con).requests = List.replicate waiting request
  pending : (heap.clients con).numPendingBytes = waiting * request.data.length
  rate : (heap.clients con).R = 50 * 1024
  early : (request.arrival : ℚ) - 500 ≤ (heap.clients con).reservation
  within : (heap.clients con).reservation + 80 * waiting ≤ now

theorem popRequest_replicate {client : Client} {request : Request} {waiting : Nat}
    (requests : client.requests = List.replicate (waiting + 1) request) :
    ∃ popped, client.popRequest = some (request, popped) ∧
      popped.requests = List.replicate waiting request ∧
      popped.numPendingBytes = client.numPendingBytes - request.data.length ∧
      popped.R = client.R ∧
      popped.reservation = if waiting = 0 then client.reservation else
        max ((request.arrival : ℚ) - 500)
          (client.reservation + (request.data.length : ℚ) / client.R * 1000) := by
  simp only [Client.popRequest]
  rw [requests, List.replicate_succ]
  cases waiting with
  | zero => exact ⟨_, rfl, rfl, rfl, rfl, rfl⟩
  | succ waiting => exact ⟨_, rfl, rfl, rfl, rfl, rfl⟩

theorem processPossible_drains {state : HeapState} {con : ConnectionId} {now : Int}
    {request : Request} {waiting : Nat} (isNow : state.now = now) (sound : state.aborted = false)
    (active : state.exec = .active) (queue : state.queue = #[con])
    (requests : (state.clients con).requests = List.replicate (waiting + 1) request)
    (pending : (state.clients con).numPendingBytes = (waiting + 1) * request.data.length)
    (rate : (state.clients con).R = 50 * 1024) (size : request.data.length ≤ 4096)
    (early : (request.arrival : ℚ) - 500 ≤ (state.clients con).reservation)
    (within : (state.clients con).reservation + 80 * (waiting + 1 : Nat) ≤ now) :
    Draining (processPossible state .exec now) con now request waiting := by
  obtain ⟨popped, isPopped, rest, left, sameRate, reservation⟩ := popRequest_replicate requests
  have due : (state.clients con).reservation ≤ now := by
    push_cast at within
    have : (0 : ℚ) ≤ waiting := by positivity
    linarith
  have taken : takeClient state.clients state.queue now = some (con, #[]) := by
    simp [takeClient, queue, due, popHeap_single]
  have pulled : pull state now = (.request con request, { state with
      queue := if popped.requests = [] then #[] else #[con]
      clients := updateAt state.clients con popped }) := by
    simp only [pull]
    rw [taken]
    simp only [isPopped]
    by_cases empty : popped.requests = []
    · simp [empty]
    · simp [empty, pushHeap_single]
  have cost : (request.data.length : ℚ) / (50 * 1024 : Nat) * 1000 ≤ 80 := by
    have small : (request.data.length : ℚ) ≤ 4096 := by exact_mod_cast size
    norm_num
    linarith
  have costNonneg : (0 : ℚ) ≤ (request.data.length : ℚ) / (50 * 1024 : Nat) * 1000 := by positivity
  simp only [processPossible]
  rw [pulled]
  refine ⟨isNow, ⟨_, rfl, rfl, rfl⟩, sound, active, ?_, ?_, ?_, ?_, ?_, ?_⟩
  · simp [HeapState.hand, rest]
  · simp [HeapState.hand, rest]
  · simp only [HeapState.hand, updateAt_same, left, pending, Nat.succ_mul]
    omega
  · simp [HeapState.hand, sameRate, rate]
  · simp only [HeapState.hand, updateAt_same, reservation]
    split
    · exact early
    · exact le_max_left _ _
  · simp only [HeapState.hand, updateAt_same, reservation, rate]
    push_cast at within
    split
    · rename_i none
      subst none
      norm_num at within ⊢
      linarith
    · rw [← le_sub_iff_add_le]
      apply max_le
      · linarith
      · linarith

theorem Draining.handled {heap : HeapState} {con : ConnectionId} {now : Int} {request : Request}
    {waiting : Nat} (draining : Draining heap con now request (waiting + 1))
    (size : request.data.length ≤ 4096) :
    ∃ next, heapStep heap (.handled false) = some next ∧ Draining next con now request waiting := by
  obtain ⟨running, isRunning, caller, time⟩ := draining.running
  have stepped : heapStep heap (.handled false) = some (heap.handled running false) := by
    simp [heapStep, draining.sound, isRunning]
  refine ⟨_, stepped, ?_⟩
  simp only [HeapState.handled]
  rw [caller, time]
  apply processPossible_drains
  · exact draining.clock
  · exact draining.sound
  · exact draining.active
  · simpa using draining.queue
  · exact draining.requests
  · exact draining.pending
  · exact draining.rate
  · exact size
  · exact draining.early
  · exact draining.within

theorem Draining.finish {heap : HeapState} {con : ConnectionId} {now : Int} {request : Request}
    (draining : Draining heap con now request 0) :
    ∃ next, heapStep heap (.handled false) = some next ∧
      Serving next con now #[] (heap.clients con) := by
  obtain ⟨running, isRunning, caller, time⟩ := draining.running
  have queue : heap.queue = #[] := by simpa using draining.queue
  refine ⟨heap.handled running false, by simp [heapStep, draining.sound, isRunning], ?_⟩
  simp only [HeapState.handled, caller, processPossible, pull, takeClient, queue]
  exact ⟨draining.clock, rfl, draining.sound, rfl, rfl⟩

theorem Reading.drain (kind : ConnectionId → ServerKind) {state : ReaderState} {con : ConnectionId}
    {readable : List UInt8} {phase : Phase} {disconnecting : Bool} {received : List (Frame × Bool)}
    (reading : Reading state con readable phase disconnecting received) {now : Int}
    {request : Request} {waiting : Nat} (draining : Draining state.heap con now request waiting)
    (size : request.data.length ≤ 4096) :
    ∃ next, Transition.run (readerStep kind) state
        (List.replicate (waiting + 1) (.heap (.handled false))) = some next ∧
      Reading next con readable phase disconnecting received ∧
      ∃ client, Serving next.heap con now #[] client ∧ client.requests = [] ∧
        client.numPendingBytes = 0 ∧ client.reservation ≤ now := by
  induction waiting generalizing state with
  | zero =>
      obtain ⟨heap, stepped, serving⟩ := draining.finish
      obtain ⟨next, ran, isHeap, still⟩ := reading.heap kind (by simp) stepped
      have within := draining.within
      refine ⟨next, by simp [Transition.run, ran], still, _, isHeap ▸ serving, ?_, ?_, ?_⟩
      · simpa using draining.requests
      · simpa using draining.pending
      · simpa using within
  | succ waiting ih =>
      obtain ⟨heap, stepped, drained⟩ := draining.handled size
      obtain ⟨middle, ran, isHeap, still⟩ := reading.heap kind (by simp) stepped
      obtain ⟨next, rest, result⟩ := ih still (isHeap ▸ drained)
      refine ⟨next, ?_, result⟩
      rw [List.replicate_succ, Transition.run_cons]
      exact ⟨middle, ran, rest⟩

/-! A connection filled to the bound. -/

def startTime : Int := 1700000000000

/-- With its header, a block fills one chunk exactly. -/
def payloadSize : Nat := 4088

def block : Frame := { tag := Tag.requestEcho, payload := List.replicate payloadSize 0 }

def blockRequest : Request :=
  { arrival := startTime, tag := Tag.requestEcho, data := List.replicate payloadSize 0 }

def servedRound : List ReaderEvent := [.recv 1 block.bytes, .decode 1 startTime startTime,
  .heap (.handled false), .decode 1 startTime startTime]

def waitingRound : List ReaderEvent := [.recv 1 block.bytes, .decode 1 startTime startTime,
  .decode 1 startTime startTime]

/-- Seven blocks are served as they come, then 2566 pile up within the same millisecond. -/
def fillEvents : List ReaderEvent :=
  (List.replicate 7 servedRound).flatten ++ (List.replicate 2566 waitingRound).flatten

def allApplication : ConnectionId → ServerKind := fun _ => .application

theorem block_length : block.bytes.length = maxChunk := by
  rw [Frame.bytes, List.length_append, frameHeader_length, block, List.length_replicate]
  rfl

theorem block_known : receivedDataHandlerFactory (allApplication 1) block.tag = true := by
  decide

theorem block_small : block.payload.length ≤ maxLen := by
  rw [block, List.length_replicate]
  decide

theorem blockRequest_length : blockRequest.data.length = payloadSize :=
  List.length_replicate

structure Filled (state : ReaderState) (client : Client) (queue : Array ConnectionId)
    (blocks : Nat) : Prop where
  reading : Reading state 1 [] .idle false (List.replicate blocks (block, true))
  serving : Serving state.heap 1 startTime queue client
  active : state.heap.exec = .active

theorem Filled.takes {state : ReaderState} {client : Client} {queue : Array ConnectionId}
    {blocks : Nat} {heap : HeapState} (filled : Filled state client queue blocks)
    (pushed : heapStep state.heap (.push 1 blockRequest startTime) = some heap)
    (answer : (state.heap.push 1 blockRequest startTime).1 = true) :
    ∃ received decoded,
      readerStep allApplication state (.recv 1 block.bytes) = some received ∧
      readerStep allApplication received (.decode 1 startTime startTime) = some decoded ∧
      decoded.heap = heap ∧
      Reading decoded 1 [] .decoding false
        (List.replicate blocks (block, true) ++ [(block, true)]) := by
  obtain ⟨received, ranRecv, heapRecv, readingRecv⟩ := filled.reading.recv allApplication
    block.bytes (by rw [block_length]; decide) block_length.le
  rw [← List.append_nil block.bytes] at readingRecv
  rw [← heapRecv] at pushed answer
  obtain ⟨decoded, ranDecode, heapDecode, readingDecode⟩ := readingRecv.decode
    allApplication block_known block_small pushed
  change (received.heap.push 1 { arrival := startTime, tag := block.tag, data := block.payload }
    startTime).1 = true at answer
  rw [answer] at readingDecode
  exact ⟨received, decoded, ranRecv, ranDecode, heapDecode, readingDecode⟩

theorem Filled.serve {state : ReaderState} {client : Client} {blocks : Nat}
    (filled : Filled state client #[] blocks) (none : client.requests = [])
    (nothing : client.numPendingBytes = 0)
    (within : (client.updateRLW startTime payloadSize).reservation ≤ startTime) :
    ∃ next, Transition.run (readerStep allApplication) state servedRound = some next ∧
      Filled next (client.updateRLW startTime payloadSize) #[] (blocks + 1) := by
  rw [← blockRequest_length] at within ⊢
  obtain ⟨called, pushed, answer, _, next, handled, sameExec, serving⟩ :=
    filled.serving.inline none nothing blockRequest le_rfl within
  obtain ⟨received, decoded, ranRecv, ranDecode, heapDecode, readingDecode⟩ :=
    filled.takes pushed answer
  rw [← heapDecode] at handled
  obtain ⟨returned, ranHandled, heapHandled, readingHandled⟩ := readingDecode.heap
    allApplication (by simp) handled
  obtain ⟨final, ranSettle, heapSettle, readingSettle⟩ := readingHandled.settle
    allApplication startTime startTime
  refine ⟨final, ?_, ?_⟩
  · rw [servedRound, Transition.run_cons]
    refine ⟨received, ranRecv, ?_⟩
    rw [Transition.run_cons]
    refine ⟨decoded, ranDecode, ?_⟩
    rw [Transition.run_cons]
    refine ⟨returned, ranHandled, ?_⟩
    rw [Transition.run_cons]
    exact ⟨final, ranSettle, rfl⟩
  · refine ⟨?_, ?_, ?_⟩
    · rw [List.replicate_succ']
      exact readingSettle
    · rw [heapSettle, heapHandled]
      exact serving
    · rw [heapSettle, heapHandled, sameExec]
      exact filled.active

theorem Filled.wait {state : ReaderState} {client waiting : Client}
    {queue : Array ConnectionId} {blocks : Nat} (filled : Filled state client queue blocks)
    (queued : queue = if client.requests = [] then #[] else #[1])
    (room : client.numPendingBytes < maxPendingBytes)
    (isWaiting : (client.pushRequest blockRequest).2 = waiting)
    (reservation : (startTime : ℚ) < waiting.reservation) (limit : (startTime : ℚ) < waiting.limit) :
    ∃ next, Transition.run (readerStep allApplication) state waitingRound = some next ∧
      Filled next waiting #[1] (blocks + 1) := by
  obtain ⟨heap, pushed, answer, active, serving⟩ := filled.serving.wait queued room blockRequest
    le_rfl isWaiting reservation limit filled.active
  obtain ⟨received, decoded, ranRecv, ranDecode, heapDecode, readingDecode⟩ :=
    filled.takes pushed answer
  obtain ⟨final, ranSettle, heapSettle, readingSettle⟩ := readingDecode.settle
    allApplication startTime startTime
  refine ⟨final, ?_, ?_⟩
  · rw [waitingRound, Transition.run_cons]
    refine ⟨received, ranRecv, ?_⟩
    rw [Transition.run_cons]
    refine ⟨decoded, ranDecode, ?_⟩
    rw [Transition.run_cons]
    exact ⟨final, ranSettle, rfl⟩
  · refine ⟨?_, ?_, ?_⟩
    · rw [List.replicate_succ']
      exact readingSettle
    · rw [heapSettle, heapDecode]
      exact serving
    · rw [heapSettle, heapDecode]
      exact active

structure Paced (client : Client) (blocks : Nat) : Prop where
  requests : client.requests = []
  pending : client.numPendingBytes = 0
  R : client.R = 50 * 1024
  L : client.L = 1024 * 1024 * 2
  reservation : client.reservation = startTime - 500 + (blocks - 1) * (2555 / 32)
  limit : client.limit = startTime + (blocks - 1) * (511 / 262144 * 1000)

theorem Paced.first : Paced (Client.updateRLW {} startTime payloadSize) 1 := by
  refine ⟨rfl, rfl, rfl, rfl, ?_, ?_⟩
  · simp only [Client.updateRLW, startTime, payloadSize]
    norm_num
  · simp only [Client.updateRLW, startTime, payloadSize]
    norm_num

theorem Paced.next {client : Client} {blocks : Nat} (paced : Paced client blocks)
    (some : 1 ≤ blocks) : Paced (client.updateRLW startTime payloadSize) (blocks + 1) := by
  have atLeast : (1 : ℚ) ≤ blocks := by exact_mod_cast some
  refine ⟨paced.requests, paced.pending, paced.R, paced.L, ?_, ?_⟩
  · simp only [Client.updateRLW, paced.reservation, paced.R, payloadSize]
    rw [max_eq_right]
    · push_cast
      ring
    · push_cast
      nlinarith
  · simp only [Client.updateRLW, paced.limit, paced.L, payloadSize]
    rw [max_eq_right]
    · push_cast
      ring
    · push_cast
      nlinarith

theorem served_run (blocks : Nat) (few : blocks + 1 ≤ 7) :
    ∃ state client, Transition.run (readerStep allApplication) { heap := { now := startTime } }
        (List.replicate (blocks + 1) servedRound).flatten = some state ∧
      Filled state client #[] (blocks + 1) ∧ Paced client (blocks + 1) := by
  induction blocks with
  | zero =>
      have filled : Filled { heap := { now := startTime } } {} #[] 0 :=
        ⟨⟨ByteBuffer.empty_readableBytes, rfl, rfl, rfl⟩, ⟨rfl, rfl, rfl, rfl, rfl⟩, rfl⟩
      have paced := Paced.first
      obtain ⟨next, ran, served⟩ := filled.serve rfl rfl (by rw [paced.reservation]; norm_num)
      exact ⟨next, _, by simpa using ran, served, paced⟩
  | succ blocks ih =>
      obtain ⟨state, client, ran, filled, paced⟩ := ih (by omega)
      have next := paced.next (by omega)
      have count : (blocks : ℚ) ≤ 5 := by
        have : blocks ≤ 5 := by omega
        exact_mod_cast this
      obtain ⟨final, ranRound, served⟩ := filled.serve paced.requests paced.pending (by
        rw [next.reservation]
        push_cast
        linarith)
      refine ⟨final, _, ?_, served, next⟩
      rw [List.replicate_succ', List.flatten_append, Transition.run_append]
      exact ⟨state, ran, by simpa using ranRound⟩

/-- A connection with `waiting` blocks in its list and no rate left at the start time. -/
structure Stuck (client : Client) (waiting : Nat) : Prop where
  requests : client.requests = List.replicate waiting blockRequest
  pending : client.numPendingBytes = waiting * payloadSize
  R : client.R = 50 * 1024
  reservation : (startTime : ℚ) < client.reservation
  near : client.reservation ≤ startTime + 100
  limit : (startTime : ℚ) < client.limit

theorem Paced.stuck {client : Client} (paced : Paced client 7) :
    Stuck (client.pushRequest blockRequest).2 1 := by
  have eighth := paced.next (by omega)
  have pushed : (client.pushRequest blockRequest).2 = { client.updateRLW startTime payloadSize with
      requests := [blockRequest]
      numPendingBytes := payloadSize } := by
    simp only [Client.pushRequest, paced.pending, paced.requests, blockRequest_length]
    rfl
  rw [pushed]
  refine ⟨rfl, by simp, eighth.R, ?_, ?_, ?_⟩
  · rw [eighth.reservation]
    push_cast
    linarith
  · rw [eighth.reservation]
    push_cast
    linarith
  · rw [eighth.limit]
    push_cast
    linarith

theorem Stuck.more {client : Client} {waiting : Nat} (stuck : Stuck client (waiting + 1))
    (room : (waiting + 1) * payloadSize < maxPendingBytes) :
    Stuck (client.pushRequest blockRequest).2 (waiting + 2) := by
  have notFull : ¬ client.numPendingBytes ≥ maxPendingBytes := by
    rw [stuck.pending]
    omega
  have several : client.requests.length ≠ 0 := by
    rw [stuck.requests, List.length_replicate]
    omega
  have pushed : (client.pushRequest blockRequest).2 = { client with
      requests := client.requests ++ [blockRequest]
      numPendingBytes := client.numPendingBytes + payloadSize } := by
    simp only [Client.pushRequest, if_neg notFull, if_neg several, blockRequest_length]
  rw [pushed]
  refine ⟨?_, ?_, stuck.R, stuck.reservation, stuck.near, stuck.limit⟩
  · rw [stuck.requests, ← List.replicate_succ']
  · simp only [stuck.pending]
    ring

theorem waiting_run (waiting : Nat) (room : waiting * payloadSize < maxPendingBytes) :
    ∃ state client, Transition.run (readerStep allApplication) { heap := { now := startTime } }
        ((List.replicate 7 servedRound).flatten ++
          (List.replicate (waiting + 1) waitingRound).flatten) = some state ∧
      Filled state client #[1] (7 + (waiting + 1)) ∧ Stuck client (waiting + 1) := by
  induction waiting with
  | zero =>
      obtain ⟨state, client, ran, filled, paced⟩ := served_run 6 (by omega)
      have stuck := paced.stuck
      obtain ⟨next, ranRound, waited⟩ := filled.wait (by rw [paced.requests]; rfl)
        (by rw [paced.pending]; decide) rfl stuck.reservation stuck.limit
      refine ⟨next, _, ?_, waited, stuck⟩
      rw [Transition.run_append]
      exact ⟨state, ran, by simpa using ranRound⟩
  | succ waiting ih =>
      obtain ⟨state, client, ran, filled, stuck⟩ := ih (by rw [Nat.succ_mul] at room; omega)
      have more := stuck.more room
      have queued : (#[1] : Array ConnectionId) = if client.requests = [] then #[] else #[1] := by
        rw [stuck.requests, List.replicate_succ]
        rfl
      obtain ⟨next, ranRound, waited⟩ := filled.wait queued (by rw [stuck.pending]; exact room)
        rfl more.reservation more.limit
      refine ⟨next, _, ?_, waited, more⟩
      have grown : List.replicate (waiting + 1 + 1) waitingRound =
          List.replicate (waiting + 1) waitingRound ++ [waitingRound] := List.replicate_succ'
      rw [grown, List.flatten_append, ← List.append_assoc, Transition.run_append]
      exact ⟨state, ran, by simpa using ranRound⟩

theorem fill_run : ∃ state client,
    Transition.run (readerStep allApplication) { heap := { now := startTime } } fillEvents =
      some state ∧ Filled state client #[1] 2573 ∧ Stuck client 2566 :=
  waiting_run 2565 (by decide)

def refusedFrame : Frame := { tag := Tag.requestEcho, payload := [1] }

def lateFrame : Frame := { tag := Tag.requestEcho, payload := [] }

def drainTime : Int := startTime + 1000000

def lateEvents : List ReaderEvent :=
  [.recv 1 (refusedFrame.bytes ++ lateFrame.bytes), .decode 1 startTime startTime,
    .heap (.tick drainTime), .heap .exec] ++
  (List.replicate 2566 (.heap (.handled false)) ++ [.decode 1 drainTime drainTime])

theorem Serving.tick {heap : HeapState} {con : ConnectionId} {now later : Int}
    {queue : Array ConnectionId} {client : Client} (serving : Serving heap con now queue client)
    (after : now ≤ later) :
    ∃ next, heapStep heap (.tick later) = some next ∧ next.exec = heap.exec ∧
      Serving next con later queue client := by
  refine ⟨{ heap with now := later }, ?_, rfl,
    ⟨rfl, serving.idle, serving.sound, serving.queue, serving.client⟩⟩
  simp [heapStep, serving.sound, serving.now, after]

theorem Serving.exec {heap : HeapState} {con : ConnectionId} {now : Int} {client : Client}
    (serving : Serving heap con now #[con] client) (active : heap.exec = .active)
    {request : Request} {waiting : Nat}
    (requests : client.requests = List.replicate (waiting + 1) request)
    (pending : client.numPendingBytes = (waiting + 1) * request.data.length)
    (rate : client.R = 50 * 1024) (size : request.data.length ≤ 4096)
    (early : (request.arrival : ℚ) - 500 ≤ client.reservation)
    (within : client.reservation + 80 * (waiting + 1 : Nat) ≤ now) :
    ∃ next, heapStep heap .exec = some next ∧ Draining next con now request waiting := by
  have stepped : heapStep heap .exec = some (processPossible heap .exec now) := by
    simp [heapStep, serving.sound, serving.idle, active, serving.now]
  refine ⟨_, stepped, ?_⟩
  apply processPossible_drains
  · exact serving.now
  · exact serving.sound
  · exact active
  · exact serving.queue
  · rw [serving.client]
    exact requests
  · rw [serving.client]
    exact pending
  · rw [serving.client]
    exact rate
  · exact size
  · rw [serving.client]
    exact early
  · rw [serving.client]
    exact within

theorem Filled.refuses {state : ReaderState} {client : Client} {queue : Array ConnectionId}
    {blocks : Nat} (filled : Filled state client queue blocks)
    (full : maxPendingBytes ≤ client.numPendingBytes) (rest : List UInt8)
    (small : (refusedFrame.bytes ++ rest).length ≤ maxChunk) :
    ∃ received refused,
      readerStep allApplication state (.recv 1 (refusedFrame.bytes ++ rest)) = some received ∧
      readerStep allApplication received (.decode 1 startTime startTime) = some refused ∧
      refused.heap = state.heap ∧
      Reading refused 1 rest .decoding true
        (List.replicate blocks (block, true) ++ [(refusedFrame, false)]) := by
  obtain ⟨received, ranRecv, heapRecv, readingRecv⟩ := filled.reading.recv allApplication
    (refusedFrame.bytes ++ rest) (by rw [List.length_append]; exact Nat.add_pos_left (by decide) _)
    small
  obtain ⟨pushed, answer⟩ := filled.serving.refuse full
    { arrival := startTime, tag := refusedFrame.tag, data := refusedFrame.payload } le_rfl
  rw [← heapRecv] at pushed answer
  obtain ⟨refused, ranRefused, heapRefused, readingRefused⟩ := readingRecv.decode
    allApplication (by decide) (by decide) pushed
  rw [answer] at readingRefused
  exact ⟨received, refused, ranRecv, ranRefused, heapRefused.trans heapRecv, readingRefused⟩

theorem late_run : ∃ state,
    Transition.run (readerStep allApplication) { heap := { now := startTime } }
      (fillEvents ++ lateEvents) = some state ∧
    state.frames 1 = List.replicate 2573 block ++ [refusedFrame, lateFrame] ∧
    state.handledFrames 1 = List.replicate 2573 block ++ [lateFrame] := by
  obtain ⟨filled, client, ranFill, isFilled, stuck⟩ := fill_run
  -- the chunk, and the refusal of its first frame
  obtain ⟨received, refused, ranRecv, ranRefused, heapRefused, readingRefused⟩ :=
    isFilled.refuses (by rw [stuck.pending]; decide) lateFrame.bytes (by decide)
  -- the worker empties the list
  obtain ⟨ticked, stepTick, execTick, servingTick⟩ := isFilled.serving.tick
    (show startTime ≤ drainTime by decide)
  rw [← heapRefused] at stepTick
  obtain ⟨later, ranTick, heapTick, readingTick⟩ := readingRefused.heap allApplication
    (by simp) stepTick
  obtain ⟨working, stepExec, draining⟩ := servingTick.exec (execTick.trans isFilled.active)
    stuck.requests (by rw [blockRequest_length]; exact stuck.pending) stuck.R (by rw [blockRequest_length]; decide)
    (by
      have above := stuck.reservation
      simp only [blockRequest]
      linarith)
    (by
      have near := stuck.near
      simp only [drainTime]
      push_cast
      linarith)
  rw [← heapTick] at stepExec
  obtain ⟨executed, ranExec, heapExec, readingExec⟩ := readingTick.heap allApplication
    (by simp) stepExec
  rw [← heapExec] at draining
  obtain ⟨drained, ranDrain, readingDrain, last, servingLast, none, nothing, within⟩ :=
    readingExec.drain allApplication draining (by rw [blockRequest_length]; decide)
  -- the second frame is served at once
  obtain ⟨called, pushedLast, answerLast, empty, _⟩ := servingLast.inline none nothing
    { arrival := drainTime, tag := lateFrame.tag, data := lateFrame.payload } le_rfl (by
      simp only [Client.updateRLW, lateFrame, List.length_nil]
      apply max_le
      · linarith
      · simpa using within)
  rw [← List.append_nil lateFrame.bytes] at readingDrain
  obtain ⟨state, ranLate, heapLate, readingLate⟩ := readingDrain.decode allApplication
    (by decide) (by decide) pushedLast
  rw [answerLast] at readingLate
  have ran : Transition.run (readerStep allApplication) { heap := { now := startTime } }
      (fillEvents ++ lateEvents) = some state := by
    rw [Transition.run_append]
    refine ⟨filled, ranFill, ?_⟩
    rw [lateEvents, Transition.run_append]
    refine ⟨executed, ?_, ?_⟩
    · simp only [Transition.run, ranRecv, ranRefused, ranTick, ranExec, Option.bind_some]
    · rw [Transition.run_append]
      refine ⟨drained, ranDrain, ?_⟩
      simp only [Transition.run, ranLate, Option.bind_some]
  have ok : ReaderOk state := ReaderOk.reachable ⟨_, ran⟩
  have handed : state.heap.handed 1 = state.heap.accepted 1 := by
    have order := ok.heap.order 1
    rw [heapLate, empty, List.append_nil] at order
    rw [heapLate]
    exact order.symm
  refine ⟨state, ran, ?_, ?_⟩
  · simp [-List.reduceReplicate, ReaderState.frames, readingLate.received]
  · rw [ReaderState.handledFrames, handed, ok.log 1, readingLate.received]
    simp [-List.reduceReplicate]

/-! Refusals that stick. -/

/-- A frame decoded after one of its connection was refused finds the list still full. -/
def RefusalSticks (kind : ConnectionId → ServerKind) (state : ReaderState) : ReaderEvent → Prop
  | .decode con _ _ =>
      (∃ entry ∈ (state.receptions con).received, entry.2 = false) →
      (∃ frame, nextFrame (receivedDataHandlerFactory (kind con))
        (state.receptions con).buffer.readableBytes = .frame frame) →
      maxPendingBytes ≤ (state.heap.clients con).numPendingBytes
  | _ => True

theorem filter_eq_takeWhile_append {log : List (Frame × Bool)} {entry : Frame × Bool}
    (cut : log.filter Prod.snd = log.takeWhile Prod.snd)
    (late : (∃ earlier ∈ log, earlier.2 = false) → entry.2 = false) :
    (log ++ [entry]).filter Prod.snd = (log ++ [entry]).takeWhile Prod.snd := by
  by_cases refused : ∃ earlier ∈ log, earlier.2 = false
  · have isRefused := late refused
    obtain ⟨earlier, member, earlierRefused⟩ := refused
    have stops : ¬ ∀ other ∈ log, other.2 = true := by
      intro always
      rw [always earlier member] at earlierRefused
      contradiction
    rw [List.takeWhile_append]
    have shorter : (log.takeWhile Prod.snd).length ≠ log.length := by
      intro whole
      have same : log.takeWhile Prod.snd = log :=
        (List.takeWhile_prefix _).eq_of_length whole
      exact stops (List.takeWhile_eq_self_iff.mp same)
    simp [shorter, isRefused, cut]
  · have always : ∀ other ∈ log, other.2 = true := by
      intro other member
      by_contra notTrue
      exact refused ⟨other, member, by simpa using notTrue⟩
    rw [List.takeWhile_append, List.takeWhile_eq_self_iff.mpr always, List.filter_append,
      List.filter_eq_self.mpr always]
    cases answer : entry.2 <;> simp [answer]

def RefusalsLast (state : ReaderState) : Prop :=
  ∀ con, (state.receptions con).received.filter Prod.snd =
    (state.receptions con).received.takeWhile Prod.snd

theorem RefusalsLast.move {kind : ConnectionId → ServerKind} {state next : ReaderState}
    {event : ReaderEvent} (last : RefusalsLast state) (sticks : RefusalSticks kind state event)
    (move : ReaderMove kind state event next) : RefusalsLast next := by
  have same : ∀ (con : ConnectionId) (reception : Reception),
      next.receptions = updateAt state.receptions con reception →
      reception.received = (state.receptions con).received → RefusalsLast next := by
    intro con reception moved log other
    rw [moved]
    by_cases same : other = con
    · subst same
      rw [updateAt_same, log]
      exact last other
    · rw [updateAt_other _ _ same]
      exact last other
  cases move with
  | heap moved noPush stepped kept =>
      intro con
      rw [kept]
      exact last con
  | reception con reception heap moved alone => exact same con reception moved alone.received
  | frame con reception frame arrival t isDecode decoding decoded stepped moved log _ _ _ =>
      intro other
      rw [moved]
      by_cases same : other = con
      · subst same
        rw [updateAt_same, log]
        apply filter_eq_takeWhile_append (last other)
        intro refused
        subst isDecode
        have full := sticks refused ⟨frame, decoded⟩
        have answer := state.heap.push_answer other
          { arrival := arrival, tag := frame.tag, data := frame.payload } t
        simp only [Bool.eq_false_iff, ne_eq, answer]
        omega
      · rw [updateAt_other _ _ same]
        exact last other
  | clean con reception arrival t isDisconnected up stepped moved log _ down =>
      exact same con reception moved log

/-- No frame follows a refused one in what has come of its connection. -/
def RefusedLast (kind : ConnectionId → ServerKind) (state : ReaderState) : ReaderEvent → Prop
  | .decode con _ _ =>
      maxPendingBytes ≤ (state.heap.clients con).numPendingBytes →
      ∀ frame, nextFrame (receivedDataHandlerFactory (kind con))
        (state.receptions con).buffer.readableBytes = .frame frame →
      ∀ later, nextFrame (receivedDataHandlerFactory (kind con))
        ((state.receptions con).buffer.readableBytes.drop (frame.payload.length + 8)) ≠ .frame later
  | _ => True

/-- After a refusal the connection goes down without another frame. -/
structure CutOff (known : UInt32 → Bool) (reception : Reception) : Prop where
  notIdle : reception.phase ≠ .idle
  disconnecting : reception.phase = .decoding → reception.disconnecting = true
  nothing : ∀ frame, nextFrame known reception.buffer.readableBytes ≠ .frame frame

def RefusedCutOff (kind : ConnectionId → ServerKind) (state : ReaderState) : Prop :=
  ∀ con, (∃ entry ∈ (state.receptions con).received, entry.2 = false) →
    CutOff (receivedDataHandlerFactory (kind con)) (state.receptions con)

theorem CutOff.alone {known : UInt32 → Bool} {event : ReaderEvent} {con : ConnectionId}
    {before after : Reception} (cut : CutOff known before)
    (moved : ReceptionMove known event con before after) : CutOff known after := by
  cases moved with
  | recv data isRecv idle => exact absurd idle cut.notIdle
  | leave disconnecting decoding last kept =>
      have isTrue := kept (cut.disconnecting decoding)
      subst isTrue
      exact ⟨by simp [Reception.leaveLoop], fun _ => rfl, last⟩
  | disconnect => exact ⟨cut.notIdle, fun _ => rfl, cut.nothing⟩

theorem RefusedCutOff.move {kind : ConnectionId → ServerKind} {state next : ReaderState}
    {event : ReaderEvent} (cutOff : RefusedCutOff kind state) (last : RefusedLast kind state event)
    (move : ReaderMove kind state event next) : RefusedCutOff kind next := by
  cases move with
  | heap moved noPush stepped kept =>
      intro con
      rw [kept]
      exact cutOff con
  | reception con reception heap moved alone =>
      intro other
      rw [moved]
      by_cases same : other = con
      · subst same
        rw [updateAt_same, alone.received]
        exact fun refused => (cutOff other refused).alone alone
      · rw [updateAt_other _ _ same]
        exact cutOff other
  | frame con reception frame arrival t isDecode decoding decoded stepped moved log refusal stays
      rest =>
      intro other
      rw [moved]
      by_cases same : other = con
      · subst same
        rw [updateAt_same, log]
        rintro ⟨entry, member, isRefused⟩
        rcases List.mem_append.mp member with earlier | new
        · exact absurd decoded ((cutOff other ⟨entry, earlier, isRefused⟩).nothing frame)
        · rw [List.mem_singleton] at new
          rw [new] at isRefused
          refine ⟨by simp [stays], fun _ => refusal (.inr isRefused), ?_⟩
          have full : maxPendingBytes ≤ (state.heap.clients other).numPendingBytes := by
            rw [← not_lt, ← state.heap.push_answer other _ t]
            exact Bool.eq_false_iff.mp isRefused
          subst isDecode
          rw [rest]
          exact last full frame decoded
      · rw [updateAt_other _ _ same]
        exact cutOff other
  | clean con reception arrival t isDisconnected up stepped moved log rest down =>
      intro other
      rw [moved]
      by_cases same : other = con
      · subst same
        rw [updateAt_same, log]
        intro refused
        refine ⟨by simp [down], by simp [down], ?_⟩
        rw [rest]
        exact (cutOff other refused).nothing
      · rw [updateAt_other _ _ same]
        exact cutOff other

/-- Where no frame follows a refused one in its chunk, no frame is decoded after a refusal. -/
theorem refusedLast_sticks {kind : ConnectionId → ServerKind} {now : Int}
    {events : List ReaderEvent}
    (last : Transition.Along (readerStep kind) (RefusedLast kind) { heap := { now := now } } events) :
    Transition.Along (readerStep kind) (RefusalSticks kind) { heap := { now := now } } events := by
  refine last.mono (readerStep kind) (RefusedCutOff kind) ?_ ?_ ?_
  · intro state event next cutOff isLast stepped
    exact cutOff.move isLast (readerStep_move stepped)
  · rintro state event cutOff -
    cases event with
    | decode con arrival t =>
        rintro refused ⟨frame, decoded⟩
        exact absurd decoded ((cutOff con refused).nothing frame)
    | _ => trivial
  · rintro con ⟨entry, member, _⟩
    contradiction

def OneFrame (kind : ConnectionId → ServerKind) : ReaderEvent → Prop
  | .recv con data => ∃ frame : Frame, data = frame.bytes ∧
      receivedDataHandlerFactory (kind con) frame.tag = true ∧ frame.payload.length ≤ maxLen
  | _ => True

structure Whole (known : UInt32 → Bool) (reception : Reception) : Prop where
  idle : reception.phase = .idle → reception.buffer.readableBytes = []
  one : reception.buffer.readableBytes = [] ∨ ∃ frame : Frame,
    reception.buffer.readableBytes = frame.bytes ∧ known frame.tag = true ∧
      frame.payload.length ≤ maxLen

theorem nextFrame_nil (known : UInt32 → Bool) : nextFrame known [] = .incomplete := rfl

theorem Whole.rest {known : UInt32 → Bool} {reception : Reception} {frame : Frame}
    (whole : Whole known reception)
    (decoded : nextFrame known reception.buffer.readableBytes = .frame frame) :
    reception.buffer.readableBytes.drop (frame.payload.length + 8) = [] := by
  rcases whole.one with nothing | ⟨other, isOther, isKnown, small⟩
  · rw [nothing, List.drop_nil]
  · have again := nextFrame_bytes [] isKnown small
    rw [List.append_nil, ← isOther, decoded] at again
    cases again
    rw [isOther, List.drop_eq_nil_iff, Frame.bytes, List.length_append, frameHeader_length]
    exact (Nat.add_comm _ _).le

theorem Whole.alone {kind : ConnectionId → ServerKind} {event : ReaderEvent} {con : ConnectionId}
    {before after : Reception} (whole : Whole (receivedDataHandlerFactory (kind con)) before)
    (oneFrame : OneFrame kind event)
    (moved : ReceptionMove (receivedDataHandlerFactory (kind con)) event con before after) :
    Whole (receivedDataHandlerFactory (kind con)) after := by
  cases moved with
  | recv data isRecv idle =>
      subst isRecv
      obtain ⟨frame, isFrame, isKnown, small⟩ := oneFrame
      refine ⟨nofun, .inr ⟨frame, ?_, isKnown, small⟩⟩
      rw [ByteBuffer.write_readableBytes, whole.idle idle, isFrame, List.nil_append]
  | leave disconnecting decoding last kept =>
      have empty : before.buffer.readableBytes = [] := by
        refine whole.one.resolve_right ?_
        rintro ⟨frame, isFrame, isKnown, small⟩
        have decoded := nextFrame_bytes [] isKnown small
        rw [List.append_nil, ← isFrame] at decoded
        exact last frame decoded
      exact ⟨fun _ => empty, .inl empty⟩
  | disconnect => exact ⟨whole.idle, whole.one⟩

theorem whole_move {kind : ConnectionId → ServerKind} {state next : ReaderState}
    {event : ReaderEvent}
    (whole : ∀ con, Whole (receivedDataHandlerFactory (kind con)) (state.receptions con))
    (oneFrame : OneFrame kind event) (move : ReaderMove kind state event next)
    (other : ConnectionId) :
    Whole (receivedDataHandlerFactory (kind other)) (next.receptions other) := by
  cases move with
  | heap moved noPush stepped kept =>
      rw [kept]
      exact whole other
  | reception con reception heap moved alone =>
      rw [moved]
      by_cases same : other = con
      · subst same
        rw [updateAt_same]
        exact (whole other).alone oneFrame alone
      · rw [updateAt_other _ _ same]
        exact whole other
  | frame con reception frame arrival t isDecode decoding decoded stepped moved log refusal stays
      rest =>
      rw [moved]
      by_cases same : other = con
      · subst same
        rw [updateAt_same]
        have empty := rest.trans ((whole other).rest decoded)
        exact ⟨fun _ => empty, .inl empty⟩
      · rw [updateAt_other _ _ same]
        exact whole other
  | clean con reception arrival t isDisconnected up stepped moved log rest down =>
      rw [moved]
      by_cases same : other = con
      · subst same
        rw [updateAt_same]
        refine ⟨fun isIdle => absurd (isIdle.symm.trans down) (by decide), ?_⟩
        rw [rest]
        exact (whole other).one
      · rw [updateAt_other _ _ same]
        exact whole other

theorem oneFrame_refusedLast {kind : ConnectionId → ServerKind} {now : Int}
    {events : List ReaderEvent} (oneFrame : ∀ event ∈ events, OneFrame kind event) :
    Transition.Along (readerStep kind) (RefusedLast kind) { heap := { now := now } } events := by
  refine (Transition.Along.of_mem (readerStep kind) oneFrame _).mono (readerStep kind)
    (fun state => ∀ con,
      Whole (receivedDataHandlerFactory (kind con)) (state.receptions con)) ?_ ?_ ?_
  · intro state event next whole isOne stepped
    exact whole_move whole isOne (readerStep_move stepped)
  · rintro state event whole -
    cases event with
    | decode con arrival t =>
        intro _ frame decoded later
        rw [(whole con).rest decoded, nextFrame_nil]
        nofun
    | _ => trivial
  · exact fun con => ⟨fun _ => ByteBuffer.empty_readableBytes, .inl ByteBuffer.empty_readableBytes⟩

/-- In a run in which every frame decoded after a refusal finds the list still full, the
handlers of a connection see its frames in order up to the first refused one. -/
theorem overload_cuts_stream {kind : ConnectionId → ServerKind} {now : Int}
    {events : List ReaderEvent} {state : ReaderState}
    (sticks : Transition.Along (readerStep kind) (RefusalSticks kind) { heap := { now := now } } events)
    (ran : Transition.run (readerStep kind) { heap := { now := now } } events = some state)
    (con : ConnectionId) :
    state.handledFrames con <+: state.framesBeforeRefusal con ∧
      state.handledFrames con <+: state.frames con := by
  have last : RefusalsLast state := by
    refine sticks.invariant (readerStep kind) ?_ (fun _ => rfl) ran
    intro before event next isLast allowed stepped
    exact isLast.move allowed (readerStep_move stepped)
  have ok : ReaderOk state := ReaderOk.reachable ⟨events, ran⟩
  have handled := ok.handled_prefix con
  rw [last con] at handled
  refine ⟨handled, handled.trans ?_⟩
  exact (List.takeWhile_prefix _).map _

def refusedEvents : List ReaderEvent :=
  [.recv 1 refusedFrame.bytes, .decode 1 startTime startTime, .decode 1 startTime startTime]

theorem refused_run : ∃ state,
    Transition.run (readerStep allApplication) { heap := { now := startTime } }
      (fillEvents ++ refusedEvents) = some state ∧
    (state.receptions 1).received =
      List.replicate 2573 (block, true) ++ [(refusedFrame, false)] := by
  obtain ⟨filled, client, ranFill, isFilled, stuck⟩ := fill_run
  obtain ⟨received, refused, ranRecv, ranRefused, _, reading⟩ :=
    isFilled.refuses (by rw [stuck.pending]; decide) [] (by decide)
  rw [List.append_nil] at ranRecv
  obtain ⟨state, ranSettle, _, settled⟩ := reading.settle allApplication startTime startTime
  refine ⟨state, ?_, settled.received⟩
  rw [Transition.run_append]
  refine ⟨filled, ranFill, ?_⟩
  simp only [refusedEvents, Transition.run, ranRecv, ranRefused, ranSettle, Option.bind_some]

theorem refused_oneFrame : ∀ event ∈ fillEvents ++ refusedEvents, OneFrame allApplication event := by
  have blocks : OneFrame allApplication (.recv 1 block.bytes) :=
    ⟨block, rfl, block_known, block_small⟩
  have refused : OneFrame allApplication (.recv 1 refusedFrame.bytes) :=
    ⟨refusedFrame, rfl, by decide, by decide⟩
  intro event member
  rw [fillEvents, List.append_assoc, List.mem_append, List.mem_append, List.mem_flatten,
    List.mem_flatten] at member
  rcases member with ⟨round, isRound, listed⟩ | ⟨round, isRound, listed⟩ | listed
  · rw [List.eq_of_mem_replicate isRound, servedRound] at listed
    simp only [List.mem_cons, List.not_mem_nil, or_false] at listed
    rcases listed with rfl | rfl | rfl | rfl <;> first | exact blocks | trivial
  · rw [List.eq_of_mem_replicate isRound, waitingRound] at listed
    simp only [List.mem_cons, List.not_mem_nil, or_false] at listed
    rcases listed with rfl | rfl | rfl <;> first | exact blocks | trivial
  · simp only [refusedEvents, List.mem_cons, List.not_mem_nil, or_false] at listed
    rcases listed with rfl | rfl | rfl <;> first | exact refused | trivial

theorem overload_cuts_stream_sample : ∃ state,
    Transition.run (readerStep allApplication) { heap := { now := startTime } }
      (fillEvents ++ refusedEvents) = some state ∧
    (refusedFrame, false) ∈ (state.receptions 1).received ∧
    state.handledFrames 1 <+: state.framesBeforeRefusal 1 := by
  obtain ⟨state, ran, received⟩ := refused_run
  have last : Transition.Along (readerStep allApplication) (RefusedLast allApplication)
      { heap := { now := startTime } } (fillEvents ++ refusedEvents) :=
    oneFrame_refusedLast refused_oneFrame
  refine ⟨state, ran, ?_, (overload_cuts_stream (refusedLast_sticks last) ran 1).1⟩
  rw [received]
  exact List.mem_append_right _ (List.mem_singleton.mpr rfl)

/-- A frame that follows a refused one in its chunk is handled, and the refused one never. -/
theorem overload_lets_later_frame_in : ∃ state,
    Transition.run (readerStep allApplication) { heap := { now := startTime } }
      (fillEvents ++ lateEvents) = some state ∧
    ¬ state.handledFrames 1 <+: state.frames 1 := by
  obtain ⟨state, ran, frames, handled⟩ := late_run
  refine ⟨state, ran, ?_⟩
  rw [frames, handled, List.prefix_append_right_inj]
  decide

/-! The clean-up request. -/

theorem ReaderMove.down_accepted {kind : ConnectionId → ServerKind} {state next : ReaderState}
    {event : ReaderEvent} (move : ReaderMove kind state event next) {con : ConnectionId}
    (down : (state.receptions con).phase = .down) :
    (next.receptions con).phase = .down ∧ next.heap.accepted con = state.heap.accepted con := by
  cases move with
  | heap moved noPush stepped kept =>
      rw [kept, heapStep_accepted stepped noPush]
      exact ⟨down, rfl⟩
  | reception other reception heap moved alone =>
      rw [heap, moved]
      by_cases same : con = other
      · subst same
        rw [updateAt_same]
        exact ⟨alone.down down, rfl⟩
      · rw [updateAt_other _ _ same]
        exact ⟨down, rfl⟩
  | frame other reception frame arrival t isDecode decoding decoded stepped moved log _ _ _ =>
      have different : con ≠ other := by
        rintro rfl
        rw [down] at decoding
        contradiction
      rw [heapStep_push stepped, HeapState.push_accepted, moved, updateAt_other _ _ different]
      refine ⟨down, ?_⟩
      split
      · exact updateAt_other _ _ different
      · rfl
  | clean other reception arrival t isDisconnected up stepped moved log _ isDown =>
      have different : con ≠ other := by
        rintro rfl
        exact up down
      rw [heapStep_push stepped, HeapState.push_accepted, moved, updateAt_other _ _ different]
      refine ⟨down, ?_⟩
      split
      · exact updateAt_other _ _ different
      · rfl

theorem down_accepted_reachable {kind : ConnectionId → ServerKind} {state later : ReaderState}
    {con : ConnectionId} (down : (state.receptions con).phase = .down)
    (reached : Transition.Reachable (readerStep kind) state later) :
    later.heap.accepted con = state.heap.accepted con := by
  have kept : (later.receptions con).phase = .down ∧
      later.heap.accepted con = state.heap.accepted con := by
    refine @Transition.Reachable.invariant _ _ (readerStep kind)
      (fun middle => (middle.receptions con).phase = .down ∧
        middle.heap.accepted con = state.heap.accepted con) ?_ _ _ ⟨down, rfl⟩ reached
    intro before event next stays stepped
    obtain ⟨stillDown, same⟩ := (readerStep_move stepped).down_accepted stays.1
    exact ⟨stillDown, same.trans stays.2⟩
  exact kept.2

theorem readerStep_disconnected {kind : ConnectionId → ServerKind} {state next : ReaderState}
    {con : ConnectionId} {arrival t : Int}
    (stepped : readerStep kind state (.disconnected con arrival t) = some next) :
    heapStep state.heap (.push con (cleanRequest arrival) t) = some next.heap ∧
      (next.receptions con).phase = .down := by
  unfold readerStep at stepped
  simp only at stepped
  split at stepped
  · obtain ⟨heap, pushed, rfl⟩ := Option.map_eq_some_iff.mp stepped
    exact ⟨pushed, by simp [ReaderState.receive]⟩
  · contradiction

/-- When the disconnect event of a connection arrives, its clean-up request is accepted, and
stays the last request of the connection, exactly if the pending bytes are below the bound. -/
theorem clean_accepted_iff {kind : ConnectionId → ServerKind} {now : Int}
    {state next : ReaderState} {con : ConnectionId} {arrival t : Int}
    (reached : Transition.Reachable (readerStep kind) { heap := { now := now } } state)
    (stepped : readerStep kind state (.disconnected con arrival t) = some next) :
    (∀ later, Transition.Reachable (readerStep kind) next later →
      later.heap.accepted con = state.heap.accepted con ++ [cleanRequest arrival] ∧
      later.heap.handed con <+: state.heap.accepted con ++ [cleanRequest arrival]) ↔
    (state.heap.clients con).numPendingBytes < maxPendingBytes := by
  obtain ⟨pushed, down⟩ := readerStep_disconnected stepped
  have accepted := congrFun (state.heap.push_accepted con (cleanRequest arrival) t) con
  rw [← heapStep_push pushed] at accepted
  rw [← state.heap.push_answer con (cleanRequest arrival) t]
  constructor
  · intro always
    have here := (always next ⟨[], rfl⟩).1
    by_contra refused
    rw [if_neg refused, here] at accepted
    simpa using congrArg List.length accepted
  · intro isAccepted later reachedLater
    rw [if_pos isAccepted, updateAt_same] at accepted
    have kept := down_accepted_reachable down reachedLater
    have ok : ReaderOk later := ReaderOk.reachable
      (reached.trans _ ((Transition.Reachable.single _ stepped).trans _ reachedLater))
    rw [← accepted, ← kept]
    exact ⟨rfl, ⟨_, (ok.heap.order con).symm⟩⟩

/-- With one request waiting, the clean-up request goes behind it. -/
theorem clean_accepted_sample : ∃ events state next,
    Transition.run (readerStep allApplication) { heap := { now := startTime } } events =
      some state ∧
    (state.heap.clients 1).requests = [blockRequest] ∧
    readerStep allApplication state (.disconnected 1 startTime startTime) = some next ∧
    next.heap.accepted 1 = state.heap.accepted 1 ++ [cleanRequest startTime] := by
  obtain ⟨state, client, ran, filled, stuck⟩ := waiting_run 0 (by decide)
  have pushed : heapStep state.heap (.push 1 (cleanRequest startTime) startTime) = some _ :=
    heapStep_push_eq filled.serving.idle filled.serving.sound le_rfl filled.serving.now.ge
  obtain ⟨next, stepped⟩ : ∃ next,
      readerStep allApplication state (.disconnected 1 startTime startTime) = some next := by
    simp only [readerStep, filled.reading.phase, true_or, if_true, pushed, Option.map_some]
    exact ⟨_, rfl⟩
  have room : (state.heap.clients 1).numPendingBytes < maxPendingBytes := by
    rw [filled.serving.client, stuck.pending]
    decide
  have accepted := (clean_accepted_iff ⟨_, ran⟩ stepped).mpr room next ⟨[], rfl⟩
  refine ⟨_, state, next, ran, ?_, stepped, accepted.1⟩
  rw [filled.serving.client, stuck.requests]
  rfl

/-- Behind a list filled to the bound the clean-up request is refused for good. -/
theorem clean_refused_when_full : ∃ state next,
    Transition.run (readerStep allApplication) { heap := { now := startTime } } fillEvents =
      some state ∧
    readerStep allApplication state (.disconnected 1 startTime startTime) = some next ∧
    (state.heap.push 1 (cleanRequest startTime) startTime).1 = false ∧
    ∀ later, Transition.Reachable (readerStep allApplication) next later →
      later.heap.accepted 1 = state.heap.accepted 1 := by
  obtain ⟨state, client, ran, filled, stuck⟩ := fill_run
  obtain ⟨pushed, answer⟩ := filled.serving.refuse (by rw [stuck.pending]; decide)
    (cleanRequest startTime) le_rfl
  have stepped : readerStep allApplication state (.disconnected 1 startTime startTime) =
      some (state.receive 1 { state.receptions 1 with phase := .down }) := by
    simp [readerStep, filled.reading.phase, pushed]
  refine ⟨state, _, ran, stepped, answer, ?_⟩
  intro later reached
  have kept := down_accepted_reachable (readerStep_disconnected stepped).2 reached
  exact kept

end EasyViewer
