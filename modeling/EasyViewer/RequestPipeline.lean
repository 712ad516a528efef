import EasyViewer.PeerSends
import EasyViewer.OverloadCut

/-!
Requests from end to end: the peers with their threads, the bytes that the kernels carry in
order and cut as they like, and the server's readers with their heap. What the handlers see is
what was sent, in its order.
-/

namespace EasyViewer

theorem nextFrame_readable {known : UInt32 → Bool} {readable : List UInt8} {frame : Frame}
    (decoded : nextFrame known readable = .frame frame) :
    readable = frame.bytes ++ readable.drop (frame.payload.length + 8) ∧
      frame.payload.length ≤ maxLen := by
  have whole := nextFrame_frame decoded
  simp only [nextFrame] at decoded
  split at decoded
  · contradiction
  · split at decoded
    · contradiction
    · split at decoded
      · contradiction
      · split at decoded
        · rename_i header small room _
          simp only [Decoded.frame.injEq] at decoded
          subst decoded
          have length : ((readable.drop 8).take (headerLength readable)).length =
              headerLength readable := by
            rw [List.length_take, List.length_drop]
            omega
          have tagBytes : LittleEndian.encode 4 (headerTag readable).toNat = readable.take 4 := by
            have four : (readable.take 4).length = 4 := by
              rw [List.length_take]
              omega
            have bound := LittleEndian.decode_lt (readable.take 4)
            have again := LittleEndian.encode_decode (readable.take 4)
            rw [four] at bound again
            rw [headerTag, UInt32.toNat_ofNat_of_lt' bound, again]
          have lengthBytes : LittleEndian.encode 4
              (UInt32.ofNat (headerLength readable)).toNat = (readable.drop 4).take 4 := by
            have four : ((readable.drop 4).take 4).length = 4 := by
              rw [List.length_take, List.length_drop]
              omega
            have bound := LittleEndian.decode_lt ((readable.drop 4).take 4)
            have again := LittleEndian.encode_decode ((readable.drop 4).take 4)
            rw [four] at bound again
            rw [headerLength, UInt32.toNat_ofNat_of_lt' bound, again]
          refine ⟨?_, length.trans_le (Nat.le_of_not_lt small)⟩
          rw [Frame.bytes, frameHeader, length, tagBytes, lengthBytes]
          have payload := List.take_append_drop (headerLength readable) (readable.drop 8)
          rw [List.drop_drop, Nat.add_comm] at payload
          rw [List.append_assoc, payload, List.append_assoc]
          have lengthWord := List.take_append_drop 4 (readable.drop 4)
          rw [List.drop_drop] at lengthWord
          rw [lengthWord, List.take_append_drop]
        · contradiction

/-! The server's end: what has come of a connection is in its frames and its buffer. -/

namespace ReaderState

def arrived (state : ReaderState) (con : ConnectionId) : List UInt8 :=
  PrefixCode.stream Frame.bytes (state.frames con) ++ (state.receptions con).buffer.readableBytes

end ReaderState

namespace ReaderEvent

def data (con : ConnectionId) : ReaderEvent → List UInt8
  | .recv other data => if con = other then data else []
  | _ => []

end ReaderEvent

/-- What a connection has received lies before its reader, and is used up when the reader
waits for more. -/
structure Gathered (kind : ConnectionId → ServerKind) (state : ReaderState) : Prop where
  known : ∀ con, ∀ frame ∈ state.frames con, frame.payload.length ≤ maxLen
  drained : ∀ con, (state.receptions con).phase = .idle →
    nextFrame (receivedDataHandlerFactory (kind con))
      (state.receptions con).buffer.readableBytes = .incomplete

section

variable {kind : ConnectionId → ServerKind} {state next : ReaderState}

structure Replaces (kind : ConnectionId → ServerKind) (con : ConnectionId)
    (before after : Reception) (data : List UInt8) : Prop where
  bytes : PrefixCode.stream Frame.bytes (after.received.map Prod.fst) ++
      after.buffer.readableBytes =
    PrefixCode.stream Frame.bytes (before.received.map Prod.fst) ++
      before.buffer.readableBytes ++ data
  small : (∀ frame ∈ before.received.map Prod.fst, frame.payload.length ≤ maxLen) →
    ∀ frame ∈ after.received.map Prod.fst, frame.payload.length ≤ maxLen
  drained : after.phase = .idle →
    nextFrame (receivedDataHandlerFactory (kind con)) after.buffer.readableBytes = .incomplete ∨
      before.phase = .idle ∧ after.buffer = before.buffer

theorem Replaces.received {con : ConnectionId} {after : Reception} {data : List UInt8}
    (replaces : Replaces kind con (state.receptions con) after data)
    (moved : next.receptions = updateAt state.receptions con after) (held : Gathered kind state) :
    Gathered kind next ∧ next.arrived con = state.arrived con ++ data ∧
      ∀ other, other ≠ con → next.arrived other = state.arrived other := by
  refine ⟨⟨fun other => ?_, fun other => ?_⟩, ?_, fun other different => ?_⟩
  · rw [ReaderState.frames, moved]
    by_cases same : other = con
    · subst same
      rw [updateAt_same]
      exact replaces.small (held.known other)
    · rw [updateAt_other _ _ same]
      exact held.known other
  · rw [moved]
    by_cases same : other = con
    · subst same
      rw [updateAt_same]
      intro idle
      rcases replaces.drained idle with incomplete | ⟨before, kept⟩
      · exact incomplete
      · rw [kept]
        exact held.drained other before
    · rw [updateAt_other _ _ same]
      exact held.drained other
  · rw [ReaderState.arrived, ReaderState.frames, moved, updateAt_same]
    exact replaces.bytes
  · rw [ReaderState.arrived, ReaderState.arrived, ReaderState.frames, moved,
      updateAt_other _ _ different]
    rfl

theorem Replaces.leaveLoop {con : ConnectionId} {before : Reception} {disconnecting : Bool}
    (stops : disconnecting = true ∨ nextFrame (receivedDataHandlerFactory (kind con))
      before.buffer.readableBytes = .incomplete) :
    Replaces kind con before { before with disconnecting := disconnecting }.leaveLoop [] where
  bytes := (List.append_nil _).symm
  small := id
  drained idle := by
    rcases stops with leaving | incomplete
    · simp [Reception.leaveLoop, leaving] at idle
    · exact .inl incomplete

theorem decodeStep_replaces {con : ConnectionId} {arrival t : Int}
    (decoding : (state.receptions con).phase = .decoding)
    (stepped : decodeStep kind state con arrival t = some next) :
    ∃ after, next.receptions = updateAt state.receptions con after ∧
      Replaces kind con (state.receptions con) after [] := by
  unfold decodeStep at stepped
  simp only at stepped
  split at stepped
  · rename_i incomplete
    obtain rfl := Option.some.inj stepped
    exact ⟨_, rfl, .leaveLoop (.inr incomplete)⟩
  · obtain rfl := Option.some.inj stepped
    exact ⟨_, rfl, .leaveLoop (.inl rfl)⟩
  · obtain rfl := Option.some.inj stepped
    exact ⟨_, rfl, .leaveLoop (.inl rfl)⟩
  · rename_i frame decoded
    obtain ⟨heap, _, rfl⟩ := Option.map_eq_some_iff.mp stepped
    obtain ⟨readable, small⟩ := nextFrame_readable decoded
    refine ⟨_, rfl, ?_, fun before => ?_, fun idle => ?_⟩
    · simp only [List.map_append, List.map_cons, List.map_nil, PrefixCode.stream_append,
        PrefixCode.stream_cons, PrefixCode.stream_nil, List.append_nil,
        ByteBuffer.moveReaderIndex_readableBytes]
      rw [List.append_assoc, ← readable]
    · simp only [List.map_append, List.map_cons, List.map_nil]
      intro other member
      rcases List.mem_append.mp member with earlier | new
      · exact before other earlier
      · rw [List.mem_singleton.mp new]
        exact small
    · simp [decoding] at idle

theorem readerStep_gathered {event : ReaderEvent} (held : Gathered kind state)
    (stepped : readerStep kind state event = some next) :
    Gathered kind next ∧ ∀ con, next.arrived con = state.arrived con ++ event.data con := by
  have quiet : ∀ con after, next.receptions = updateAt state.receptions con after →
      Replaces kind con (state.receptions con) after [] → (∀ other, event.data other = []) →
      Gathered kind next ∧
        ∀ other, next.arrived other = state.arrived other ++ event.data other := by
    intro con after moved replaces nothing
    obtain ⟨kept, here, elsewhere⟩ := replaces.received moved held
    refine ⟨kept, fun other => ?_⟩
    rw [nothing other, List.append_nil]
    by_cases same : other = con
    · subst same
      rw [here, List.append_nil]
    · exact elsewhere other same
  cases event with
  | heap event =>
      have kept : next.receptions = state.receptions := by
        unfold readerStep at stepped
        split at stepped
        · contradiction
        · obtain ⟨heap, _, rfl⟩ := Option.map_eq_some_iff.mp stepped
          rfl
        all_goals simp_all
      refine ⟨⟨fun con => ?_, fun con => ?_⟩, fun con => ?_⟩
      · rw [ReaderState.frames, kept]
        exact held.known con
      · rw [kept]
        exact held.drained con
      · rw [ReaderState.arrived, ReaderState.frames, kept]
        exact (List.append_nil _).symm
  | recv con data =>
      simp only [readerStep] at stepped
      split at stepped
      · obtain rfl := Option.some.inj stepped
        let after : Reception := { state.receptions con with
          buffer := (state.receptions con).buffer.write data
          phase := .decoding }
        have replaces : Replaces kind con (state.receptions con) after data :=
          ⟨by rw [ByteBuffer.write_readableBytes, List.append_assoc], id, fun idle => by cases idle⟩
        have moved : (state.receive con after).receptions =
          updateAt state.receptions con after := rfl
        obtain ⟨kept, here, elsewhere⟩ := replaces.received moved held
        refine ⟨kept, fun other => ?_⟩
        by_cases same : other = con
        · subst same
          rw [ReaderEvent.data, if_pos rfl]
          exact here
        · rw [ReaderEvent.data, if_neg same, List.append_nil]
          exact elsewhere other same
      · contradiction
  | decode con arrival t =>
      simp only [readerStep] at stepped
      split at stepped
      · rename_i decoding
        obtain ⟨after, moved, replaces⟩ := decodeStep_replaces decoding stepped
        exact quiet con after moved replaces fun _ => rfl
      · contradiction
  | disconnect con =>
      obtain rfl := Option.some.inj stepped
      exact quiet con _ rfl ⟨(List.append_nil _).symm, id, fun idle => .inr ⟨idle, rfl⟩⟩
        fun _ => rfl
  | disconnected con arrival t =>
      unfold readerStep at stepped
      simp only at stepped
      split at stepped
      · obtain ⟨heap, _, rfl⟩ := Option.map_eq_some_iff.mp stepped
        exact quiet con _ rfl ⟨(List.append_nil _).symm, id, fun idle => by cases idle⟩
          fun _ => rfl
      · contradiction

theorem Gathered.initial (now : Int) : Gathered kind { heap := { now := now } } where
  known _ _ member := absurd member List.not_mem_nil
  drained _ _ := rfl

end

/-! The whole way. -/

/-- `delivered` counts the bytes of each peer that the server has received. -/
structure Pipeline where
  peers : ConnectionId → PeerConnection := fun _ => {}
  server : ReaderState := {}
  delivered : ConnectionId → Nat := fun _ => 0

inductive PipelineEvent where
  | call (con : ConnectionId) (thread : Nat) (frame : Frame)
  | peer (con : ConnectionId) (event : TcpEvent)
  | deliver (con : ConnectionId) (count : Nat)
  | server (event : ReaderEvent)
  deriving DecidableEq

namespace Pipeline

def accepted (state : Pipeline) (con : ConnectionId) : List UInt8 :=
  (state.peers con).threads.shared.accepted

def setPeer (state : Pipeline) (con : ConnectionId) (peer : PeerConnection) : Pipeline :=
  { state with peers := updateAt state.peers con peer }

end Pipeline

def initialPipeline (now : Int) : Pipeline := { server := { heap := { now := now } } }

section

variable (kind : ConnectionId → ServerKind)

/-- The kernels carry what one has taken and hand it over in chunks of any size. -/
def pipelineStep (state : Pipeline) : PipelineEvent → Option Pipeline
  | .call con thread frame => ((state.peers con).call thread frame).map (state.setPeer con)
  | .peer con event => ((state.peers con).step event).map (state.setPeer con)
  | .deliver con count =>
      let underway := (state.accepted con).drop (state.delivered con)
      if count ≤ underway.length then
        (readerStep kind state.server (.recv con (underway.take count))).map fun server =>
          { state with
            server := server
            delivered := updateAt state.delivered con (state.delivered con + count) }
      else none
  | .server (.recv _ _) => none
  | .server event => (readerStep kind state.server event).map fun server =>
      { state with server := server }

structure Carried (state : Pipeline) : Prop where
  peers : ∀ con, (state.peers con).Ok
  reader : ReaderOk state.server
  received : Gathered kind state.server
  arrived : ∀ con, state.server.arrived con = (state.accepted con).take (state.delivered con)
  within : ∀ con, state.delivered con ≤ (state.accepted con).length

end

namespace Carried

variable {kind : ConnectionId → ServerKind} {state next : Pipeline} {con : ConnectionId}

theorem initial (now : Int) : Carried kind (initialPipeline now) where
  peers _ := PeerConnection.Ok.initial
  reader := ReaderOk.initial now
  received := Gathered.initial now
  arrived _ := rfl
  within _ := Nat.le_refl 0

theorem setPeer {peer : PeerConnection} (carried : Carried kind state) (ok : peer.Ok)
    (more : state.accepted con <+: peer.threads.shared.accepted) :
    Carried kind (state.setPeer con peer) := by
  refine ⟨fun other => ?_, carried.reader, carried.received, fun other => ?_, fun other => ?_⟩
  · simp only [Pipeline.setPeer]
    by_cases same : other = con
    · subst same
      rw [updateAt_same]
      exact ok
    · rw [updateAt_other _ _ same]
      exact carried.peers other
  · simp only [Pipeline.accepted, Pipeline.setPeer]
    by_cases same : other = con
    · subst same
      obtain ⟨new, grown⟩ := more
      rw [updateAt_same, ← grown, List.take_append_of_le_length (carried.within other)]
      exact carried.arrived other
    · rw [updateAt_other _ _ same]
      exact carried.arrived other
  · simp only [Pipeline.accepted, Pipeline.setPeer]
    by_cases same : other = con
    · subst same
      rw [updateAt_same]
      exact (carried.within other).trans more.length_le
    · rw [updateAt_other _ _ same]
      exact carried.within other

theorem deliver {count : Nat} {server : ReaderState} (carried : Carried kind state)
    (room : count ≤ ((state.accepted con).drop (state.delivered con)).length)
    (stepped : readerStep kind state.server
      (.recv con (((state.accepted con).drop (state.delivered con)).take count)) = some server) :
    Carried kind { state with
      server := server
      delivered := updateAt state.delivered con (state.delivered con + count) } := by
  obtain ⟨received, arrived⟩ := readerStep_gathered carried.received stepped
  have within := carried.within con
  rw [List.length_drop] at room
  refine ⟨carried.peers, carried.reader.move (readerStep_move stepped), received, fun other => ?_,
    fun other => ?_⟩
  · have here := arrived other
    rw [carried.arrived other] at here
    by_cases same : other = con
    · subst same
      simp only [ReaderEvent.data, if_pos, updateAt_same] at here ⊢
      rw [here]
      exact (List.take_add ..).symm
    · simp only [ReaderEvent.data, if_neg same, updateAt_other _ _ same] at here ⊢
      rw [here, List.append_nil]
      rfl
  · by_cases same : other = con
    · subst same
      simp only [updateAt_same]
      exact (Nat.add_le_of_le_sub' within room)
    · simp only [updateAt_other _ _ same]
      exact carried.within other

theorem serve {event : ReaderEvent} {server : ReaderState} (carried : Carried kind state)
    (nothing : ∀ con, event.data con = [])
    (stepped : readerStep kind state.server event = some server) :
    Carried kind { state with server := server } := by
  obtain ⟨received, arrived⟩ := readerStep_gathered carried.received stepped
  refine ⟨carried.peers, carried.reader.move (readerStep_move stepped), received, fun con => ?_,
    carried.within⟩
  have here := arrived con
  rw [nothing con, List.append_nil] at here
  exact here.trans (carried.arrived con)

theorem step {event : PipelineEvent} (carried : Carried kind state)
    (stepped : pipelineStep kind state event = some next) : Carried kind next := by
  cases event with
  | call con thread frame =>
      obtain ⟨peer, called, rfl⟩ := Option.map_eq_some_iff.mp stepped
      exact carried.setPeer ((carried.peers con).call called) (PeerConnection.call_accepted called)
  | peer con event =>
      obtain ⟨peer, moved, rfl⟩ := Option.map_eq_some_iff.mp stepped
      exact carried.setPeer ((carried.peers con).step moved) (PeerConnection.step_accepted moved)
  | deliver con count =>
      simp only [pipelineStep] at stepped
      split at stepped
      · rename_i room
        obtain ⟨server, received, rfl⟩ := Option.map_eq_some_iff.mp stepped
        exact carried.deliver room received
      · contradiction
  | server event =>
      cases event with
      | recv con data => cases stepped
      | heap event =>
          obtain ⟨server, moved, rfl⟩ := Option.map_eq_some_iff.mp stepped
          exact carried.serve (fun _ => rfl) moved
      | decode con arrival t =>
          obtain ⟨server, moved, rfl⟩ := Option.map_eq_some_iff.mp stepped
          exact carried.serve (fun _ => rfl) moved
      | disconnect con =>
          obtain rfl := Option.some.inj stepped
          have moved : readerStep kind state.server (.disconnect con) = some _ := rfl
          exact carried.serve (fun _ => rfl) moved
      | disconnected con arrival t =>
          obtain ⟨server, moved, rfl⟩ := Option.map_eq_some_iff.mp stepped
          exact carried.serve (fun _ => rfl) moved

theorem reachable {now : Int}
    (reached : Transition.Reachable (pipelineStep kind) (initialPipeline now) state) :
    Carried kind state :=
  reached.invariant (pipelineStep kind) (fun _ _ _ carried => carried.step) (initial now)

theorem sendable (carried : Carried kind state) (con : ConnectionId) :
    ∀ frame ∈ state.server.frames con, frame.Sendable := by
  intro frame member
  have small := carried.received.known con frame member
  simp only [maxLen] at small
  rw [Frame.Sendable]
  omega

theorem frames_prefix (carried : Carried kind state) (con : ConnectionId) :
    ∃ left unsent, (state.peers con).frames = state.server.frames con ++ left ∧
      (state.peers con).threads.shared.sent = state.accepted con ++ unsent ∧
      (state.server.receptions con).buffer.readableBytes ++
          ((state.accepted con).drop (state.delivered con) ++ unsent) =
        PrefixCode.stream Frame.bytes left := by
  obtain ⟨unsent, whole⟩ :=
    (List.prefix_append _ _).trans (carried.peers con).regular.balanced.order
  have sent : state.server.arrived con ++
        ((state.accepted con).drop (state.delivered con) ++ unsent) =
      PrefixCode.stream Frame.bytes (state.peers con).frames := by
    rw [carried.arrived con, ← List.append_assoc, List.take_append_drop,
      ← (carried.peers con).bytes, ← whole]
    rfl
  obtain ⟨left, cut, behind⟩ := frame_prefixFree.split (carried.sendable con)
    (carried.peers con).taken sent
  exact ⟨left, unsent, cut, whole.symm, behind⟩

end Carried

def deliveryEvents : List PipelineEvent :=
  [.call 1 2 lateFrame, .call 1 1 refusedFrame, .peer 1 (.advance 1 [.accepted 3]),
    .peer 1 (.advance 2 []), .peer 1 (.handleEvents ⟨none, none, true⟩),
    .peer 1 (.advance 0 [.accepted 99]), .peer 1 (.advance 0 []), .peer 1 (.advance 0 []),
    .peer 1 (.advance 0 []), .deliver 1 5, .server (.decode 1 startTime startTime),
    .peer 1 (.handleEvents ⟨none, none, true⟩), .peer 1 (.advance 0 [.accepted 99]),
    .peer 1 (.advance 0 []), .deliver 1 12, .server (.decode 1 startTime startTime),
    .server (.heap (.handled false)), .server (.decode 1 startTime startTime),
    .server (.decode 1 startTime startTime)]

def deliveredState : Option Pipeline :=
  Transition.run (pipelineStep allApplication) (initialPipeline startTime) deliveryEvents

theorem deliveredState_isSome : deliveredState.isSome = true := by decide +kernel

theorem deliveredState_reached : Transition.Reachable (pipelineStep allApplication)
    (initialPipeline startTime) (deliveredState.get deliveredState_isSome) :=
  ⟨deliveryEvents, (Option.some_get deliveredState_isSome).symm⟩

/-- Whatever the threads, the kernels and the worker do in between, the server takes the frames
that a peer sends in the order of the peer's sends, which is each thread's own order, and
handles some of them in that order; it handles the first ones if no push was refused. -/
theorem requests_in_order {kind : ConnectionId → ServerKind} {now : Int} {state : Pipeline}
    (reached : Transition.Reachable (pipelineStep kind) (initialPipeline now) state)
    (con : ConnectionId) :
    (∀ thread, (state.peers con).sentOf thread <+: (state.peers con).callsOf thread) ∧
      state.server.frames con <+: (state.peers con).frames ∧
      (state.server.handledFrames con).Sublist (state.peers con).frames ∧
      ((∀ entry ∈ (state.server.receptions con).received, entry.2 = true) →
        state.server.handledFrames con <+: (state.peers con).frames) := by
  have carried := Carried.reachable reached
  obtain ⟨left, _, cut, _⟩ := carried.frames_prefix con
  have first : state.server.frames con <+: (state.peers con).frames := ⟨left, cut.symm⟩
  have handled := carried.reader.handled_prefix con
  refine ⟨fun thread => ⟨_, ((carried.peers con).turns thread).symm⟩, first, ?_, fun accepted => ?_⟩
  · exact (handled.sublist.trans (List.filter_sublist.map Prod.fst)).trans first.sublist
  · rw [List.filter_eq_self.mpr accepted] at handled
    exact handled.trans first

theorem requests_in_order_sample :
    (deliveredState.get deliveredState_isSome).server.handledFrames 1 <+:
        ((deliveredState.get deliveredState_isSome).peers 1).frames ∧
      ((deliveredState.get deliveredState_isSome).peers 1).frames = [refusedFrame, lateFrame] :=
  ⟨(requests_in_order deliveredState_reached 1).2.2.2 (by decide +kernel), by decide +kernel⟩

/-- Once a peer's queue is empty and its bytes are delivered and decoded, the server has handled
every frame that the peer's threads have sent, or keeps it queued, if it knows their tags,
allows their lengths and refused none. -/
theorem requests_arrive {kind : ConnectionId → ServerKind} {now : Int} {state : Pipeline}
    (reached : Transition.Reachable (pipelineStep kind) (initialPipeline now) state)
    {con : ConnectionId} (up : (state.peers con).threads.shared.connected = true)
    (unqueued : (state.peers con).threads.shared.tasksSend = [])
    (delivered : state.delivered con = (state.accepted con).length)
    (decoded : (state.server.receptions con).phase = .idle)
    (known : ∀ frame ∈ (state.peers con).frames,
      receivedDataHandlerFactory (kind con) frame.tag = true ∧ frame.payload.length ≤ maxLen)
    (accepted : ∀ entry ∈ (state.server.receptions con).received, entry.2 = true) :
    (∀ thread, (state.peers con).threads.pending thread = [] →
        (state.peers con).sentOf thread = (state.peers con).callsOf thread) ∧
      state.server.handledFrames con ++
          (((state.server.heap.clients con).requests.filter fun request =>
            request.tag ≠ Tag.clean).map Request.frame) =
        (state.peers con).frames := by
  have carried := Carried.reachable reached
  obtain ⟨left, unsent, cut, sent, behind⟩ := carried.frames_prefix con
  have whole := (carried.peers con).regular.balanced.whole up
  have nothing : unsent = [] := by
    rw [unqueued, List.flatten_nil, List.append_nil, sent] at whole
    exact List.self_eq_append_right.mp whole
  rw [delivered, List.drop_length, nothing, List.append_nil, List.append_nil] at behind
  have drained := carried.received.drained con decoded
  have none : left = [] := by
    cases left with
    | nil => rfl
    | cons frame left =>
        have isKnown := known frame (cut ▸ List.mem_append_right _ List.mem_cons_self)
        rw [behind, PrefixCode.stream_cons, nextFrame_bytes _ isKnown.1 isKnown.2] at drained
        cases drained
  refine ⟨fun thread idle => ?_, ?_⟩
  · have quiet := (carried.peers con).idle idle
    rw [(carried.peers con).turns thread, quiet, Option.toList_none, List.append_nil]
  · have log := carried.reader.log con
    rw [List.filter_eq_self.mpr accepted, carried.reader.heap.order con, List.filter_append,
      List.map_append] at log
    rw [cut, none, List.append_nil]
    exact log

theorem requests_arrive_sample :
    let state := deliveredState.get deliveredState_isSome
    state.server.handledFrames 1 ++
        (((state.server.heap.clients 1).requests.filter fun request =>
          request.tag ≠ Tag.clean).map Request.frame) =
      (state.peers 1).frames :=
  (@requests_arrive _ _ _ deliveredState_reached 1 (by decide +kernel) (by decide +kernel)
    (by decide +kernel) (by decide +kernel) (by decide +kernel) (by decide +kernel)).2

end EasyViewer
