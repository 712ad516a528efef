import EasyViewer.Library.PrefixCode
import EasyViewer.ProtocolWrapper
import EasyViewer.TcpConnection

/-!
A peer of the server: threads that call `send` with a frame each, over the sending side of
their connection. What `send` has taken is their frames one behind the other.
-/

namespace EasyViewer

/-! A frame on the wire is told apart from any other by its beginning. -/

/-- The length of a payload has four bytes. -/
def Frame.Sendable (frame : Frame) : Prop := frame.payload.length < 2 ^ 32

instance (frame : Frame) : Decidable frame.Sendable := inferInstanceAs (Decidable (_ < _))

theorem Frame.bytes_ne_nil (frame : Frame) : frame.bytes ≠ [] := by
  intro nothing
  have length := congrArg List.length nothing
  rw [Frame.bytes, List.length_append, frameHeader_length, List.length_nil] at length
  omega

theorem frame_prefixFree : PrefixCode.PrefixFree Frame.bytes Frame.Sendable where
  nonempty frame _ := frame.bytes_ne_nil
  free first second firstSmall secondSmall before := by
    obtain ⟨more, same⟩ := before
    rw [Frame.bytes, Frame.bytes, List.append_assoc] at same
    obtain ⟨header, payload⟩ := List.append_inj same
      (by rw [frameHeader_length, frameHeader_length])
    obtain ⟨tags, lengths⟩ := List.append_inj header (by simp)
    have tag : first.tag = second.tag := by
      rw [← LittleEndian.uint32_decode_encode first.tag, tags, LittleEndian.uint32_decode_encode]
    have length : first.payload.length = second.payload.length := by
      have words := congrArg LittleEndian.decode lengths
      have firstWord : (UInt32.ofNat first.payload.length).toNat = first.payload.length :=
        UInt32.toNat_ofNat_of_lt' firstSmall
      have secondWord : (UInt32.ofNat second.payload.length).toNat = second.payload.length :=
        UInt32.toNat_ofNat_of_lt' secondSmall
      rw [firstWord, secondWord, LittleEndian.decode_encode_of_lt firstSmall,
        LittleEndian.decode_encode_of_lt secondSmall] at words
      exact words
    have content : first.payload = second.payload :=
      (List.append_inj (payload.trans (List.append_nil _).symm) length).1
    cases first
    cases second
    exact congrArg₂ Frame.mk tag content

namespace TcpConnection

theorem doFirstTask_sent (con : TcpConnection) (results : List SendResult) :
    (con.doFirstTask results).1.sent = con.sent := by
  rw [doFirstTask]
  split
  · rfl
  · exact (transmitter_transmits con _ results).frame.2.2

theorem send0_sent (con : TcpConnection) (results : List SendResult) :
    (con.send0 results).1.sent = con.sent := by
  have first := con.doFirstTask_sent results
  rw [send0]
  generalize con.doFirstTask results = result at first
  obtain ⟨after, err⟩ := result
  show (if after.sendComplete then after.popFirstTask else after).sent = con.sent
  split
  · exact first
  · exact first

theorem clearInterest_sent (con : TcpConnection) : con.clearInterest.sent = con.sent := by
  rw [clearInterest]
  split <;> rfl

theorem send_sent (con : TcpConnection) (buffer : List UInt8) (results : List SendResult) :
    (con.send buffer results).1.sent = con.sent ++ buffer := by
  have queued : ((con.hands buffer).addTask buffer).sent = con.sent ++ buffer := rfl
  rw [send]
  by_cases empty : buffer.isEmpty = true
  · rw [if_pos empty, List.isEmpty_iff.mp empty, List.append_nil]
  · rw [if_neg empty]
    split
    · rfl
    · split
      · have first := (((con.hands buffer).addTask buffer).send0_sent results).trans queued
        generalize ((con.hands buffer).addTask buffer).send0 results = result at first
        obtain ⟨after, err⟩ := result
        cases err with
        | true => exact first
        | false => exact after.clearInterest_sent.trans first
      · exact queued

theorem perform_sent {con : TcpConnection} {action : SendAction} (results : List SendResult)
    (quiet : ∀ buffer, action ≠ .send buffer) : (con.perform results action).1.sent = con.sent := by
  cases action with
  | send buffer => exact absurd rfl (quiet buffer)
  | transmit => exact con.doFirstTask_sent results
  | disconnect =>
      simp only [perform, disconnect]
      split <;> rfl
  | pop err => rfl
  | settle => exact con.clearInterest_sent
  | finish err =>
      simp only [perform, disconnect0]
      split
      · split <;> rfl
      · rfl
  | disconnected => rfl

theorem doFirstTask_accepted (con : TcpConnection) (results : List SendResult) :
    con.accepted <+: (con.doFirstTask results).1.accepted := by
  rw [doFirstTask]
  split
  · exact List.prefix_rfl
  · obtain ⟨part, _, taken, _⟩ := (transmitter_transmits con _ results).taken
    exact ⟨part, taken.symm⟩

theorem send0_accepted (con : TcpConnection) (results : List SendResult) :
    con.accepted <+: (con.send0 results).1.accepted := by
  have first := con.doFirstTask_accepted results
  rw [send0]
  generalize con.doFirstTask results = result at first
  obtain ⟨after, err⟩ := result
  show con.accepted <+: (if after.sendComplete then after.popFirstTask else after).accepted
  split
  · exact first
  · exact first

theorem clearInterest_accepted (con : TcpConnection) :
    con.clearInterest.accepted = con.accepted := by
  rw [clearInterest]
  split <;> rfl

theorem send_accepted (con : TcpConnection) (buffer : List UInt8) (results : List SendResult) :
    con.accepted <+: (con.send buffer results).1.accepted := by
  rw [send]
  split
  · exact List.prefix_rfl
  · split
    · exact List.prefix_rfl
    · split
      · have first := ((con.hands buffer).addTask buffer).send0_accepted results
        generalize ((con.hands buffer).addTask buffer).send0 results = result at first
        obtain ⟨after, err⟩ := result
        cases err with
        | true => exact first
        | false =>
            show con.accepted <+: after.clearInterest.accepted
            rw [clearInterest_accepted]
            exact first
      · exact List.prefix_rfl

theorem perform_accepted (con : TcpConnection) (action : SendAction) (results : List SendResult) :
    con.accepted <+: (con.perform results action).1.accepted := by
  cases action with
  | send buffer => exact con.send_accepted buffer results
  | transmit => exact con.doFirstTask_accepted results
  | disconnect =>
      simp only [perform, disconnect]
      split <;> exact List.prefix_rfl
  | pop err => exact List.prefix_rfl
  | settle =>
      show con.accepted <+: con.clearInterest.accepted
      simp only [clearInterest_accepted, List.prefix_refl]
  | finish err =>
      simp only [perform, disconnect0]
      split
      · split <;> exact List.prefix_rfl
      · exact List.prefix_rfl
  | disconnected => exact List.prefix_rfl

theorem perform_quiet (con : TcpConnection) (action : SendAction) (results : List SendResult)
    (buffer : List UInt8) : .send buffer ∉ (con.perform results action).2 := by
  cases action with
  | send other =>
      simp only [perform, send]
      split
      · simp
      · split
        · simp
        · split
          · split <;> simp
          · simp
  | disconnect => simp [perform]
  | transmit =>
      simp only [perform]
      split
      · simp
      · split <;> simp
  | pop err =>
      simp only [perform]
      split <;> simp
  | settle => simp [perform]
  | finish err =>
      simp only [perform, disconnect0]
      split
      · split <;> simp
      · simp
  | disconnected => simp [perform]

end TcpConnection

theorem tcpStep_accepted {pool next : TcpThreads} {event : TcpEvent}
    (stepped : tcpStep pool event = some next) : pool.shared.accepted <+: next.shared.accepted := by
  cases event with
  | send thread buffer =>
      simp only [tcpStep] at stepped
      split at stepped
      · contradiction
      · obtain ⟨_, rfl⟩ := Threads.Pool.start_eq_some.mp stepped
        exact List.prefix_rfl
  | disconnect thread =>
      simp only [tcpStep] at stepped
      split at stepped
      · contradiction
      · obtain ⟨_, rfl⟩ := Threads.Pool.start_eq_some.mp stepped
        exact List.prefix_rfl
  | handleEvents events =>
      obtain ⟨_, rfl⟩ := Threads.Pool.start_eq_some.mp stepped
      exact List.prefix_rfl
  | advance thread results =>
      simp only [tcpStep] at stepped
      obtain ⟨action, _, _, rfl⟩ := Threads.Pool.advance_eq_some.mp stepped
      exact pool.shared.perform_accepted action results

/-- `calls` lists the frames that threads called `send` with, `sent` those that `send` has
taken, each with its thread; `writing` is what a thread's call is about to hand over. They
are histories. -/
structure PeerConnection where
  threads : TcpThreads := initialTcp true false
  calls : List (Nat × Frame) := []
  writing : Nat → Option Frame := fun _ => none
  sent : List (Nat × Frame) := []

namespace PeerConnection

def frames (peer : PeerConnection) : List Frame := peer.sent.map Prod.snd

def callsOf (peer : PeerConnection) (thread : Nat) : List Frame :=
  (peer.calls.filter fun call => call.1 = thread).map Prod.snd

def sentOf (peer : PeerConnection) (thread : Nat) : List Frame :=
  (peer.sent.filter fun call => call.1 = thread).map Prod.snd

def call (peer : PeerConnection) (thread : Nat) (frame : Frame) : Option PeerConnection :=
  if frame.Sendable then
    (tcpStep peer.threads (.send thread frame.bytes)).map fun threads => {
      threads := threads
      calls := peer.calls ++ [(thread, frame)]
      writing := Function.update peer.writing thread (some frame)
      sent := peer.sent }
  else none

def takes (peer : PeerConnection) (thread : Nat) : PeerConnection :=
  match peer.writing thread with
  | none => peer
  | some frame =>
      { peer with
        writing := Function.update peer.writing thread none
        sent := peer.sent ++ [(thread, frame)] }

def step (peer : PeerConnection) : TcpEvent → Option PeerConnection
  | .send _ _ => none
  | .advance thread results =>
      (tcpStep peer.threads (.advance thread results)).map fun threads =>
        { peer.takes thread with threads := threads }
  | event => (tcpStep peer.threads event).map fun threads => { peer with threads := threads }

/-- What `send` has taken is the calls of each thread in turn, but for the one under way. -/
structure Ok (peer : PeerConnection) : Prop where
  regular : Regular peer.threads
  bytes : peer.threads.shared.sent = PrefixCode.stream Frame.bytes peer.frames
  writing : ∀ thread frame, peer.writing thread = some frame →
    peer.threads.pending thread = [.send frame.bytes]
  quiet : ∀ thread, peer.writing thread = none →
    ∀ buffer, .send buffer ∉ peer.threads.pending thread
  turns : ∀ thread, peer.callsOf thread = peer.sentOf thread ++ (peer.writing thread).toList
  taken : ∀ frame ∈ peer.frames, frame.Sendable
  waiting : ∀ thread frame, peer.writing thread = some frame → frame.Sendable

theorem Ok.initial : Ok {} where
  regular := initialTcp_regular true false
  bytes := rfl
  writing _ _ none := by cases none
  quiet _ _ _ member := absurd member List.not_mem_nil
  turns _ := rfl
  taken _ member := absurd member List.not_mem_nil
  waiting _ _ none := by cases none

variable {peer next : PeerConnection} {thread : Nat} {frame : Frame}

theorem Ok.idle (ok : Ok peer) (idle : peer.threads.pending thread = []) :
    peer.writing thread = none := by
  cases writes : peer.writing thread with
  | none => rfl
  | some frame =>
      have busy := ok.writing thread frame writes
      rw [idle] at busy
      cases busy

theorem filter_append_singleton {call : Nat × Frame} {calls : List (Nat × Frame)} :
    ((calls ++ [call]).filter fun other => other.1 = thread).map Prod.snd =
      (calls.filter fun other => other.1 = thread).map Prod.snd ++
        if call.1 = thread then [call.2] else [] := by
  by_cases same : call.1 = thread
  · simp [same]
  · simp [same]

theorem Ok.call (ok : Ok peer) (called : peer.call thread frame = some next) : Ok next := by
  rw [PeerConnection.call] at called
  split at called
  · rename_i sendable
    obtain ⟨threads, stepped, rfl⟩ := Option.map_eq_some_iff.mp called
    have regular := ok.regular.step stepped
    simp only [tcpStep] at stepped
    split at stepped
    · contradiction
    · obtain ⟨idle, rfl⟩ := Threads.Pool.start_eq_some.mp stepped
      have nothing := ok.idle idle
      refine ⟨regular, ok.bytes, fun other written writes => ?_, fun other writes => ?_,
        fun other => ?_, ok.taken, fun other written writes => ?_⟩
      · by_cases same : other = thread
        · subst same
          simp only [Function.update_self, Option.some.injEq] at writes ⊢
          rw [writes]
        · simp only [Function.update_of_ne same] at writes ⊢
          exact ok.writing other written writes
      · by_cases same : other = thread
        · subst same
          simp at writes
        · simp only [Function.update_of_ne same] at writes ⊢
          exact ok.quiet other writes
      · have before := ok.turns other
        show ((peer.calls ++ [(thread, frame)]).filter fun call => call.1 = other).map Prod.snd =
          peer.sentOf other ++ (Function.update peer.writing thread (some frame) other).toList
        rw [callsOf] at before
        rw [filter_append_singleton, before]
        by_cases same : other = thread
        · subst same
          rw [nothing, if_pos rfl, Function.update_self, Option.toList_none, List.append_nil]
          rfl
        · rw [if_neg (Ne.symm same), Function.update_of_ne same, List.append_nil]
      · by_cases same : other = thread
        · subst same
          simp only [Function.update_self, Option.some.injEq] at writes
          exact writes ▸ sendable
        · simp only [Function.update_of_ne same] at writes
          exact ok.waiting other written writes
  · contradiction

theorem Ok.start {shared : TcpConnection} {actions : List SendAction} {threads : TcpThreads}
    (ok : Ok peer) (regular : Regular threads)
    (started : peer.threads.pending thread = [] ∧ threads =
      { shared := shared, pending := Function.update peer.threads.pending thread actions })
    (sent : shared.sent = peer.threads.shared.sent)
    (quiet : ∀ buffer, .send buffer ∉ actions) : Ok { peer with threads := threads } := by
  obtain ⟨idle, rfl⟩ := started
  have nothing := ok.idle idle
  refine ⟨regular, sent.trans ok.bytes, fun other written writes => ?_, fun other writes => ?_,
    ok.turns, ok.taken, ok.waiting⟩
  · have different : other ≠ thread := by
      rintro rfl
      rw [nothing] at writes
      cases writes
    simp only [Function.update_of_ne different]
    exact ok.writing other written writes
  · by_cases same : other = thread
    · subst same
      simpa only [Function.update_self] using quiet
    · simp only [Function.update_of_ne same]
      exact ok.quiet other writes

theorem Ok.advance {results : List SendResult} {threads : TcpThreads} (ok : Ok peer)
    (regular : Regular threads)
    (advanced : peer.threads.advance (TcpConnection.perform results) thread = some threads) :
    Ok { peer.takes thread with threads := threads } := by
  obtain ⟨action, rest, first, rfl⟩ := Threads.Pool.advance_eq_some.mp advanced
  obtain rfl := ok.regular.paced.alone first
  rw [List.append_nil] at regular ⊢
  have quiet := peer.threads.shared.perform_quiet action results
  rw [takes]
  cases writes : peer.writing thread with
  | none =>
      have other : ∀ buffer, action ≠ .send buffer := by
        rintro buffer rfl
        exact ok.quiet thread writes buffer (Threads.Pool.first_mem first)
      refine ⟨regular, ?_, fun other written writes' => ?_, fun other writes' => ?_, ok.turns,
        ok.taken, ok.waiting⟩
      · rw [TcpConnection.perform_sent results other]
        exact ok.bytes
      · have different : other ≠ thread := by
          rintro rfl
          rw [writes] at writes'
          cases writes'
        simp only [Function.update_of_ne different]
        exact ok.writing other written writes'
      · by_cases same : other = thread
        · subst same
          simpa only [Function.update_self] using quiet
        · simp only [Function.update_of_ne same]
          exact ok.quiet other writes'
  | some frame =>
      obtain rfl : SendAction.send frame.bytes = action := by
        have single := ok.writing thread frame writes
        rw [first] at single
        exact (List.cons.inj single).1.symm
      refine ⟨regular, ?_, fun other written writes' => ?_, fun other writes' => ?_,
        fun other => ?_, fun written member => ?_, fun other written writes' => ?_⟩
      · rw [TcpConnection.perform, TcpConnection.send_sent, ok.bytes, frames, frames,
          List.map_append, PrefixCode.stream_append]
        simp
      · by_cases same : other = thread
        · subst same
          simp only [Function.update_self] at writes'
          cases writes'
        · simp only [Function.update_of_ne same] at writes' ⊢
          exact ok.writing other written writes'
      · by_cases same : other = thread
        · subst same
          simpa only [Function.update_self] using quiet
        · simp only [Function.update_of_ne same] at writes' ⊢
          exact ok.quiet other writes'
      · have before := ok.turns other
        show peer.callsOf other =
          ((peer.sent ++ [(thread, frame)]).filter fun call => call.1 = other).map Prod.snd ++
            (Function.update peer.writing thread none other).toList
        rw [sentOf] at before
        rw [filter_append_singleton]
        by_cases same : other = thread
        · subst same
          rw [if_pos rfl, Function.update_self, Option.toList_none, List.append_nil]
          rw [writes] at before
          exact before
        · rw [if_neg (Ne.symm same), Function.update_of_ne same, List.append_nil]
          exact before
      · rw [PeerConnection.frames, List.map_append] at member
        rcases List.mem_append.mp member with earlier | new
        · exact ok.taken written earlier
        · rw [List.map_cons, List.map_nil, List.mem_singleton] at new
          exact new ▸ ok.waiting thread frame writes
      · by_cases same : other = thread
        · subst same
          simp only [Function.update_self] at writes'
          cases writes'
        · simp only [Function.update_of_ne same] at writes'
          exact ok.waiting other written writes'

theorem Ok.step {event : TcpEvent} (ok : Ok peer) (stepped : peer.step event = some next) :
    Ok next := by
  cases event with
  | send thread buffer => cases stepped
  | disconnect thread =>
      obtain ⟨threads, started, rfl⟩ := Option.map_eq_some_iff.mp stepped
      have regular := ok.regular.step started
      simp only [tcpStep] at started
      split at started
      · contradiction
      · exact ok.start regular (Threads.Pool.start_eq_some.mp started) rfl (by simp)
  | handleEvents events =>
      obtain ⟨threads, started, rfl⟩ := Option.map_eq_some_iff.mp stepped
      refine ok.start (ok.regular.step started) (Threads.Pool.start_eq_some.mp started) rfl ?_
      intro buffer
      rw [EpollEvents.handle]
      split
      · simp
      · split
        · simp
        · split <;> simp
  | advance thread results =>
      obtain ⟨threads, advanced, rfl⟩ := Option.map_eq_some_iff.mp stepped
      exact ok.advance (ok.regular.step advanced) advanced

end PeerConnection

theorem PeerConnection.call_accepted {peer next : PeerConnection} {thread : Nat} {frame : Frame}
    (called : peer.call thread frame = some next) :
    peer.threads.shared.accepted <+: next.threads.shared.accepted := by
  rw [call] at called
  split at called
  · obtain ⟨threads, stepped, rfl⟩ := Option.map_eq_some_iff.mp called
    exact tcpStep_accepted stepped
  · contradiction

theorem PeerConnection.step_accepted {peer next : PeerConnection} {event : TcpEvent}
    (stepped : peer.step event = some next) :
    peer.threads.shared.accepted <+: next.threads.shared.accepted := by
  cases event with
  | send thread buffer => cases stepped
  | disconnect thread =>
      obtain ⟨threads, started, rfl⟩ := Option.map_eq_some_iff.mp stepped
      exact tcpStep_accepted started
  | handleEvents events =>
      obtain ⟨threads, started, rfl⟩ := Option.map_eq_some_iff.mp stepped
      exact tcpStep_accepted started
  | advance thread results =>
      obtain ⟨threads, advanced, rfl⟩ := Option.map_eq_some_iff.mp stepped
      exact tcpStep_accepted advanced

end EasyViewer
