import EasyViewer.Library.Threads
import Mathlib.Algebra.Ring.Nat

/-!
The sending side of a TCP connection under any number of threads, cut where `m_lock` is given
back. Thread 0 is the event loop; a callback that sends counts as another thread. As long
as the total pending is below 2^31, `m_numBytesPending` is an integer that never wraps.
-/

namespace EasyViewer

/-- What `::send` does with a nonempty buffer: take `more + 1` bytes of it or all there are,
take none for now, or fail. -/
inductive SendResult where
  | accepted (more : Nat)
  | wouldBlock
  | failed
  deriving DecidableEq, Repr

/-- What a thread has yet to do: a call of `send` or `disconnect`, or in `handleEvents` the
transmitter, `popFirstTask`, the look at the empty queue, the end, and the end of `disconnect0`. -/
inductive SendAction where
  | send (buffer : List UInt8)
  | disconnect
  | transmit
  | pop (err : Bool)
  | settle
  | finish (err : Bool)
  | disconnected
  deriving DecidableEq, Repr

/-- `writeInterest` is `EPOLLOUT` in the events of the context. The bytes handed to `send` in
turn, those that the kernel took and the number of socket errors are histories. -/
structure TcpConnection where
  connected : Bool := true
  disconnecting : Bool := false
  tasksSend : List (List UInt8) := []
  numBytesPending : Int := 0
  writeInterest : Bool := false
  sent : List UInt8 := []
  accepted : List UInt8 := []
  errors : Nat := 0
  deriving DecidableEq, Repr

namespace TcpConnection

/-- The transmitter of `send0`: what is left of the buffer, and whether there was an error. -/
def transmitter (con : TcpConnection) (buffer : List UInt8) (results : List SendResult) :
    TcpConnection × List UInt8 × Bool :=
  if buffer.isEmpty then (con, buffer, false)
  else
    match results with
    | [] | .wouldBlock :: _ => ({ con with writeInterest := true }, buffer, false)
    | .failed :: _ => ({ con with errors := con.errors + 1 }, buffer, true)
    | .accepted more :: results =>
        let count := min (more + 1) buffer.length
        transmitter
          { con with
            numBytesPending := con.numBytesPending - count
            accepted := con.accepted ++ buffer.take count }
          (buffer.drop count) results

def doFirstTask (con : TcpConnection) (results : List SendResult) : TcpConnection × Bool :=
  match con.tasksSend with
  | [] => (con, false)
  | buffer :: tasks =>
      let (con, left, err) := con.transmitter buffer results
      ({ con with tasksSend := left :: tasks }, err)

def sendComplete (con : TcpConnection) : Bool := con.tasksSend.head? = some []

def popFirstTask (con : TcpConnection) : TcpConnection :=
  { con with tasksSend := con.tasksSend.tail }

def send0 (con : TcpConnection) (results : List SendResult) : TcpConnection × Bool :=
  let (con, err) := con.doFirstTask results
  (if con.sendComplete then con.popFirstTask else con, err)

def clearInterest (con : TcpConnection) : TcpConnection :=
  if con.tasksSend.isEmpty then { con with writeInterest := false } else con

def addTask (con : TcpConnection) (buffer : List UInt8) : TcpConnection :=
  { con with
    numBytesPending := con.numBytesPending + buffer.length
    tasksSend := con.tasksSend ++ [buffer] }

def hands (con : TcpConnection) (buffer : List UInt8) : TcpConnection :=
  { con with sent := con.sent ++ buffer }

def send (con : TcpConnection) (buffer : List UInt8) (results : List SendResult) :
    TcpConnection × List SendAction :=
  if buffer.isEmpty then (con, [])
  else if ¬ con.connected then (con.hands buffer, [])
  else if con.tasksSend.isEmpty then
    let (con, err) := ((con.hands buffer).addTask buffer).send0 results
    if err then (con, [.disconnect]) else (con.clearInterest, [])
  else ((con.hands buffer).addTask buffer, [])

def disconnect (con : TcpConnection) : TcpConnection :=
  if con.disconnecting ∨ ¬ con.connected then con else { con with disconnecting := true }

def disconnect0 (con : TcpConnection) : TcpConnection × List SendAction :=
  if con.connected then
    ({ con with connected := false, numBytesPending := 0, tasksSend := [] }, [.disconnected])
  else (con, [])

def perform (results : List SendResult) (con : TcpConnection) :
    SendAction → TcpConnection × List SendAction
  | .send buffer => con.send buffer results
  | .disconnect => (con.disconnect, [])
  | .transmit =>
      let (con, err) := con.doFirstTask results
      (con, if con.sendComplete then [.pop err] else if err then [.finish err] else [.settle])
  | .pop err => (con.popFirstTask, if err then [.finish err] else [.settle])
  | .settle => (con.clearInterest, [.finish false])
  | .finish err => if con.disconnecting ∨ err then con.disconnect0 else (con, [])
  | .disconnected => ({ con with disconnecting := false }, [])

end TcpConnection

/-- `EPOLLIN`, with whether `recv0` then fails; `EPOLLERR`, with whether there is an error
behind it; `EPOLLOUT`. -/
structure EpollEvents where
  readable : Option Bool
  error : Option Bool
  writable : Bool
  deriving DecidableEq, Repr

namespace EpollEvents

def err (events : EpollEvents) : Bool :=
  events.readable = some true ∨ events.error = some true

/-- What `handleEvents` does before it comes to `send0`, or to its end. -/
def handle (events : EpollEvents) : List SendAction :=
  if events.err then [.finish true]
  else if events.error.isSome then [.finish false]
  else if events.writable then [.transmit]
  else [.finish false]

end EpollEvents

inductive TcpEvent where
  | send (thread : Nat) (buffer : List UInt8)
  | disconnect (thread : Nat)
  | handleEvents (events : EpollEvents)
  | advance (thread : Nat) (results : List SendResult)
  deriving DecidableEq, Repr

abbrev TcpThreads := Threads.Pool TcpConnection SendAction

def initialTcp (connected writeInterest : Bool) : TcpThreads where
  shared := { connected := connected, writeInterest := writeInterest }
  pending := fun _ => []

def tcpStep (pool : TcpThreads) : TcpEvent → Option TcpThreads
  | .send thread buffer =>
      if thread = 0 then none else pool.start thread pool.shared [.send buffer]
  | .disconnect thread =>
      if thread = 0 then none else pool.start thread pool.shared [.disconnect]
  | .handleEvents events =>
      pool.start 0
        { pool.shared with errors := pool.shared.errors + if events.err then 1 else 0 }
        events.handle
  | .advance thread results => pool.advance (TcpConnection.perform results) thread

/-- The kernel took a prefix of what was sent, and what is counted is what is queued. -/
structure SendsInOrder (con : TcpConnection) : Prop where
  order : con.accepted <+: con.sent
  accounting : con.numBytesPending = (con.tasksSend.map List.length).sum
  nonnegative : 0 ≤ con.numBytesPending

/-- A socket error has been met, and the connection is on its way to `disconnect0`. -/
def Falling (pool : TcpThreads) : Prop :=
  pool.shared.errors ≠ 0 ∧
    (pool.shared.disconnecting ∨ ∃ thread, .disconnect ∈ pool.pending thread)

def WatchesQueue (pool : TcpThreads) : Prop :=
  pool.shared.connected → pool.shared.tasksSend ≠ [] →
    pool.shared.writeInterest ∨ Falling pool

/-- After a step without a socket error, a connection with something queued has write interest. -/
def WatchesAlways (pool : TcpThreads) (event : TcpEvent) : Prop :=
  ∀ next, tcpStep pool event = some next → next.shared.errors = pool.shared.errors →
    next.shared.connected → next.shared.tasksSend ≠ [] → next.shared.writeInterest

namespace TcpConnection

/-- What is sent is what was taken and what is queued, as long as the connection lasts. -/
structure Balanced (con : TcpConnection) : Prop where
  order : con.accepted ++ con.tasksSend.flatten <+: con.sent
  whole : con.connected → con.accepted ++ con.tasksSend.flatten = con.sent
  closed : con.connected = false → con.tasksSend = []
  accounted : con.numBytesPending = con.tasksSend.flatten.length

theorem Balanced.sendsInOrder {con : TcpConnection} (balanced : con.Balanced) :
    SendsInOrder con where
  order := (List.prefix_append _ _).trans balanced.order
  accounting := by rw [balanced.accounted, List.length_flatten]
  nonnegative := by
    rw [balanced.accounted]
    exact Int.natCast_nonneg _

structure Transmits (con : TcpConnection) (buffer : List UInt8)
    (result : TcpConnection × List UInt8 × Bool) : Prop where
  taken : ∃ part, buffer = part ++ result.2.1 ∧
    result.1.accepted = con.accepted ++ part ∧
    result.1.numBytesPending = con.numBytesPending - part.length
  frame : result.1.connected = con.connected ∧ result.1.disconnecting = con.disconnecting ∧
    result.1.sent = con.sent
  interest : con.writeInterest = true → result.1.writeInterest = true
  waits : result.2.2 = false → result.2.1 ≠ [] → result.1.writeInterest = true
  errors : con.errors ≤ result.1.errors
  failed : result.2.2 = true → result.2.1 ≠ [] ∧ result.1.errors ≠ 0

theorem transmitter_transmits (con : TcpConnection) (buffer : List UInt8)
    (results : List SendResult) : Transmits con buffer (con.transmitter buffer results) := by
  have keeps : ∃ part, buffer = part ++ buffer ∧ con.accepted = con.accepted ++ part ∧
      con.numBytesPending = con.numBytesPending - part.length := ⟨[], by simp⟩
  induction results generalizing con buffer with
  | nil =>
      rw [transmitter.eq_def]
      split
      · rename_i empty
        refine ⟨keeps, ⟨rfl, rfl, rfl⟩, id, fun _ rest => ?_, Nat.le_refl _, by simp⟩
        exact absurd (List.isEmpty_iff.mp empty) rest
      · exact ⟨keeps, ⟨rfl, rfl, rfl⟩, fun _ => rfl, fun _ _ => rfl, Nat.le_refl _, by simp⟩
  | cons result results ih =>
      rw [transmitter.eq_def]
      split
      · rename_i empty
        refine ⟨keeps, ⟨rfl, rfl, rfl⟩, id, fun _ rest => ?_, Nat.le_refl _, by simp⟩
        exact absurd (List.isEmpty_iff.mp empty) rest
      · rename_i more
        have rest : buffer ≠ [] := fun empty => more (List.isEmpty_iff.mpr empty)
        cases result with
        | wouldBlock =>
            exact ⟨keeps, ⟨rfl, rfl, rfl⟩, fun _ => rfl, fun _ _ => rfl, Nat.le_refl _, by simp⟩
        | failed =>
            exact ⟨keeps, ⟨rfl, rfl, rfl⟩, id, by simp, Nat.le_succ _,
              fun _ => ⟨rest, Nat.succ_ne_zero _⟩⟩
        | accepted more =>
            have after := ih { con with
                numBytesPending := con.numBytesPending - min (more + 1) buffer.length
                accepted := con.accepted ++ buffer.take (min (more + 1) buffer.length) }
              (buffer.drop (min (more + 1) buffer.length)) ⟨[], by simp⟩
            refine ⟨?_, after.frame, after.interest, after.waits, after.errors, after.failed⟩
            obtain ⟨part, cut, taken, counted⟩ := after.taken
            refine ⟨buffer.take (min (more + 1) buffer.length) ++ part, ?_, ?_, ?_⟩
            · rw [List.append_assoc, ← cut, List.take_append_drop]
            · rw [taken, List.append_assoc]
            · rw [counted, List.length_append, List.length_take]
              push_cast
              omega

/-- What `doFirstTask` does to the queue: only its first buffer shrinks. -/
structure SendsFirst (con : TcpConnection) (result : TcpConnection × Bool) : Prop where
  balanced : con.Balanced → result.1.Balanced
  frame : result.1.connected = con.connected ∧ result.1.disconnecting = con.disconnecting
  tail : result.1.tasksSend.tail = con.tasksSend.tail
  empty : con.tasksSend = [] → result.1.tasksSend = []
  interest : con.writeInterest = true → result.1.writeInterest = true
  waits : result.2 = false → result.1.sendComplete = false → result.1.tasksSend ≠ [] →
    result.1.writeInterest = true
  errors : con.errors ≤ result.1.errors
  failed : result.2 = true → result.1.sendComplete = false ∧ result.1.errors ≠ 0

theorem doFirstTask_sends (con : TcpConnection) (results : List SendResult) :
    SendsFirst con (con.doFirstTask results) := by
  rw [doFirstTask]
  split
  · rename_i idle
    exact ⟨id, ⟨rfl, rfl⟩, rfl, fun _ => idle, id, fun _ _ queued => absurd idle queued,
      Nat.le_refl _, by simp⟩
  · rename_i buffer tasks queued
    have transmits := transmitter_transmits con buffer results
    obtain ⟨⟨part, cut, taken, counted⟩, ⟨connected, disconnecting, sent⟩, interest, waits, errors,
      failed⟩ := transmits
    refine ⟨fun balanced => ?_, ⟨connected, disconnecting⟩, ?_, ?_, interest, ?_, errors, ?_⟩
    · obtain ⟨order, whole, closed, accounted⟩ := balanced
      rw [queued, List.flatten_cons, cut] at order whole accounted
      have same : con.accepted ++ part ++ ((con.transmitter buffer results).2.1 ++ tasks.flatten) =
          con.accepted ++ ((part ++ (con.transmitter buffer results).2.1) ++ tasks.flatten) := by
        simp only [List.append_assoc]
      refine ⟨?_, fun isConnected => ?_, fun isClosed => ?_, ?_⟩
      · simp only [List.flatten_cons, taken, sent, same]
        exact order
      · simp only [List.flatten_cons, taken, sent, same]
        exact whole (connected ▸ isConnected)
      · have gone := closed (connected ▸ isClosed)
        rw [queued] at gone
        contradiction
      · show (con.transmitter buffer results).1.numBytesPending =
          ((con.transmitter buffer results).2.1 :: tasks).flatten.length
        rw [List.length_append, List.length_append] at accounted
        rw [counted, List.flatten_cons, List.length_append]
        omega
    · rw [queued]
      rfl
    · intro idle
      rw [queued] at idle
      contradiction
    · intro noError incomplete _
      refine waits noError fun done => ?_
      simp [sendComplete, done] at incomplete
    · intro err
      refine ⟨?_, (failed err).2⟩
      simpa [sendComplete] using (failed err).1

theorem Balanced.popFirstTask {con : TcpConnection} (balanced : con.Balanced)
    (complete : con.sendComplete = true) : con.popFirstTask.Balanced := by
  obtain ⟨order, whole, closed, accounted⟩ := balanced
  simp only [sendComplete, decide_eq_true_eq] at complete
  cases queued : con.tasksSend with
  | nil =>
      rw [queued] at complete
      contradiction
  | cons buffer tasks =>
      rw [queued] at complete order whole accounted
      cases complete
      refine ⟨?_, fun connected => ?_, fun isClosed => ?_, ?_⟩
      · simpa [TcpConnection.popFirstTask, queued] using order
      · simpa [TcpConnection.popFirstTask, queued] using whole connected
      · simp [TcpConnection.popFirstTask, closed isClosed]
      · simpa [TcpConnection.popFirstTask, queued] using accounted

theorem Balanced.clearInterest {con : TcpConnection} (balanced : con.Balanced) :
    con.clearInterest.Balanced := by
  rw [TcpConnection.clearInterest]
  split
  · exact ⟨balanced.order, balanced.whole, balanced.closed, balanced.accounted⟩
  · exact balanced

theorem clearInterest_frame (con : TcpConnection) :
    con.clearInterest.connected = con.connected ∧
      con.clearInterest.disconnecting = con.disconnecting ∧
      con.clearInterest.errors = con.errors ∧ con.clearInterest.tasksSend = con.tasksSend := by
  rw [clearInterest]
  split
  · exact ⟨rfl, rfl, rfl, rfl⟩
  · exact ⟨rfl, rfl, rfl, rfl⟩

structure SendsOnly (con : TcpConnection) (result : TcpConnection × Bool) : Prop where
  balanced : con.Balanced → result.1.Balanced
  frame : result.1.connected = con.connected ∧ result.1.disconnecting = con.disconnecting
  waits : result.2 = false → result.1.tasksSend ≠ [] → result.1.writeInterest = true
  errors : con.errors ≤ result.1.errors
  failed : result.2 = true → result.1.errors ≠ 0

theorem send0_sends {con : TcpConnection} (results : List SendResult)
    (alone : con.tasksSend.tail = []) : SendsOnly con (con.send0 results) := by
  have sends := doFirstTask_sends con results
  rw [send0]
  generalize con.doFirstTask results = result at sends
  obtain ⟨after, err⟩ := result
  by_cases complete : after.sendComplete = true
  · simp only [if_pos complete]
    refine ⟨fun balanced => (sends.balanced balanced).popFirstTask complete, sends.frame,
      fun _ queued => ?_, sends.errors, fun failed => (sends.failed failed).2⟩
    exact absurd (sends.tail.trans alone) queued
  · simp only [if_neg complete]
    exact ⟨sends.balanced, sends.frame,
      fun noError => sends.waits noError (Bool.eq_false_iff.mpr complete), sends.errors,
      fun failed => (sends.failed failed).2⟩

theorem Balanced.addTask {con : TcpConnection} (balanced : con.Balanced) (buffer : List UInt8)
    (connected : con.connected = true) : ((con.hands buffer).addTask buffer).Balanced := by
  have whole : con.accepted ++ (con.tasksSend ++ [buffer]).flatten = con.sent ++ buffer := by
    rw [← balanced.whole connected]
    simp
  refine ⟨?_, fun _ => whole, fun closed => ?_, ?_⟩
  · exact ⟨[], by simpa [hands, TcpConnection.addTask] using whole⟩
  · have isClosed : con.connected = false := closed
    rw [connected] at isClosed
    contradiction
  · simp [hands, TcpConnection.addTask, balanced.accounted]

theorem Balanced.hands {con : TcpConnection} (balanced : con.Balanced) (buffer : List UInt8)
    (closed : con.connected = false) : (con.hands buffer).Balanced where
  order := balanced.order.trans (List.prefix_append _ _)
  whole connected := by
    have isConnected : con.connected = true := connected
    rw [closed] at isConnected
    contradiction
  closed := balanced.closed
  accounted := balanced.accounted

end TcpConnection

namespace SendAction

def inLoop : SendAction → Bool
  | .send _ | .disconnect => false
  | _ => true

def Ready (con : TcpConnection) : SendAction → Prop
  | .pop _ => con.sendComplete = true
  | .disconnected => con.connected = false
  | _ => True

structure Turns (con : TcpConnection) (action : SendAction)
    (result : TcpConnection × List SendAction) : Prop where
  balanced : con.Balanced → result.1.Balanced
  single : result.2.length ≤ 1
  ready : ∀ after ∈ result.2, after.Ready result.1
  outside : action.inLoop = false → ∀ after ∈ result.2, after = .disconnect
  stable : action.inLoop = false → ∀ other, Ready con other → Ready result.1 other
  connected : result.1.connected = true → con.connected = true
  disconnecting : result.1.connected = true → con.disconnecting = true →
    result.1.disconnecting = true
  called : action = .disconnect → result.1.connected = true → result.1.disconnecting = true
  errors : con.errors ≤ result.1.errors
  watches : result.1.connected = true → result.1.tasksSend ≠ [] →
    result.1.writeInterest = true ∨
      (con.tasksSend ≠ [] ∧ (con.writeInterest = true → result.1.writeInterest = true)) ∨
      (result.1.errors ≠ 0 ∧ .disconnect ∈ result.2)

namespace Turns

variable {con : TcpConnection}

theorem refl {action : SendAction} {more : List SendAction} (single : more.length ≤ 1)
    (ready : ∀ after ∈ more, after.Ready con)
    (outside : action.inLoop = false → ∀ after ∈ more, after = .disconnect)
    (called : action ≠ .disconnect) : Turns con action (con, more) :=
  ⟨id, single, ready, outside, fun _ _ => id, id, fun _ => id,
    fun same => absurd same called, Nat.le_refl _, fun _ queued => .inr (.inl ⟨queued, id⟩)⟩

theorem clearInterest {action : SendAction} {more : List SendAction} (single : more.length ≤ 1)
    (ready : ∀ after ∈ more, after.Ready con.clearInterest) (loop : action.inLoop = true) :
    Turns con action (con.clearInterest, more) := by
  have called : action ≠ .disconnect := by
    rintro rfl
    contradiction
  have inside : ¬ action.inLoop = false := by simp [loop]
  obtain ⟨connected, disconnecting, errors, tasks⟩ := con.clearInterest_frame
  refine ⟨.clearInterest, single, ready, fun outside => absurd outside inside,
    fun outside => absurd outside inside, fun isConnected => connected.symm.trans isConnected,
    fun _ isLeaving => disconnecting.trans isLeaving, fun same => absurd same called,
    Nat.le_of_eq errors.symm, fun _ queued => .inr (.inl ⟨tasks ▸ queued, ?_⟩)⟩
  show con.writeInterest = true → con.clearInterest.writeInterest = true
  rw [TcpConnection.clearInterest, if_neg (by simpa [tasks] using queued)]
  exact id

theorem queues {buffer : List UInt8} (connected : con.connected = true)
    (queued : con.tasksSend ≠ []) :
    Turns con (.send buffer) ((con.hands buffer).addTask buffer, []) where
  balanced balanced := balanced.addTask buffer connected
  single := Nat.zero_le _
  ready := by simp
  outside := by simp
  stable _ other ready := by
    cases other with
    | pop err =>
        have complete : con.sendComplete = true := ready
        cases front : con.tasksSend with
        | nil => exact absurd front queued
        | cons head tasks =>
            simpa [Ready, TcpConnection.sendComplete, TcpConnection.addTask, TcpConnection.hands,
              front] using complete
    | disconnected => exact ready
    | _ => trivial
  connected := id
  disconnecting _ := id
  called same := by contradiction
  errors := Nat.le_refl _
  watches _ _ := .inr (.inl ⟨queued, id⟩)

theorem sendsAtOnce {buffer : List UInt8} (results : List SendResult)
    (connected : con.connected = true) (idle : con.tasksSend = []) :
    Turns con (.send buffer)
      (let (con, err) := ((con.hands buffer).addTask buffer).send0 results
       if err then (con, [.disconnect]) else (con.clearInterest, [])) := by
  have alone : ((con.hands buffer).addTask buffer).tasksSend.tail = [] := by
    simp [TcpConnection.addTask, TcpConnection.hands, idle]
  have sends := TcpConnection.send0_sends results alone
  have stays : ∀ after : TcpConnection, ∀ other, Ready con other → Ready after other := by
    intro after other ready
    cases other with
    | pop err =>
        have complete : con.sendComplete = true := ready
        simp [TcpConnection.sendComplete, idle] at complete
    | disconnected =>
        have closed : con.connected = false := ready
        rw [connected] at closed
        contradiction
    | _ => trivial
  generalize ((con.hands buffer).addTask buffer).send0 results = result at sends
  obtain ⟨after, err⟩ := result
  have kept : con.Balanced → after.Balanced :=
    fun balanced => sends.balanced (balanced.addTask buffer connected)
  have closing : con.disconnecting = true → after.disconnecting = true :=
    fun disconnecting => sends.frame.2.trans disconnecting
  cases err with
  | true =>
      refine ⟨kept, Nat.le_refl _, ?_, fun _ => by simp, fun _ => stays _, fun _ => connected,
        fun _ => closing, by simp, sends.errors, fun _ _ => .inr (.inr ⟨sends.failed rfl, ?_⟩)⟩
      · intro action member
        cases List.mem_singleton.mp member
        trivial
      · exact List.mem_singleton.mpr rfl
  | false =>
      show Turns con (.send buffer) (after.clearInterest, [])
      refine ⟨fun balanced => (kept balanced).clearInterest, Nat.zero_le _, by simp, by simp,
        fun _ => stays _, fun _ => connected, fun _ disconnecting => ?_, by simp, ?_,
        fun _ => ?_⟩
      · exact after.clearInterest_frame.2.1.trans (closing disconnecting)
      · exact Nat.le_trans sends.errors (Nat.le_of_eq after.clearInterest_frame.2.2.1.symm)
      · intro queued
        rw [after.clearInterest_frame.2.2.2] at queued
        left
        show after.clearInterest.writeInterest = true
        rw [TcpConnection.clearInterest, if_neg (by simpa using queued)]
        exact sends.waits rfl queued

theorem send (con : TcpConnection) (buffer : List UInt8) (results : List SendResult) :
    Turns con (.send buffer) (con.send buffer results) := by
  rw [TcpConnection.send]
  by_cases empty : buffer.isEmpty
  · rw [if_pos empty]
    exact refl (Nat.zero_le _) (by simp) (by simp) (by simp)
  rw [if_neg empty]
  by_cases connected : con.connected = true
  · rw [if_neg (not_not.mpr connected)]
    split
    · rename_i idle
      exact sendsAtOnce results connected (List.isEmpty_iff.mp idle)
    · rename_i queued
      exact queues connected (by simpa using queued)
  · rw [if_pos connected]
    have closed : con.connected = false := by simpa using connected
    exact ⟨fun balanced => balanced.hands buffer closed, Nat.zero_le _, by simp, by simp,
      fun _ other => by cases other <;> exact id, id, fun _ => id, by simp, Nat.le_refl _,
      fun _ queued => .inr (.inl ⟨queued, id⟩)⟩

theorem disconnect (con : TcpConnection) : Turns con .disconnect (con.disconnect, []) := by
  rw [TcpConnection.disconnect]
  split
  · rename_i leaving
    refine ⟨id, Nat.zero_le _, by simp, by simp, fun _ _ => id, id, fun _ => id, ?_,
      Nat.le_refl _, fun _ queued => .inr (.inl ⟨queued, id⟩)⟩
    intro _ connected
    exact leaving.resolve_right (not_not.mpr connected)
  · exact ⟨fun balanced => ⟨balanced.order, balanced.whole, balanced.closed, balanced.accounted⟩,
      Nat.zero_le _, by simp, by simp, fun _ other => by cases other <;> exact id, id,
      fun _ _ => rfl, fun _ _ => rfl, Nat.le_refl _,
      fun _ queued => .inr (.inl ⟨queued, id⟩)⟩

theorem transmit (con : TcpConnection) (results : List SendResult) :
    Turns con .transmit (TcpConnection.perform results con .transmit) := by
  have sends := con.doFirstTask_sends results
  simp only [TcpConnection.perform]
  generalize con.doFirstTask results = result at sends
  obtain ⟨after, err⟩ := result
  refine ⟨sends.balanced, ?_, ?_, by simp [inLoop], by simp [inLoop],
    fun connected => sends.frame.1.symm.trans connected,
    fun _ leaving => sends.frame.2.trans leaving, by simp, sends.errors, ?_⟩
  · show (if after.sendComplete = true then [SendAction.pop err]
      else if err = true then [SendAction.finish err] else [SendAction.settle]).length ≤ 1
    split
    · exact Nat.le_refl _
    · split <;> exact Nat.le_refl _
  · show ∀ action ∈ (if after.sendComplete = true then [SendAction.pop err]
      else if err = true then [SendAction.finish err] else [SendAction.settle]), Ready after action
    intro action member
    split at member
    · rename_i complete
      cases List.mem_singleton.mp member
      exact complete
    · split at member
      all_goals
        cases List.mem_singleton.mp member
        trivial
  · intro _ queued
    refine .inr (.inl ⟨fun idle => ?_, sends.interest⟩)
    exact queued (sends.empty idle)

theorem pop {err : Bool} (con : TcpConnection) (complete : con.sendComplete = true) :
    Turns con (.pop err)
      (con.popFirstTask, if err then [.finish err] else [.settle]) := by
  refine ⟨fun balanced => balanced.popFirstTask complete, ?_, ?_, by simp [inLoop],
    by simp [inLoop], id, fun _ => id, by simp, Nat.le_refl _, ?_⟩
  · cases err <;> exact Nat.le_refl _
  · cases err <;> simp [Ready]
  · intro _ queued
    refine .inr (.inl ⟨fun idle => queued ?_, id⟩)
    simp [TcpConnection.popFirstTask, idle]

theorem finish (con : TcpConnection) (err : Bool) (results : List SendResult) :
    Turns con (.finish err) (con.perform results (.finish err)) := by
  rw [TcpConnection.perform]
  split
  · rw [TcpConnection.disconnect0]
    split
    · refine ⟨fun balanced => ⟨?_, by simp, fun _ => rfl, rfl⟩, Nat.le_refl _, ?_,
        by simp [inLoop], by simp [inLoop], by simp, by simp, by simp, Nat.le_refl _, by simp⟩
      · simpa using (List.prefix_append _ _).trans balanced.order
      · intro action member
        cases List.mem_singleton.mp member
        rfl
    · exact refl (Nat.zero_le _) (by simp) (by simp) (by simp)
  · exact refl (Nat.zero_le _) (by simp) (by simp) (by simp)

theorem disconnected (con : TcpConnection) (closed : con.connected = false) :
    Turns con .disconnected ({ con with disconnecting := false }, []) := by
  have never : ¬ con.connected = true := by simp [closed]
  exact ⟨fun balanced => ⟨balanced.order, balanced.whole, balanced.closed, balanced.accounted⟩,
    Nat.zero_le _, by simp, by simp [inLoop], by simp [inLoop], id,
    fun connected => absurd connected never, by simp, Nat.le_refl _,
    fun connected => absurd connected never⟩

end Turns

theorem turns {con : TcpConnection} {action : SendAction} (ready : action.Ready con)
    (results : List SendResult) : Turns con action (con.perform results action) := by
  cases action with
  | send buffer => exact .send con buffer results
  | disconnect => exact .disconnect con
  | transmit => exact .transmit con results
  | pop err => exact .pop con ready
  | settle =>
      exact .clearInterest (Nat.le_refl _) (fun _ member => by
        cases List.mem_singleton.mp member
        trivial) rfl
  | finish err => exact .finish con err results
  | disconnected => exact .disconnected con ready

end SendAction

/-- Each thread has one action before it, and only thread 0 those of the event loop. -/
structure Regular (pool : TcpThreads) : Prop where
  balanced : pool.shared.Balanced
  single : ∀ thread, (pool.pending thread).length ≤ 1
  ready : ∀ thread, ∀ action ∈ pool.pending thread, action.Ready pool.shared
  loop : ∀ thread, ∀ action ∈ pool.pending thread, action.inLoop = true → thread = 0
  watches : WatchesQueue pool

theorem Regular.paced {pool : TcpThreads} (regular : Regular pool) :
    pool.OneByOne SendAction.inLoop :=
  ⟨regular.single, regular.loop⟩

theorem Regular.holds {pool : TcpThreads} (regular : Regular pool) :
    pool.Holds TcpConnection.Balanced fun con action => action.Ready con :=
  ⟨regular.balanced, regular.ready⟩

theorem Regular.stable {pool : TcpThreads} (regular : Regular pool) {thread other : Nat}
    {action waiting : SendAction} {rest : List SendAction}
    {result : TcpConnection × List SendAction} (first : pool.pending thread = action :: rest)
    (turns : SendAction.Turns pool.shared action result) (different : other ≠ thread)
    (member : waiting ∈ pool.pending other) (ready : waiting.Ready pool.shared) :
    waiting.Ready result.1 := by
  rcases regular.paced.apart first different member with outside | outside
  · cases waiting <;> trivial
  · exact turns.stable outside waiting ready

/-- A queue that nobody watches is left only by an error, and the thread that met it
disconnects, or has done so. -/
theorem Regular.watches_advance {pool : TcpThreads} (regular : Regular pool) {thread : Nat}
    {action : SendAction} {result : TcpConnection × List SendAction}
    (first : pool.pending thread = [action])
    (turns : SendAction.Turns pool.shared action result) :
    WatchesQueue {
      shared := result.1
      pending := Function.update pool.pending thread result.2 } := by
  intro connected queued
  rcases turns.watches connected queued with interest | ⟨before, kept⟩ | ⟨errors, called⟩
  · exact .inl interest
  · rcases regular.watches (turns.connected connected) before with interest | ⟨errors, falling⟩
    · exact .inl (kept interest)
    · refine .inr ⟨fun none => errors (Nat.le_zero.mp (none ▸ turns.errors)), ?_⟩
      rcases falling with leaving | ⟨other, called⟩
      · exact .inl (turns.disconnecting connected leaving)
      · by_cases same : other = thread
        · subst same
          rw [first] at called
          exact .inl (turns.called (List.mem_singleton.mp called).symm connected)
        · exact .inr ⟨other, Threads.Pool.mem_update.mpr (.inr ⟨same, called⟩)⟩
  · exact .inr ⟨errors, .inr ⟨thread, Threads.Pool.mem_update.mpr (.inl ⟨rfl, called⟩)⟩⟩

theorem Regular.advance {pool next : TcpThreads} (regular : Regular pool) {thread : Nat}
    {results : List SendResult}
    (advanced : pool.advance (TcpConnection.perform results) thread = some next) :
    Regular next := by
  obtain ⟨action, rest, first, after⟩ := Threads.Pool.advance_eq_some.mp advanced
  have ready := regular.ready thread action (Threads.Pool.first_mem first)
  have turns := SendAction.turns ready results
  have alone := regular.paced.alone first
  have paced := regular.paced.advance first advanced turns.single fun outside waiting new => by
    rw [turns.outside outside waiting new]
    rfl
  have holds := regular.holds.advance first advanced (turns.balanced regular.balanced)
    turns.ready fun other waiting member isReady => by
      rw [alone] at member
      rcases Threads.Pool.mem_update.mp member with ⟨_, none⟩ | ⟨different, before⟩
      · exact absurd none List.not_mem_nil
      · exact regular.stable first turns different before isReady
  subst alone
  have watches := regular.watches_advance first turns
  rw [after, List.append_nil] at holds paced ⊢
  exact ⟨holds.shared, paced.single, holds.pending, paced.loop, watches⟩

theorem Regular.start {pool next : TcpThreads} (regular : Regular pool) {thread errors : Nat}
    {action : SendAction} (more : pool.shared.errors ≤ errors)
    (started : pool.start thread { pool.shared with errors := errors } [action] = some next)
    (ready : ∀ con, action.Ready con) (loop : action.inLoop = true → thread = 0) :
    Regular next := by
  have paced := regular.paced.start started (Nat.le_refl _) fun apart waiting new => by
    rw [List.mem_singleton.mp new]
    simpa using mt loop apart
  have balanced : { pool.shared with errors := errors }.Balanced :=
    ⟨regular.balanced.order, regular.balanced.whole, regular.balanced.closed,
      regular.balanced.accounted⟩
  have holds := regular.holds.start started balanced
    (fun waiting new => by
      rw [List.mem_singleton.mp new]
      exact ready _)
    fun waiting before => by cases waiting <;> exact before
  refine ⟨holds.shared, paced.single, holds.pending, paced.loop, ?_⟩
  obtain ⟨idle, rfl⟩ := Threads.Pool.start_eq_some.mp started
  intro connected queued
  rcases regular.watches connected queued with interest | ⟨met, falling⟩
  · exact .inl interest
  · refine .inr ⟨fun none => met (Nat.le_zero.mp (none ▸ more)), ?_⟩
    rcases falling with leaving | ⟨other, called⟩
    · exact .inl leaving
    · exact .inr ⟨other, Threads.Pool.mem_started idle called⟩

theorem EpollEvents.handle_single (events : EpollEvents) :
    ∃ action, events.handle = [action] ∧ ∀ con, action.Ready con := by
  rw [handle]
  split
  · exact ⟨_, rfl, fun _ => trivial⟩
  · split
    · exact ⟨_, rfl, fun _ => trivial⟩
    · split
      · exact ⟨_, rfl, fun _ => trivial⟩
      · exact ⟨_, rfl, fun _ => trivial⟩

theorem Regular.step {pool next : TcpThreads} {event : TcpEvent} (regular : Regular pool)
    (stepped : tcpStep pool event = some next) : Regular next := by
  cases event with
  | send thread buffer =>
      simp only [tcpStep] at stepped
      split at stepped
      · contradiction
      · exact regular.start (Nat.le_refl _) stepped (fun _ => trivial) (by simp [SendAction.inLoop])
  | disconnect thread =>
      simp only [tcpStep] at stepped
      split at stepped
      · contradiction
      · exact regular.start (Nat.le_refl _) stepped (fun _ => trivial) (by simp [SendAction.inLoop])
  | handleEvents events =>
      obtain ⟨action, handled, ready⟩ := events.handle_single
      simp only [tcpStep, handled] at stepped
      exact regular.start (Nat.le_add_right _ _) stepped ready fun _ => rfl
  | advance thread results => exact regular.advance stepped

theorem initialTcp_regular (connected interest : Bool) :
    Regular (initialTcp connected interest) where
  balanced := ⟨List.prefix_rfl, fun _ => rfl, fun _ => rfl, rfl⟩
  single _ := Nat.zero_le _
  ready _ _ waiting := absurd waiting List.not_mem_nil
  loop _ _ waiting := absurd waiting List.not_mem_nil
  watches _ queued := absurd rfl queued

theorem sends_in_order (connected interest : Bool) (events : List TcpEvent) :
    Transition.Throughout tcpStep (fun pool => SendsInOrder pool.shared ∧ WatchesQueue pool)
      (initialTcp connected interest) events :=
  (Transition.Throughout.of_step tcpStep (fun _ _ _ regular => regular.step)
    (initialTcp_regular connected interest)).mono tcpStep
    fun _ regular => ⟨regular.balanced.sendsInOrder, regular.watches⟩

/-- A failed `send` leaves its buffer queued; another `send` comes before the event loop has
closed the connection. -/
theorem failedSend_unwatched : ¬ Transition.Happening tcpStep WatchesAlways
    (initialTcp true false)
    [.send 1 [1], .advance 1 [.failed], .advance 1 [], .send 2 [2], .advance 2 []] := by
  intro watches
  have last := (watches.2 _ rfl).2 _ rfl
  have watched := ((last.2 _ rfl).2 _ rfl).1 _ rfl _ rfl rfl rfl (by decide)
  exact absurd watched (by decide)

end EasyViewer
