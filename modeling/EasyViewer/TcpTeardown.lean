import EasyViewer.TcpConnection

/-!
How a TCP connection comes down: `handleEvents` with all its stages, `recv` and the callback
`onDisconnected`. Thread 0 is the event loop. `recv` is cut at its callback as well, so that
what a callback calls may come there as another thread's.
-/

namespace EasyViewer

/-- What `::recv` does: take `more + 1` bytes, come to the end of the stream with or without an
error pending on the socket, take none for now, or fail. -/
inductive ReceiveResult where
  | received (more : Nat)
  | endOfStream (pending : Bool)
  | wouldBlock
  | failed
  deriving DecidableEq, Repr

structure Readiness where
  readable : Bool := false
  error : Bool := false
  writable : Bool := false
  deriving DecidableEq, Repr

/-- What the kernel says in a section: to `::recv`, to each `::send`, and to `getSocketError`. -/
structure SocketResults where
  receive : ReceiveResult := .wouldBlock
  sends : List SendResult := []
  error : Bool := false
  deriving DecidableEq, Repr

/-- What a thread has yet to do. The first four are the callers', the others `handleEvents`,
stage by stage, and `disconnect0`. -/
inductive TeardownAction where
  | send (buffer : List UInt8)
  | recv (readable : Nat)
  | popReceived (err : Bool)
  | disconnect
  | receive (events : Readiness)
  | popRead (events : Readiness) (err : Bool)
  | settleRead (events : Readiness)
  | socketError
  | transmit
  | popSent (err : Bool)
  | settleSent
  | finish (err : Bool)
  | onDisconnected
  | disconnected
  deriving DecidableEq, Repr

/-- `tasksRecv` has the readable bytes of each buffer, `readInterest` is `EPOLLIN`. Histories:
how often `onDisconnected` came, whether in the `handleEvents` at hand `::recv` came to the end
of the stream and whether the socket had an error to report, and whether the event loop has ever
met one of these or an event of a connection that was disconnecting. -/
structure ClosingConnection extends TcpConnection where
  tasksRecv : List Nat := []
  readInterest : Bool := false
  delivered : Nat := 0
  ended : Bool := false
  failed : Bool := false
  due : Bool := false
  deriving DecidableEq, Repr

namespace Readiness

def afterRead (events : Readiness) : List TeardownAction :=
  if events.error then [.socketError]
  else if events.writable then [.transmit]
  else [.finish false]

def handle (events : Readiness) : List TeardownAction :=
  if events.readable then [.receive events] else events.afterRead

end Readiness

namespace ClosingConnection

def readFirstTask (con : ClosingConnection) (result : ReceiveResult) : ClosingConnection × Bool :=
  match con.tasksRecv with
  | [] => (con, false)
  | readable :: tasks =>
      match result with
      | .received more => ({ con with tasksRecv := (readable + more + 1) :: tasks }, false)
      | .endOfStream pending => (con, pending)
      | .wouldBlock => (con, false)
      | .failed => (con, true)

def recvComplete (con : ClosingConnection) : Bool := con.tasksRecv.head?.any (· ≠ 0)

def popFirstRead (con : ClosingConnection) : ClosingConnection :=
  { con with tasksRecv := con.tasksRecv.tail }

/-- What the event loop sees in `::recv`, if there is a buffer to read into. -/
def sees (con : ClosingConnection) (result : ReceiveResult) : ClosingConnection :=
  if con.tasksRecv.isEmpty then con
  else
    match result with
    | .received _ | .wouldBlock => con
    | .endOfStream pending =>
        { con with ended := true, failed := con.failed || pending, due := true }
    | .failed => { con with failed := true, due := true }

def reports (con : ClosingConnection) (error : Bool) : ClosingConnection :=
  { con with failed := con.failed || error, due := con.due || error }

def recv (con : ClosingConnection) (readable : Nat) (result : ReceiveResult) :
    ClosingConnection × List TeardownAction :=
  if ¬ con.connected then (con, [])
  else if con.tasksRecv.isEmpty then
    let reading := { con with tasksRecv := [readable], readInterest := true }
    let (con, err) := reading.readFirstTask result
    (con, if con.recvComplete then [.popReceived err] else if err then [.disconnect] else [])
  else ({ con with tasksRecv := con.tasksRecv ++ [readable] }, [])

def disconnect (con : ClosingConnection) : ClosingConnection :=
  if con.disconnecting ∨ ¬ con.connected then con
  else { con with disconnecting := true, readInterest := true }

def disconnect0 (con : ClosingConnection) : ClosingConnection × List TeardownAction :=
  if con.connected then
    ({ con with connected := false, numBytesPending := 0, tasksSend := [], tasksRecv := [] },
      [.onDisconnected])
  else (con, [])

def perform (results : SocketResults) (con : ClosingConnection) :
    TeardownAction → ClosingConnection × List TeardownAction
  | .send buffer =>
      let (sending, more) := con.toTcpConnection.send buffer results.sends
      ({ con with toTcpConnection := sending }, if more.isEmpty then [] else [.disconnect])
  | .recv readable => con.recv readable results.receive
  | .popReceived err => (con.popFirstRead, if err then [.disconnect] else [])
  | .disconnect => (con.disconnect, [])
  | .receive events =>
      let (con, err) := (con.sees results.receive).readFirstTask results.receive
      (con, if con.recvComplete then [.popRead events err]
        else if err then [.finish err] else [.settleRead events])
  | .popRead events err =>
      (con.popFirstRead, if err then [.finish err] else [.settleRead events])
  | .settleRead events =>
      (if con.tasksRecv.isEmpty then { con with readInterest := false } else con, events.afterRead)
  | .socketError => (con.reports results.error, [.finish results.error])
  | .transmit =>
      let (sending, err) := con.toTcpConnection.doFirstTask results.sends
      ({ con with toTcpConnection := sending }.reports err,
        if sending.sendComplete then [.popSent err] else if err then [.finish err]
        else [.settleSent])
  | .popSent err =>
      ({ con with toTcpConnection := con.toTcpConnection.popFirstTask },
        if err then [.finish err] else [.settleSent])
  | .settleSent =>
      ({ con with toTcpConnection := con.toTcpConnection.clearInterest }, [.finish false])
  | .finish err => if con.disconnecting ∨ err then con.disconnect0 else (con, [])
  | .onDisconnected => ({ con with delivered := con.delivered + 1 }, [.disconnected])
  | .disconnected => ({ con with disconnecting := false }, [])

def meets (con : ClosingConnection) : ClosingConnection :=
  { con with ended := false, failed := false, due := con.due || con.disconnecting }

end ClosingConnection

inductive TeardownEvent where
  | send (thread : Nat) (buffer : List UInt8)
  | recv (thread : Nat) (readable : Nat)
  | disconnect (thread : Nat)
  | handleEvents (events : Readiness)
  | advance (thread : Nat) (results : SocketResults)
  deriving DecidableEq, Repr

abbrev TeardownThreads := Threads.Pool ClosingConnection TeardownAction

def establishedTcp (readInterest writeInterest : Bool) : TeardownThreads where
  shared := { readInterest := readInterest, writeInterest := writeInterest }
  pending := fun _ => []

/-- The socket is in the event loop as long as the connection is connected. -/
def teardownStep (pool : TeardownThreads) : TeardownEvent → Option TeardownThreads
  | .send thread buffer =>
      if thread = 0 then none else pool.start thread pool.shared [.send buffer]
  | .recv thread readable =>
      if thread = 0 then none else pool.start thread pool.shared [.recv readable]
  | .disconnect thread =>
      if thread = 0 then none else pool.start thread pool.shared [.disconnect]
  | .handleEvents events =>
      if pool.shared.connected then pool.start 0 pool.shared.meets events.handle else none
  | .advance thread results => pool.advance (ClosingConnection.perform results) thread

/-- `onDisconnected` comes at most once, and has come when the event loop is done with the event
that it was due in. -/
structure TornDown (pool : TeardownThreads) : Prop where
  once : pool.shared.delivered ≤ 1
  closed : pool.shared.due → pool.pending 0 = [] →
    pool.shared.connected = false ∧ pool.shared.delivered = 1

/-- No `handleEvents` that has come to the end of the stream ends without an error of the socket
or a call of `disconnect`. -/
def ReportsEnd (pool : TeardownThreads) : TeardownEvent → Prop
  | .advance thread _ => ∀ err rest, thread = 0 → pool.pending 0 = .finish err :: rest →
      pool.shared.ended → pool.shared.failed ∨ pool.shared.disconnecting
  | _ => True

theorem TcpConnection.send_frame (con : TcpConnection) (buffer : List UInt8)
    (results : List SendResult) :
    (con.send buffer results).1.connected = con.connected ∧
      (con.send buffer results).1.disconnecting = con.disconnecting := by
  rw [send]
  split
  · exact ⟨rfl, rfl⟩
  · split
    · exact ⟨rfl, rfl⟩
    · split
      · rename_i idle
        have sends := send0_sends results
          (show ((con.hands buffer).addTask buffer).tasksSend.tail = [] by
            simp [addTask, hands, List.isEmpty_iff.mp idle])
        generalize ((con.hands buffer).addTask buffer).send0 results = result at sends
        obtain ⟨after, err⟩ := result
        cases err with
        | true => exact sends.frame
        | false =>
            exact ⟨after.clearInterest_frame.1.trans sends.frame.1,
              after.clearInterest_frame.2.1.trans sends.frame.2⟩
      · exact ⟨rfl, rfl⟩

namespace ClosingConnection

structure Sideways (before after : ClosingConnection) : Prop where
  connected : after.connected = before.connected
  disconnecting : before.connected = true → before.disconnecting = true →
    after.disconnecting = true
  delivered : after.delivered = before.delivered
  histories : after.ended = before.ended ∧ after.failed = before.failed ∧ after.due = before.due

theorem Sideways.refl (con : ClosingConnection) : Sideways con con :=
  ⟨rfl, fun _ => id, rfl, rfl, rfl, rfl⟩

theorem Sideways.trans {first second third : ClosingConnection} (before : Sideways first second)
    (after : Sideways second third) : Sideways first third where
  connected := after.connected.trans before.connected
  disconnecting connected disconnecting :=
    after.disconnecting (before.connected.trans connected)
      (before.disconnecting connected disconnecting)
  delivered := after.delivered.trans before.delivered
  histories := ⟨after.histories.1.trans before.histories.1,
    after.histories.2.1.trans before.histories.2.1, after.histories.2.2.trans before.histories.2.2⟩

theorem readFirstTask_sideways (con : ClosingConnection) (result : ReceiveResult) :
    Sideways con (con.readFirstTask result).1 := by
  rw [readFirstTask]
  split
  · exact .refl con
  · cases result with
    | received more => exact ⟨rfl, fun _ => id, rfl, rfl, rfl, rfl⟩
    | endOfStream pending | wouldBlock | failed => exact .refl con

theorem sending_sideways {con : ClosingConnection} {sending : TcpConnection}
    (connected : sending.connected = con.connected)
    (disconnecting : sending.disconnecting = con.disconnecting) :
    Sideways con { con with toTcpConnection := sending } :=
  ⟨connected, fun _ isLeaving => disconnecting.trans isLeaving, rfl, rfl, rfl, rfl⟩

theorem recv_sideways (con : ClosingConnection) (readable : Nat) (result : ReceiveResult) :
    Sideways con (con.recv readable result).1 := by
  rw [recv]
  split
  · exact .refl con
  · split
    · refine .trans ?_ (readFirstTask_sideways _ result)
      exact ⟨rfl, fun _ => id, rfl, rfl, rfl, rfl⟩
    · exact ⟨rfl, fun _ => id, rfl, rfl, rfl, rfl⟩

theorem disconnect_sideways (con : ClosingConnection) : Sideways con con.disconnect := by
  rw [disconnect]
  split
  · exact .refl con
  · exact ⟨rfl, fun _ _ => rfl, rfl, rfl, rfl, rfl⟩

end ClosingConnection

namespace TeardownAction

open ClosingConnection

def isCall : TeardownAction → Bool
  | .send _ | .recv _ | .popReceived _ | .disconnect => true
  | _ => false

theorem call_sideways {action : TeardownAction} (isCall : action.isCall = true)
    (results : SocketResults) (con : ClosingConnection) :
    Sideways con (perform results con action).1 ∧
      ∀ after ∈ (perform results con action).2, after.isCall = true := by
  cases action with
  | send buffer =>
      have frame := con.toTcpConnection.send_frame buffer results.sends
      refine ⟨sending_sideways frame.1 frame.2, fun after member => ?_⟩
      simp only [perform] at member
      split at member
      · contradiction
      · rw [List.mem_singleton.mp member]
        rfl
  | recv readable =>
      refine ⟨recv_sideways con readable results.receive, fun after member => ?_⟩
      simp only [perform, ClosingConnection.recv] at member
      split at member
      · contradiction
      · split at member
        · dsimp only at member
          split at member
          · rw [List.mem_singleton.mp member]
            rfl
          · split at member
            · rw [List.mem_singleton.mp member]
              rfl
            · contradiction
        · contradiction
  | popReceived err =>
      refine ⟨⟨rfl, fun _ => id, rfl, rfl, rfl, rfl⟩, fun after member => ?_⟩
      simp only [perform] at member
      split at member
      · rw [List.mem_singleton.mp member]
        rfl
      · contradiction
  | disconnect => exact ⟨disconnect_sideways con, fun after member => by contradiction⟩
  | _ => contradiction

/-- Where `handleEvents` is, and what it knows of the socket there. -/
def Stage (con : ClosingConnection) : TeardownAction → Prop
  | .receive _ => con.connected = true ∧ con.failed = false ∧ con.ended = false
  | .settleRead _ | .socketError | .transmit | .settleSent =>
      con.connected = true ∧ con.failed = false
  | .popRead _ err | .popSent err | .finish err => con.connected = true ∧ con.failed = err
  | .onDisconnected => con.connected = false ∧ con.delivered = 0
  | .disconnected => con.connected = false ∧ con.delivered = 1
  | _ => False

theorem Stage.sideways {action : TeardownAction} {before after : ClosingConnection}
    (sideways : Sideways before after) (stage : action.Stage before) : action.Stage after := by
  obtain ⟨connected, _, delivered, ended, failed, _⟩ := sideways
  cases action with
  | send _ | recv _ | popReceived _ | disconnect => contradiction
  | receive _ => exact ⟨connected.trans stage.1, failed.trans stage.2.1, ended.trans stage.2.2⟩
  | onDisconnected | disconnected =>
      exact ⟨connected.trans stage.1, delivered.trans stage.2⟩
  | _ => exact ⟨connected.trans stage.1, failed.trans stage.2⟩

end TeardownAction

namespace ClosingConnection

structure Busy (con : ClosingConnection) : Prop where
  undelivered : con.connected = true → con.delivered = 0
  noticed : con.ended = true ∨ con.failed = true → con.due = true
  reason : con.connected = true → con.due = true →
    con.ended = true ∨ con.failed = true ∨ con.disconnecting = true

structure Idle (con : ClosingConnection) : Prop where
  undelivered : con.connected = true → con.delivered = 0
  delivered : con.connected = false → con.delivered = 1

def Loop (con : ClosingConnection) : List TeardownAction → Prop
  | [] => con.Idle
  | [action] => con.Busy ∧ action.Stage con
  | _ => False

variable {con after : ClosingConnection}

theorem Busy.sideways (sideways : Sideways con after) (busy : con.Busy) : after.Busy := by
  obtain ⟨connected, disconnecting, delivered, ended, failed, due⟩ := sideways
  refine ⟨fun isConnected => ?_, fun seen => ?_, fun isConnected isDue => ?_⟩
  · exact delivered.trans (busy.undelivered (connected.symm.trans isConnected))
  · rw [ended, failed] at seen
    exact due.trans (busy.noticed seen)
  · have before := connected.symm.trans isConnected
    rw [ended, failed]
    exact (busy.reason before (due.symm.trans isDue)).imp_right
      (Or.imp_right (disconnecting before))

theorem Loop.sideways {actions : List TeardownAction} (sideways : Sideways con after)
    (loop : con.Loop actions) : after.Loop actions := by
  match actions with
  | [] =>
      refine ⟨fun connected => ?_, fun closed => ?_⟩
      · exact sideways.delivered.trans
          (loop.undelivered (sideways.connected.symm.trans connected))
      · exact sideways.delivered.trans (loop.delivered (sideways.connected.symm.trans closed))
  | [action] => exact ⟨loop.1.sideways sideways, loop.2.sideways sideways⟩

theorem Loop.passes {next : TeardownAction} (sideways : Sideways con after) (busy : con.Busy)
    (stage : next.Stage con) : after.Loop [next] :=
  ⟨busy.sideways sideways, stage.sideways sideways⟩

theorem afterRead_loop (events : Readiness) (busy : con.Busy)
    (connected : con.connected = true) (healthy : con.failed = false) :
    con.Loop events.afterRead := by
  rw [Readiness.afterRead]
  split
  · exact ⟨busy, connected, healthy⟩
  · split
    · exact ⟨busy, connected, healthy⟩
    · exact ⟨busy, connected, healthy⟩

theorem reports_busy (error : Bool) (busy : con.Busy) : (con.reports error).Busy := by
  refine ⟨busy.undelivered, fun seen => ?_, fun connected due => ?_⟩
  · rcases seen with ended | failed
    · simp [reports, busy.noticed (.inl ended)]
    · cases error with
      | true => simp [reports]
      | false =>
          have failedBefore : con.failed = true := by simpa [reports] using failed
          simp [reports, busy.noticed (.inr failedBefore)]
  · cases error with
    | true => exact .inr (.inl (by simp [reports]))
    | false =>
        have dueBefore : con.due = true := by simpa [reports] using due
        simpa [reports] using busy.reason connected dueBefore

theorem sees_read (result : ReceiveResult) (busy : con.Busy) (healthy : con.failed = false) :
    (con.sees result).Busy ∧ (con.sees result).connected = con.connected ∧
      (con.sees result).failed = ((con.sees result).readFirstTask result).2 := by
  cases queued : con.tasksRecv with
  | nil => simp [sees, readFirstTask, queued, busy, healthy]
  | cons readable tasks =>
      cases result with
      | received more | wouldBlock => simp [sees, readFirstTask, queued, busy, healthy]
      | endOfStream pending =>
          simp only [sees, readFirstTask, queued, healthy, List.isEmpty_cons, Bool.false_eq_true,
            ↓reduceIte, Bool.false_or, and_true]
          exact ⟨busy.undelivered, fun _ => rfl, fun _ _ => .inl rfl⟩
      | failed =>
          simp only [sees, readFirstTask, queued, List.isEmpty_cons, Bool.false_eq_true,
            ↓reduceIte, and_true]
          exact ⟨busy.undelivered, fun _ => rfl, fun _ _ => .inr (.inl rfl)⟩

theorem stage_loop {action : TeardownAction} (results : SocketResults) (busy : con.Busy)
    (stage : action.Stage con) :
    (perform results con action).1.Loop (perform results con action).2 := by
  cases action with
  | send buffer | recv readable | popReceived err | disconnect => contradiction
  | receive events =>
      obtain ⟨seesBusy, connected, failed⟩ := sees_read results.receive busy stage.2.1
      have sideways := readFirstTask_sideways (con.sees results.receive) results.receive
      have isConnected := connected.trans stage.1
      simp only [perform]
      split
      · exact .passes sideways seesBusy ⟨isConnected, failed⟩
      · split
        · exact .passes sideways seesBusy ⟨isConnected, failed⟩
        · rename_i noError
          exact .passes sideways seesBusy
            ⟨isConnected, failed.trans (Bool.eq_false_iff.mpr noError)⟩
  | popRead events err =>
      have sideways : Sideways con con.popFirstRead := ⟨rfl, fun _ => id, rfl, rfl, rfl, rfl⟩
      cases err with
      | true => exact .passes sideways busy stage
      | false => exact .passes sideways busy stage
  | settleRead events =>
      refine (afterRead_loop events busy stage.1 stage.2).sideways ?_
      simp only [perform]
      split
      · exact ⟨rfl, fun _ => id, rfl, rfl, rfl, rfl⟩
      · exact .refl con
  | socketError =>
      refine ⟨reports_busy results.error busy, stage.1, ?_⟩
      simp [perform, reports, stage.2]
  | transmit =>
      have frame := (TcpConnection.doFirstTask_sends con.toTcpConnection results.sends).frame
      have sideways := sending_sideways frame.1 frame.2
      have reported := reports_busy (con.toTcpConnection.doFirstTask results.sends).2
        (busy.sideways sideways)
      have connected := sideways.connected.trans stage.1
      simp only [perform]
      split
      · exact ⟨reported, connected, by simp [reports, stage.2]⟩
      · split
        · exact ⟨reported, connected, by simp [reports, stage.2]⟩
        · rename_i noError
          exact ⟨reported, connected, by simp [reports, stage.2, noError]⟩
  | popSent err =>
      have sideways : Sideways con
          { con with toTcpConnection := con.toTcpConnection.popFirstTask } :=
        sending_sideways rfl rfl
      cases err with
      | true => exact .passes sideways busy stage
      | false => exact .passes sideways busy stage
  | settleSent =>
      have frame := con.toTcpConnection.clearInterest_frame
      exact .passes (sending_sideways frame.1 frame.2.1) busy stage
  | finish err =>
      simp only [perform]
      split
      · rw [disconnect0, if_pos stage.1]
        refine ⟨⟨fun connected => ?_, busy.noticed, fun connected => ?_⟩, rfl,
          busy.undelivered stage.1⟩
        · contradiction
        · contradiction
      · refine ⟨busy.undelivered, fun closed => ?_⟩
        rw [stage.1] at closed
        contradiction
  | onDisconnected =>
      refine ⟨⟨fun connected => ?_, busy.noticed, fun connected => ?_⟩, stage.1,
        congrArg (· + 1) stage.2⟩
      · exact absurd (stage.1.symm.trans connected) (by decide)
      · exact absurd (stage.1.symm.trans connected) (by decide)
  | disconnected =>
      refine ⟨fun connected => ?_, fun _ => stage.2⟩
      exact absurd (stage.1.symm.trans connected) (by decide)

theorem Loop.once {actions : List TeardownAction} (loop : con.Loop actions) :
    con.delivered ≤ 1 := by
  match actions with
  | [] =>
      cases connected : con.connected with
      | true => exact Nat.le_trans (Nat.le_of_eq (loop.undelivered connected)) (Nat.zero_le 1)
      | false => exact Nat.le_of_eq (loop.delivered connected)
  | [action] =>
      obtain ⟨busy, stage⟩ := loop
      cases action with
      | send buffer | recv readable | popReceived err | disconnect => contradiction
      | onDisconnected => exact Nat.le_trans (Nat.le_of_eq stage.2) (Nat.zero_le 1)
      | disconnected => exact Nat.le_of_eq stage.2
      | _ => exact Nat.le_trans (Nat.le_of_eq (busy.undelivered stage.1)) (Nat.zero_le 1)

theorem stage_ends {action : TeardownAction} {results : SocketResults} (stage : action.Stage con)
    (ends : (perform results con action).2 = []) :
    action = .disconnected ∨
      (action = .finish con.failed ∧ con.failed = false ∧ con.disconnecting = false ∧
        (perform results con action).1 = con) := by
  cases action with
  | send buffer | recv readable | popReceived err | disconnect => contradiction
  | receive events | popRead events err | transmit | popSent err =>
      simp only [perform] at ends
      split at ends
      · contradiction
      · first
          | contradiction
          | split at ends
            · contradiction
            · contradiction
  | settleRead events =>
      simp only [perform, Readiness.afterRead] at ends
      split at ends
      · contradiction
      · split at ends
        · contradiction
        · contradiction
  | socketError | settleSent | onDisconnected => contradiction
  | disconnected => exact .inl rfl
  | finish err =>
      simp only [perform] at ends ⊢
      split at ends
      · rw [disconnect0, if_pos stage.1] at ends
        contradiction
      · rename_i stays
        rw [not_or, Bool.not_eq_true, Bool.not_eq_true] at stays
        have healthy := stage.2.trans stays.2
        exact .inr ⟨by rw [stage.2], healthy, stays.1, by rw [if_neg (by simp [stays])]⟩

end ClosingConnection

structure LoopAndCallers (pool : TeardownThreads) : Prop where
  loop : pool.shared.Loop (pool.pending 0)
  callers : ∀ thread, thread ≠ 0 → ∀ action ∈ pool.pending thread, action.isCall = true

namespace LoopAndCallers

open ClosingConnection

variable {pool next : TeardownThreads}

theorem of_pending {actions : List TeardownAction} (pending : pool.pending 0 = actions)
    (loop : pool.shared.Loop actions)
    (callers : ∀ thread, thread ≠ 0 → ∀ action ∈ pool.pending thread, action.isCall = true) :
    LoopAndCallers pool :=
  ⟨pending ▸ loop, callers⟩

theorem call {thread : Nat} {action : TeardownAction} (stands : LoopAndCallers pool)
    (outside : thread ≠ 0) (isCall : action.isCall = true)
    (started : pool.start thread pool.shared [action] = some next) :
    LoopAndCallers next ∧ next.shared = pool.shared ∧ next.pending 0 = pool.pending 0 := by
  obtain ⟨_, rfl⟩ := Threads.Pool.start_eq_some.mp started
  have same : Function.update pool.pending thread [action] 0 = pool.pending 0 :=
    Function.update_of_ne (Ne.symm outside) _ _
  refine ⟨.of_pending same stands.loop fun other different after member => ?_, rfl, same⟩
  rcases Threads.Pool.mem_update.mp member with ⟨_, new⟩ | ⟨_, before⟩
  · rw [List.mem_singleton.mp new]
    exact isCall
  · exact stands.callers other different after before

theorem advanceCaller {thread : Nat} {results : SocketResults} (stands : LoopAndCallers pool)
    (outside : thread ≠ 0)
    (advanced : pool.advance (perform results) thread = some next) :
    LoopAndCallers next ∧ Sideways pool.shared next.shared ∧ next.pending 0 = pool.pending 0 := by
  obtain ⟨action, rest, first, rfl⟩ := Threads.Pool.advance_eq_some.mp advanced
  have calls := TeardownAction.call_sideways
    (stands.callers thread outside action (Threads.Pool.first_mem first)) results pool.shared
  have same : Function.update pool.pending thread
      ((perform results pool.shared action).2 ++ rest) 0 = pool.pending 0 :=
    Function.update_of_ne (Ne.symm outside) _ _
  refine ⟨.of_pending same (stands.loop.sideways calls.1) fun other different after member => ?_,
    calls.1, same⟩
  rcases Threads.Pool.mem_of_advanced first member with ⟨_, new⟩ | before
  · exact calls.2 after new
  · exact stands.callers other different after before

theorem advanceLoop {results : SocketResults} (stands : LoopAndCallers pool)
    (advanced : pool.advance (perform results) 0 = some next) :
    ∃ action, pool.pending 0 = [action] ∧ pool.shared.Busy ∧ action.Stage pool.shared ∧
      next.shared = (perform results pool.shared action).1 ∧
      next.pending 0 = (perform results pool.shared action).2 ∧ LoopAndCallers next := by
  obtain ⟨action, rest, first, rfl⟩ := Threads.Pool.advance_eq_some.mp advanced
  have loop := stands.loop
  rw [first] at loop
  cases rest with
  | cons second rest => contradiction
  | nil =>
      have after : Function.update pool.pending 0
          ((perform results pool.shared action).2 ++ []) 0 =
            (perform results pool.shared action).2 := by
        rw [Function.update_self, List.append_nil]
      refine ⟨action, first, loop.1, loop.2, rfl, after,
        .of_pending after (stage_loop results loop.1 loop.2) fun other different waits member => ?_⟩
      rcases Threads.Pool.mem_update.mp member with ⟨isLoop, _⟩ | ⟨_, before⟩
      · exact absurd isLoop different
      · exact stands.callers other different waits before

theorem meet {events : Readiness} (stands : LoopAndCallers pool) (torn : TornDown pool)
    (connected : pool.shared.connected = true)
    (started : pool.start 0 pool.shared.meets events.handle = some next) :
    LoopAndCallers next ∧ next.shared.delivered = 0 ∧ next.pending 0 ≠ [] := by
  obtain ⟨idle, rfl⟩ := Threads.Pool.start_eq_some.mp started
  have loop := stands.loop
  rw [idle] at loop
  have notDue : pool.shared.due = false := by
    rw [← Bool.not_eq_true]
    intro due
    exact absurd (connected.symm.trans (torn.closed due idle).1) (by decide)
  have busy : pool.shared.meets.Busy := by
    refine ⟨loop.undelivered, fun seen => ?_, fun _ due => ?_⟩
    · simp [meets] at seen
    · simpa [meets, notDue] using due
  have begun : pool.shared.meets.Loop events.handle := by
    rw [Readiness.handle]
    split
    · exact ⟨busy, connected, rfl, rfl⟩
    · exact afterRead_loop events busy connected rfl
  have after : Function.update pool.pending 0 events.handle 0 = events.handle :=
    Function.update_self _ _ _
  refine ⟨.of_pending after begun fun other different waits member => ?_,
    loop.undelivered connected, ?_⟩
  · rcases Threads.Pool.mem_update.mp member with ⟨isLoop, _⟩ | ⟨_, before⟩
    · exact absurd isLoop different
    · exact stands.callers other different waits before
  · show Function.update pool.pending 0 events.handle 0 ≠ []
    rw [after, Readiness.handle, Readiness.afterRead]
    split
    · exact List.cons_ne_nil _ _
    · split
      · exact List.cons_ne_nil _ _
      · split
        · exact List.cons_ne_nil _ _
        · exact List.cons_ne_nil _ _

end LoopAndCallers

theorem TornDown.sideways {pool next : TeardownThreads}
    (sideways : ClosingConnection.Sideways pool.shared next.shared)
    (loop : next.pending 0 = pool.pending 0) (torn : TornDown pool) : TornDown next where
  once := sideways.delivered ▸ torn.once
  closed due idle := by
    rw [sideways.histories.2.2] at due
    rw [loop] at idle
    rw [sideways.connected, sideways.delivered]
    exact torn.closed due idle

/-- The event loop's next stage keeps the teardown in order just when it is none of those that
let the end of the stream pass. -/
theorem advanceLoop_tornDown {pool next : TeardownThreads} {results : SocketResults}
    (stands : LoopAndCallers pool)
    (advanced : pool.advance (ClosingConnection.perform results) 0 = some next) :
    LoopAndCallers next ∧ (TornDown next ↔ ReportsEnd pool (.advance 0 results)) := by
  obtain ⟨action, first, busy, stage, shared, pending, standsNext⟩ := stands.advanceLoop advanced
  refine ⟨standsNext, ?_⟩
  have onlyFinish : ReportsEnd pool (.advance 0 results) ↔ ∀ err, action = .finish err →
      pool.shared.ended → pool.shared.failed ∨ pool.shared.disconnecting := by
    rw [ReportsEnd, first]
    constructor
    · exact fun reports err isFinish => reports err [] rfl (by rw [isFinish])
    · intro reports err rest _ isFinish
      exact reports err (List.cons.inj isFinish).1
  rw [onlyFinish]
  have once := standsNext.loop.once
  by_cases ends : (ClosingConnection.perform results pool.shared action).2 = []
  · rcases ClosingConnection.stage_ends stage ends with rfl | ⟨rfl, healthy, remains, same⟩
    · refine iff_of_true ⟨once, fun _ _ => ?_⟩ (by simp)
      rw [shared]
      exact stage
    · rw [same] at shared
      constructor
      · intro tornNext err isFinish ended
        have closed := (tornNext.closed (shared ▸ busy.noticed (.inl ended))
          (pending.trans ends)).1
        rw [shared, stage.1] at closed
        contradiction
      · intro reports
        refine ⟨once, fun due _ => ?_⟩
        rw [shared] at due
        have cause := busy.reason stage.1 due
        simp only [healthy, remains, Bool.false_eq_true, or_false] at cause
        have excused := reports _ rfl cause
        simp [healthy, remains] at excused
  · refine iff_of_true ⟨once, fun _ idle => absurd (pending.symm.trans idle) ends⟩ ?_
    rintro err rfl ended
    rw [stage.2]
    by_contra stays
    rw [not_or] at stays
    simp only [ClosingConnection.perform] at ends
    rw [if_neg (by simpa [and_comm] using stays)] at ends
    exact ends rfl

theorem teardown_exact {pool next : TeardownThreads} {event : TeardownEvent}
    (stands : LoopAndCallers pool) (torn : TornDown pool)
    (stepped : teardownStep pool event = some next) :
    LoopAndCallers next ∧ (TornDown next ↔ ReportsEnd pool event) := by
  cases event with
  | send thread buffer | recv thread readable | disconnect thread =>
      simp only [teardownStep] at stepped
      split at stepped
      · contradiction
      · rename_i outside
        obtain ⟨standsNext, shared, loop⟩ := stands.call outside rfl stepped
        refine ⟨standsNext, iff_of_true (torn.sideways (shared ▸ .refl _) loop) trivial⟩
  | handleEvents events =>
      simp only [teardownStep] at stepped
      split at stepped
      · rename_i connected
        obtain ⟨standsNext, undelivered, busy⟩ := stands.meet torn connected stepped
        refine ⟨standsNext, iff_of_true ⟨?_, fun _ idle => absurd idle busy⟩ trivial⟩
        rw [undelivered]
        exact Nat.zero_le 1
      · contradiction
  | advance thread results =>
      simp only [teardownStep] at stepped
      by_cases isLoop : thread = 0
      · subst isLoop
        exact advanceLoop_tornDown stands stepped
      · obtain ⟨standsNext, sideways, loop⟩ := stands.advanceCaller isLoop stepped
        exact ⟨standsNext, iff_of_true (torn.sideways sideways loop)
          fun _ _ same => absurd same isLoop⟩

namespace TeardownAction

def rank : TeardownAction → Nat
  | .receive _ => 9
  | .popRead _ _ => 8
  | .settleRead _ => 7
  | .transmit => 6
  | .popSent _ => 5
  | .settleSent | .socketError => 4
  | .finish _ => 3
  | .onDisconnected => 2
  | .disconnected => 1
  | .send _ | .recv _ | .popReceived _ | .disconnect => 0

theorem rank_falls {action next : TeardownAction} {con : ClosingConnection}
    {results : SocketResults} (stage : action.Stage con)
    (follows : (ClosingConnection.perform results con action).2 = [next]) :
    next.rank < action.rank := by
  have afterRead : ∀ events : Readiness, events.afterRead = [next] → next.rank < 7 := by
    intro events same
    rw [Readiness.afterRead] at same
    split at same
    · cases same
      decide
    · split at same
      · cases same
        decide
      · cases same
        simp [rank]
  cases action with
  | send buffer | recv readable | popReceived err | disconnect => contradiction
  | settleRead events => exact afterRead events follows
  | socketError | settleSent | onDisconnected | disconnected => cases follows <;> simp [rank]
  | receive events | transmit =>
      simp only [ClosingConnection.perform] at follows
      split at follows
      · cases follows
        simp [rank]
      · split at follows
        · cases follows
          simp [rank]
        · cases follows
          simp [rank]
  | popRead events err | popSent err =>
      simp only [ClosingConnection.perform] at follows
      split at follows
      · cases follows
        simp [rank]
      · cases follows
        simp [rank]
  | finish err =>
      simp only [ClosingConnection.perform, ClosingConnection.disconnect0, if_pos stage.1]
        at follows
      split at follows
      · cases follows
        simp [rank]
      · contradiction

end TeardownAction

/-- The event loop is done with an event after at most as many stages as there are from the one
it is in, whatever the kernel says. -/
theorem event_ends {pool : TeardownThreads} (stands : LoopAndCallers pool)
    (results : List SocketResults)
    (enough : ∀ action ∈ pool.pending 0, action.rank ≤ results.length) :
    ∃ count final, Transition.run teardownStep pool
      ((results.take count).map (.advance 0)) = some final ∧ final.pending 0 = [] := by
  induction results generalizing pool with
  | nil =>
      have loop := stands.loop
      refine ⟨0, pool, rfl, ?_⟩
      match pending : pool.pending 0 with
      | [] => rfl
      | action :: rest =>
          rw [pending] at loop enough
          have none := enough action List.mem_cons_self
          cases rest with
          | cons second rest => contradiction
          | nil =>
              cases action with
              | send _ | recv _ | popReceived _ | disconnect => exact loop.2.elim
              | _ => contradiction
  | cons result results ih =>
      match pending : pool.pending 0 with
      | [] => exact ⟨0, pool, rfl, pending⟩
      | action :: rest =>
          have advanced := (@Threads.Pool.advance_eq_some _ _
            (ClosingConnection.perform result) pool _ 0).mpr ⟨action, rest, pending, rfl⟩
          obtain ⟨_, same, _, stage, _, after, standsNext⟩ := stands.advanceLoop advanced
          rw [pending] at same
          cases same
          obtain ⟨count, final, ran, idle⟩ := ih standsNext (by
            intro next member
            rw [after] at member
            have loop := standsNext.loop
            rw [after] at loop
            match follows : (ClosingConnection.perform result pool.shared action).2 with
            | [] =>
                rw [follows] at member
                contradiction
            | [only] =>
                rw [follows] at member
                rw [List.mem_singleton.mp member]
                have falls := TeardownAction.rank_falls stage follows
                have bound := enough action (pending ▸ List.mem_cons_self)
                rw [List.length_cons] at bound
                omega
            | _ :: _ :: _ =>
                rw [follows] at loop
                contradiction)
          exact ⟨count + 1, final, (Transition.run_cons teardownStep).mpr ⟨_, advanced, ran⟩, idle⟩

theorem establishedTcp_stands (readInterest writeInterest : Bool) :
    LoopAndCallers (establishedTcp readInterest writeInterest) where
  loop := ⟨fun _ => rfl, fun closed => by contradiction⟩
  callers _ _ _ member := by contradiction

/-- From when a connection is established: in every state that is reached, `onDisconnected` has
come at most once, and it has come when the event loop is done with the end of the stream, with
a socket error or with an event after `disconnect`, just when no `handleEvents` passes the end of
the stream over. -/
theorem torn_down_iff (readInterest writeInterest : Bool) (events : List TeardownEvent) :
    Transition.Throughout teardownStep TornDown (establishedTcp readInterest writeInterest)
        events ↔
      Transition.Happening teardownStep ReportsEnd (establishedTcp readInterest writeInterest)
        events := by
  refine Transition.Throughout.iff_happening teardownStep LoopAndCallers
    (fun pool event next stands torn stepped => teardown_exact stands torn stepped)
    (establishedTcp_stands readInterest writeInterest) ⟨Nat.zero_le 1, fun due => ?_⟩
  contradiction

def orderlyClose : List TeardownEvent := [
  .recv 1 0, .advance 1 {}, .handleEvents { readable := true },
  .advance 0 { receive := .endOfStream false }, .advance 0 {}, .advance 0 {}]

theorem orderlyClose_goes_unnoticed :
    ¬ Transition.Throughout teardownStep TornDown (establishedTcp false false) orderlyClose := by
  intro throughout
  have ran : ∃ pool, Transition.run teardownStep (establishedTcp false false) orderlyClose =
      some pool ∧ pool.shared.due = true ∧ pool.pending 0 = [] ∧
        pool.shared.connected = true := ⟨_, rfl, rfl, rfl, rfl⟩
  obtain ⟨pool, ran, due, idle, connected⟩ := ran
  have closed := (throughout.final teardownStep ran).closed due idle
  exact absurd (connected.symm.trans closed.1) (by decide)

end EasyViewer
