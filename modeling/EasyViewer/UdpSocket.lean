import EasyViewer.TcpConnection

/-!
The sending side of a UDP socket on Linux under any number of threads, cut where `m_lock` is given
back. Thread 0 is the event loop. A `ByteBuffer` is a handle: a buffer that is sent twice is
queued twice, and both of its tasks move one reader index. As long as the total pending is
below 2^64, `m_numBytesPending` is an integer that never wraps.
-/

namespace EasyViewer

/-- The indices of a buffer, which all handles to it share. -/
structure DatagramBuffer where
  readerIndex : Nat
  writerIndex : Nat
  ordered : readerIndex ≤ writerIndex

namespace DatagramBuffer

def numReadableBytes (buffer : DatagramBuffer) : Nat := buffer.writerIndex - buffer.readerIndex

def moveReaderIndex (buffer : DatagramBuffer) (offset : Nat) : DatagramBuffer where
  readerIndex :=
    if buffer.writerIndex ≤ buffer.readerIndex + offset then buffer.writerIndex
    else buffer.readerIndex + offset
  writerIndex := buffer.writerIndex
  ordered := by
    split
    · exact Nat.le_refl _
    · rename_i before
      exact Nat.le_of_lt (Nat.lt_of_not_le before)

end DatagramBuffer

/-- `number` is a history: the place of the task among all that were queued. -/
structure DatagramTask where
  number : Nat
  ip : String
  port : UInt16
  buffer : Nat
  deriving DecidableEq, Repr

/-- Bytes of a task that the kernel took, from that index of its buffer on. -/
structure HandedBytes where
  task : Nat
  first : Nat
  count : Nat
  deriving DecidableEq, Repr

/-- Bytes of a task queued earlier, or of the same task further in front. -/
def HandedBytes.Before (earlier later : HandedBytes) : Prop :=
  earlier.task < later.task ∨
    (earlier.task = later.task ∧ earlier.first + earlier.count ≤ later.first)

/-- What a thread has yet to do: the two parts of a call of `send`, a call of `open` or `close`,
or in `handleEvents` the transmitter, `popFirstTask`, the look at the empty queue, and the end. -/
inductive DatagramAction where
  | send (ip : String) (port : UInt16) (buffer : Nat)
  | queue (ip : String) (port : UInt16) (buffer : Nat)
  | open
  | close
  | transmit
  | pop
  | settle
  | finish
  deriving DecidableEq, Repr

/-- `writeInterest` is `EPOLLOUT` in the events of the context. The number of tasks that were
queued and the bytes that the kernel took are histories. -/
structure UdpSocket where
  opened : Bool := false
  closing : Bool := false
  tasksSend : List DatagramTask := []
  numBytesPending : Int := 0
  writeInterest : Bool := false
  buffers : Nat → DatagramBuffer
  queued : Nat := 0
  handed : List HandedBytes := []

namespace UdpSocket

def unsent (socket : UdpSocket) (buffer : Nat) : Nat := (socket.buffers buffer).numReadableBytes

def transmitter (socket : UdpSocket) (task : DatagramTask) (results : List SendResult) :
    UdpSocket × Bool :=
  if socket.unsent task.buffer = 0 then (socket, false)
  else
    match results with
    | [] | .wouldBlock :: _ => ({ socket with writeInterest := true }, false)
    | .failed :: _ => (socket, true)
    | .accepted more :: results =>
        let count := min (more + 1) (socket.unsent task.buffer)
        let buffer := socket.buffers task.buffer
        transmitter
          { socket with
            buffers := Function.update socket.buffers task.buffer (buffer.moveReaderIndex count)
            numBytesPending := socket.numBytesPending - count
            handed := socket.handed ++
              [{ task := task.number, first := buffer.readerIndex, count := count }] }
          task results

/-- For an empty queue the result is that of an error. -/
def doFirstTask (socket : UdpSocket) (results : List SendResult) : UdpSocket × Bool :=
  match socket.tasksSend with
  | [] => (socket, true)
  | task :: _ => socket.transmitter task results

def sendComplete (socket : UdpSocket) : Bool :=
  socket.tasksSend.head?.any fun task => socket.unsent task.buffer = 0

def popFirstTask (socket : UdpSocket) : UdpSocket :=
  { socket with tasksSend := socket.tasksSend.tail }

def send0 (socket : UdpSocket) (results : List SendResult) : UdpSocket × Bool :=
  let (socket, err) := socket.doFirstTask results
  (if socket.sendComplete then socket.popFirstTask else socket, err)

def clearInterest (socket : UdpSocket) : UdpSocket :=
  if socket.tasksSend.isEmpty then { socket with writeInterest := false } else socket

def addTask (socket : UdpSocket) (ip : String) (port : UInt16) (buffer : Nat) : UdpSocket :=
  { socket with
    numBytesPending := socket.numBytesPending + socket.unsent buffer
    tasksSend := socket.tasksSend ++
      [{ number := socket.queued, ip := ip, port := port, buffer := buffer }]
    queued := socket.queued + 1 }

def queue (socket : UdpSocket) (ip : String) (port : UInt16) (buffer : Nat)
    (results : List SendResult) : UdpSocket :=
  if ¬ socket.opened then socket
  else if socket.tasksSend.isEmpty then
    let (socket, err) := (socket.addTask ip port buffer).send0 results
    if err then socket.popFirstTask else socket.clearInterest
  else socket.addTask ip port buffer

def close (socket : UdpSocket) : UdpSocket :=
  if ¬ socket.opened ∨ socket.closing then socket else { socket with closing := true }

def close0 (socket : UdpSocket) : UdpSocket :=
  { socket with opened := false, numBytesPending := 0, tasksSend := [], closing := false }

def perform (results : List SendResult) (socket : UdpSocket) :
    DatagramAction → UdpSocket × List DatagramAction
  | .send ip port buffer =>
      (socket, if socket.unsent buffer = 0 then [] else [.queue ip port buffer])
  | .queue ip port buffer => (socket.queue ip port buffer results, [])
  | .open => ({ socket with opened := true }, [])
  | .close => (socket.close, [])
  | .transmit =>
      let (socket, _) := socket.doFirstTask results
      (socket, if socket.sendComplete then [.pop] else [.settle])
  | .pop => (socket.popFirstTask, [.settle])
  | .settle => (socket.clearInterest, [.finish])
  | .finish => (if socket.closing then socket.close0 else socket, [])

end UdpSocket

/-- What `handleEvents` does from `EPOLLERR` and `EPOLLOUT` on. -/
def udpHandle (error writable : Bool) : List DatagramAction :=
  if error then [.finish] else if writable then [.transmit] else [.finish]

inductive UdpEvent where
  | send (thread : Nat) (ip : String) (port : UInt16) (buffer : Nat)
  | open (thread : Nat)
  | close (thread : Nat)
  | handleEvents (error writable : Bool)
  | advance (thread : Nat) (results : List SendResult)
  deriving DecidableEq, Repr

abbrev UdpThreads := Threads.Pool UdpSocket DatagramAction

def initialUdp (buffers : Nat → DatagramBuffer) : UdpThreads where
  shared := { buffers := buffers }
  pending := fun _ => []

def udpStep (pool : UdpThreads) : UdpEvent → Option UdpThreads
  | .send thread ip port buffer =>
      if thread = 0 then none else pool.start thread pool.shared [.send ip port buffer]
  | .open thread => if thread = 0 then none else pool.start thread pool.shared [.open]
  | .close thread => if thread = 0 then none else pool.start thread pool.shared [.close]
  | .handleEvents error writable => pool.start 0 pool.shared (udpHandle error writable)
  | .advance thread results => pool.advance (UdpSocket.perform results) thread

namespace UdpSocket

def unsentBytes (socket : UdpSocket) : Nat :=
  (socket.tasksSend.map fun task => socket.unsent task.buffer).sum

/-- What is counted is what the queue holds, and the kernel was handed the datagrams in the order
they were queued in, no byte of them twice. -/
structure Accounted (socket : UdpSocket) : Prop where
  counts : socket.numBytesPending = socket.unsentBytes
  order : socket.handed.Pairwise HandedBytes.Before

structure Queued (socket : UdpSocket) : Prop where
  covers : (socket.unsentBytes : Int) ≤ socket.numBytesPending
  numbers : socket.tasksSend.Pairwise fun first second => first.number < second.number
  fresh : ∀ task ∈ socket.tasksSend, task.number < socket.queued
  order : socket.handed.Pairwise HandedBytes.Before
  known : ∀ bytes ∈ socket.handed, bytes.task < socket.queued
  past : ∀ bytes ∈ socket.handed, ∀ task ∈ socket.tasksSend, bytes.task < task.number ∨
    (bytes.task = task.number ∧
      bytes.first + bytes.count ≤ (socket.buffers task.buffer).readerIndex)

def meetsError : Nat → List SendResult → Bool
  | _, [] | _, .wouldBlock :: _ => false
  | length, .failed :: _ => length ≠ 0
  | length, .accepted more :: results => meetsError (length - min (more + 1) length) results

/-- The steps after which the counter is too large: an error on an empty queue, where the
datagram is dropped as it is, and bytes taken of a buffer that another task queues as well. -/
def Drifts (results : List SendResult) (socket : UdpSocket) : DatagramAction → Prop
  | .queue _ _ buffer => socket.opened = true ∧ socket.tasksSend = [] ∧
      meetsError (socket.unsent buffer) results = true
  | .transmit => ∃ task tasks, socket.tasksSend = task :: tasks ∧
      socket.unsent task.buffer ≠ 0 ∧ (∃ more rest, results = .accepted more :: rest) ∧
      ∃ other ∈ tasks, other.buffer = task.buffer
  | _ => False

structure Takes (socket : UdpSocket) (task : DatagramTask) (taken : Nat) (result : UdpSocket) :
    Prop where
  atMost : taken ≤ socket.unsent task.buffer
  counted : result.numBytesPending = socket.numBytesPending - taken
  reader : (result.buffers task.buffer).readerIndex =
    (socket.buffers task.buffer).readerIndex + taken
  writer : (result.buffers task.buffer).writerIndex = (socket.buffers task.buffer).writerIndex
  others : ∀ other, other ≠ task.buffer → result.buffers other = socket.buffers other
  tasks : result.tasksSend = socket.tasksSend
  queued : result.queued = socket.queued
  opened : result.opened = socket.opened
  handed : ∃ new, result.handed = socket.handed ++ new ∧ new.Pairwise HandedBytes.Before ∧
    ∀ bytes ∈ new, bytes.task = task.number ∧
      (socket.buffers task.buffer).readerIndex ≤ bytes.first ∧
      bytes.first + bytes.count ≤ (result.buffers task.buffer).readerIndex

variable {socket result : UdpSocket} {task : DatagramTask} {taken : Nat}
  {results : List SendResult}

theorem Takes.nothing (interest : Bool) :
    Takes socket task 0 { socket with writeInterest := interest } :=
  ⟨Nat.zero_le _, by simp, rfl, rfl, fun _ _ => rfl, rfl, rfl, rfl, [], by simp⟩

theorem Takes.unsent (takes : Takes socket task taken result) :
    result.unsent task.buffer = socket.unsent task.buffer - taken := by
  simp only [UdpSocket.unsent, DatagramBuffer.numReadableBytes, takes.reader, takes.writer]
  omega

theorem Takes.unsent_other (takes : Takes socket task taken result) {other : Nat}
    (apart : other ≠ task.buffer) : result.unsent other = socket.unsent other := by
  rw [UdpSocket.unsent, takes.others other apart, UdpSocket.unsent]

theorem Takes.after {middle : UdpSocket} {count : Nat} (first : Takes socket task count middle)
    (rest : Takes middle task taken result) : Takes socket task (count + taken) result := by
  obtain ⟨new, handed, ordered, inside⟩ := first.handed
  obtain ⟨later, handedLater, orderedLater, insideLater⟩ := rest.handed
  have atMost := rest.atMost
  rw [first.unsent] at atMost
  have enough := first.atMost
  refine ⟨by omega, ?_, ?_, rest.writer.trans first.writer, fun other apart =>
    (rest.others other apart).trans (first.others other apart), rest.tasks.trans first.tasks,
    rest.queued.trans first.queued, rest.opened.trans first.opened, new ++ later, ?_, ?_, ?_⟩
  · rw [rest.counted, first.counted]
    push_cast
    omega
  · rw [rest.reader, first.reader, Nat.add_assoc]
  · rw [handedLater, handed, List.append_assoc]
  · refine List.pairwise_append.mpr ⟨ordered, orderedLater, fun earlier early after late => ?_⟩
    have before := inside earlier early
    have behind := insideLater after late
    exact .inr ⟨before.1.trans behind.1.symm, Nat.le_trans before.2.2 behind.2.1⟩
  · intro bytes member
    rcases List.mem_append.mp member with early | late
    · obtain ⟨same, above, below⟩ := inside bytes early
      exact ⟨same, above, Nat.le_trans below (by rw [rest.reader]; omega)⟩
    · obtain ⟨same, above, below⟩ := insideLater bytes late
      exact ⟨same, Nat.le_trans (by rw [first.reader]; omega) above, below⟩

theorem Takes.part (socket : UdpSocket) (task : DatagramTask) {count : Nat}
    (enough : count ≤ socket.unsent task.buffer) :
    Takes socket task count { socket with
      buffers := Function.update socket.buffers task.buffer
        ((socket.buffers task.buffer).moveReaderIndex count)
      numBytesPending := socket.numBytesPending - count
      handed := socket.handed ++ [{
        task := task.number
        first := (socket.buffers task.buffer).readerIndex
        count := count }] } := by
  have ordered := (socket.buffers task.buffer).ordered
  simp only [UdpSocket.unsent, DatagramBuffer.numReadableBytes] at enough
  have moved : ((socket.buffers task.buffer).moveReaderIndex count).readerIndex =
      (socket.buffers task.buffer).readerIndex + count := by
    simp only [DatagramBuffer.moveReaderIndex]
    split <;> omega
  refine ⟨enough, rfl, ?_, ?_, fun other apart => Function.update_of_ne apart _ _, rfl, rfl, rfl,
    _, rfl, List.pairwise_singleton _ _, fun bytes member => ?_⟩
  · simp only [Function.update_self]
    exact moved
  · simp only [Function.update_self, DatagramBuffer.moveReaderIndex]
  · rw [List.mem_singleton.mp member]
    simp only [Function.update_self, moved, true_and]
    exact ⟨Nat.le_refl _, Nat.le_refl _⟩

theorem meetsError_zero (results : List SendResult) : meetsError 0 results = false := by
  induction results with
  | nil => rfl
  | cons answer results ih =>
      cases answer with
      | accepted more => rw [meetsError, Nat.zero_sub, ih]
      | wouldBlock => rfl
      | failed => rfl

theorem transmitter_takes (socket : UdpSocket) (task : DatagramTask)
    (results : List SendResult) :
    ∃ taken, Takes socket task taken (socket.transmitter task results).1 ∧
      (socket.transmitter task results).2 = meetsError (socket.unsent task.buffer) results ∧
      (meetsError (socket.unsent task.buffer) results = true →
        taken < socket.unsent task.buffer) ∧
      (0 < taken ↔ socket.unsent task.buffer ≠ 0 ∧
        ∃ more rest, results = .accepted more :: rest) := by
  induction results generalizing socket with
  | nil =>
      rw [transmitter.eq_def]
      split
      · exact ⟨0, .nothing _, rfl, by simp [meetsError], by simp⟩
      · exact ⟨0, .nothing _, rfl, by simp [meetsError], by simp⟩
  | cons answer results ih =>
      rw [transmitter.eq_def]
      split
      · rename_i empty
        have noError := meetsError_zero (answer :: results)
        exact ⟨0, .nothing _, by rw [empty, noError], by simp [empty, noError], by simp [empty]⟩
      · rename_i some
        cases answer with
        | wouldBlock => exact ⟨0, .nothing _, rfl, by simp [meetsError], by simp⟩
        | failed =>
            exact ⟨0, .nothing _, by simp [meetsError, some], fun _ => by omega, by simp⟩
        | accepted more =>
            have part := Takes.part socket task
              (Nat.min_le_right (more + 1) (socket.unsent task.buffer))
            obtain ⟨taken, rest, err, open', _⟩ := ih { socket with
              buffers := Function.update socket.buffers task.buffer
                ((socket.buffers task.buffer).moveReaderIndex
                  (min (more + 1) (socket.unsent task.buffer)))
              numBytesPending :=
                socket.numBytesPending - (min (more + 1) (socket.unsent task.buffer) : Nat)
              handed := socket.handed ++ [{
                task := task.number
                first := (socket.buffers task.buffer).readerIndex
                count := min (more + 1) (socket.unsent task.buffer) }] }
            rw [part.unsent] at err open'
            refine ⟨_, part.after rest, err, fun failed => ?_, ?_⟩
            · have left := open' failed
              omega
            · exact iff_of_true (by omega) ⟨some, more, results, rfl⟩

theorem unsent_sum (takes : Takes socket task taken result) (tasks : List DatagramTask) :
    (tasks.map fun other => result.unsent other.buffer).sum +
        taken * tasks.countP (fun other => other.buffer = task.buffer) =
      (tasks.map fun other => socket.unsent other.buffer).sum := by
  have atMost := takes.atMost
  induction tasks with
  | nil => simp
  | cons other tasks ih =>
      rw [List.map_cons, List.sum_cons, List.map_cons, List.sum_cons, List.countP_cons]
      by_cases same : other.buffer = task.buffer
      · simp only [same, decide_true, if_true, takes.unsent, Nat.mul_add]
        omega
      · simp only [same, decide_false, Bool.false_eq_true, if_false, Nat.add_zero,
          takes.unsent_other same]
        omega

theorem Queued.takes {tasks : List DatagramTask} (queued : Queued socket)
    (first : socket.tasksSend = task :: tasks) (takes : Takes socket task taken result) :
    Queued result := by
  have numbers := queued.numbers
  have known := queued.known
  have fresh := queued.fresh
  obtain ⟨new, handed, ordered, inside⟩ := takes.handed
  have behind : ∀ other ∈ tasks, task.number < other.number := by
    rw [first] at numbers
    exact (List.pairwise_cons.mp numbers).1
  refine ⟨?_, by rwa [takes.tasks], by rwa [takes.tasks, takes.queued], ?_, ?_, ?_⟩
  · have covers := queued.covers
    have sum := unsent_sum takes socket.tasksSend
    have once : taken ≤ taken * socket.tasksSend.countP
        (fun other => other.buffer = task.buffer) := by
      refine Nat.le_mul_of_pos_right taken ?_
      rw [first, List.countP_cons]
      simp
    simp only [unsentBytes] at covers ⊢
    rw [takes.counted, takes.tasks]
    omega
  · rw [handed]
    refine List.pairwise_append.mpr ⟨queued.order, ordered, fun earlier early later late => ?_⟩
    obtain ⟨same, above, _⟩ := inside later late
    rcases queued.past earlier early task (by rw [first]; exact List.mem_cons_self) with
      before | ⟨equal, within⟩
    · exact .inl (same ▸ before)
    · exact .inr ⟨equal.trans same.symm, Nat.le_trans within above⟩
  · intro bytes member
    rw [handed] at member
    rw [takes.queued]
    rcases List.mem_append.mp member with early | late
    · exact known bytes early
    · rw [(inside bytes late).1]
      exact fresh task (by rw [first]; exact List.mem_cons_self)
  · intro bytes member other isQueued
    rw [handed] at member
    rw [takes.tasks] at isQueued
    rcases List.mem_append.mp member with early | late
    · rcases queued.past bytes early other isQueued with before | ⟨equal, within⟩
      · exact .inl before
      · refine .inr ⟨equal, Nat.le_trans within ?_⟩
        by_cases same : other.buffer = task.buffer
        · rw [same, takes.reader]
          exact Nat.le_add_right _ _
        · rw [takes.others other.buffer same]
    · obtain ⟨same, _, below⟩ := inside bytes late
      rw [first] at isQueued
      rcases List.mem_cons.mp isQueued with rfl | later
      · exact .inr ⟨same, below⟩
      · exact .inl (same ▸ behind other later)

theorem Queued.flags (queued : Queued socket) (opened closing interest : Bool) :
    Queued { socket with opened := opened, closing := closing, writeInterest := interest } :=
  ⟨queued.covers, queued.numbers, queued.fresh, queued.order, queued.known, queued.past⟩

theorem Queued.popFirstTask (queued : Queued socket) : Queued socket.popFirstTask := by
  have fewer : ∀ task ∈ socket.tasksSend.tail, task ∈ socket.tasksSend :=
    fun _ member => List.mem_of_mem_tail member
  refine ⟨?_, queued.numbers.tail, fun task member => queued.fresh task (fewer task member),
    queued.order, queued.known, fun bytes handed task member =>
      queued.past bytes handed task (fewer task member)⟩
  have covers := queued.covers
  simp only [unsentBytes, UdpSocket.popFirstTask, UdpSocket.unsent] at covers ⊢
  cases first : socket.tasksSend with
  | nil =>
      rw [first] at covers
      exact covers
  | cons task tasks =>
      rw [first, List.map_cons, List.sum_cons] at covers
      rw [List.tail_cons]
      omega

theorem unsentBytes_popFirstTask (complete : socket.sendComplete = true) :
    socket.popFirstTask.unsentBytes = socket.unsentBytes := by
  cases first : socket.tasksSend with
  | nil => simp [sendComplete, first] at complete
  | cons task tasks =>
      simp only [sendComplete, first, List.head?_cons, Option.any_some, decide_eq_true_eq]
        at complete
      simp only [unsentBytes, UdpSocket.popFirstTask, first, List.tail_cons, List.map_cons,
        List.sum_cons, complete, Nat.zero_add]
      rfl

theorem unsentBytes_addTask (socket : UdpSocket) (ip : String) (port : UInt16) (buffer : Nat) :
    (socket.addTask ip port buffer).unsentBytes = socket.unsentBytes + socket.unsent buffer := by
  simp only [unsentBytes, addTask, List.map_append, List.sum_append, List.map_cons, List.map_nil,
    List.sum_cons, List.sum_nil]
  rfl

theorem Queued.addTask (queued : Queued socket) (ip : String) (port : UInt16) (buffer : Nat) :
    Queued (socket.addTask ip port buffer) := by
  refine ⟨?_, ?_, ?_, queued.order, fun bytes handed => ?_, ?_⟩
  · have covers := queued.covers
    rw [unsentBytes_addTask]
    simp only [UdpSocket.addTask]
    omega
  · refine List.pairwise_append.mpr ⟨queued.numbers, List.pairwise_singleton _ _, ?_⟩
    intro task member new isNew
    rw [List.mem_singleton.mp isNew]
    exact queued.fresh task member
  · intro task member
    simp only [UdpSocket.addTask]
    rcases List.mem_append.mp member with before | new
    · exact Nat.lt_succ_of_lt (queued.fresh task before)
    · rw [List.mem_singleton.mp new]
      exact Nat.lt_succ_self _
  · exact Nat.lt_succ_of_lt (queued.known bytes handed)
  · intro bytes handed task member
    rcases List.mem_append.mp member with before | new
    · exact queued.past bytes handed task before
    · rw [List.mem_singleton.mp new]
      exact .inl (queued.known bytes handed)

theorem Queued.close0 (queued : Queued socket) : Queued socket.close0 :=
  ⟨Int.le_refl _, List.Pairwise.nil, fun _ none => absurd none List.not_mem_nil, queued.order,
    queued.known, fun _ _ _ none => absurd none List.not_mem_nil⟩

def Exact (socket : UdpSocket) : Prop := socket.numBytesPending = socket.unsentBytes

theorem Exact.addTask (counts : Exact socket) (ip : String) (port : UInt16) (buffer : Nat) :
    Exact (socket.addTask ip port buffer) := by
  rw [Exact, unsentBytes_addTask]
  simp only [Exact] at counts
  simp only [UdpSocket.addTask, counts]
  push_cast
  rfl

theorem Exact.popFirstTask (counts : Exact socket) (complete : socket.sendComplete = true) :
    Exact socket.popFirstTask := by
  rw [Exact, unsentBytes_popFirstTask complete]
  exact counts

theorem clearInterest_keeps {holds : UdpSocket → Prop} (kept : holds socket)
    (flag : holds { socket with writeInterest := false }) : holds socket.clearInterest := by
  rw [clearInterest]
  split
  · exact flag
  · exact kept

theorem Takes.exact_iff {tasks : List DatagramTask} (takes : Takes socket task taken result)
    (first : socket.tasksSend = task :: tasks) (counts : Exact socket) :
    Exact result ↔ taken = 0 ∨ ∀ other ∈ tasks, other.buffer ≠ task.buffer := by
  have sum := unsent_sum takes socket.tasksSend
  have once : socket.tasksSend.countP (fun other => other.buffer = task.buffer) =
      tasks.countP (fun other => other.buffer = task.buffer) + 1 := by
    rw [first, List.countP_cons]
    simp
  rw [once, Nat.mul_add, Nat.mul_one] at sum
  simp only [Exact, unsentBytes, takes.counted, takes.tasks] at counts ⊢
  have noOther : (∀ other ∈ tasks, other.buffer ≠ task.buffer) ↔
      tasks.countP (fun other => other.buffer = task.buffer) = 0 := by
    rw [List.countP_eq_zero]
    simp
  rw [noOther, ← Nat.mul_eq_zero]
  omega

theorem queue_empty {ip : String} {port : UInt16} {buffer : Nat} (queued : Queued socket)
    (opened : socket.opened = true) (idle : socket.tasksSend = []) :
    Queued (socket.queue ip port buffer results) ∧ (Exact socket →
      (Exact (socket.queue ip port buffer results) ↔
        meetsError (socket.unsent buffer) results = false)) := by
  have first : (socket.addTask ip port buffer).tasksSend =
      [{ number := socket.queued, ip := ip, port := port, buffer := buffer }] := by
    rw [addTask, idle, List.nil_append]
  obtain ⟨taken, takes, err, left, _⟩ := transmitter_takes (socket.addTask ip port buffer)
    { number := socket.queued, ip := ip, port := port, buffer := buffer } results
  have kept := (queued.addTask ip port buffer).takes first takes
  have counts : Exact socket → Exact ((socket.addTask ip port buffer).transmitter
      { number := socket.queued, ip := ip, port := port, buffer := buffer } results).1 :=
    fun exact => (takes.exact_iff first (exact.addTask ip port buffer)).mpr (.inr (by simp))
  have same : (socket.addTask ip port buffer).unsent buffer = socket.unsent buffer := rfl
  have unsent := takes.unsent
  have alone := takes.tasks.trans first
  simp only [same] at err left unsent
  simp only [queue, opened, not_true_eq_false, if_false, idle, List.isEmpty_nil, if_true, send0,
    doFirstTask, first, err]
  generalize ((socket.addTask ip port buffer).transmitter
    { number := socket.queued, ip := ip, port := port, buffer := buffer } results).1 = result
    at kept counts unsent alone ⊢
  have complete : result.sendComplete = decide (result.unsent buffer = 0) := by
    rw [sendComplete, alone]
    rfl
  cases failed : meetsError (socket.unsent buffer) results with
  | true =>
      have some := left failed
      have open' : result.sendComplete = false := by
        rw [complete, decide_eq_false_iff_not]
        omega
      simp only [open', Bool.false_eq_true, if_false, if_true, reduceCtorEq, iff_false]
      refine ⟨kept.popFirstTask, fun exact dropped => ?_⟩
      have before := counts exact
      simp only [Exact, unsentBytes, alone, List.map_cons, List.map_nil, List.sum_cons,
        List.sum_nil] at before
      simp only [Exact, unsentBytes, UdpSocket.popFirstTask, alone, List.tail_cons, List.map_nil,
        List.sum_nil] at dropped
      omega
  | false =>
      simp only [Bool.false_eq_true, if_false, iff_true]
      split
      · rename_i isComplete
        refine ⟨clearInterest_keeps kept.popFirstTask (kept.popFirstTask.flags _ _ _),
          fun exact => ?_⟩
        have dropped := (counts exact).popFirstTask isComplete
        exact clearInterest_keeps dropped dropped
      · refine ⟨clearInterest_keeps kept (kept.flags _ _ _), fun exact => ?_⟩
        exact clearInterest_keeps (counts exact) (counts exact)

end UdpSocket

namespace DatagramAction

def inLoop : DatagramAction → Bool
  | .transmit | .pop | .settle | .finish => true
  | _ => false

def Ready (socket : UdpSocket) : DatagramAction → Prop
  | .pop => socket.sendComplete = true
  | _ => True

structure Turns (results : List SendResult) (socket : UdpSocket) (action : DatagramAction)
    (result : UdpSocket × List DatagramAction) : Prop where
  queued : socket.Queued → result.1.Queued
  drifts : socket.Queued → socket.Exact →
    (result.1.Exact ↔ ¬ UdpSocket.Drifts results socket action)
  single : result.2.length ≤ 1
  ready : ∀ after ∈ result.2, after.Ready result.1
  outside : action.inLoop = false → ∀ after ∈ result.2, after.inLoop = false
  stable : action.inLoop = false → ∀ other : DatagramAction, other.Ready socket →
    other.Ready result.1

variable {socket : UdpSocket} {results : List SendResult}

theorem ready_of_sendComplete {result : UdpSocket}
    (kept : socket.sendComplete = true → result.sendComplete = true) (other : DatagramAction)
    (ready : other.Ready socket) : other.Ready result := by
  cases other with
  | pop => exact kept ready
  | _ => trivial

theorem none_waits (P : DatagramAction → Prop) : ∀ after ∈ ([] : List DatagramAction), P after :=
  fun _ none => absurd none List.not_mem_nil

theorem Turns.unchanged {action : DatagramAction} {more : List DatagramAction}
    (steady : ¬ UdpSocket.Drifts results socket action) (single : more.length ≤ 1)
    (ready : ∀ after ∈ more, after.Ready socket)
    (outside : action.inLoop = false → ∀ after ∈ more, after.inLoop = false) :
    Turns results socket action (socket, more) :=
  ⟨id, fun _ exact => iff_of_true exact steady, single, ready, outside, fun _ _ => id⟩

theorem Turns.flags {action : DatagramAction}
    (steady : ¬ UdpSocket.Drifts results socket action) (opened closing interest : Bool) :
    Turns results socket action
      ({ socket with opened := opened, closing := closing, writeInterest := interest }, []) :=
  ⟨fun queued => queued.flags opened closing interest, fun _ exact => iff_of_true exact steady,
    Nat.zero_le _, none_waits _, fun _ => none_waits _, fun _ => ready_of_sendComplete id⟩

theorem turns_send (ip : String) (port : UInt16) (buffer : Nat) :
    Turns results socket (.send ip port buffer)
      (socket.perform results (.send ip port buffer)) := by
  have one : ∀ after ∈ (if socket.unsent buffer = 0 then []
      else [DatagramAction.queue ip port buffer]), after = .queue ip port buffer := by
    intro after member
    split at member
    · contradiction
    · exact List.mem_singleton.mp member
  refine .unchanged not_false ?_ (fun after member => ?_) fun _ after member => ?_
  · split <;> simp
  · rw [one after member]
    trivial
  · rw [one after member]
    rfl

theorem turns_queue (ip : String) (port : UInt16) (buffer : Nat) :
    Turns results socket (.queue ip port buffer)
      (socket.perform results (.queue ip port buffer)) := by
  cases opened : socket.opened with
  | false =>
      have same : socket.queue ip port buffer results = socket := by
        simp [UdpSocket.queue, opened]
      simp only [UdpSocket.perform, same]
      refine .unchanged ?_ (Nat.zero_le _) (none_waits _) fun _ => none_waits _
      rintro ⟨isOpened, _⟩
      rw [opened] at isOpened
      contradiction
  | true =>
      cases first : socket.tasksSend with
      | nil =>
          refine ⟨fun queued => (UdpSocket.queue_empty queued opened first).1,
            fun queued exact => ?_, Nat.zero_le _, none_waits _, fun _ => none_waits _,
            fun _ => ready_of_sendComplete fun complete => ?_⟩
          · rw [UdpSocket.perform, (UdpSocket.queue_empty queued opened first).2 exact]
            simp [UdpSocket.Drifts, opened, first]
          · simp [UdpSocket.sendComplete, first] at complete
      | cons task tasks =>
          have added : socket.queue ip port buffer results = socket.addTask ip port buffer := by
            simp [UdpSocket.queue, opened, first]
          simp only [UdpSocket.perform, added]
          refine ⟨fun queued => queued.addTask ip port buffer,
            fun _ exact => iff_of_true (exact.addTask ip port buffer) ?_, Nat.zero_le _,
            none_waits _, fun _ => none_waits _, fun _ => ready_of_sendComplete fun complete => ?_⟩
          · rintro ⟨_, idle, _⟩
            rw [first] at idle
            contradiction
          · simp only [UdpSocket.sendComplete, UdpSocket.addTask, first] at complete ⊢
            exact complete

theorem turns_transmit : Turns results socket .transmit (socket.perform results .transmit) := by
  have ready : ∀ after : UdpSocket, ∀ action ∈ (if after.sendComplete then
      [DatagramAction.pop] else [.settle]), action.Ready after := by
    intro after action member
    split at member
    · rename_i complete
      rw [List.mem_singleton.mp member]
      exact complete
    · rw [List.mem_singleton.mp member]
      trivial
  have single : ∀ complete : Bool, (if complete then [DatagramAction.pop] else
      [.settle]).length ≤ 1 := by
    intro complete
    cases complete <;> exact Nat.le_refl _
  rw [UdpSocket.perform]
  cases first : socket.tasksSend with
  | nil =>
      have unchanged : socket.doFirstTask results = (socket, true) := by
        rw [UdpSocket.doFirstTask, first]
      rw [unchanged]
      refine .unchanged ?_ (single _) (ready _) nofun
      rintro ⟨task, tasks, queued, _⟩
      rw [first] at queued
      contradiction
  | cons task tasks =>
      have transmits : socket.doFirstTask results = socket.transmitter task results := by
        rw [UdpSocket.doFirstTask, first]
      rw [transmits]
      obtain ⟨taken, takes, _, _, some⟩ := socket.transmitter_takes task results
      refine ⟨fun queued => queued.takes first takes, fun queued exact => ?_, single _, ready _,
        nofun, nofun⟩
      rw [takes.exact_iff first exact]
      simp only [UdpSocket.Drifts, first, List.cons.injEq]
      constructor
      · rintro none ⟨_, _, ⟨rfl, rfl⟩, unsent, accepts, other, member, shared⟩
        rcases none with zero | apart
        · have positive := some.mpr ⟨unsent, accepts⟩
          omega
        · exact apart other member shared
      · intro steady
        by_contra drifted
        simp only [not_or, not_forall, not_not] at drifted
        obtain ⟨positive, other, member, shared⟩ := drifted
        obtain ⟨unsent, accepts⟩ := some.mp (by omega)
        exact steady ⟨task, tasks, ⟨rfl, rfl⟩, unsent, accepts, other, member, shared⟩

theorem turns_pop (complete : socket.sendComplete = true) :
    Turns results socket .pop (socket.perform results .pop) :=
  ⟨fun queued => queued.popFirstTask, fun _ exact =>
    iff_of_true (exact.popFirstTask complete) not_false, Nat.le_refl _,
    fun after member => by
      rw [List.mem_singleton.mp member]
      trivial,
    nofun, nofun⟩

theorem turns_settle : Turns results socket .settle (socket.perform results .settle) :=
  ⟨fun queued => UdpSocket.clearInterest_keeps queued (queued.flags _ _ _),
    fun _ exact => iff_of_true (UdpSocket.clearInterest_keeps exact exact) not_false,
    Nat.le_refl _,
    fun after member => by
      rw [List.mem_singleton.mp member]
      trivial,
    nofun, nofun⟩

theorem turns_finish : Turns results socket .finish (socket.perform results .finish) := by
  rw [UdpSocket.perform]
  split
  · exact ⟨fun queued => queued.close0, fun _ _ => iff_of_true rfl not_false, Nat.zero_le _,
      none_waits _, nofun, nofun⟩
  · exact .unchanged not_false (Nat.zero_le _) (none_waits _) nofun

theorem turns_open : Turns results socket .open (socket.perform results .open) := by
  have steady : ¬ UdpSocket.Drifts results socket .open := not_false
  exact .flags steady true socket.closing socket.writeInterest

theorem turns_close : Turns results socket .close (socket.perform results .close) := by
  have steady : ¬ UdpSocket.Drifts results socket .close := not_false
  simp only [UdpSocket.perform, UdpSocket.close]
  split
  · exact .unchanged steady (Nat.zero_le _) (none_waits _) fun _ => none_waits _
  · exact .flags steady socket.opened true socket.writeInterest

theorem turns (results : List SendResult) {action : DatagramAction}
    (ready : action.Ready socket) :
    Turns results socket action (socket.perform results action) := by
  cases action with
  | send ip port buffer => exact turns_send ip port buffer
  | queue ip port buffer => exact turns_queue ip port buffer
  | «open» => exact turns_open
  | close => exact turns_close
  | transmit => exact turns_transmit
  | pop => exact turns_pop ready
  | settle => exact turns_settle
  | finish => exact turns_finish

end DatagramAction

def UdpDrifts (pool : UdpThreads) (event : UdpEvent) : Prop :=
  ∃ thread results action rest, event = .advance thread results ∧
    pool.pending thread = action :: rest ∧ UdpSocket.Drifts results pool.shared action

structure UdpRegular (pool : UdpThreads) : Prop where
  holds : pool.Holds UdpSocket.Queued fun socket action => action.Ready socket
  paced : pool.OneByOne DatagramAction.inLoop

theorem UdpRegular.initial (buffers : Nat → DatagramBuffer) :
    UdpRegular (initialUdp buffers) where
  holds := ⟨⟨Int.le_refl _, List.Pairwise.nil, fun _ none => absurd none List.not_mem_nil,
    List.Pairwise.nil, fun _ none => absurd none List.not_mem_nil,
    fun _ none => absurd none List.not_mem_nil⟩, fun _ _ none => absurd none List.not_mem_nil⟩
  paced := ⟨fun _ => Nat.zero_le _, fun _ _ none => absurd none List.not_mem_nil⟩

section

variable {pool next : UdpThreads} {thread : Nat}

theorem UdpRegular.start {action : DatagramAction} (regular : UdpRegular pool)
    (started : pool.start thread pool.shared [action] = some next) (fresh : action ≠ .pop)
    (loop : thread ≠ 0 → action.inLoop = false) : UdpRegular next where
  holds := regular.holds.start started regular.holds.shared (fun after member => by
    rw [List.mem_singleton.mp member]
    cases action with
    | pop => contradiction
    | _ => trivial) fun _ => id
  paced := regular.paced.start started (Nat.le_refl _) fun apart after member => by
    rw [List.mem_singleton.mp member]
    exact loop apart

theorem UdpRegular.advance {results : List SendResult} (regular : UdpRegular pool)
    (advanced : pool.advance (UdpSocket.perform results) thread = some next) :
    UdpRegular next := by
  obtain ⟨action, rest, first, _⟩ := Threads.Pool.advance_eq_some.mp advanced
  have ready := regular.holds.pending thread action (Threads.Pool.first_mem first)
  have turns := DatagramAction.turns results ready
  refine ⟨regular.holds.advance first advanced (turns.queued regular.holds.shared) turns.ready ?_,
    regular.paced.advance first advanced turns.single turns.outside⟩
  intro other waiting member isReady
  rw [regular.paced.alone first] at member
  rcases Threads.Pool.mem_update.mp member with ⟨_, none⟩ | ⟨different, before⟩
  · exact absurd none List.not_mem_nil
  · rcases regular.paced.apart first different before with outside | outside
    · cases waiting <;> trivial
    · exact turns.stable outside waiting isReady

theorem udpStep_cases {event : UdpEvent} (stepped : udpStep pool event = some next) :
    (∃ thread action, pool.start thread pool.shared [action] = some next ∧ action ≠ .pop ∧
      (thread ≠ 0 → action.inLoop = false) ∧ ∀ other results, event ≠ .advance other results) ∨
      ∃ thread results, event = .advance thread results ∧
        pool.advance (UdpSocket.perform results) thread = some next := by
  cases event with
  | send thread ip port buffer =>
      simp only [udpStep] at stepped
      split at stepped
      · contradiction
      · exact .inl ⟨thread, _, stepped, by simp, fun _ => rfl, by simp⟩
  | «open» thread =>
      simp only [udpStep] at stepped
      split at stepped
      · contradiction
      · exact .inl ⟨thread, _, stepped, by simp, fun _ => rfl, by simp⟩
  | close thread =>
      simp only [udpStep] at stepped
      split at stepped
      · contradiction
      · exact .inl ⟨thread, _, stepped, by simp, fun _ => rfl, by simp⟩
  | handleEvents error writable =>
      have handled : ∃ action, udpHandle error writable = [action] ∧ action ≠ .pop := by
        cases error <;> cases writable <;> exact ⟨_, rfl, by simp⟩
      obtain ⟨action, single, notPop⟩ := handled
      simp only [udpStep, single] at stepped
      exact .inl ⟨0, action, stepped, notPop, fun apart => absurd rfl apart, by simp⟩
  | advance thread results => exact .inr ⟨thread, results, rfl, stepped⟩

theorem UdpRegular.step {event : UdpEvent} (regular : UdpRegular pool)
    (stepped : udpStep pool event = some next) : UdpRegular next := by
  rcases udpStep_cases stepped with ⟨_, _, started, fresh, loop, _⟩ | ⟨_, _, rfl, advanced⟩
  · exact regular.start started fresh loop
  · exact regular.advance advanced

theorem UdpRegular.exact_iff {event : UdpEvent} (regular : UdpRegular pool)
    (counts : pool.shared.Exact) (stepped : udpStep pool event = some next) :
    next.shared.Exact ↔ ¬ UdpDrifts pool event := by
  rcases udpStep_cases stepped with ⟨_, _, started, _, _, other⟩ | ⟨thread, results, rfl, advanced⟩
  · obtain ⟨_, rfl⟩ := Threads.Pool.start_eq_some.mp started
    refine iff_of_true counts ?_
    rintro ⟨thread, results, _, _, same, _⟩
    exact other thread results same
  · obtain ⟨action, rest, first, rfl⟩ := Threads.Pool.advance_eq_some.mp advanced
    have ready := regular.holds.pending thread action (Threads.Pool.first_mem first)
    have turns := DatagramAction.turns results ready
    rw [turns.drifts regular.holds.shared counts, not_iff_not]
    constructor
    · exact fun drifts => ⟨thread, results, action, rest, rfl, first, drifts⟩
    · rintro ⟨_, _, _, _, same, again, drifts⟩
      cases same
      rw [first] at again
      cases again
      exact drifts

theorem UdpRegular.accounted_iff (regular : UdpRegular pool) :
    pool.shared.Accounted ↔ pool.shared.Exact :=
  ⟨fun accounted => accounted.counts, fun counts => ⟨counts, regular.holds.shared.order⟩⟩

end

/-- In every order of the steps of all threads, the accounts are right at every release of the
lock just when no datagram meets an error on an empty queue and nothing is taken of a buffer
that is queued twice. -/
theorem udp_accounted_iff (buffers : Nat → DatagramBuffer) (events : List UdpEvent) :
    Transition.Throughout udpStep (fun pool => pool.shared.Accounted) (initialUdp buffers) events ↔
      Transition.Happening udpStep (fun pool event => ¬ UdpDrifts pool event) (initialUdp buffers)
        events := by
  have regular := UdpRegular.initial buffers
  refine Transition.Throughout.iff_happening udpStep UdpRegular ?_ regular
    (regular.accounted_iff.mpr rfl)
  intro pool event next regular accounted stepped
  have after := regular.step stepped
  exact ⟨after, after.accounted_iff.trans (regular.exact_iff accounted.counts stepped)⟩

/-- A datagram of four bytes is dropped after an error, and its bytes stay counted. -/
theorem udp_dropped_stays_pending :
    ¬ Transition.Throughout udpStep (fun pool => pool.shared.Accounted)
      (initialUdp fun _ => { readerIndex := 0, writerIndex := 4, ordered := by decide })
      [.open 1, .advance 1 [], .send 1 "10.0.0.1" 5000 0, .advance 1 [], .advance 1 [.failed]] := by
  intro throughout
  have last := (((throughout.2 _ rfl).2 _ rfl).2 _ rfl).2 _ rfl
  have counts := (last.2 _ rfl).counts
  exact absurd counts (by decide)

-- one buffer for two receivers: it is counted twice, and goes out with the first of them
example : ((Transition.run udpStep
    (initialUdp fun _ => { readerIndex := 0, writerIndex := 4, ordered := by decide })
    [.open 1, .advance 1 [], .send 1 "10.0.0.1" 5000 0, .advance 1 [], .advance 1 [],
      .send 1 "10.0.0.2" 5000 0, .advance 1 [], .advance 1 [],
      .handleEvents false true, .advance 0 [.accepted 3], .advance 0 [], .advance 0 [],
      .advance 0 [], .handleEvents false true, .advance 0 [], .advance 0 [], .advance 0 [],
      .advance 0 []]).map fun pool => (pool.shared.tasksSend, pool.shared.numBytesPending)) =
      some ([], 4) := by decide +kernel

end EasyViewer
