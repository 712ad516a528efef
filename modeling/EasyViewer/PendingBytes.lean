import EasyViewer.ThreadHeaps

/-!
What `m_numPendingBytes` of a server connection counts. `pushRequest` and `popRequest` run under
the connection's own mutex, so that every order of them is a run, whichever threads serve the
connection; the heaps of all threads run in some of these orders.
-/

namespace EasyViewer

inductive PendingEvent where
  | received (arrival : Int) (frame : Frame)
  | clean (arrival : Int)
  | pop
  deriving DecidableEq

namespace Client

def pendingStep (client : Client) : PendingEvent → Option Client
  | .received arrival frame =>
      if frame.payload.length ≤ maxLen then
        some (client.pushRequest { arrival := arrival, tag := frame.tag, data := frame.payload }).2
      else none
  | .clean arrival => some (client.pushRequest (cleanRequest arrival)).2
  | .pop => client.popRequest.map Prod.snd

def waitingBytes (client : Client) : Nat := (client.requests.map fun r => r.data.length).sum

/-- The counter is the size of what waits, it is below 11 MiB, and what a pop takes off it is
not more than it has. -/
structure Accounted (client : Client) : Prop where
  counts : client.numPendingBytes = client.waitingBytes
  bounded : client.numPendingBytes < 11 * 1024 * 1024
  covers : ∀ request rest, client.popRequest = some (request, rest) →
    request.data.length ≤ client.numPendingBytes

theorem Accounted.of_counts {client : Client} (counts : client.numPendingBytes = client.waitingBytes)
    (bounded : client.numPendingBytes < 11 * 1024 * 1024) : Accounted client where
  counts := counts
  bounded := bounded
  covers := by
    intro request rest popped
    have listed := popRequest_requests popped
    rw [counts, waitingBytes, listed, List.map_cons, List.sum_cons]
    exact Nat.le_add_right _ _

theorem Accounted.initial : Accounted {} := .of_counts rfl (by decide)

theorem Accounted.updateRLW {client : Client} (accounted : Accounted client) (t : Int)
    (cost : Nat) : Accounted (client.updateRLW t cost) :=
  .of_counts accounted.counts accounted.bounded

/-- The bound is looked at before the request is added, so that one request may pass it. -/
theorem Accounted.pushRequest {client : Client} (accounted : Accounted client) {request : Request}
    (short : request.data.length ≤ maxLen) : Accounted (client.pushRequest request).2 := by
  have counts := accounted.counts
  simp only [waitingBytes] at counts
  simp only [Client.pushRequest]
  split
  · exact accounted
  · rename_i room
    simp only [maxPendingBytes] at room
    simp only [maxLen] at short
    have pushed : Accounted { client with
        requests := client.requests ++ [request]
        numPendingBytes := client.numPendingBytes + request.data.length } := by
      refine .of_counts ?_ ?_
      · simp only [waitingBytes, List.map_append, List.map_cons, List.map_nil, List.sum_append,
          List.sum_cons, List.sum_nil]
        omega
      · simp only
        omega
    simp only
    split
    · exact pushed.updateRLW _ _
    · exact pushed

theorem Accounted.popRequest {client rest : Client} {request : Request}
    (accounted : Accounted client) (popped : client.popRequest = some (request, rest)) :
    Accounted rest := by
  have counts := accounted.counts
  have bounded := accounted.bounded
  simp only [Client.popRequest] at popped
  split at popped
  · contradiction
  · rename_i first others listed
    simp only [waitingBytes, listed, List.map_cons, List.sum_cons] at counts
    have shorter : Accounted { client with
        requests := others
        numPendingBytes := client.numPendingBytes - first.data.length } := by
      refine .of_counts ?_ ?_
      · simp only [waitingBytes]
        omega
      · simp only
        omega
    split at popped
    · simp only [Option.some.injEq, Prod.mk.injEq] at popped
      obtain ⟨rfl, rfl⟩ := popped
      exact shorter
    · simp only [Option.some.injEq, Prod.mk.injEq] at popped
      obtain ⟨rfl, rfl⟩ := popped
      exact shorter.updateRLW _ _

theorem Accounted.step {client next : Client} {event : PendingEvent} (accounted : Accounted client)
    (stepped : client.pendingStep event = some next) : Accounted next := by
  cases event with
  | received arrival frame =>
      simp only [pendingStep] at stepped
      split at stepped
      · rename_i short
        cases stepped
        exact accounted.pushRequest short
      · contradiction
  | clean arrival =>
      cases stepped
      exact accounted.pushRequest (Nat.zero_le maxLen)
  | pop =>
      obtain ⟨⟨request, rest⟩, popped, rfl⟩ := Option.map_eq_some_iff.mp stepped
      exact accounted.popRequest popped

/-- In every order of frames, clean-up requests and pops the counter is what waits. -/
theorem pendingBytes_accounted (events : List PendingEvent) :
    Transition.Throughout pendingStep Accounted {} events :=
  Transition.Throughout.of_step pendingStep
    (fun _ _ _ accounted stepped => accounted.step stepped) Accounted.initial

end Client

namespace RequestHeap

def Accounted (clients : ConnectionId → Client) : Prop := ∀ con, (clients con).Accounted

theorem Accounted.update {clients : ConnectionId → Client} (accounted : Accounted clients)
    {con : ConnectionId} {client : Client} (one : client.Accounted) :
    Accounted (updateAt clients con client) := by
  intro other
  by_cases same : other = con
  · subst same
    rwa [updateAt_same]
  · rw [updateAt_other _ _ same]
    exact accounted other

theorem Accounted.push {heap : RequestHeap} (accounted : Accounted heap.clients)
    {request : Request} (short : request.data.length ≤ maxLen) (con : ConnectionId) (t now : Int) :
    Accounted (heap.push con request t now).2.clients := by
  have pushed := (accounted con).pushRequest short
  simp only [RequestHeap.push]
  split
  · split
    · split
      · split
        · exact accounted.update pushed
        · rename_i first popped isPopped
          exact accounted.update (pushed.popRequest isPopped)
      · exact accounted.update pushed
    · exact accounted.update pushed
  · exact accounted

theorem Accounted.pulled {state : HeapState} (accounted : Accounted state.clients) (t : Int) :
    Accounted (EasyViewer.pull state t).2.clients := by
  simp only [EasyViewer.pull]
  split
  · exact accounted
  · split
    · exact accounted
    · rename_i popped isPopped
      exact accounted.update ((accounted _).popRequest isPopped)

theorem Accounted.pull {heap : RequestHeap} (accounted : Accounted heap.clients) (t : Int) :
    Accounted (heap.pull t).clients := by
  have after := @Accounted.pulled { queue := heap.queue, clients := heap.clients } accounted t
  simp only [RequestHeap.pull]
  split
  · rename_i pulled
    rwa [pulled] at after
  · rename_i pulled
    rwa [pulled] at after
  · exact accounted

theorem Accounted.step {heap next : RequestHeap} {event : SectionEvent}
    (accounted : Accounted heap.clients)
    (short : ∀ con request t now, event = .push con request t now → request.data.length ≤ maxLen)
    (stepped : heap.step event = some next) : Accounted next.clients := by
  simp only [RequestHeap.step] at stepped
  split at stepped
  · cases stepped
    exact accounted.push (short _ _ _ _ rfl) _ _ _
  · cases stepped
    exact accounted
  · cases stepped
    exact accounted.pull _
  · cases stepped
    simp only [RequestHeap.handled]
    split
    · exact accounted.update (.of_counts (accounted _).counts (accounted _).bounded)
    · exact accounted
  · contradiction

end RequestHeap

theorem nextFrame_short {known : UInt32 → Bool} {readable : List UInt8} {frame : Frame}
    (decoded : nextFrame known readable = .frame frame) : frame.payload.length ≤ maxLen := by
  simp only [nextFrame] at decoded
  split at decoded
  · contradiction
  · split at decoded
    · contradiction
    · split at decoded
      · contradiction
      · split at decoded
        · rename_i header small whole _
          simp only [Decoded.frame.injEq] at decoded
          subst frame
          simp only [List.length_take]
          omega
        · contradiction

namespace ThreadHeaps

variable {Thread : Type} [DecidableEq Thread] {kind : ConnectionId → ServerKind}
  {loop : ConnectionId → Thread} {state next : ThreadHeaps Thread}

theorem section_accounted {thread : Thread} {event : SectionEvent}
    (accounted : RequestHeap.Accounted state.clients)
    (short : ∀ con request t now, event = .push con request t now → request.data.length ≤ maxLen)
    (stepped : state.sectionStep thread event = some next) :
    RequestHeap.Accounted next.clients := by
  simp only [sectionStep, Option.map_eq_some_iff] at stepped
  obtain ⟨heap, happened, rfl⟩ := stepped
  have before : RequestHeap.Accounted (state.heap thread).clients := accounted
  exact before.step short happened

theorem decode_accounted {thread : Thread} {con : ConnectionId} {arrival t again : Int}
    (accounted : RequestHeap.Accounted state.clients)
    (stepped : state.decodeStep kind thread con arrival t again = some next) :
    RequestHeap.Accounted next.clients := by
  simp only [decodeStep] at stepped
  split at stepped
  · cases stepped
    exact accounted
  · cases stepped
    exact accounted
  · cases stepped
    exact accounted
  · rename_i frame decoded
    simp only [Option.map_eq_some_iff] at stepped
    obtain ⟨pushed, happened, rfl⟩ := stepped
    have after : RequestHeap.Accounted pushed.clients := by
      refine section_accounted accounted ?_ happened
      rintro _ _ _ _ same
      cases same
      exact nextFrame_short decoded
    exact after

/-- The frames of received chunks are counted so on every thread, by whichever path their
requests are served. -/
theorem heaps_accounted (kind : ConnectionId → ServerKind) (loop : ConnectionId → Thread)
    (start : Int) (events : List (ThreadEvent Thread)) :
    Transition.Throughout (step kind loop) (fun state => RequestHeap.Accounted state.clients)
      (initial Thread start) events := by
  refine Transition.Throughout.of_step (step kind loop) ?_ fun _ => Client.Accounted.initial
  intro state event next accounted stepped
  have unpushed : ∀ {event : SectionEvent}, (∀ con request t now, event ≠ .push con request t now) →
      ∀ con request t now, event = .push con request t now → request.data.length ≤ maxLen :=
    fun other con request t now same => absurd same (other con request t now)
  cases event with
  | tick now =>
      simp only [step, Option.ite_none_right_eq_some, Option.some.injEq] at stepped
      obtain ⟨-, rfl⟩ := stepped
      exact accounted
  | recv thread con data =>
      simp only [step, Option.ite_none_right_eq_some, Option.some.injEq] at stepped
      obtain ⟨-, rfl⟩ := stepped
      exact accounted
  | decode thread con arrival t again =>
      simp only [step, Option.ite_none_right_eq_some] at stepped
      exact decode_accounted accounted stepped.2
  | disconnect con =>
      cases stepped
      exact accounted
  | disconnected thread con arrival t again =>
      simp only [step, Option.ite_none_right_eq_some, Option.map_eq_some_iff] at stepped
      obtain ⟨-, pushed, happened, rfl⟩ := stepped
      have after : RequestHeap.Accounted pushed.clients := by
        refine section_accounted accounted ?_ happened
        rintro _ _ _ _ same
        cases same
        exact Nat.zero_le maxLen
      exact after
  | exec thread t =>
      simp only [step, Option.ite_none_right_eq_some] at stepped
      exact section_accounted accounted (unpushed (by simp)) stepped.2
  | pull thread => exact section_accounted accounted (unpushed (by simp)) stepped
  | handled thread raised => exact section_accounted accounted (unpushed (by simp)) stepped

end ThreadHeaps

end EasyViewer
