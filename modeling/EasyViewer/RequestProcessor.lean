import EasyViewer.Library.BinaryHeap
import EasyViewer.Library.Run
import EasyViewer.UserConnection

/-!
One heap of `RequestProcessor.cpp`: the thread that pushes, the thread that runs
`Heap::exec`, and the priority queue of connections with waiting requests. The code
between two handler calls runs under the heap's lock and is one step here; a step
that calls a handler leaves the lock held until the handler returns.
-/

namespace EasyViewer

abbrev ConnectionId := Nat

def updateAt {α : Type} (map : ConnectionId → α) (key : ConnectionId) (value : α) :
    ConnectionId → α :=
  fun other => if other = key then value else map other

@[simp] theorem updateAt_same {α : Type} (map : ConnectionId → α) (key : ConnectionId) (value : α) :
    updateAt map key value key = value := by
  simp [updateAt]

theorem updateAt_other {α : Type} (map : ConnectionId → α) {key other : ConnectionId} (value : α)
    (different : other ≠ key) : updateAt map key value other = map other := by
  simp [updateAt, different]

@[simp] theorem updateAt_updateAt {α : Type} (map : ConnectionId → α) (key : ConnectionId)
    (first second : α) : updateAt (updateAt map key first) key second = updateAt map key second := by
  funext other
  simp only [updateAt]
  split <;> rfl

def toLongLong (value : ℚ) : Int := if 0 ≤ value then ⌊value⌋ else ⌈value⌉

/-- `compare`: whether the first connection is served after the second. -/
def compare (left right : Client) : Bool :=
  let dif := toLongLong left.reservation - toLongLong right.reservation
  if dif = 0 then decide (right.limit < left.limit) else decide (0 < dif)

def compareIn (clients : ConnectionId → Client) (left right : ConnectionId) : Bool :=
  compare (clients left) (clients right)

def minDouble : ℚ := 1 / 2 ^ 1022

/-- Who runs the handler: a push that serves its own request at once, the loop of a push
or the loop of `Heap::exec`. -/
inductive Caller where
  | inline
  | push (emptied : Bool)
  | exec
  deriving DecidableEq, Repr

structure Running where
  caller : Caller
  time : Int
  con : ConnectionId
  request : Request
  deriving DecidableEq

/-- The thread of `Heap::exec`: between two iterations, or blocked on the condition
variable with or without a notification pending. -/
inductive ExecThread where
  | active
  | waiting (notified : Bool)
  deriving DecidableEq, Repr

structure HeapState where
  now : Int := 0
  queue : Array ConnectionId := #[]
  clients : ConnectionId → Client := fun _ => {}
  exec : ExecThread := .active
  running : Option Running := none
  aborted : Bool := false
  accepted : ConnectionId → List Request := fun _ => []
  handed : ConnectionId → List Request := fun _ => []
  finished : ConnectionId → List Request := fun _ => []

def maxCount : Nat := 20

/-- The loop of phase 2: among the first candidates within their limit, the last one of the
least proportion, with its place. -/
def selectClient (clients : ConnectionId → Client) (t : Int) :
    List ConnectionId → Nat → Option (Nat × ConnectionId) → Option (Nat × ConnectionId)
  | [], _, best => best
  | it :: rest, index, best =>
      if (clients it).limit ≤ t then
        match best with
        | none => selectClient clients t rest (index + 1) (some (index, it))
        | some (place, client) =>
            if (clients it).proportion ≤ (clients client).proportion then
              selectClient clients t rest (index + 1) (some (index, it))
            else selectClient clients t rest (index + 1) (some (place, client))
      else best

def takeClient (clients : ConnectionId → Client) (queue : Array ConnectionId) (t : Int) :
    Option (ConnectionId × Array ConnectionId) :=
  match queue[0]? with
  | none => none
  | some front =>
      if (clients front).reservation ≤ t then
        some (front, (BinaryHeap.popHeap (compareIn clients) queue).pop)
      else
        match selectClient clients t (queue.toList.take maxCount) 0 none with
        | none => none
        | some (index, client) =>
            let lowered := updateAt clients client
              { clients client with reservation := minDouble, limit := minDouble }
            let raised := BinaryHeap.pushHeap (compareIn lowered) queue (index + 1)
            some (client, (BinaryHeap.popHeap (compareIn lowered) raised).pop)

inductive Pulled where
  | request (con : ConnectionId) (request : Request)
  | nothing
  | assertionFailed
  deriving DecidableEq

def pull (state : HeapState) (t : Int) : Pulled × HeapState :=
  match takeClient state.clients state.queue t with
  | none => (.nothing, state)
  | some (client, rest) =>
      match (state.clients client).popRequest with
      | none => (.assertionFailed, { state with queue := rest })
      | some (request, popped) =>
          let clients := updateAt state.clients client popped
          let queue :=
            if popped.requests = [] then rest
            else BinaryHeap.pushHeap (compareIn clients) (rest.push client) (rest.size + 1)
          (.request client request, { state with queue := queue, clients := clients })

def notify (exec : ExecThread) : ExecThread :=
  match exec with
  | .active => .active
  | .waiting _ => .waiting true

def HeapState.hand (state : HeapState) (running : Running) : HeapState :=
  { state with
    running := some running
    handed := updateAt state.handed running.con (state.handed running.con ++ [running.request]) }

/-- The loop of `processPossible` up to the next handler call, and what its caller does when
the loop ends. -/
def processPossible (state : HeapState) (caller : Caller) (t : Int) : HeapState :=
  match pull state t with
  | (.request con request, next) =>
      next.hand { caller := caller, time := t, con := con, request := request }
  | (.assertionFailed, next) => { next with aborted := true }
  | (.nothing, next) =>
      match caller with
      | .inline => next
      | .push emptied =>
          { next with exec := if emptied && next.queue.size ≠ 0 then notify next.exec else next.exec }
      | .exec => { next with exec := if next.queue.size = 0 then .waiting false else next.exec }

/-- `Heap::push` from the lock on; `t` was read before it. -/
def HeapState.push (state : HeapState) (con : ConnectionId) (request : Request) (t : Int) :
    Bool × HeapState :=
  let emptied := state.queue.isEmpty
  let pair := (state.clients con).pushRequest request
  if pair.1.1 then
    let pushed := { state with
      clients := updateAt state.clients con pair.2
      accepted := updateAt state.accepted con (state.accepted con ++ [request]) }
    if pair.1.2 = 0 then
      if pair.2.reservation ≤ t then
        match pair.2.popRequest with
        | none => (true, { pushed with aborted := true })
        | some (first, popped) =>
            (true, { pushed with clients := updateAt pushed.clients con popped }.hand
              { caller := .inline, time := t, con := con, request := first })
      else
        (true, processPossible { pushed with
          queue := BinaryHeap.pushHeap (compareIn pushed.clients) (state.queue.push con)
            (state.queue.size + 1) } (.push emptied) state.now)
    else (true, processPossible pushed (.push emptied) state.now)
  else (false, state)

/-- The handler returns. The only thing a handler changes here is its connection's `L`,
which a manager's login raises to 1 GiB. -/
def HeapState.handled (state : HeapState) (running : Running) (raised : Bool) : HeapState :=
  let client := state.clients running.con
  let returned := { state with
    running := none
    clients := if raised then
      updateAt state.clients running.con { client with L := 1024 * 1024 * 1024 }
      else state.clients
    finished := updateAt state.finished running.con
      (state.finished running.con ++ [running.request]) }
  match running.caller with
  | .inline => returned
  | caller => processPossible returned caller running.time

inductive HeapEvent where
  | tick (now : Int)
  | push (con : ConnectionId) (request : Request) (t : Int)
  | exec
  | handled (raised : Bool)
  | wake
  deriving DecidableEq

/-- One step of the heap. A push has read the clock twice before it gets the lock, for the
request's arrival and for itself. -/
def heapStep (state : HeapState) (event : HeapEvent) : Option HeapState :=
  if state.aborted then none
  else
    match event, state.running with
    | .tick now, _ => if state.now ≤ now then some { state with now := now } else none
    | .push con request t, none =>
        if request.arrival ≤ t ∧ t ≤ state.now then some (state.push con request t).2 else none
    | .exec, none =>
        if state.exec = .active then some (processPossible state .exec state.now) else none
    | .handled raised, some running => some (state.handled running raised)
    | .wake, none => if state.exec = .active then none else some { state with exec := .active }
    | _, _ => none

end EasyViewer
