import EasyViewer.RequestOrder

/-!
`RequestProcessor::Heap` cut at every call of `pull`, under any clock: each time that the
source reads comes with the event. The clients do not belong to the heap; other heaps may
have connections of their own.
-/

namespace EasyViewer

/-- Who has the heap's lock: a thread about to call `pull` for the time it has read, or one in
a handler, which goes on with the time `again` if it is in the loop. -/
inductive HeapLock where
  | free
  | looping (t : Int)
  | handling (con : ConnectionId) (request : Request) (again : Option Int)
  | aborted
  deriving DecidableEq

structure RequestHeap where
  clients : ConnectionId → Client := fun _ => {}
  queue : Array ConnectionId := #[]
  lock : HeapLock := .free

inductive SectionEvent where
  | push (con : ConnectionId) (request : Request) (t now : Int)
  | exec (now : Int)
  | pull
  | handled (raised : Bool)
  deriving DecidableEq

namespace RequestHeap

/-- `Heap::push` up to the handler or the loop, for which the clock is read again. -/
def push (heap : RequestHeap) (con : ConnectionId) (request : Request) (t now : Int) :
    Bool × RequestHeap :=
  let pair := (heap.clients con).pushRequest request
  if pair.1.1 then
    let pushed := { heap with clients := updateAt heap.clients con pair.2 }
    if pair.1.2 = 0 then
      if pair.2.reservation ≤ t then
        match pair.2.popRequest with
        | none => (true, { pushed with lock := .aborted })
        | some (first, popped) =>
            (true, { pushed with
              clients := updateAt heap.clients con popped
              lock := .handling con first none })
      else
        (true, { pushed with
          queue := BinaryHeap.pushHeap (compareIn pushed.clients) (heap.queue.push con)
            (heap.queue.size + 1)
          lock := .looping now })
    else (true, { pushed with lock := .looping now })
  else (false, heap)

/-- A round of the loop of `processPossible`; when nothing is pulled the lock is released. -/
def pull (heap : RequestHeap) (t : Int) : RequestHeap :=
  match EasyViewer.pull { queue := heap.queue, clients := heap.clients } t with
  | (.request con request, next) =>
      { clients := next.clients, queue := next.queue, lock := .handling con request (some t) }
  | (.assertionFailed, next) =>
      { clients := next.clients, queue := next.queue, lock := .aborted }
  | (.nothing, _) => { heap with lock := .free }

def handled (heap : RequestHeap) (con : ConnectionId) (again : Option Int) (raised : Bool) :
    RequestHeap :=
  { heap with
    clients := if raised then
      updateAt heap.clients con { heap.clients con with L := 1024 * 1024 * 1024 }
      else heap.clients
    lock := again.elim .free .looping }

def step (heap : RequestHeap) (event : SectionEvent) : Option RequestHeap :=
  match event, heap.lock with
  | .push con request t now, .free => some (heap.push con request t now).2
  | .exec now, .free => some { heap with lock := .looping now }
  | .pull, .looping t => some (heap.pull t)
  | .handled raised, .handling con _ again => some (heap.handled con again raised)
  | _, _ => none

variable {own : ConnectionId → Prop} {heap next : RequestHeap}

theorem pull_cases (holds : QueueHolds own heap.clients heap.queue) (t : Int) :
    takeClient heap.clients heap.queue t = none ∧ heap.pull t = { heap with lock := .free } ∨
      ∃ con request popped queue,
        heap.pull t =
          { clients := updateAt heap.clients con popped
            queue := queue
            lock := .handling con request (some t) } ∧
        (∃ rest, takeClient heap.clients heap.queue t = some (con, rest)) ∧
        con ∈ heap.queue ∧ QueueHolds own (updateAt heap.clients con popped) queue := by
  have cases := QueueHolds.pull
    (show QueueHolds own ({ queue := heap.queue, clients := heap.clients } : HeapState).clients
      ({ queue := heap.queue, clients := heap.clients } : HeapState).queue from holds) t
  rcases cases with
    ⟨untaken, none⟩ | ⟨con, request, popped, queue, pulled, taken, member, -, after, -⟩
  · left
    rw [pull, none]
    exact ⟨untaken, rfl⟩
  · simp only [pull, pulled]
    exact Or.inr ⟨con, request, popped, queue, rfl, taken, member, after⟩

theorem push_holds (holds : QueueHolds own heap.clients heap.queue) {con : ConnectionId}
    (isOwn : own con) (request : Request) (t now : Int) :
    QueueHolds own (heap.push con request t now).2.clients
      (heap.push con request t now).2.queue := by
  simp only [push]
  split
  · rename_i accepted
    have requests := Client.pushRequest_requests accepted
    have size := Client.pushRequest_size (heap.clients con) request
    have tags := (holds.tags con).pushRequest request
    have kept := @Client.pushRequest_tags (heap.clients con) request
    generalize ((heap.clients con).pushRequest request).2 = client at requests tags kept ⊢
    rw [size]
    split
    · rename_i first
      have none : (heap.clients con).requests = [] := List.length_eq_zero_iff.mp first
      have absent : con ∉ heap.queue := by
        rw [holds.listed con, none]
        simp
      rw [none, List.nil_append] at requests
      split
      · obtain ⟨taken, popped, isPopped⟩ := Client.popRequest_isSome
          (show client.requests ≠ [] by simp [requests])
        have rest := Client.popRequest_requests isPopped
        rw [requests, List.cons.injEq] at rest
        rw [isPopped]
        exact holds.update_absent absent (tags.popRequest isPopped) fun _ => rest.2.symm
      · refine QueueHolds.join (tagsOk_updateAt holds.tags tags)
          (holds.heap.congr (compareIn_updateAt_absent client absent)) holds.distinct absent ?_
          isOwn (by simp [requests])
        intro other different
        change other ∈ heap.queue ↔
          own other ∧ (updateAt heap.clients con client other).requests ≠ []
        rw [updateAt_other _ _ different]
        exact holds.listed other
    · rename_i several
      have waiting : (heap.clients con).requests ≠ [] := by
        simpa [List.length_eq_zero_iff] using several
      obtain ⟨reservation, limit⟩ := kept waiting
      exact holds.update_kept tags reservation limit (by simp [requests, waiting])
  · exact holds

theorem handled_holds (holds : QueueHolds own heap.clients heap.queue) (con : ConnectionId)
    (again : Option Int) (raised : Bool) : QueueHolds own (heap.handled con again raised).clients
      (heap.handled con again raised).queue := by
  have tags := holds.tags con
  cases raised with
  | false => exact holds
  | true =>
      exact holds.update_kept ⟨tags.reservation, tags.limit, tags.tied, by norm_num⟩ rfl rfl Iff.rfl

theorem step_holds {event : SectionEvent} (holds : QueueHolds own heap.clients heap.queue)
    (owned : ∀ con request t now, event = .push con request t now → own con)
    (stepped : heap.step event = some next) : QueueHolds own next.clients next.queue := by
  simp only [step] at stepped
  split at stepped
  · cases stepped
    exact push_holds holds (owned _ _ _ _ rfl) _ _ _
  · cases stepped
    exact holds
  · cases stepped
    rcases pull_cases holds _ with ⟨-, none⟩ | ⟨con, request, popped, queue, pulled, -, -, after⟩
    · rw [none]
      exact holds
    · rw [pulled]
      exact after
  · cases stepped
    exact handled_holds holds _ _ _
  · contradiction

theorem push_clients (tags : ∀ con, (heap.clients con).TagsOk) (con : ConnectionId)
    (request : Request) (t now : Int) : ∃ client, client.TagsOk ∧
      (heap.push con request t now).2.clients = updateAt heap.clients con client := by
  have unchanged : heap.clients = updateAt heap.clients con (heap.clients con) := by
    funext other
    by_cases same : other = con
    · subst same
      simp
    · rw [updateAt_other _ _ same]
  have own := (tags con).pushRequest request
  simp only [push]
  split
  · split
    · split
      · split
        · exact ⟨_, own, rfl⟩
        · rename_i isPopped
          exact ⟨_, own.popRequest isPopped, rfl⟩
      · exact ⟨_, own, rfl⟩
    · exact ⟨_, own, rfl⟩
  · exact ⟨_, tags con, unchanged⟩

theorem push_unaborted (free : heap.lock = .free) (con : ConnectionId) (request : Request)
    (t now : Int) : (heap.push con request t now).2.lock ≠ .aborted := by
  simp only [push]
  split
  · rename_i accepted
    split
    · split
      · split
        · rename_i none
          have requests := Client.pushRequest_requests accepted
          obtain ⟨taken, popped, some⟩ := Client.popRequest_isSome
            (show ((heap.clients con).pushRequest request).2.requests ≠ [] by simp [requests])
          rw [some] at none
          contradiction
        · simp
      · simp
    · simp
  · simp [free]

theorem step_unaborted {event : SectionEvent} (holds : QueueHolds own heap.clients heap.queue)
    (stepped : heap.step event = some next) : next.lock ≠ .aborted := by
  simp only [step] at stepped
  split at stepped
  · rename_i free
    cases stepped
    exact push_unaborted free _ _ _ _
  · cases stepped
    simp
  · rename_i t _
    cases stepped
    rcases pull_cases holds t with ⟨-, none⟩ | ⟨con, request, popped, queue, pulled, -, -, -⟩
    · simp [none]
    · simp [pulled]
  · rename_i again _
    cases stepped
    cases again <;> simp [handled]
  · contradiction

/-- What a step changes of the clients: one at most, which it pushes to or pulls, or whose
limit it raises. -/
theorem step_clients {event : SectionEvent} (holds : QueueHolds own heap.clients heap.queue)
    (stepped : heap.step event = some next) : next.clients = heap.clients ∨
      ∃ con client, next.clients = updateAt heap.clients con client ∧ client.TagsOk ∧
        ((∃ request t now, event = .push con request t now) ∨ con ∈ heap.queue ∨
          client = { heap.clients con with L := 1024 * 1024 * 1024 }) := by
  simp only [step] at stepped
  split at stepped
  · rename_i con request t now _
    cases stepped
    obtain ⟨client, tags, pushed⟩ := push_clients holds.tags con request t now
    exact Or.inr ⟨con, client, pushed, tags, Or.inl ⟨request, t, now, rfl⟩⟩
  · cases stepped
    exact Or.inl rfl
  · rename_i t _
    cases stepped
    rcases pull_cases holds t with
      ⟨-, none⟩ | ⟨con, request, popped, queue, pulled, -, member, after⟩
    · rw [none]
      exact Or.inl rfl
    · have tags := after.tags con
      rw [updateAt_same] at tags
      rw [pulled]
      exact Or.inr ⟨con, popped, rfl, tags, Or.inr (Or.inl member)⟩
  · rename_i raised con _ again _
    cases stepped
    have tags := holds.tags con
    cases raised with
    | false => exact Or.inl rfl
    | true =>
        exact Or.inr ⟨con, _, rfl, ⟨tags.reservation, tags.limit, tags.tied, by norm_num⟩,
          Or.inr (Or.inr rfl)⟩
  · contradiction

def Keeps (heap next : RequestHeap) (con : ConnectionId) : Prop :=
  con ∈ next.queue ∧ (next.clients con).reservation = (heap.clients con).reservation ∧
    (next.clients con).limit = (heap.clients con).limit

theorem Keeps.of_same {con : ConnectionId} (listed : con ∈ next.queue)
    (same : next.clients con = heap.clients con) : Keeps heap next con :=
  ⟨listed, congrArg Client.reservation same, congrArg Client.limit same⟩

structure PullsSoundly (heap : RequestHeap) (t : Int) : Prop where
  phase1 : ∀ front, heap.queue[0]? = some front → (heap.clients front).reservation ≤ t →
    (∀ other ∈ heap.queue, compareIn heap.clients front other = false) ∧
      (∃ rest, takeClient heap.clients heap.queue t = some (front, rest) ∧
        BinaryHeap.IsHeap (compareIn heap.clients) rest ∧ (rest.push front).Perm heap.queue) ∧
      ∃ request, (heap.pull t).lock = .handling front request (some t)
  removal : ∀ front, heap.queue[0]? = some front → t < (heap.clients front).reservation →
    ∀ index (bound : index < heap.queue.size), (heap.clients heap.queue[index]).limit ≤ t →
      let rest := removeAt heap.clients heap.queue index heap.queue[index]
      BinaryHeap.IsHeap (compareIn heap.clients) rest ∧
        (rest.push heap.queue[index]).Perm heap.queue
  phase2 : ∀ front client rest, heap.queue[0]? = some front →
    t < (heap.clients front).reservation →
      takeClient heap.clients heap.queue t = some (client, rest) →
        ∃ index, index < maxCount ∧ ∃ bound : index < heap.queue.size,
          heap.queue[index] = client ∧ (heap.clients client).limit ≤ t ∧
            rest = removeAt heap.clients heap.queue index client

/-- The heap is one, lists every client once, and only `pull` touches the keys of what it lists:
those of the client that it takes out. -/
structure Stays (heap : RequestHeap) : Prop where
  ordered : BinaryHeap.IsHeap (compareIn heap.clients) heap.queue
  distinct : heap.queue.toList.Nodup
  keys : ∀ event next, heap.step event = some next → ∀ con ∈ heap.queue, Keeps heap next con ∨
    ∃ t rest, event = .pull ∧ heap.lock = .looping t ∧
      takeClient heap.clients heap.queue t = some (con, rest)
  pulls : ∀ t, heap.PullsSoundly t

theorem pullsSoundly (holds : QueueHolds own heap.clients heap.queue) (t : Int) :
    heap.PullsSoundly t where
  phase1 := by
    intro front atFront due
    obtain ⟨nonempty, frontEq⟩ := Array.getElem?_eq_some_iff.mp atFront
    constructor
    · intro other listed
      obtain ⟨place, bound, rfl⟩ := Array.mem_iff_getElem.mp listed
      rw [← frontEq]
      exact holds.heap.front_best (compareIn_weak heap.clients) place bound
    · have taken : takeClient heap.clients heap.queue t =
          some (front, (BinaryHeap.popHeap (compareIn heap.clients) heap.queue).pop) := by
        simp only [takeClient, atFront, if_pos due]
      refine ⟨⟨_, taken, takeClient_sound holds.tags holds.heap holds.distinct taken⟩, ?_⟩
      rcases pull_cases holds t with
        ⟨untaken, -⟩ | ⟨con, request, popped, queue, pulled, ⟨rest, same⟩, -, -⟩
      · rw [untaken] at taken
        contradiction
      · rw [same, Option.some.injEq, Prod.mk.injEq] at taken
        rw [pulled, taken.1]
        exact ⟨request, rfl⟩
  removal := fun _ atFront late _ bound within =>
    removeAt_sound holds.tags holds.heap holds.distinct atFront late bound within
  phase2 := fun _ _ _ atFront late taken => takeClient_phase2 atFront late taken

theorem push_keeps (holds : QueueHolds own heap.clients heap.queue) (con : ConnectionId)
    (request : Request) (t now : Int) {other : ConnectionId} (listed : other ∈ heap.queue) :
    Keeps heap (heap.push con request t now).2 other := by
  have waiting := ((holds.listed other).mp listed).2
  have alone : ∀ client : Client, (heap.clients con).requests = [] →
      updateAt heap.clients con client other = heap.clients other := by
    intro client none
    refine updateAt_other _ _ ?_
    rintro rfl
    exact waiting none
  simp only [push]
  split
  · have kept := @Client.pushRequest_tags (heap.clients con) request
    rw [Client.pushRequest_size]
    split
    · rename_i first
      have none : (heap.clients con).requests = [] := List.length_eq_zero_iff.mp first
      split
      · split
        · exact .of_same listed (alone _ none)
        · exact .of_same listed (alone _ none)
      · have perm := (BinaryHeap.pushHeap_push
          (compareIn_weak (updateAt heap.clients con ((heap.clients con).pushRequest request).2))
          (holds.heap.congr (compareIn_updateAt_absent _ fun member =>
            ((holds.listed con).mp member).2 none)) con).2
        exact .of_same (perm.mem_iff.mpr (Array.mem_push_of_mem con listed)) (alone _ none)
    · rename_i several
      by_cases same : other = con
      · subst same
        obtain ⟨reservation, limit⟩ := kept waiting
        have own := updateAt_same heap.clients other ((heap.clients other).pushRequest request).2
        exact ⟨listed, (congrArg Client.reservation own).trans reservation,
          (congrArg Client.limit own).trans limit⟩
      · exact .of_same listed (updateAt_other _ _ same)
  · exact .of_same listed rfl

theorem handled_keeps (con : ConnectionId) (again : Option Int) (raised : Bool)
    {other : ConnectionId} (listed : other ∈ heap.queue) :
    Keeps heap (heap.handled con again raised) other := by
  cases raised with
  | false => exact ⟨listed, rfl, rfl⟩
  | true =>
      by_cases same : other = con
      · subst same
        exact ⟨listed, by simp [handled], by simp [handled]⟩
      · exact .of_same listed (updateAt_other _ _ same)

/-- All other connections stay queued, with their keys, when one is pulled. -/
theorem pull_keeps (holds : QueueHolds own heap.clients heap.queue) (t : Int)
    {other : ConnectionId} (listed : other ∈ heap.queue) : Keeps heap (heap.pull t) other ∨
      ∃ rest, takeClient heap.clients heap.queue t = some (other, rest) := by
  rcases pull_cases holds t with ⟨-, none⟩ | ⟨con, request, popped, queue, pulled, taken, -, after⟩
  · rw [none]
    exact Or.inl ⟨listed, rfl, rfl⟩
  · by_cases same : other = con
    · subst same
      exact Or.inr taken
    · have unchanged := updateAt_other heap.clients popped same
      rw [pulled]
      refine Or.inl (.of_same ((after.listed other).mpr ?_) unchanged)
      rw [unchanged]
      exact (holds.listed other).mp listed

theorem stays_of_holds (holds : QueueHolds own heap.clients heap.queue) : heap.Stays where
  ordered := holds.heap
  distinct := holds.distinct
  keys := by
    intro event next stepped con listed
    simp only [step] at stepped
    split at stepped
    · cases stepped
      exact Or.inl (push_keeps holds _ _ _ _ listed)
    · cases stepped
      exact Or.inl ⟨listed, rfl, rfl⟩
    · rename_i t locked
      cases stepped
      rcases pull_keeps holds t listed with kept | ⟨rest, taken⟩
      · exact Or.inl kept
      · exact Or.inr ⟨t, rest, rfl, locked, taken⟩
    · cases stepped
      exact Or.inl (handled_keeps _ _ _ listed)
    · contradiction
  pulls := pullsSoundly holds

theorem initial_holds : QueueHolds own ({} : RequestHeap).clients ({} : RequestHeap).queue where
  tags := fun _ => Client.TagsOk.initial
  heap := fun _ _ inside => absurd inside (Nat.not_lt_zero _)
  distinct := List.nodup_nil
  listed := by simp

/-- In every run, with any clock, the queue is a heap of distinct connections whenever the lock is
free and in between, and `pull` takes out of it one connection and nothing else. -/
theorem requestHeap_stays_heap (events : List SectionEvent) :
    Transition.Throughout step Stays {} events :=
  (Transition.Throughout.of_step step
    (fun _ _ _ holds stepped => step_holds holds (fun _ _ _ _ _ => trivial) stepped)
    (@initial_holds fun _ => True)).mono step fun _ holds => stays_of_holds holds

end RequestHeap

end EasyViewer
