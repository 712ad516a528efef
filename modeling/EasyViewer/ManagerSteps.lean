import Mathlib.Algebra.Ring.Nat
import EasyViewer.Library.Tally
import EasyViewer.TaskManager

/-!
What the steps of the task manager do to its items. An item is in the heap or in one
worker's hands, and a step that neither starts nor ends a task only moves items or
drops them.
-/

namespace EasyViewer

namespace TaskManager

theorem compare_weak : BinaryHeap.StrictWeak compare := by
  constructor
  · intro a b
    simp only [compare, decide_eq_true_eq, decide_eq_false_iff_not]
    omega
  · intro a b c
    simp only [compare, decide_eq_false_iff_not]
    omega

namespace Worker

def item : Worker → Option Item
  | .expiring _ it | .timingOut _ it | .starting _ it _ | .executing _ it | .checking _ it
  | .dropping _ it | .returning _ it => some it
  | _ => none

def weigh (value : Item → Nat) (worker : Worker) : Nat := worker.item.elim 0 value

def timing (id : Nat) : Worker → Nat
  | .timingOut _ it => if it.task = id then 1 else 0
  | _ => 0

/-- The worker is inside `execute` or `timeout` of the task, and holds its lock. -/
def running (id : Nat) : Worker → Nat
  | .timingOut _ it | .executing _ it => if it.task = id then 1 else 0
  | _ => 0

theorem timing_le_running (id : Nat) (worker : Worker) : worker.timing id ≤ worker.running id := by
  cases worker <;> simp [timing, running]

/-- The worker is not inside a task, and holds no task's lock. -/
def outside : Worker → Bool
  | .timingOut _ _ | .executing _ _ => false
  | _ => true

theorem weigh_le_of {worker : Worker} {it : Item}
    (keeps : worker.item = some it ∨ worker.item = none) (value : Item → Nat) :
    worker.weigh value ≤ value it := by
  rcases keeps with kept | dropped
  · simp [weigh, kept]
  · simp [weigh, dropped]

theorem weigh_le {worker before : Worker}
    (keeps : worker.item = before.item ∨ worker.item = none) (value : Item → Nat) :
    worker.weigh value ≤ before.weigh value := by
  rcases keeps with kept | dropped
  · simp [weigh, kept]
  · simp [weigh, dropped]

theorem running_outside {worker : Worker} (free : worker.outside = true) (id : Nat) :
    worker.running id = 0 := by
  cases worker <;> first | rfl | contradiction

theorem timing_outside {worker : Worker} (free : worker.outside = true) (id : Nat) :
    worker.timing id = 0 := by
  cases worker <;> first | rfl | contradiction

def About (id : Nat) (worker : Worker) : Prop := ∀ it, worker.item = some it → it.task = id

end Worker

def Item.forTask (id : Nat) (it : Item) : Nat := if it.task = id then 1 else 0

def Item.ticket (id : Nat) (it : Item) : Nat := if it.task = id ∧ ¬ it.executed then 1 else 0

namespace Worker

theorem About.forTask_other {id other : Nat} {worker : Worker} (about : worker.About id)
    (apart : other ≠ id) : worker.weigh (Item.forTask other) = 0 := by
  cases carried : worker.item with
  | none => simp [weigh, carried]
  | some it => simp [weigh, carried, Item.forTask, about it carried, apart.symm]

theorem About.ticket_other {id other : Nat} {worker : Worker} (about : worker.About id)
    (apart : other ≠ id) : worker.weigh (Item.ticket other) = 0 := by
  cases carried : worker.item with
  | none => simp [weigh, carried]
  | some it => simp [weigh, carried, Item.ticket, about it carried, apart.symm]

theorem About.running_other {id other : Nat} {worker : Worker} (about : worker.About id)
    (apart : other ≠ id) : worker.running other = 0 := by
  cases worker <;> first | rfl | (rename_i it; simp [running, about it rfl, apart.symm])

theorem About.timing_other {id other : Nat} {worker : Worker} (about : worker.About id)
    (apart : other ≠ id) : worker.timing other = 0 := by
  cases worker <;> first | rfl | (rename_i it; simp [timing, about it rfl, apart.symm])

end Worker

section

variable {numWorker : Nat} {state next : Manager numWorker}

namespace Manager

def held (state : Manager numWorker) (value : Item → Nat) : Nat :=
  (state.heapItems.toList.map value).sum + Threads.tally (Worker.weigh value) state.workers

def present (state : Manager numWorker) (id : Nat) : Nat :=
  state.built.count id + state.held (Item.forTask id)

def tickets (state : Manager numWorker) (id : Nat) : Nat :=
  state.built.count id + state.held (Item.ticket id)

def timing (state : Manager numWorker) (id : Nat) : Nat :=
  Threads.tally (Worker.timing id) state.workers

def running (state : Manager numWorker) (id : Nat) : Nat :=
  Threads.tally (Worker.running id) state.workers

theorem held_become (state : Manager numWorker) (w : Fin numWorker) (worker : Worker)
    (value : Item → Nat) :
    (state.become w worker).held value + (state.workers w).weigh value =
      state.held value + worker.weigh value := by
  have moved := Threads.tally_update (Worker.weigh value) state.workers w worker
  simp only [held, become]
  omega

theorem timing_become (state : Manager numWorker) (w : Fin numWorker) (worker : Worker) (id : Nat) :
    (state.become w worker).timing id + (state.workers w).timing id =
      state.timing id + worker.timing id :=
  Threads.tally_update (Worker.timing id) state.workers w worker

theorem running_become (state : Manager numWorker) (w : Fin numWorker) (worker : Worker)
    (id : Nat) :
    (state.become w worker).running id + (state.workers w).running id =
      state.running id + worker.running id :=
  Threads.tally_update (Worker.running id) state.workers w worker

theorem front_exists {it : Item} (front : state.heapItems[0]? = some it) :
    ∃ nonempty : 0 < state.heapItems.size, state.heapItems[0] = it := by
  obtain ⟨nonempty, isFront⟩ := Array.getElem?_eq_some_iff.mp front
  exact ⟨nonempty, isFront⟩

theorem popHeap_heap (heap : BinaryHeap.IsHeap compare state.heapItems) {it : Item}
    (front : state.heapItems[0]? = some it) :
    BinaryHeap.IsHeap compare state.popHeap.heapItems ∧
      (state.popHeap.heapItems.push it).Perm state.heapItems := by
  obtain ⟨nonempty, rfl⟩ := front_exists front
  exact BinaryHeap.popHeap_pop compare_weak heap nonempty

theorem pushHeap_heap (heap : BinaryHeap.IsHeap compare state.heapItems) (it : Item) :
    BinaryHeap.IsHeap compare (state.pushHeap it).heapItems ∧
      (state.pushHeap it).heapItems.Perm (state.heapItems.push it) :=
  BinaryHeap.pushHeap_push compare_weak heap it

theorem held_popHeap (heap : BinaryHeap.IsHeap compare state.heapItems) {it : Item}
    (front : state.heapItems[0]? = some it) (value : Item → Nat) :
    state.popHeap.held value + value it = state.held value := by
  have moved := ((popHeap_heap heap front).2.toList.map value).sum_nat
  have workers : state.popHeap.workers = state.workers := rfl
  simp only [Array.toList_push, List.map_append, List.map_cons, List.map_nil, List.sum_append,
    List.sum_cons, List.sum_nil] at moved
  simp only [held, workers]
  omega

theorem held_pushHeap (heap : BinaryHeap.IsHeap compare state.heapItems) (it : Item)
    (value : Item → Nat) : (state.pushHeap it).held value = state.held value + value it := by
  have moved := ((pushHeap_heap heap it).2.toList.map value).sum_nat
  have workers : (state.pushHeap it).workers = state.workers := rfl
  simp only [Array.toList_push, List.map_append, List.map_cons, List.map_nil, List.sum_append,
    List.sum_cons, List.sum_nil] at moved
  simp only [held, workers]
  omega

end Manager

inductive Inspected (state : Manager numWorker) (w : Fin numWorker) (now : Int) :
    Manager numWorker → Prop where
  | rests (nothingDue : ∀ it, state.heapItems[0]? = some it →
      state.destroyed it.task = false ∧ now ≤ it.maxStayAtTime ∧
        (it.executeAtTime < now → it.executed = true)) :
      Inspected state w now (state.become w (.resting now))
  | drops {it : Item} (front : state.heapItems[0]? = some it)
      (gone : state.destroyed it.task = true) :
      Inspected state w now ((state.popHeap.eraseItem it.task).become w (.resting now))
  | expires {it : Item} (front : state.heapItems[0]? = some it)
      (alive : state.destroyed it.task = false) (late : it.maxStayAtTime < now) :
      Inspected state w now ((state.popHeap.eraseItem it.task).become w (.expiring now it))
  | starts {it : Item} (front : state.heapItems[0]? = some it)
      (alive : state.destroyed it.task = false) (inStay : now ≤ it.maxStayAtTime)
      (due : it.executeAtTime < now)
      (ready : it.executed = false ∧ it.executeAtTime ≤ it.maxStayAtTime) :
      Inspected state w now (state.popHeap.become w (.starting now it ready))

theorem inspect_cases (state : Manager numWorker) (w : Fin numWorker) (now : Int) :
    Inspected state w now (state.inspect w now) := by
  simp only [Manager.inspect]
  split
  · rename_i empty
    exact .rests fun it front => by simp [empty] at front
  · rename_i it front
    split
    · rename_i gone
      exact .drops front gone
    · rename_i alive
      have alive := Bool.eq_false_iff.mpr alive
      split
      · rename_i late
        exact .expires front alive late
      · rename_i inStay
        split
        · rename_i due
          exact .starts front alive (Int.not_lt.mp inStay) due.1 _
        · rename_i notDue
          refine .rests fun other isFront => ?_
          rw [front] at isFront
          cases isFront
          exact ⟨alive, Int.not_lt.mp inStay,
            fun due => Bool.eq_true_of_not_eq_false fun fresh => notDue ⟨due, fresh⟩⟩

theorem rest_become (state : Manager numWorker) (w : Fin numWorker) (now : Int) :
    state.rest w now = state.become w
      (if 0 < state.dif now then .waiting (state.clock + state.dif now) false else .looping) := by
  simp only [Manager.rest]
  split <;> rfl

inductive Worked (state : Manager numWorker) (w : Fin numWorker) (destroysItself : Bool) :
    Manager numWorker → Prop where
  | loops (here : state.workers w = .looping) :
      Worked state w destroysItself (state.become w (.inspecting state.clock))
  | inspects {now : Int} {next : Manager numWorker} (here : state.workers w = .inspecting now)
      (inspected : Inspected state w now next) : Worked state w destroysItself next
  | skipsTimeout {now : Int} {it : Item} (here : state.workers w = .expiring now it)
      (free : state.locked it.task = false) (gone : state.destroyed it.task = true) :
      Worked state w destroysItself (state.become w (.resting now))
  | timesOut {now : Int} {it : Item} (here : state.workers w = .expiring now it)
      (free : state.locked it.task = false) (alive : state.destroyed it.task = false) :
      Worked state w destroysItself
        (((state.lock it.task).mark (.timesOut it.task)).become w (.timingOut now it))
  | timedOut {now : Int} {it : Item} (here : state.workers w = .timingOut now it) :
      Worked state w destroysItself
        ((((state.destroyTask it.task).mark (.timedOut it.task)).unlock it.task).become w
          (.resting now))
  | skipsExecute {now : Int} {it : Item}
      {ready : it.executed = false ∧ it.executeAtTime ≤ it.maxStayAtTime}
      (here : state.workers w = .starting now it ready)
      (free : state.locked it.task = false) (gone : state.destroyed it.task = true) :
      Worked state w destroysItself (state.become w (.dropping now it))
  | executes {now : Int} {it : Item}
      {ready : it.executed = false ∧ it.executeAtTime ≤ it.maxStayAtTime}
      (here : state.workers w = .starting now it ready)
      (free : state.locked it.task = false) (alive : state.destroyed it.task = false) :
      Worked state w destroysItself
        (((state.lock it.task).mark (.executes it.task)).become w
          (.executing now { it with executed := true, inTime := fun _ => ready.2 }))
  | executed {now : Int} {it : Item} (here : state.workers w = .executing now it)
      (stays : destroysItself = false) :
      Worked state w destroysItself ((state.unlock it.task).become w (.checking now it))
  | destroysItself {now : Int} {it : Item} (here : state.workers w = .executing now it)
      (leaves : destroysItself = true) :
      Worked state w destroysItself
        ((((state.destroyTask it.task).mark (.destroysItself it.task)).unlock it.task).become w
          (.checking now it))
  | findsDestroyed {now : Int} {it : Item} (here : state.workers w = .checking now it)
      (gone : state.destroyed it.task = true) :
      Worked state w destroysItself (state.become w (.dropping now it))
  | findsAlive {now : Int} {it : Item} (here : state.workers w = .checking now it)
      (alive : state.destroyed it.task = false) :
      Worked state w destroysItself (state.become w (.returning now it))
  | drops {now : Int} {it : Item} (here : state.workers w = .dropping now it) :
      Worked state w destroysItself ((state.eraseItem it.task).become w (.resting now))
  | givesBack {now : Int} {it : Item} (here : state.workers w = .returning now it) :
      Worked state w destroysItself ((state.pushHeap it).become w (.resting now))
  | rests {now : Int} (here : state.workers w = .resting now) :
      Worked state w destroysItself (state.rest w now)
  | wakes {deadline : Int} {notified : Bool} (here : state.workers w = .waiting deadline notified)
      (timeUp : notified = true ∨ deadline ≤ state.clock) :
      Worked state w destroysItself (state.become w .looping)

theorem work_inversion {w : Fin numWorker} {destroysItself : Bool}
    (worked : state.work w destroysItself = some next) : Worked state w destroysItself next := by
  simp only [Manager.work] at worked
  split at worked
  · rename_i here
    cases worked
    exact .loops here
  · rename_i now here
    cases worked
    exact .inspects here (inspect_cases state w now)
  · rename_i now it here
    split at worked
    · contradiction
    · rename_i free
      have free := Bool.eq_false_iff.mpr free
      split at worked
      · rename_i gone
        cases worked
        exact .skipsTimeout here free gone
      · rename_i alive
        cases worked
        exact .timesOut here free (Bool.eq_false_iff.mpr alive)
  · rename_i now it here
    cases worked
    exact .timedOut here
  · rename_i now it ready here
    split at worked
    · contradiction
    · rename_i free
      have free := Bool.eq_false_iff.mpr free
      split at worked
      · rename_i gone
        cases worked
        exact .skipsExecute here free gone
      · rename_i alive
        cases worked
        exact .executes here free (Bool.eq_false_iff.mpr alive)
  · rename_i now it here
    cases worked
    cases destroysItself with
    | false => exact .executed here rfl
    | true => exact .destroysItself here rfl
  · rename_i now it here
    cases worked
    split
    · rename_i gone
      exact .findsDestroyed here gone
    · rename_i alive
      exact .findsAlive here (Bool.eq_false_iff.mpr alive)
  · rename_i now it here
    cases worked
    exact .drops here
  · rename_i now it here
    cases worked
    exact .givesBack here
  · rename_i now here
    cases worked
    exact .rests here
  · rename_i deadline notified here
    split at worked
    · rename_i timeUp
      cases worked
      exact .wakes here timeUp
    · contradiction

theorem notifyOne_cases {woken : Option (Fin numWorker)}
    (notified : state.notifyOne woken = some next) :
    next = state ∨ ∃ w deadline, state.workers w = .waiting deadline false ∧
      next = state.become w (.waiting deadline true) := by
  simp only [Manager.notifyOne] at notified
  split at notified
  · split at notified
    · cases notified
      exact Or.inl rfl
    · contradiction
  · split at notified
    · rename_i w _ deadline here
      cases notified
      exact Or.inr ⟨w, deadline, here, rfl⟩
    · contradiction

inductive Dispatched (state : Manager numWorker) (it : Item) (woken : Option (Fin numWorker)) :
    Manager numWorker → Prop where
  | known (listed : it.task ∈ state.mapItems) : Dispatched state it woken state
  | goesIn (absent : it.task ∉ state.mapItems)
      (notFirst : ∀ front, (state.insert it).heapItems[0]? = some front →
        front.executeAtTime ≤ it.executeAtTime) : Dispatched state it woken (state.insert it)
  | goesFirst {front : Item} {next : Manager numWorker} (absent : it.task ∉ state.mapItems)
      (isFront : (state.insert it).heapItems[0]? = some front)
      (first : it.executeAtTime < front.executeAtTime)
      (notified : (state.insert it).notifyOne woken = some next) : Dispatched state it woken next

theorem dispatch_cases {id : Nat} {executeAtTime maxStayAtTime : Int}
    {woken : Option (Fin numWorker)}
    (dispatched : state.dispatch id executeAtTime maxStayAtTime woken = some next) :
    Dispatched state (Item.waiting id executeAtTime maxStayAtTime) woken next := by
  simp only [Manager.dispatch] at dispatched
  split at dispatched
  · rename_i listed
    cases dispatched
    exact .known listed
  · rename_i absent
    split at dispatched
    · rename_i empty
      cases dispatched
      refine .goesIn absent fun front isFront => ?_
      exact absurd (isFront.symm.trans empty) (Option.some_ne_none _)
    · rename_i front isFront
      split at dispatched
      · rename_i first
        exact .goesFirst absent isFront first dispatched
      · rename_i notFirst
        cases dispatched
        refine .goesIn absent fun other isOther => ?_
        cases isFront.symm.trans isOther
        exact Int.not_lt.mp notFirst

theorem dispatchBuilt_some {id : Nat} {executeAtTime maxStayAtTime : Int}
    {woken : Option (Fin numWorker)} :
    state.dispatchBuilt id executeAtTime maxStayAtTime woken = some next ↔
      id ∈ state.built ∧
        (state.handOver id).dispatch id executeAtTime maxStayAtTime woken = some next := by
  simp only [Manager.dispatchBuilt, Option.ite_none_right_eq_some]

theorem destroy_cases {id : Nat} (called : state.destroy id = some next) :
    (id ∈ state.destroying ∧ state.locked id = false) ∧
      (state.destroyed id = true ∧ next = { state with destroying := state.destroying.erase id } ∨
        state.destroyed id = false ∧
          next = ({ state with destroying := state.destroying.erase id }.destroyTask id).mark
            (.handsOut id)) := by
  simp only [Manager.destroy] at called
  split at called
  · rename_i ready
    refine ⟨⟨ready.1, Bool.eq_false_iff.mpr ready.2⟩, ?_⟩
    split at called
    · rename_i gone
      cases called
      exact Or.inl ⟨gone, rfl⟩
    · rename_i alive
      cases called
      exact Or.inr ⟨Bool.eq_false_iff.mpr alive, rfl⟩
  · contradiction

/-- A step that starts and ends nothing: items move or are dropped. -/
structure Quiet (state next : Manager numWorker) : Prop where
  tasks : next.tasks = state.tasks
  history : next.history = state.history
  nextId : next.nextId = state.nextId
  destroying : ∀ id ∈ next.destroying, id ∈ state.destroying ∨ state.tasks id ≠ none
  present : ∀ id, next.present id ≤ state.present id
  tickets : ∀ id, next.tickets id ≤ state.tickets id
  running : ∀ id, next.running id = state.running id
  timing : ∀ id, next.timing id = state.timing id

/-- The other steps, each with what it has checked. -/
inductive Loud (state : Manager numWorker) : Manager numWorker → Prop where
  | built (certificate : UInt32) : Loud state (state.build certificate)
  | timesOut {w : Fin numWorker} {now : Int} {it : Item} (here : state.workers w = .expiring now it)
      (free : state.locked it.task = false) (alive : state.destroyed it.task = false) :
      Loud state (((state.lock it.task).mark (.timesOut it.task)).become w (.timingOut now it))
  | timedOut {w : Fin numWorker} {now : Int} {it : Item}
      (here : state.workers w = .timingOut now it) :
      Loud state ((((state.destroyTask it.task).mark (.timedOut it.task)).unlock it.task).become w
        (.resting now))
  | executes {w : Fin numWorker} {now : Int} {it : Item}
      {ready : it.executed = false ∧ it.executeAtTime ≤ it.maxStayAtTime}
      (here : state.workers w = .starting now it ready)
      (free : state.locked it.task = false) (alive : state.destroyed it.task = false) :
      Loud state (((state.lock it.task).mark (.executes it.task)).become w
        (.executing now { it with executed := true, inTime := fun _ => ready.2 }))
  | executed {w : Fin numWorker} {now : Int} {it : Item}
      (here : state.workers w = .executing now it) :
      Loud state ((state.unlock it.task).become w (.checking now it))
  | destroysItself {w : Fin numWorker} {now : Int} {it : Item}
      (here : state.workers w = .executing now it) :
      Loud state
        ((((state.destroyTask it.task).mark (.destroysItself it.task)).unlock it.task).become w
          (.checking now it))
  | handsOut {id : Nat} (lookedUp : id ∈ state.destroying) (free : state.locked id = false)
      (alive : state.destroyed id = false) :
      Loud state (({ state with destroying := state.destroying.erase id }.destroyTask id).mark
        (.handsOut id))

theorem Quiet.refl (state : Manager numWorker) : Quiet state state :=
  ⟨rfl, rfl, rfl, fun _ listed => Or.inl listed, fun _ => Nat.le_refl _, fun _ => Nat.le_refl _,
    fun _ => rfl, fun _ => rfl⟩

theorem Quiet.trans {middle : Manager numWorker} (first : Quiet state middle)
    (second : Quiet middle next) : Quiet state next where
  tasks := second.tasks.trans first.tasks
  history := second.history.trans first.history
  nextId := second.nextId.trans first.nextId
  destroying := by
    intro id listed
    rcases second.destroying id listed with before | known
    · exact first.destroying id before
    · exact Or.inr (first.tasks ▸ known)
  present id := (second.present id).trans (first.present id)
  tickets id := (second.tickets id).trans (first.tickets id)
  running id := (second.running id).trans (first.running id)
  timing id := (second.timing id).trans (first.timing id)

theorem Quiet.become {w : Fin numWorker} {before worker : Worker} (here : state.workers w = before)
    (keeps : worker.item = before.item ∨ worker.item = none) (leaves : before.outside = true)
    (comes : worker.outside = true) : Quiet state (state.become w worker) where
  tasks := rfl
  history := rfl
  nextId := rfl
  destroying id listed := Or.inl listed
  present id := by
    have moved := Manager.held_become state w worker (Item.forTask id)
    have less := Worker.weigh_le keeps (Item.forTask id)
    have same : (state.become w worker).built = state.built := rfl
    rw [here] at moved
    simp only [Manager.present, same]
    omega
  tickets id := by
    have moved := Manager.held_become state w worker (Item.ticket id)
    have less := Worker.weigh_le keeps (Item.ticket id)
    have same : (state.become w worker).built = state.built := rfl
    rw [here] at moved
    simp only [Manager.tickets, same]
    omega
  running id := by
    have moved := Manager.running_become state w worker id
    rw [here, Worker.running_outside leaves, Worker.running_outside comes] at moved
    exact moved
  timing id := by
    have moved := Manager.timing_become state w worker id
    rw [here, Worker.timing_outside leaves, Worker.timing_outside comes] at moved
    exact moved

theorem Quiet.pop {w : Fin numWorker} {now : Int} {worker : Worker} {it : Item}
    {mapItems : List Nat} (heap : BinaryHeap.IsHeap compare state.heapItems)
    (front : state.heapItems[0]? = some it) (here : state.workers w = .inspecting now)
    (keeps : worker.item = some it ∨ worker.item = none) (comes : worker.outside = true) :
    Quiet state ({ state.popHeap with mapItems := mapItems }.become w worker) where
  tasks := rfl
  history := rfl
  nextId := rfl
  destroying id listed := Or.inl listed
  present id := by
    have popped := Manager.held_popHeap heap front (Item.forTask id)
    have moved := Manager.held_become state.popHeap w worker (Item.forTask id)
    have less : worker.weigh (Item.forTask id) ≤ it.forTask id := Worker.weigh_le_of keeps _
    have same : state.popHeap.workers w = .inspecting now := here
    rw [same] at moved
    simp only [Manager.present]
    change state.built.count id + (state.popHeap.become w worker).held (Item.forTask id) ≤ _
    omega
  tickets id := by
    have popped := Manager.held_popHeap heap front (Item.ticket id)
    have moved := Manager.held_become state.popHeap w worker (Item.ticket id)
    have less : worker.weigh (Item.ticket id) ≤ it.ticket id := Worker.weigh_le_of keeps _
    have same : state.popHeap.workers w = .inspecting now := here
    rw [same] at moved
    simp only [Manager.tickets]
    change state.built.count id + (state.popHeap.become w worker).held (Item.ticket id) ≤ _
    omega
  running id := by
    have moved := Manager.running_become state w worker id
    rw [here, Worker.running_outside comes] at moved
    exact moved
  timing id := by
    have moved := Manager.timing_become state w worker id
    rw [here, Worker.timing_outside comes] at moved
    exact moved

theorem Quiet.giveBack {w : Fin numWorker} {now : Int} {it : Item}
    (heap : BinaryHeap.IsHeap compare state.heapItems)
    (here : state.workers w = .returning now it) :
    Quiet state ((state.pushHeap it).become w (.resting now)) where
  tasks := rfl
  history := rfl
  nextId := rfl
  destroying id listed := Or.inl listed
  present id := by
    have pushed := Manager.held_pushHeap heap it (Item.forTask id)
    have moved := Manager.held_become (state.pushHeap it) w (.resting now) (Item.forTask id)
    have same : (state.pushHeap it).workers w = .returning now it := here
    simp only [same, Worker.weigh, Worker.item, Option.elim_none, Option.elim_some] at moved
    simp only [Manager.present]
    change state.built.count id + _ ≤ _
    omega
  tickets id := by
    have pushed := Manager.held_pushHeap heap it (Item.ticket id)
    have moved := Manager.held_become (state.pushHeap it) w (.resting now) (Item.ticket id)
    have same : (state.pushHeap it).workers w = .returning now it := here
    simp only [same, Worker.weigh, Worker.item, Option.elim_none, Option.elim_some] at moved
    simp only [Manager.tickets]
    change state.built.count id + _ ≤ _
    omega
  running id := by
    have moved := Manager.running_become state w (.resting now) id
    simp only [here, Worker.running] at moved
    exact moved
  timing id := by
    have moved := Manager.timing_become state w (.resting now) id
    simp only [here, Worker.timing] at moved
    exact moved

theorem Inspected.quiet {w : Fin numWorker} {now : Int} (inspected : Inspected state w now next)
    (heap : BinaryHeap.IsHeap compare state.heapItems) (here : state.workers w = .inspecting now) :
    Quiet state next := by
  cases inspected with
  | rests _ => exact Quiet.become here (Or.inr rfl) rfl rfl
  | drops front _ => exact Quiet.pop heap front here (Or.inr rfl) rfl
  | expires front _ _ => exact Quiet.pop heap front here (Or.inl rfl) rfl
  | starts front _ _ _ ready => exact Quiet.pop heap front here (Or.inl rfl) rfl

theorem rest_quiet {w : Fin numWorker} {now : Int} (here : state.workers w = .resting now) :
    Quiet state (state.rest w now) := by
  rw [rest_become]
  split
  · exact Quiet.become here (Or.inr rfl) rfl rfl
  · exact Quiet.become here (Or.inr rfl) rfl rfl

theorem work_cases {w : Fin numWorker} {destroysItself : Bool}
    (heap : BinaryHeap.IsHeap compare state.heapItems)
    (worked : state.work w destroysItself = some next) :
    Quiet state next ∨ Loud state next := by
  cases work_inversion worked with
  | loops here | skipsTimeout here _ _ | wakes here _ =>
      exact Or.inl (Quiet.become here (Or.inr rfl) rfl rfl)
  | inspects here inspected => exact Or.inl (inspected.quiet heap here)
  | timesOut here free alive => exact Or.inr (.timesOut here free alive)
  | timedOut here => exact Or.inr (.timedOut here)
  | skipsExecute here _ _ => exact Or.inl (Quiet.become here (Or.inl rfl) rfl rfl)
  | executes here free alive => exact Or.inr (.executes here free alive)
  | executed here _ => exact Or.inr (.executed here)
  | destroysItself here _ => exact Or.inr (.destroysItself here)
  | findsDestroyed here _ | findsAlive here _ =>
      exact Or.inl (Quiet.become here (Or.inl rfl) rfl rfl)
  | @drops now it here =>
      have dropped : Quiet state (state.become w (.resting now)) :=
        Quiet.become here (Or.inr rfl) rfl rfl
      exact Or.inl { dropped with }
  | givesBack here => exact Or.inl (Quiet.giveBack heap here)
  | rests here => exact Or.inl (rest_quiet here)

theorem notifyOne_quiet {woken : Option (Fin numWorker)}
    (notified : state.notifyOne woken = some next) : Quiet state next := by
  rcases notifyOne_cases notified with rfl | ⟨w, deadline, here, rfl⟩
  · exact Quiet.refl next
  · exact Quiet.become here (Or.inr rfl) rfl rfl

theorem count_built {id : Nat} (isBuilt : id ∈ state.built) (other : Nat) :
    (state.built.erase id).count other + (if id = other then 1 else 0) =
      state.built.count other := by
  have positive := List.count_pos_iff.mpr isBuilt
  rw [List.count_erase]
  by_cases same : id = other
  · subst same
    simp only [beq_self_eq_true, if_true]
    omega
  · simp [same]

theorem insert_quiet {it : Item} (heap : BinaryHeap.IsHeap compare state.heapItems)
    (isBuilt : it.task ∈ state.built) : Quiet state ((state.handOver it.task).insert it) where
  tasks := rfl
  history := rfl
  nextId := rfl
  destroying id listed := Or.inl listed
  present id := by
    have gone := count_built isBuilt id
    have grown := Manager.held_pushHeap heap it (Item.forTask id)
    have worth : it.forTask id = if it.task = id then 1 else 0 := rfl
    change (state.built.erase it.task).count id + (state.pushHeap it).held _ ≤
      state.built.count id + state.held _
    omega
  tickets id := by
    have gone := count_built isBuilt id
    have grown := Manager.held_pushHeap heap it (Item.ticket id)
    have worth : it.ticket id ≤ if it.task = id then 1 else 0 := by
      simp only [Item.ticket]
      split <;> split <;> simp_all
    change (state.built.erase it.task).count id + (state.pushHeap it).held _ ≤
      state.built.count id + state.held _
    omega
  running id := rfl
  timing id := rfl

theorem dispatch_quiet {id : Nat} {executeAtTime maxStayAtTime : Int}
    {woken : Option (Fin numWorker)} (heap : BinaryHeap.IsHeap compare state.heapItems)
    (dispatched : state.dispatchBuilt id executeAtTime maxStayAtTime woken = some next) :
    Quiet state next := by
  obtain ⟨isBuilt, handed⟩ := dispatchBuilt_some.mp dispatched
  have inserted : Quiet state
      ((state.handOver id).insert (Item.waiting id executeAtTime maxStayAtTime)) :=
    @insert_quiet _ _ (Item.waiting id executeAtTime maxStayAtTime) heap isBuilt
  cases dispatch_cases handed with
  | known _ =>
      refine { Quiet.refl state with present := ?_, tickets := ?_ }
      · intro other
        have gone := count_built isBuilt other
        change (state.built.erase _).count other + state.held _ ≤
          state.built.count other + state.held _
        omega
      · intro other
        have gone := count_built isBuilt other
        change (state.built.erase _).count other + state.held _ ≤
          state.built.count other + state.held _
        omega
  | goesIn _ _ => exact inserted
  | goesFirst _ _ _ notified => exact inserted.trans (notifyOne_quiet notified)

theorem step_cases {event : Event numWorker} (heap : BinaryHeap.IsHeap compare state.heapItems)
    (stepped : step state event = some next) : Quiet state next ∨ Loud state next := by
  cases event with
  | tick elapsed =>
      cases stepped
      exact Or.inl { Quiet.refl state with }
  | build certificate =>
      cases stepped
      exact Or.inr (.built certificate)
  | dispatch id executeAtTime maxStayAtTime woken => exact Or.inl (dispatch_quiet heap stepped)
  | work w destroysItself => exact work_cases heap stepped
  | lookUp id certificate =>
      cases stepped
      simp only [Manager.lookUp]
      split
      · rename_i found
        refine Or.inl { Quiet.refl state with destroying := ?_ }
        intro other listed
        rcases List.mem_cons.mp listed with rfl | before
        · right
          intro missing
          have certified := found.2
          rw [missing] at certified
          contradiction
        · exact Or.inl before
      · exact Or.inl (Quiet.refl state)
  | destroy id =>
      obtain ⟨⟨lookedUp, free⟩, ⟨_, rfl⟩ | ⟨alive, rfl⟩⟩ := destroy_cases stepped
      · refine Or.inl { Quiet.refl state with destroying := ?_ }
        exact fun other listed => Or.inl (List.mem_of_mem_erase listed)
      · exact Or.inr (.handsOut lookedUp free alive)

theorem Inspected.heap {w : Fin numWorker} {now : Int} (inspected : Inspected state w now next)
    (heap : BinaryHeap.IsHeap compare state.heapItems) :
    BinaryHeap.IsHeap compare next.heapItems := by
  cases inspected with
  | rests _ => exact heap
  | drops front | expires front | starts front => exact (Manager.popHeap_heap heap front).1

theorem work_heap {w : Fin numWorker} {destroysItself : Bool}
    (heap : BinaryHeap.IsHeap compare state.heapItems)
    (worked : state.work w destroysItself = some next) :
    BinaryHeap.IsHeap compare next.heapItems := by
  cases work_inversion worked with
  | inspects _ inspected => exact inspected.heap heap
  | givesBack _ => exact (Manager.pushHeap_heap heap _).1
  | rests _ =>
      rw [rest_become]
      exact heap
  | _ => exact heap

theorem notifyOne_heapItems {woken : Option (Fin numWorker)}
    (notified : state.notifyOne woken = some next) : next.heapItems = state.heapItems := by
  rcases notifyOne_cases notified with rfl | ⟨w, deadline, here, rfl⟩
  · rfl
  · rfl

theorem work_frame {w : Fin numWorker} {destroysItself : Bool}
    (worked : state.work w destroysItself = some next) :
    next.built = state.built ∧ ∀ v, v ≠ w → next.workers v = state.workers v := by
  have moved : ∀ worker : Worker, ∀ v, v ≠ w →
      Function.update state.workers w worker v = state.workers v :=
    fun worker v other => Function.update_of_ne other worker state.workers
  cases work_inversion worked with
  | inspects _ inspected => cases inspected <;> exact ⟨rfl, moved _⟩
  | rests _ =>
      rw [rest_become]
      exact ⟨rfl, moved _⟩
  | _ => exact ⟨rfl, moved _⟩

theorem notifyOne_frame {woken : Option (Fin numWorker)}
    (notified : state.notifyOne woken = some next) : next.built = state.built ∧
      ∀ v, (state.workers v).sleeping = false → next.workers v = state.workers v := by
  rcases notifyOne_cases notified with rfl | ⟨w, deadline, here, rfl⟩
  · exact ⟨rfl, fun _ _ => rfl⟩
  · refine ⟨rfl, fun v awake => Function.update_of_ne ?_ _ _⟩
    rintro rfl
    rw [here] at awake
    contradiction

theorem step_heap {event : Event numWorker} (heap : BinaryHeap.IsHeap compare state.heapItems)
    (stepped : step state event = some next) : BinaryHeap.IsHeap compare next.heapItems := by
  cases event with
  | tick elapsed =>
      cases stepped
      exact heap
  | build certificate =>
      cases stepped
      exact heap
  | dispatch id executeAtTime maxStayAtTime woken =>
      have pushed := (Manager.pushHeap_heap heap (Item.waiting id executeAtTime maxStayAtTime)).1
      cases dispatch_cases (dispatchBuilt_some.mp stepped).2 with
      | known _ => exact heap
      | goesIn _ _ => exact pushed
      | goesFirst _ _ _ notified =>
          rw [notifyOne_heapItems notified]
          exact pushed
  | work w destroysItself => exact work_heap heap stepped
  | lookUp id certificate =>
      cases stepped
      simp only [Manager.lookUp]
      split <;> exact heap
  | destroy id =>
      obtain ⟨-, ⟨-, rfl⟩ | ⟨-, rfl⟩⟩ := destroy_cases stepped
      · exact heap
      · exact heap

end

end TaskManager

end EasyViewer
