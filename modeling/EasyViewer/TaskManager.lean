import EasyViewer.Library.BinaryHeap
import EasyViewer.Library.Run
import Mathlib.Data.Fintype.Basic
import Mathlib.Logic.Function.Basic

/-!
`TaskManager.cpp` with its worker threads. A step is what one thread does between two
points where another thread can come in: one section under `m_mutex`, one section
under a task's lock, or the start or the end of `execute` and `timeout`. Times are
milliseconds, and the clock moves whenever it wants to.
-/

namespace EasyViewer

namespace TaskManager

/-- A worker executes an item only if it has not expired by then. -/
structure Item where
  task : Nat
  executeAtTime : Int
  maxStayAtTime : Int
  executed : Bool := false
  inTime : executed = true → executeAtTime ≤ maxStayAtTime := by simp
  deriving DecidableEq, Repr

def Item.waiting (id : Nat) (executeAtTime maxStayAtTime : Int) : Item :=
  { task := id, executeAtTime := executeAtTime, maxStayAtTime := maxStayAtTime }

def Item.dueTime (item : Item) : Int :=
  if item.executed then item.maxStayAtTime else item.executeAtTime

def compare (it1 it2 : Item) : Bool := it2.dueTime < it1.dueTime

structure ITask where
  certificate : UInt32
  destroyed : Bool := false
  locked : Bool := false
  deriving DecidableEq, Repr

/-- Where a worker is in `exec`, with the locals it still reads. -/
inductive Worker where
  | looping
  | inspecting (now : Int)
  | expiring (now : Int) (it : Item)
  | timingOut (now : Int) (it : Item)
  | starting (now : Int) (it : Item)
      (ready : it.executed = false ∧ it.executeAtTime ≤ it.maxStayAtTime)
  | executing (now : Int) (it : Item)
  | checking (now : Int) (it : Item)
  | dropping (now : Int) (it : Item)
  | returning (now : Int) (it : Item)
  | resting (now : Int)
  | waiting (deadline : Int) (notified : Bool)
  deriving DecidableEq, Repr

def Worker.sleeping : Worker → Bool
  | .waiting _ false => true
  | _ => false

/-- What happens to a task, in the order in which it happens: `handsOut` is a `destroy`
that gives the task to its caller. -/
inductive Mark where
  | executes (id : Nat)
  | destroysItself (id : Nat)
  | timesOut (id : Nat)
  | timedOut (id : Nat)
  | handsOut (id : Nat)
  deriving DecidableEq, Repr

/-- `built` are tasks made for a `dispatch` that has not reached the mutex yet, and
`destroying` those that a `destroy` has looked up but not locked yet. -/
structure Manager (numWorker : Nat) where
  clock : Int := 0
  nextId : Nat := 1
  tasks : Nat → Option ITask := fun _ => none
  built : List Nat := []
  mapItems : List Nat := []
  heapItems : Array Item := #[]
  workers : Fin numWorker → Worker := fun _ => .looping
  destroying : List Nat := []
  history : List Mark := []

inductive Event (numWorker : Nat) where
  | tick (elapsed : Nat)
  | build (certificate : UInt32)
  | dispatch (id : Nat) (executeAtTime maxStayAtTime : Int) (woken : Option (Fin numWorker))
  | work (worker : Fin numWorker) (destroysItself : Bool)
  | lookUp (id : Nat) (certificate : UInt32)
  | destroy (id : Nat)
  deriving DecidableEq, Repr

section

variable {numWorker : Nat}

namespace Manager

def destroyed (state : Manager numWorker) (id : Nat) : Bool := (state.tasks id).any ITask.destroyed

def locked (state : Manager numWorker) (id : Nat) : Bool := (state.tasks id).any ITask.locked

def setTask (state : Manager numWorker) (id : Nat) (change : ITask → ITask) : Manager numWorker :=
  { state with tasks := Function.update state.tasks id ((state.tasks id).map change) }

def lock (state : Manager numWorker) (id : Nat) : Manager numWorker :=
  state.setTask id fun task => { task with locked := true }

def unlock (state : Manager numWorker) (id : Nat) : Manager numWorker :=
  state.setTask id fun task => { task with locked := false }

def destroyTask (state : Manager numWorker) (id : Nat) : Manager numWorker :=
  state.setTask id fun task => { task with destroyed := true }

def mark (state : Manager numWorker) (mark : Mark) : Manager numWorker :=
  { state with history := state.history ++ [mark] }

def become (state : Manager numWorker) (w : Fin numWorker) (worker : Worker) : Manager numWorker :=
  { state with workers := Function.update state.workers w worker }

def popHeap (state : Manager numWorker) : Manager numWorker :=
  { state with heapItems := (BinaryHeap.popHeap compare state.heapItems).pop }

def pushHeap (state : Manager numWorker) (it : Item) : Manager numWorker :=
  { state with
    heapItems := BinaryHeap.pushHeap compare (state.heapItems.push it) (state.heapItems.size + 1) }

def insert (state : Manager numWorker) (it : Item) : Manager numWorker :=
  { state with mapItems := it.task :: state.mapItems }.pushHeap it

def eraseItem (state : Manager numWorker) (id : Nat) : Manager numWorker :=
  { state with mapItems := state.mapItems.erase id }

/-- `m_cv.notify_one`, which picks one of the threads that wait. -/
def notifyOne (state : Manager numWorker) (woken : Option (Fin numWorker)) :
    Option (Manager numWorker) :=
  match woken with
  | none => if ∀ w, ¬ (state.workers w).sleeping then some state else none
  | some w =>
      match state.workers w with
      | .waiting deadline false => some (state.become w (.waiting deadline true))
      | _ => none

def build (state : Manager numWorker) (certificate : UInt32) : Manager numWorker :=
  { state with
    nextId := state.nextId + 1
    tasks := Function.update state.tasks state.nextId (some { certificate := certificate })
    built := state.nextId :: state.built }

def dispatch (state : Manager numWorker) (id : Nat) (executeAtTime maxStayAtTime : Int)
    (woken : Option (Fin numWorker)) : Option (Manager numWorker) :=
  if id ∈ state.mapItems then some state
  else
    let inserted := state.insert (Item.waiting id executeAtTime maxStayAtTime)
    match inserted.heapItems[0]? with
    | none => some inserted
    | some front =>
        if executeAtTime < front.executeAtTime then inserted.notifyOne woken
        else some inserted

/-- The task is handed over, and its maker has no other pointer to it. -/
def handOver (state : Manager numWorker) (id : Nat) : Manager numWorker :=
  { state with built := state.built.erase id }

/-- The callers of `dispatch`: each of the three makes a task and dispatches it, once. -/
def dispatchBuilt (state : Manager numWorker) (id : Nat) (executeAtTime maxStayAtTime : Int)
    (woken : Option (Fin numWorker)) : Option (Manager numWorker) :=
  if id ∈ state.built then (state.handOver id).dispatch id executeAtTime maxStayAtTime woken
  else none

/-- The first half of `destroy`, under `m_mutex`. -/
def lookUp (state : Manager numWorker) (id : Nat) (certificate : UInt32) : Manager numWorker :=
  if id ∈ state.mapItems ∧ (state.tasks id).any (fun task => task.certificate = certificate)
  then
    { state with destroying := id :: state.destroying }
  else state

def destroy (state : Manager numWorker) (id : Nat) : Option (Manager numWorker) :=
  if id ∈ state.destroying ∧ ¬ state.locked id then
    let left := { state with destroying := state.destroying.erase id }
    if state.destroyed id then some left else some ((left.destroyTask id).mark (.handsOut id))
  else none

/-- What `exec` does under `m_mutex` with the front of the heap. -/
def inspect (state : Manager numWorker) (w : Fin numWorker) (now : Int) : Manager numWorker :=
  match state.heapItems[0]? with
  | none => state.become w (.resting now)
  | some it =>
      if state.destroyed it.task then (state.popHeap.eraseItem it.task).become w (.resting now)
      else if expired : it.maxStayAtTime < now then
        (state.popHeap.eraseItem it.task).become w (.expiring now it)
      else if due : it.executeAtTime < now ∧ it.executed = false then
        state.popHeap.become w (.starting now it ⟨due.2, by omega⟩)
      else state.become w (.resting now)

def dif (state : Manager numWorker) (now : Int) : Int :=
  match state.heapItems[0]? with
  | none => 50
  | some it => it.dueTime - now

/-- The end of `exec`'s loop: how long the worker waits is counted from the time it read
at the loop's head. -/
def rest (state : Manager numWorker) (w : Fin numWorker) (now : Int) : Manager numWorker :=
  if 0 < state.dif now then state.become w (.waiting (state.clock + state.dif now) false)
  else state.become w .looping

/-- The next section of `exec`; a lock that another thread holds blocks it. -/
def work (state : Manager numWorker) (w : Fin numWorker) (destroysItself : Bool) :
    Option (Manager numWorker) :=
  match state.workers w with
  | .looping => some (state.become w (.inspecting state.clock))
  | .inspecting now => some (state.inspect w now)
  | .expiring now it =>
      if state.locked it.task then none
      else if state.destroyed it.task then some (state.become w (.resting now))
      else some (((state.lock it.task).mark (.timesOut it.task)).become w (.timingOut now it))
  | .timingOut now it =>
      some ((((state.destroyTask it.task).mark (.timedOut it.task)).unlock it.task).become w
        (.resting now))
  | .starting now it ready =>
      if state.locked it.task then none
      else if state.destroyed it.task then some (state.become w (.dropping now it))
      else
        some (((state.lock it.task).mark (.executes it.task)).become w
          (.executing now { it with executed := true, inTime := fun _ => ready.2 }))
  | .executing now it =>
      let executed :=
        if destroysItself then (state.destroyTask it.task).mark (.destroysItself it.task) else state
      some ((executed.unlock it.task).become w (.checking now it))
  | .checking now it =>
      some (state.become w
        (if state.destroyed it.task then .dropping now it else .returning now it))
  | .dropping now it => some ((state.eraseItem it.task).become w (.resting now))
  | .returning now it => some ((state.pushHeap it).become w (.resting now))
  | .resting now => some (state.rest w now)
  | .waiting deadline notified =>
      if notified ∨ deadline ≤ state.clock then some (state.become w .looping) else none

end Manager

def step (state : Manager numWorker) : Event numWorker → Option (Manager numWorker)
  | .tick elapsed => some { state with clock := state.clock + elapsed }
  | .build certificate => some (state.build certificate)
  | .dispatch id executeAtTime maxStayAtTime woken =>
      state.dispatchBuilt id executeAtTime maxStayAtTime woken
  | .work w destroysItself => state.work w destroysItself
  | .lookUp id certificate => some (state.lookUp id certificate)
  | .destroy id => state.destroy id

def initial (numWorker : Nat) : Manager numWorker := {}

end

end TaskManager

end EasyViewer
