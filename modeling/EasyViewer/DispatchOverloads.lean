import EasyViewer.ManagerContainers

/-!
The three public overloads of `dispatch`. A task that is given a time to be executed at
and nothing else gets this time as its maximal stay too, and a worker tests the stay first.
-/

namespace EasyViewer

namespace TaskManager

def maxTimeout : Nat := 57600000

/-- A call of one of the overloads; `now` is the time that the first one read before the mutex. -/
inductive Overload where
  | withTimeout (now : Int) (msTimeout : UInt32)
  | atTime (executeAtTime : Int)
  | atTimeWithTimeout (executeAtTime : Int) (msTimeout : UInt32)
  deriving DecidableEq

namespace Overload

def cappedTimeout (msTimeout : UInt32) : Int :=
  if maxTimeout < msTimeout.toNat then maxTimeout else msTimeout.toNat

/-- The execution time and the maximal stay that reach the last overload. `null` is the time that
a null `QDateTime` is compared as. -/
def times (null : Int) : Overload → Int × Int
  | .withTimeout now msTimeout => (null, now + cappedTimeout msTimeout)
  | .atTime executeAtTime => (executeAtTime, executeAtTime)
  | .atTimeWithTimeout executeAtTime msTimeout =>
      (executeAtTime, executeAtTime + cappedTimeout msTimeout)

def hasTimeout : Overload → Bool
  | .atTime _ => false
  | _ => true

end Overload

structure OverloadedManager (numWorker : Nat) where
  manager : Manager numWorker := {}
  uses : Nat → Option Overload := fun _ => none

inductive OverloadEvent (numWorker : Nat) where
  | dispatch (id : Nat) (overload : Overload) (woken : Option (Fin numWorker))
  | other (event : Event numWorker)

section

variable {numWorker : Nat} {null : Int}

def overloadStep (null : Int) (state : OverloadedManager numWorker) :
    OverloadEvent numWorker → Option (OverloadedManager numWorker)
  | .dispatch id overload woken =>
      (state.manager.dispatchBuilt id (overload.times null).1 (overload.times null).2 woken).map
        fun manager => { manager := manager, uses := Function.update state.uses id (some overload) }
  | .other event => (step state.manager event).map fun manager => { state with manager := manager }

/-- A worker finds the task at the front after its execution time, before its maximal stay when
the overload takes a time-out, and not destroyed. -/
def Examines (state : OverloadedManager numWorker) (event : OverloadEvent numWorker) (id : Nat)
    (overload : Overload) : Prop :=
  state.uses id = some overload ∧ ∃ w destroysItself now it,
    event = .other (.work w destroysItself) ∧ state.manager.workers w = .inspecting now ∧
      state.manager.heapItems[0]? = some it ∧ it.task = id ∧ it.executeAtTime < now ∧
      (overload.hasTimeout = true → now ≤ it.maxStayAtTime) ∧ state.manager.destroyed id = false

/-- Whenever `timeout` was called for the task, `execute` was called before. -/
def TimesOutAfter (id : Nat) (history : List Mark) : Prop :=
  ∀ before after, history = before ++ .timesOut id :: after → Mark.executes id ∈ before

/-- `execute` was called, and before any `timeout`; or `timeout` was not called and `execute` is
what a worker does next for the task, unless it was destroyed. -/
def ExecutesFirst (id : Nat) (state : Manager numWorker) : Prop :=
  (Mark.executes id ∈ state.history ∧ TimesOutAfter id state.history) ∨
    Mark.timesOut id ∉ state.history ∧ (state.destroyed id = true ∨
      ∃ w, ∀ destroysItself, ∃ next, step state (.work w destroysItself) = some next ∧
        next.history = state.history ++ [.executes id])

/-- In the run every task that is examined in time is executed before it can time out. -/
def ExecutedInTime (null : Int) (events : List (OverloadEvent numWorker)) : Prop :=
  ∀ before state event next,
    Transition.Happens (overloadStep null) {} events before state event next →
      ∀ id overload, Examines state event id overload →
        ∀ later final, Transition.run (overloadStep null) next later = some final →
          ExecutesFirst id final.manager

variable {state next : Manager numWorker}

def Single (state : Manager numWorker) : Prop := ∀ id, state.present id ≤ 1

theorem Single.step {event : Event numWorker} (single : Single state) (orderly : Orderly state)
    (stepped : step state event = some next) : Single next := by
  intro id
  rcases step_effect orderly stepped with ⟨left, effect⟩ | ⟨certificate, rfl⟩
  · exact (effect.present id).trans (single id)
  · have fresh := orderly.absent state.nextId (orderly.unknown state.nextId (Nat.le_refl _))
    have before := single id
    change (state.nextId :: state.built).count id + state.held (Item.forTask id) ≤ 1
    simp only [Manager.present] at before fresh
    rw [List.count_cons]
    split
    · rename_i same
      rw [← beq_iff_eq.mp same]
      omega
    · exact before

theorem Manager.front_present {it : Item} (member : it ∈ state.heapItems.toList) :
    0 < (state.heapItems.toList.map (Item.forTask it.task)).sum := by
  refine Nat.lt_of_lt_of_le Nat.one_pos ?_
  have own : it.forTask it.task = 1 := if_pos rfl
  rw [← own]
  exact List.le_sum_of_mem (List.mem_map_of_mem member)

theorem Manager.hand_present {w : Fin numWorker} {it : Item}
    (carried : (state.workers w).item = some it) :
    (state.workers w).weigh (Item.forTask it.task) = 1 := by
  simp [Worker.weigh, carried, Item.forTask]

theorem Single.only {w : Fin numWorker} {it : Item} (single : Single state)
    (carried : (state.workers w).item = some it) :
    (∀ other otherItem, (state.workers other).item = some otherItem → otherItem.task = it.task →
      other = w) ∧ (∀ otherItem ∈ state.heapItems.toList, otherItem.task ≠ it.task) ∧
      it.task ∉ state.built := by
  have few := single it.task
  have own := Manager.hand_present carried
  simp only [Manager.present, Manager.held] at few
  refine ⟨fun other otherItem otherCarried same => ?_, fun otherItem member same => ?_,
    fun listed => ?_⟩
  · by_contra different
    have otherOwn := Manager.hand_present otherCarried
    rw [same] at otherOwn
    have both := Threads.add_le_tally (Worker.weigh (Item.forTask it.task)) state.workers different
    omega
  · have inHeap := Manager.front_present member
    have inHands := Threads.le_tally (Worker.weigh (Item.forTask it.task)) state.workers w
    rw [same] at inHeap
    omega
  · have counted := List.count_pos_iff.mpr listed
    have inHands := Threads.le_tally (Worker.weigh (Item.forTask it.task)) state.workers w
    omega

/-- An executed item was executed, and an item has the times of its overload. -/
def ItemSound (null : Int) (uses : Nat → Option Overload) (history : List Mark) (it : Item) :
    Prop :=
  (it.executed = true → Mark.executes it.task ∈ history) ∧
    ∀ overload, uses it.task = some overload →
      (it.executeAtTime, it.maxStayAtTime) = overload.times null

/-- A worker takes an item out to execute only if it may stay longer than its execution time. -/
def WorkerSound (null : Int) (uses : Nat → Option Overload) (history : List Mark)
    (worker : Worker) : Prop :=
  ∀ it, worker.item = some it → ItemSound null uses history it ∧
    (worker.executes = some it → it.executeAtTime < it.maxStayAtTime)

structure PlacesSound (null : Int) (uses : Nat → Option Overload) (state : Manager numWorker) :
    Prop where
  heap : ∀ it ∈ state.heapItems.toList, ItemSound null uses state.history it
  workers : ∀ w, WorkerSound null uses state.history (state.workers w)

variable {uses : Nat → Option Overload}

theorem ItemSound.mono {history longer : List Mark} {it : Item}
    (sound : ItemSound null uses history it) (grows : ∀ mark ∈ history, mark ∈ longer) :
    ItemSound null uses longer it :=
  ⟨fun executed => grows _ (sound.1 executed), sound.2⟩

theorem PlacesSound.moved {w : Fin numWorker} {worker : Worker}
    (sound : PlacesSound null uses state)
    (workers : next.workers = Function.update state.workers w worker)
    (grows : ∀ mark ∈ state.history, mark ∈ next.history)
    (heap : ∀ it ∈ next.heapItems.toList, it ∈ state.heapItems.toList ∨
      ItemSound null uses next.history it)
    (here : WorkerSound null uses next.history worker) : PlacesSound null uses next where
  heap := by
    intro it member
    rcases heap it member with before | now
    · exact (sound.heap it before).mono grows
    · exact now
  workers := by
    intro v
    rw [workers]
    by_cases same : v = w
    · subst same
      rwa [Function.update_self]
    · rw [Function.update_of_ne same]
      intro it carried
      obtain ⟨item, lasts⟩ := sound.workers v it carried
      exact ⟨item.mono grows, lasts⟩

theorem WorkerSound.idle {history : List Mark} {worker : Worker} (idle : worker.item = none) :
    WorkerSound null uses history worker := by
  intro it carried
  rw [idle] at carried
  contradiction

theorem mem_popHeap (heap : BinaryHeap.IsHeap compare state.heapItems) {it other : Item}
    (front : state.heapItems[0]? = some it) (member : other ∈ state.popHeap.heapItems.toList) :
    other ∈ state.heapItems.toList := by
  have moved := (Manager.popHeap_heap heap front).2.toList
  rw [Array.toList_push] at moved
  exact moved.mem_iff.mp (List.mem_append_left _ member)

theorem mem_pushHeap (heap : BinaryHeap.IsHeap compare state.heapItems) {it other : Item}
    (member : other ∈ (state.pushHeap it).heapItems.toList) :
    other ∈ state.heapItems.toList ∨ other = it := by
  have moved := (Manager.pushHeap_heap heap it).2.toList
  rw [Array.toList_push] at moved
  exact (List.mem_append.mp (moved.mem_iff.mp member)).imp_right List.mem_singleton.mp

theorem front_mem {it : Item} (front : state.heapItems[0]? = some it) :
    it ∈ state.heapItems.toList := by
  obtain ⟨nonempty, rfl⟩ := Manager.front_exists front
  exact Array.mem_toList_iff.mpr (Array.getElem_mem nonempty)

theorem PlacesSound.inspect (sound : PlacesSound null uses state)
    (heap : BinaryHeap.IsHeap compare state.heapItems) {w : Fin numWorker} {now : Int}
    (inspected : Inspected state w now next) : PlacesSound null uses next := by
  have popped : ∀ it, state.heapItems[0]? = some it → ∀ other ∈ state.popHeap.heapItems.toList,
      other ∈ state.heapItems.toList ∨ ItemSound null uses state.history other :=
    fun it front other member => Or.inl (mem_popHeap heap front member)
  cases inspected with
  | rests _ => exact sound.moved rfl (fun _ => id) (fun _ => Or.inl) (.idle rfl)
  | drops front _ => exact sound.moved rfl (fun _ => id) (popped _ front) (.idle rfl)
  | expires front _ _ =>
      refine sound.moved rfl (fun _ => id) (popped _ front) fun other carried => ?_
      cases carried
      exact ⟨sound.heap _ (front_mem front), fun taken => by cases taken⟩
  | starts front _ inStay due _ =>
      refine sound.moved rfl (fun _ => id) (popped _ front) fun other carried => ?_
      cases carried
      exact ⟨sound.heap _ (front_mem front), fun _ => by omega⟩

theorem PlacesSound.work (sound : PlacesSound null uses state)
    (heap : BinaryHeap.IsHeap compare state.heapItems) {w : Fin numWorker} {destroysItself : Bool}
    (worked : state.work w destroysItself = some next) : PlacesSound null uses next := by
  cases work_inversion worked with
  | inspects _ inspected => exact sound.inspect heap inspected
  | loops | skipsTimeout | drops | wakes =>
      exact sound.moved rfl (fun _ => id) (fun _ => Or.inl) (.idle rfl)
  | timedOut _ =>
      exact sound.moved rfl (fun mark => List.mem_append_left _) (fun _ => Or.inl) (.idle rfl)
  | rests _ =>
      rw [rest_become]
      refine sound.moved rfl (fun _ => id) (fun _ => Or.inl) (.idle ?_)
      split <;> rfl
  | @timesOut now it here _ _ =>
      obtain ⟨item, _⟩ := sound.workers w it (by rw [here]; rfl)
      have grows : ∀ mark ∈ state.history, mark ∈ state.history ++ [.timesOut it.task] :=
        fun mark => List.mem_append_left _
      refine sound.moved rfl grows (fun _ => Or.inl) fun other carried => ?_
      cases carried
      exact ⟨item.mono grows, fun taken => by cases taken⟩
  | @executes now it ready here _ _ =>
      obtain ⟨item, lasts⟩ := sound.workers w it (by rw [here]; rfl)
      refine sound.moved rfl (fun mark => List.mem_append_left _) (fun _ => Or.inl)
        fun other carried => ?_
      cases carried
      exact ⟨⟨fun _ => List.mem_append_right _ (List.mem_singleton_self _), item.2⟩,
        fun _ => lasts (by rw [here]; rfl)⟩
  | @destroysItself now it here _ =>
      obtain ⟨item, lasts⟩ := sound.workers w it (by rw [here]; rfl)
      have grows : ∀ mark ∈ state.history, mark ∈ state.history ++ [.destroysItself it.task] :=
        fun mark => List.mem_append_left _
      refine sound.moved rfl grows (fun _ => Or.inl) fun other carried => ?_
      cases carried
      exact ⟨item.mono grows, fun _ => lasts (by rw [here]; rfl)⟩
  | skipsExecute here | executed here | findsDestroyed here | findsAlive here =>
      -- the worker keeps the item it holds
      refine sound.moved rfl (fun _ => id) (fun _ => Or.inl) fun other carried => ?_
      cases carried
      obtain ⟨item, lasts⟩ := sound.workers w _ (by rw [here]; rfl)
      exact ⟨item, fun _ => lasts (by rw [here]; rfl)⟩
  | @givesBack now it here =>
      obtain ⟨item, _⟩ := sound.workers w it (by rw [here]; rfl)
      refine sound.moved rfl (fun _ => id) (fun other member => ?_) (.idle rfl)
      rcases mem_pushHeap heap member with before | rfl
      · exact Or.inl before
      · exact Or.inr item

theorem PlacesSound.kept (sound : PlacesSound null uses state)
    (workers : next.workers = state.workers)
    (heap : ∀ it ∈ next.heapItems.toList, it ∈ state.heapItems.toList ∨
      ItemSound null uses next.history it)
    (grows : ∀ mark ∈ state.history, mark ∈ next.history) : PlacesSound null uses next where
  heap := by
    intro it member
    rcases heap it member with before | now
    · exact (sound.heap it before).mono grows
    · exact now
  workers := by
    intro w it carried
    rw [workers] at carried
    obtain ⟨item, lasts⟩ := sound.workers w it carried
    rw [workers]
    exact ⟨item.mono grows, lasts⟩

theorem PlacesSound.notifyOne (sound : PlacesSound null uses state)
    {woken : Option (Fin numWorker)} (notified : state.notifyOne woken = some next) :
    PlacesSound null uses next := by
  rcases notifyOne_cases notified with rfl | ⟨w, deadline, here, rfl⟩
  · exact sound
  · exact sound.moved rfl (fun _ => id) (fun _ => Or.inl) (.idle rfl)

theorem PlacesSound.dispatch (sound : PlacesSound null uses state)
    (heap : BinaryHeap.IsHeap compare state.heapItems) {id : Nat}
    {executeAtTime maxStayAtTime : Int} {woken : Option (Fin numWorker)}
    (times : ∀ overload, uses id = some overload →
      (executeAtTime, maxStayAtTime) = overload.times null)
    (dispatched : state.dispatchBuilt id executeAtTime maxStayAtTime woken = some next) :
    PlacesSound null uses next := by
  have fresh : ItemSound null uses state.history (Item.waiting id executeAtTime maxStayAtTime) :=
    ⟨fun executed => (by cases executed), times⟩
  have inserted : PlacesSound null uses
      ((state.handOver id).insert (Item.waiting id executeAtTime maxStayAtTime)) := by
    refine sound.kept rfl (fun it member => ?_) fun _ member => member
    rcases mem_pushHeap heap member with before | rfl
    · exact Or.inl before
    · exact Or.inr fresh
  cases dispatch_cases (dispatchBuilt_some.mp dispatched).2 with
  | known _ => exact sound.kept rfl (fun _ => Or.inl) fun _ member => member
  | goesIn _ _ => exact inserted
  | goesFirst _ _ _ notified => exact inserted.notifyOne notified

theorem PlacesSound.step (sound : PlacesSound null uses state) (orderly : Orderly state)
    {event : Event numWorker}
    (times : ∀ id executeAtTime maxStayAtTime woken,
      event = .dispatch id executeAtTime maxStayAtTime woken → ∀ overload,
        uses id = some overload → (executeAtTime, maxStayAtTime) = overload.times null)
    (stepped : step state event = some next) : PlacesSound null uses next := by
  cases event with
  | tick elapsed =>
      cases stepped
      exact sound.kept rfl (fun _ => Or.inl) (fun _ member => member)
  | build certificate =>
      cases stepped
      exact sound.kept rfl (fun _ => Or.inl) (fun _ member => member)
  | dispatch id executeAtTime maxStayAtTime woken =>
      exact sound.dispatch orderly.heap (times _ _ _ _ rfl) stepped
  | work w destroysItself => exact sound.work orderly.heap stepped
  | lookUp id certificate =>
      cases stepped
      simp only [Manager.lookUp]
      split
      · exact sound.kept rfl (fun _ => Or.inl) (fun _ member => member)
      · exact sound
  | destroy id =>
      obtain ⟨-, ⟨-, rfl⟩ | ⟨-, rfl⟩⟩ := destroy_cases stepped
      · exact sound.kept rfl (fun _ => Or.inl) (fun _ member => member)
      · exact sound.kept rfl (fun _ => Or.inl) (fun _ => List.mem_append_left _)

theorem Single.unheld {id : Nat} (single : Single state) (listed : id ∈ state.built) :
    (∀ it ∈ state.heapItems.toList, it.task ≠ id) ∧
      ∀ w it, (state.workers w).item = some it → it.task ≠ id := by
  have few := single id
  have counted := List.count_pos_iff.mpr listed
  simp only [Manager.present, Manager.held] at few
  constructor
  · rintro it member rfl
    have inHeap := Manager.front_present member
    omega
  · rintro w it carried rfl
    have own := Manager.hand_present carried
    have inHands := Threads.le_tally (Worker.weigh (Item.forTask it.task)) state.workers w
    omega

theorem step_marks {event : Event numWorker} {mark : Mark}
    (heap : BinaryHeap.IsHeap compare state.heapItems) (stepped : step state event = some next)
    (marked : mark ∈ next.history) : mark ∈ state.history ∨
      (∃ w now it, state.workers w = .expiring now it ∧ mark = .timesOut it.task) ∨
      (∃ w now it ready, state.workers w = .starting now it ready ∧ mark = .executes it.task) ∨
      ∀ id, mark.starts id = false := by
  have appended : ∀ last, mark ∈ state.history ++ [last] → mark ∈ state.history ∨ mark = last :=
    fun last member => (List.mem_append.mp member).imp_right List.mem_singleton.mp
  rcases step_cases heap stepped with quiet | loud
  · rw [quiet.history] at marked
    exact Or.inl marked
  · cases loud with
    | built certificate => exact Or.inl marked
    | timesOut here free alive =>
        exact (appended _ marked).imp_right fun same => Or.inl ⟨_, _, _, here, same⟩
    | timedOut here =>
        refine (appended _ marked).imp_right fun same => Or.inr (Or.inr ?_)
        simp [same, Mark.starts]
    | executes here free alive =>
        exact (appended _ marked).imp_right fun same => Or.inr (Or.inl ⟨_, _, _, _, here, same⟩)
    | executed here => exact Or.inl marked
    | destroysItself here =>
        refine (appended _ marked).imp_right fun same => Or.inr (Or.inr ?_)
        simp [same, Mark.starts]
    | handsOut lookedUp free alive =>
        refine (appended _ marked).imp_right fun same => Or.inr (Or.inr ?_)
        simp [same, Mark.starts]

/-- What holds in every state of a run in which tasks are dispatched through the overloads. -/
structure Sound (null : Int) (state : OverloadedManager numWorker) : Prop where
  orderly : Orderly state.manager
  single : Single state.manager
  places : PlacesSound null state.uses state.manager
  used : ∀ id, state.uses id ≠ none → id ∉ state.manager.built ∧ state.manager.tasks id ≠ none
  bare : ∀ id executeAtTime, state.uses id = some (.atTime executeAtTime) →
    Mark.executes id ∉ state.manager.history

theorem Orderly.unexecuted {id : Nat} (orderly : Orderly state) (listed : id ∈ state.built) :
    Mark.executes id ∉ state.history := by
  intro executed
  have once := orderly.executesOnce id
  have counted := List.count_pos_iff.mpr listed
  have before : 0 < state.history.countP (Mark.executing id) :=
    List.countP_pos_iff.mpr ⟨_, executed, by simp [Mark.executing]⟩
  simp only [Manager.tickets] at once
  omega

theorem dispatch_frame {id : Nat} {executeAtTime maxStayAtTime : Int}
    {woken : Option (Fin numWorker)}
    (dispatched : state.dispatchBuilt id executeAtTime maxStayAtTime woken = some next) :
    id ∈ state.built ∧ next.built = state.built.erase id ∧
      ∀ v, (state.workers v).sleeping = false → next.workers v = state.workers v := by
  obtain ⟨isBuilt, handed⟩ := dispatchBuilt_some.mp dispatched
  refine ⟨isBuilt, ?_⟩
  cases dispatch_cases handed with
  | known _ => exact ⟨rfl, fun _ _ => rfl⟩
  | goesIn _ _ => exact ⟨rfl, fun _ _ => rfl⟩
  | goesFirst _ _ _ notified => exact notifyOne_frame notified

/-- A worker that does not sleep is where it was until its own next step, and no step lists
an old task as one to be dispatched. -/
theorem step_frame {event : Event numWorker} (stepped : step state event = some next) :
    (∀ id ∈ next.built, id ∈ state.built ∨ id = state.nextId) ∧
      ∀ w, (state.workers w).sleeping = false →
        (∀ destroysItself, event ≠ .work w destroysItself) →
          next.workers w = state.workers w := by
  cases event with
  | tick elapsed =>
      cases stepped
      exact ⟨fun _ => Or.inl, fun _ _ _ => rfl⟩
  | build certificate =>
      cases stepped
      exact ⟨fun id listed => (List.mem_cons.mp listed).symm, fun _ _ _ => rfl⟩
  | dispatch id executeAtTime maxStayAtTime woken =>
      obtain ⟨_, built, workers⟩ := dispatch_frame stepped
      rw [built]
      exact ⟨fun _ listed => Or.inl (List.mem_of_mem_erase listed),
        fun w awake _ => workers w awake⟩
  | work w destroysItself =>
      obtain ⟨built, workers⟩ := work_frame stepped
      rw [built]
      refine ⟨fun _ => Or.inl, fun v _ others => workers v ?_⟩
      rintro rfl
      exact others destroysItself rfl
  | lookUp id certificate =>
      cases stepped
      simp only [Manager.lookUp]
      split <;> exact ⟨fun _ => Or.inl, fun _ _ _ => rfl⟩
  | destroy id =>
      obtain ⟨-, ⟨-, rfl⟩ | ⟨-, rfl⟩⟩ := destroy_cases stepped
      · exact ⟨fun _ => Or.inl, fun _ _ _ => rfl⟩
      · exact ⟨fun _ => Or.inl, fun _ _ _ => rfl⟩

theorem step_known {event : Event numWorker} (orderly : Orderly state)
    (stepped : step state event = some next) {id : Nat} (known : state.tasks id ≠ none) :
    next.tasks id ≠ none := by
  rcases step_effect orderly stepped with ⟨left, effect⟩ | ⟨certificate, rfl⟩
  · exact fun missing => known ((effect.tasks id).mp missing)
  · simp only [Manager.build, Function.update_apply]
    split
    · exact Option.some_ne_none _
    · exact known

theorem Sound.other {state : OverloadedManager numWorker} {event : Event numWorker}
    (sound : Sound null state) (stepped : step state.manager event = some next) :
    Sound null { state with manager := next } where
  orderly := step_orderly event sound.orderly stepped
  single := sound.single.step sound.orderly stepped
  places := by
    refine sound.places.step sound.orderly ?_ stepped
    rintro id executeAtTime maxStayAtTime woken rfl overload used
    have listed := (dispatch_frame stepped).1
    exact absurd listed (sound.used id (by rw [used]; exact Option.some_ne_none _)).1
  used := by
    intro id used
    obtain ⟨dispatched, known⟩ := sound.used id used
    refine ⟨fun listed => ?_, step_known sound.orderly stepped known⟩
    rcases (step_frame stepped).1 id listed with before | rfl
    · exact dispatched before
    · exact known (sound.orderly.unknown _ (Nat.le_refl _))
  bare := by
    intro id executeAtTime used executed
    have before := sound.bare id executeAtTime used
    rcases step_marks sound.orderly.heap stepped executed with
      earlier | ⟨w, now, it, here, same⟩ | ⟨w, now, it, ready, here, same⟩ | quiet
    · exact before earlier
    · cases same
    · cases same
      obtain ⟨item, lasts⟩ := sound.places.workers w it (by rw [here]; rfl)
      have lasting := lasts (by rw [here]; rfl)
      have times := item.2 _ used
      simp only [Overload.times, Prod.mk.injEq] at times
      omega
    · simp [Mark.starts] at quiet

theorem Sound.dispatch {state : OverloadedManager numWorker} {id : Nat} {overload : Overload}
    {woken : Option (Fin numWorker)} (sound : Sound null state)
    (dispatched : state.manager.dispatchBuilt id (overload.times null).1 (overload.times null).2
      woken = some next) :
    Sound null { manager := next, uses := Function.update state.uses id (some overload) } := by
  obtain ⟨listed, built, _⟩ := dispatch_frame dispatched
  have stepped : step state.manager
      (.dispatch id (overload.times null).1 (overload.times null).2 woken) = some next := dispatched
  have once : id ∉ state.manager.built.erase id := by
    have few := sound.single id
    have gone := count_built listed id
    simp only [Manager.present, if_true] at few gone
    exact List.count_eq_zero.mp (by omega)
  have known : state.manager.tasks id ≠ none := by
    intro missing
    have absent := (sound.orderly.absent id missing).1
    have counted := List.count_pos_iff.mpr listed
    simp only [Manager.present] at absent
    omega
  have history : ∀ other, Mark.executes other ∈ next.history →
      Mark.executes other ∈ state.manager.history := by
    rw [(dispatch_quiet sound.orderly.heap dispatched).history]
    exact fun _ executed => executed
  obtain ⟨noItem, noHand⟩ := sound.single.unheld listed
  have others : ∀ it : Item, it.task ≠ id → ItemSound null state.uses state.manager.history it →
      ItemSound null (Function.update state.uses id (some overload)) state.manager.history it := by
    intro it other item
    refine ⟨item.1, ?_⟩
    rw [Function.update_of_ne other]
    exact item.2
  have elsewhere : ∀ other, other ≠ id →
      Function.update state.uses id (some overload) other = state.uses other :=
    fun other different => Function.update_of_ne different _ _
  constructor
  · exact step_orderly _ sound.orderly stepped
  · exact sound.single.step sound.orderly stepped
  · refine PlacesSound.dispatch ⟨fun it member => ?_, fun w it carried => ?_⟩
      sound.orderly.heap ?_ dispatched
    · exact others it (noItem it member) (sound.places.heap it member)
    · obtain ⟨item, lasts⟩ := sound.places.workers w it carried
      exact ⟨others it (noHand w it carried) item, lasts⟩
    · intro other same
      have overloads := (Function.update_self id (some overload) state.uses).symm.trans same
      rw [Option.some.inj overloads]
  · intro other used
    change other ∉ next.built ∧ next.tasks other ≠ none
    rw [built]
    by_cases same : other = id
    · rw [same]
      exact ⟨once, step_known sound.orderly stepped known⟩
    · obtain ⟨before, isKnown⟩ :=
        sound.used other fun unused => used ((elsewhere other same).trans unused)
      exact ⟨fun still => before (List.mem_of_mem_erase still),
        step_known sound.orderly stepped isKnown⟩
  · intro other executeAtTime used executed
    have before := history other executed
    by_cases same : other = id
    · rw [same] at before
      exact sound.orderly.unexecuted listed before
    · exact sound.bare other executeAtTime ((elsewhere other same).symm.trans used) before

theorem Sound.step {state final : OverloadedManager numWorker} {event : OverloadEvent numWorker}
    (sound : Sound null state) (stepped : overloadStep null state event = some final) :
    Sound null final := by
  cases event with
  | dispatch id overload woken =>
      simp only [overloadStep, Option.map_eq_some_iff] at stepped
      obtain ⟨manager, dispatched, rfl⟩ := stepped
      exact sound.dispatch dispatched
  | other event =>
      simp only [overloadStep, Option.map_eq_some_iff] at stepped
      obtain ⟨manager, happened, rfl⟩ := stepped
      exact sound.other happened

theorem initial_sound (numWorker : Nat) : Sound null ({} : OverloadedManager numWorker) where
  orderly := initial_orderly numWorker
  single := by
    intro id
    have nothing := ((initial_orderly numWorker).absent id rfl).1
    exact nothing.trans_le (Nat.zero_le 1)
  places := by
    refine ⟨fun it member => ?_, fun w => .idle rfl⟩
    simp at member
  used := fun id used => absurd rfl used
  bare := fun id executeAtTime used => by cases used

def Committed (id : Nat) (state : Manager numWorker) : Prop :=
  (Mark.executes id ∈ state.history ∧ TimesOutAfter id state.history) ∨
    Mark.timesOut id ∉ state.history ∧ (state.destroyed id = true ∨
      ∃ w now it ready, state.workers w = .starting now it ready ∧ it.task = id)

theorem TimesOutAfter.of_unmarked {id : Nat} {history : List Mark}
    (unmarked : Mark.timesOut id ∉ history) : TimesOutAfter id history := by
  rintro before after rfl
  simp at unmarked

theorem TimesOutAfter.append {id : Nat} {history : List Mark} (after : TimesOutAfter id history)
    (executed : Mark.executes id ∈ history) (left : Option Mark) :
    TimesOutAfter id (history ++ left.toList) := by
  cases left with
  | none => simpa using after
  | some mark =>
      intro before rest split
      rcases List.eq_nil_or_concat rest with rfl | ⟨middle, last, rfl⟩
      · obtain ⟨rfl, -⟩ := List.append_inj' split rfl
        exact executed
      · rw [List.concat_eq_append, ← List.cons_append, ← List.append_assoc] at split
        obtain ⟨earlier, -⟩ := List.append_inj' split rfl
        exact after before middle earlier

theorem Worker.running_item {id : Nat} {worker : Worker} (running : 0 < worker.running id) :
    ∃ it, worker.item = some it ∧ it.task = id := by
  cases worker with
  | timingOut now it | executing now it =>
      refine ⟨it, rfl, ?_⟩
      by_contra other
      simp [Worker.running, other] at running
  | _ => exact absurd running (Nat.lt_irrefl 0)

theorem Orderly.starting_free (orderly : Orderly state) (single : Single state)
    {w : Fin numWorker} {now : Int} {it : Item}
    {ready : it.executed = false ∧ it.executeAtTime ≤ it.maxStayAtTime}
    (here : state.workers w = .starting now it ready) : state.locked it.task = false := by
  by_contra locked
  have held := orderly.lockHeld it.task
  rw [if_pos (Bool.eq_true_of_not_eq_false locked)] at held
  obtain ⟨v, running⟩ := Threads.tally_pos.mp (show 0 < state.running it.task by omega)
  have carried : (state.workers w).item = some it := by rw [here]; rfl
  obtain ⟨theirs, inside, same⟩ := Worker.running_item running
  have alone := (single.only carried).1 v theirs inside same
  rw [alone, here] at running
  exact absurd running (Nat.lt_irrefl 0)

theorem Committed.executesFirst {id : Nat} (committed : Committed id state)
    (orderly : Orderly state) (single : Single state) : ExecutesFirst id state := by
  rcases committed with executed | ⟨unmarked, destroyed | ⟨w, now, it, ready, here, rfl⟩⟩
  · exact Or.inl executed
  · exact Or.inr ⟨unmarked, Or.inl destroyed⟩
  · refine Or.inr ⟨unmarked, ?_⟩
    by_cases destroyed : state.destroyed it.task = true
    · exact Or.inl destroyed
    · have free := orderly.starting_free single here
      refine Or.inr ⟨w, fun destroysItself =>
        ⟨((state.lock it.task).mark (.executes it.task)).become w
          (.executing now { it with executed := true, inTime := fun _ => ready.2 }), ?_, rfl⟩⟩
      simp only [step, Manager.work, here]
      rw [if_neg (by simp [free]), if_neg destroyed]

theorem Committed.starting {w : Fin numWorker} {now : Int} {it : Item}
    {ready : it.executed = false ∧ it.executeAtTime ≤ it.maxStayAtTime} {event : Event numWorker}
    (here : state.workers w = .starting now it ready) (orderly : Orderly state)
    (single : Single state) (unmarked : Mark.timesOut it.task ∉ state.history)
    (stepped : step state event = some next) : Committed it.task next := by
  have still : Mark.timesOut it.task ∉ next.history := by
    intro timedOut
    have carried : (state.workers w).item = some it := by rw [here]; rfl
    rcases step_marks orderly.heap stepped timedOut with
      earlier | ⟨v, since, other, there, same⟩ | ⟨v, since, other, _, there, same⟩ | quiet
    · exact unmarked earlier
    · have theirs : (state.workers v).item = some other := by rw [there]; rfl
      have alone := (single.only carried).1 v other theirs (Mark.timesOut.inj same).symm
      rw [alone, here] at there
      contradiction
    · cases same
    · simp [Mark.starts] at quiet
  by_cases own : ∃ destroysItself, event = .work w destroysItself
  · obtain ⟨destroysItself, rfl⟩ := own
    simp only [step, Manager.work, here] at stepped
    split at stepped
    · contradiction
    · split at stepped
      · rename_i destroyed
        cases stepped
        exact Or.inr ⟨still, Or.inl destroyed⟩
      · cases stepped
        exact Or.inl ⟨List.mem_append_right _ (List.mem_singleton_self _), .of_unmarked still⟩
  · have kept := (step_frame stepped).2 w (by rw [here]; rfl)
      fun destroysItself same => own ⟨destroysItself, same⟩
    exact Or.inr ⟨still, Or.inr ⟨w, now, it, ready, kept.trans here, rfl⟩⟩

theorem Committed.step {id : Nat} (committed : Committed id state) (orderly : Orderly state)
    (single : Single state) {event : Event numWorker}
    (stepped : step state event = some next) : Committed id next := by
  rcases committed with ⟨executed, after⟩ | ⟨unmarked, destroyed | ⟨w, now, it, ready, here, rfl⟩⟩
  · rcases step_effect orderly stepped with ⟨left, effect⟩ | ⟨certificate, rfl⟩
    · left
      rw [effect.history]
      exact ⟨List.mem_append_left _ executed, after.append executed left⟩
    · exact Or.inl ⟨executed, after⟩
  · right
    rcases step_effect orderly stepped with ⟨left, effect⟩ | ⟨certificate, rfl⟩
    · refine ⟨fun timedOut => ?_, Or.inl (effect.stays id destroyed)⟩
      rw [effect.history] at timedOut
      rcases List.mem_append.mp timedOut with before | now
      · exact unmarked before
      · have alive := effect.starts id _ now (by simp [Mark.starts])
        rw [alive] at destroyed
        contradiction
    · have known : state.tasks id ≠ none := by
        intro missing
        simp [Manager.destroyed, missing] at destroyed
      have other : id ≠ state.nextId := by
        rintro rfl
        exact known (orderly.unknown _ (Nat.le_refl _))
      refine ⟨unmarked, Or.inl ?_⟩
      simpa only [Manager.destroyed, Manager.build, Function.update_of_ne other] using destroyed
  · exact Committed.starting here orderly single unmarked stepped

theorem Orderly.unmarked (orderly : Orderly state) (single : Single state) {it : Item}
    (front : state.heapItems[0]? = some it) (alive : state.destroyed it.task = false) :
    Mark.timesOut it.task ∉ state.history := by
  intro timedOut
  have ends := orderly.endsOnce it.task
  have marked : 0 < state.history.countP (Mark.ending it.task) :=
    List.countP_pos_iff.mpr ⟨_, timedOut, by simp [Mark.ending]⟩
  have idle : state.running it.task = 0 := by
    by_contra busy
    obtain ⟨w, running⟩ := Threads.tally_pos.mp (Nat.pos_of_ne_zero busy)
    obtain ⟨other, carried, same⟩ := Worker.running_item running
    exact (single.only carried).2.1 it (front_mem front) same.symm
  have timing : state.timing it.task ≤ state.running it.task :=
    Threads.tally_mono (fun worker => Worker.timing_le_running it.task worker) state.workers
  rw [alive] at ends
  simp only [Bool.false_eq_true, if_false] at ends
  omega

theorem Sound.commits {state : OverloadedManager numWorker} {w : Fin numWorker} {now : Int}
    {it : Item} (sound : Sound null state) (front : state.manager.heapItems[0]? = some it)
    (alive : state.manager.destroyed it.task = false) (due : it.executeAtTime < now)
    (inStay : now ≤ it.maxStayAtTime) : Committed it.task (state.manager.inspect w now) := by
  have unmarked := sound.orderly.unmarked sound.single front alive
  simp only [Manager.inspect, front]
  rw [if_neg (by simp [alive]), dif_neg (by omega)]
  by_cases executed : it.executed = true
  · rw [dif_neg (by simp [executed])]
    exact Or.inl ⟨(sound.places.heap it (front_mem front)).1 executed, .of_unmarked unmarked⟩
  · have fresh := Bool.eq_false_iff.mpr executed
    rw [dif_pos ⟨due, fresh⟩]
    exact Or.inr ⟨unmarked,
      Or.inr ⟨w, now, it, ⟨fresh, by omega⟩, Function.update_self _ _ _, rfl⟩⟩

theorem Committed.other {id : Nat} {state final : OverloadedManager numWorker}
    {event : OverloadEvent numWorker} (committed : Committed id state.manager)
    (sound : Sound null state) (stepped : overloadStep null state event = some final) :
    Committed id final.manager := by
  cases event with
  | dispatch task overload woken =>
      simp only [overloadStep, Option.map_eq_some_iff] at stepped
      obtain ⟨manager, dispatched, rfl⟩ := stepped
      have stepped : TaskManager.step state.manager (.dispatch task (overload.times null).1
        (overload.times null).2 woken) = some manager := dispatched
      exact committed.step sound.orderly sound.single stepped
  | other event =>
      simp only [overloadStep, Option.map_eq_some_iff] at stepped
      obtain ⟨manager, happened, rfl⟩ := stepped
      exact committed.step sound.orderly sound.single happened

theorem Sound.of_run {state : OverloadedManager numWorker}
    {events : List (OverloadEvent numWorker)}
    (ran : Transition.run (overloadStep null) {} events = some state) : Sound null state :=
  Transition.Reachable.invariant (overloadStep null)
    (fun _ _ _ sound stepped => sound.step stepped) (initial_sound numWorker) ⟨events, ran⟩

theorem Committed.executed {id : Nat} {state final : OverloadedManager numWorker}
    {events : List (OverloadEvent numWorker)} (committed : Committed id state.manager)
    (sound : Sound null state)
    (ran : Transition.run (overloadStep null) state events = some final) :
    ExecutesFirst id final.manager := by
  have keeps : ∀ (before : OverloadedManager numWorker) event after,
      Committed id before.manager ∧ Sound null before →
      overloadStep null before event = some after → Committed id after.manager ∧ Sound null after :=
    fun _ _ _ both stepped => ⟨both.1.other both.2 stepped, both.2.step stepped⟩
  have kept := Transition.Reachable.invariant (overloadStep null) keeps
    (⟨committed, sound⟩ : Committed id state.manager ∧ Sound null state) ⟨events, ran⟩
  exact kept.1.executesFirst kept.2.orderly kept.2.single

theorem Inspected.tasks {w : Fin numWorker} {now : Int} (inspected : Inspected state w now next) :
    next.tasks = state.tasks := by
  cases inspected <;> rfl

/-- A task that was dispatched with only an execution time is never executed. -/
theorem Sound.atTime_never {state : OverloadedManager numWorker} {id : Nat} {executeAtTime : Int}
    (sound : Sound null state) (used : state.uses id = some (.atTime executeAtTime))
    (alive : state.manager.destroyed id = false) : ¬ ExecutesFirst id state.manager := by
  rintro (⟨executed, -⟩ | ⟨-, destroyed | ⟨w, executes⟩⟩)
  · exact sound.bare id executeAtTime used executed
  · rw [alive] at destroyed
    contradiction
  · obtain ⟨next, stepped, history⟩ := executes false
    refine (sound.other stepped).bare id executeAtTime used ?_
    rw [history]
    exact List.mem_append_right _ (List.mem_singleton_self _)

/-- Exactly the tasks that were dispatched with only an execution time are not executed by the
workers that find them due: their maximal stay ends when they become due. -/
theorem executedInTime_iff (null : Int) (events : List (OverloadEvent numWorker)) :
    ExecutedInTime null events ↔
      ∀ before state event next,
        Transition.Happens (overloadStep null) {} events before state event next →
          ∀ id overload, Examines state event id overload → overload.hasTimeout = true := by
  constructor
  · intro inTime before state event next happens id overload examines
    have runs := inTime before state event next happens id overload examines [] next rfl
    obtain ⟨used, w, destroysItself, now, it, rfl, here, front, rfl, due, -, alive⟩ := examines
    obtain ⟨-, ran, stepped⟩ := happens
    by_contra noTimeout
    obtain ⟨executeAtTime, rfl⟩ : ∃ t, overload = .atTime t := by
      cases overload <;> simp_all [Overload.hasTimeout]
    have after := (Sound.of_run ran).step stepped
    simp only [overloadStep, step, Manager.work, here, Option.map_some,
      Option.some.injEq] at stepped
    subst stepped
    refine after.atTime_never used ?_ runs
    simpa only [Manager.destroyed, (inspect_cases state.manager w now).tasks] using alive
  · intro noneBare before state event next happens id overload examines later final ran
    have hasTimeout := noneBare before state event next happens id overload examines
    obtain ⟨used, w, destroysItself, now, it, rfl, here, front, rfl, due, inStay, alive⟩ := examines
    obtain ⟨-, came, stepped⟩ := happens
    have sound := Sound.of_run came
    have committed := sound.commits (w := w) front alive due (inStay hasTimeout)
    have after := sound.step stepped
    simp only [overloadStep, step, Manager.work, here, Option.map_some,
      Option.some.injEq] at stepped
    subst stepped
    exact Committed.executed committed after ran

def onlyWorker : Fin 1 := ⟨0, Nat.one_pos⟩

def lateWork : OverloadEvent 1 := .other (.work onlyWorker false)

def lateTask : List (OverloadEvent 1) := [
  .other (.build 7), .dispatch 1 (.atTime 5) none, .other (.tick 9), lateWork, lateWork, lateWork,
  lateWork]

theorem lateTask_timesOut : ¬ ExecutedInTime 0 lateTask := by
  intro inTime
  let found := (Transition.run (overloadStep 0) {} (lateTask.take 4)).get (by decide +kernel)
  let next := (overloadStep 0 found lateWork).get (by decide +kernel)
  let final := (Transition.run (overloadStep 0) next (lateTask.drop 5)).get (by decide +kernel)
  have happens : Transition.Happens (overloadStep 0) {} lateTask (lateTask.take 4) found
      lateWork next :=
    ⟨⟨lateTask.drop 5, rfl⟩, (Option.some_get _).symm, (Option.some_get _).symm⟩
  have examines : Examines found lateWork 1 (.atTime 5) :=
    ⟨by decide +kernel, onlyWorker, false, 9, Item.waiting 1 5 5, rfl, by decide +kernel,
      by decide +kernel, rfl, by decide, fun hasTimeout => (by cases hasTimeout),
      by decide +kernel⟩
  have history : final.manager.history = [.timesOut 1, .timedOut 1] := by decide +kernel
  have executes := inTime _ found _ next happens 1 (.atTime 5) examines (lateTask.drop 5) final
    (Option.some_get _).symm
  rw [ExecutesFirst, history] at executes
  simp at executes

end

end TaskManager

end EasyViewer
