import EasyViewer.TaskLifeCycle

/-!
The map and the heap of the task manager. At every release of the manager's mutex the
heap is in order, and the keys of the map are the ids of the items in the heap and of
those that a worker took out to execute. A task may be dispatched any number of times.
-/

namespace EasyViewer

namespace TaskManager

/-- The item that the worker took out to execute, until it gives it back or drops it. -/
def Worker.executes : Worker → Option Item
  | .starting _ it _ | .executing _ it | .checking _ it | .dropping _ it | .returning _ it =>
      some it
  | _ => none

section

variable {numWorker : Nat} {state next : Manager numWorker}

def containerStep (state : Manager numWorker) : Event numWorker → Option (Manager numWorker)
  | .dispatch id executeAtTime maxStayAtTime woken =>
      if state.tasks id = none then none
      else (state.handOver id).dispatch id executeAtTime maxStayAtTime woken
  | .tick elapsed => step state (.tick elapsed)
  | .build certificate => step state (.build certificate)
  | .work w destroysItself => step state (.work w destroysItself)
  | .lookUp id certificate => step state (.lookUp id certificate)
  | .destroy id => step state (.destroy id)

theorem containerStep_of_step {event : Event numWorker} (orderly : Orderly state)
    (stepped : step state event = some next) : containerStep state event = some next := by
  cases event with
  | dispatch id executeAtTime maxStayAtTime woken =>
      obtain ⟨isBuilt, dispatched⟩ := dispatchBuilt_some.mp stepped
      have known : state.tasks id ≠ none := by
        intro missing
        have absent := (orderly.absent id missing).1
        have counted := List.count_pos_iff.mpr isBuilt
        simp only [Manager.present] at absent
        omega
      simpa only [containerStep, if_neg known] using dispatched
  | tick _ | build _ | work _ _ | lookUp _ _ | destroy _ => exact stepped

structure ContainersAgree (state : Manager numWorker) : Prop where
  heap : BinaryHeap.IsHeap compare state.heapItems
  distinct : (state.heapItems.toList.map Item.task).Nodup
  keysOnce : state.mapItems.Nodup
  keys : ∀ id, id ∈ state.mapItems ↔ id ∈ state.heapItems.toList.map Item.task ∨
    ∃ w it, (state.workers w).executes = some it ∧ it.task = id
  apart : ∀ w it, (state.workers w).executes = some it →
    it.task ∉ state.heapItems.toList.map Item.task ∧
      ∀ other otherItem, (state.workers other).executes = some otherItem →
        otherItem.task = it.task → other = w

def Worker.handling (id : Nat) (worker : Worker) : Nat := worker.executes.elim 0 (Item.forTask id)

namespace Manager

def inHeap (state : Manager numWorker) (id : Nat) : Nat :=
  (state.heapItems.toList.map (Item.forTask id)).sum

def inHands (state : Manager numWorker) (id : Nat) : Nat :=
  Threads.tally (Worker.handling id) state.workers

theorem inHeap_eq (state : Manager numWorker) (id : Nat) :
    state.inHeap id = (state.heapItems.toList.map Item.task).count id := by
  simp only [inHeap]
  induction state.heapItems.toList with
  | nil => rfl
  | cons it items ih =>
      simp only [List.map_cons, List.sum_cons, List.count_cons, ih, Item.forTask, beq_iff_eq]
      omega

theorem inHeap_popHeap (heap : BinaryHeap.IsHeap compare state.heapItems) {it : Item}
    (front : state.heapItems[0]? = some it) (id : Nat) :
    state.popHeap.inHeap id + it.forTask id = state.inHeap id := by
  have popped := held_popHeap heap front (Item.forTask id)
  have workers : state.popHeap.workers = state.workers := rfl
  simp only [held, workers] at popped
  simp only [inHeap]
  omega

theorem inHeap_pushHeap (heap : BinaryHeap.IsHeap compare state.heapItems) (it : Item) (id : Nat) :
    (state.pushHeap it).inHeap id = state.inHeap id + it.forTask id := by
  have pushed := held_pushHeap heap it (Item.forTask id)
  have workers : (state.pushHeap it).workers = state.workers := rfl
  simp only [held, workers] at pushed
  simp only [inHeap]
  omega

end Manager

/-- The map has each key once, for an item in the heap or in a worker's hands. -/
structure Balanced (state : Manager numWorker) : Prop where
  heap : BinaryHeap.IsHeap compare state.heapItems
  counts : ∀ id, state.mapItems.count id = state.inHeap id + state.inHands id
  once : ∀ id, state.mapItems.count id ≤ 1

theorem Worker.handling_pos {id : Nat} {worker : Worker} :
    0 < worker.handling id ↔ ∃ it, worker.executes = some it ∧ it.task = id := by
  cases carried : worker.executes with
  | none => simp [handling, carried]
  | some it => simp [handling, carried, Item.forTask, Nat.pos_iff_ne_zero]

theorem Balanced.agree (balanced : Balanced state) : ContainersAgree state where
  heap := balanced.heap
  distinct := by
    rw [List.nodup_iff_count_le_one]
    intro id
    have counts := balanced.counts id
    have once := balanced.once id
    rw [state.inHeap_eq] at counts
    omega
  keysOnce := List.nodup_iff_count_le_one.mpr balanced.once
  keys := by
    intro id
    have hands : 0 < state.inHands id ↔
        ∃ w it, (state.workers w).executes = some it ∧ it.task = id :=
      Threads.tally_pos.trans (exists_congr fun w => Worker.handling_pos)
    rw [← hands, ← List.count_pos_iff, ← List.count_pos_iff, ← state.inHeap_eq, balanced.counts]
    omega
  apart := by
    intro w it carried
    have held : 0 < (state.workers w).handling it.task := Worker.handling_pos.mpr ⟨it, carried, rfl⟩
    have counts := balanced.counts it.task
    have once := balanced.once it.task
    refine ⟨fun member => ?_, fun other otherItem otherCarried same => ?_⟩
    · rw [← List.count_pos_iff, ← state.inHeap_eq] at member
      have inHands := Threads.le_tally (Worker.handling it.task) state.workers w
      simp only [Manager.inHands] at counts
      omega
    · by_contra different
      have otherHeld : 0 < (state.workers other).handling it.task :=
        Worker.handling_pos.mpr ⟨otherItem, otherCarried, same⟩
      have both := Threads.add_le_tally (Worker.handling it.task) state.workers different
      simp only [Manager.inHands] at counts
      omega

theorem Balanced.moved {w : Fin numWorker} {worker : Worker} (balanced : Balanced state)
    (workers : next.workers = Function.update state.workers w worker)
    (heap : BinaryHeap.IsHeap compare next.heapItems)
    (counts : ∀ id, next.mapItems.count id + state.inHeap id + (state.workers w).handling id =
      state.mapItems.count id + next.inHeap id + worker.handling id)
    (once : ∀ id, next.mapItems.count id ≤ 1) : Balanced next := by
  refine ⟨heap, fun id => ?_, once⟩
  have moved := Threads.tally_update (Worker.handling id) state.workers w worker
  have before := balanced.counts id
  have changed := counts id
  simp only [Manager.inHands] at before ⊢
  rw [workers]
  omega

theorem Balanced.goesOn {w : Fin numWorker} {worker : Worker} (balanced : Balanced state)
    (workers : next.workers = Function.update state.workers w worker)
    (heapItems : next.heapItems = state.heapItems) (mapItems : next.mapItems = state.mapItems)
    (holds : ∀ id, worker.handling id = (state.workers w).handling id) : Balanced next := by
  refine balanced.moved workers (heapItems ▸ balanced.heap) (fun id => ?_)
    (fun id => mapItems ▸ balanced.once id)
  simp only [Manager.inHeap, heapItems, mapItems, holds id]

theorem Balanced.same (balanced : Balanced state) (workers : next.workers = state.workers)
    (heapItems : next.heapItems = state.heapItems) (mapItems : next.mapItems = state.mapItems) :
    Balanced next where
  heap := heapItems ▸ balanced.heap
  counts := by
    intro id
    simp only [Manager.inHeap, Manager.inHands, workers, heapItems, mapItems]
    exact balanced.counts id
  once id := mapItems ▸ balanced.once id

theorem count_eraseItem (state : Manager numWorker) (it : Item) (listed : it.task ∈ state.mapItems)
    (id : Nat) :
    (state.eraseItem it.task).mapItems.count id + it.forTask id = state.mapItems.count id := by
  have positive := List.count_pos_iff.mpr listed
  simp only [Manager.eraseItem, List.count_erase, Item.forTask, beq_iff_eq]
  split
  · rename_i same
    subst same
    omega
  · omega

theorem Balanced.front_listed (balanced : Balanced state) {it : Item}
    (front : state.heapItems[0]? = some it) : it.task ∈ state.mapItems := by
  have popped := Manager.inHeap_popHeap balanced.heap front it.task
  have own : it.forTask it.task = 1 := if_pos rfl
  have counts := balanced.counts it.task
  rw [← List.count_pos_iff]
  omega

theorem Balanced.inspect (balanced : Balanced state) {w : Fin numWorker} {now : Int}
    (here : state.workers w = .inspecting now) (inspected : Inspected state w now next) :
    Balanced next := by
  have heap := inspected.heap balanced.heap
  have free : ∀ id, (state.workers w).handling id = 0 := fun id => by rw [here]; rfl
  have dropped : ∀ it, state.heapItems[0]? = some it → ∀ id,
      (state.popHeap.eraseItem it.task).mapItems.count id + state.inHeap id +
          (state.workers w).handling id = state.mapItems.count id + state.popHeap.inHeap id + 0 ∧
        (state.popHeap.eraseItem it.task).mapItems.count id ≤ 1 := by
    intro it front id
    have popped := Manager.inHeap_popHeap balanced.heap front id
    have erased := count_eraseItem state it (balanced.front_listed front) id
    have once := balanced.once id
    have same : (state.popHeap.eraseItem it.task).mapItems.count id =
      (state.eraseItem it.task).mapItems.count id := rfl
    rw [free id]
    omega
  cases inspected with
  | rests _ => exact balanced.goesOn rfl rfl rfl fun id => (free id).symm
  | drops front | expires front =>
      exact balanced.moved rfl heap (fun id => (dropped _ front id).1)
        fun id => (dropped _ front id).2
  | @starts it front _ _ _ ready =>
      refine balanced.moved rfl heap (fun id => ?_) balanced.once
      have popped := Manager.inHeap_popHeap balanced.heap front id
      rw [free id]
      change state.mapItems.count id + _ + 0 = _ + state.popHeap.inHeap id + it.forTask id
      omega

theorem Balanced.work (balanced : Balanced state) {w : Fin numWorker} {destroysItself : Bool}
    (worked : state.work w destroysItself = some next) : Balanced next := by
  have heap := work_heap balanced.heap worked
  cases work_inversion worked with
  | inspects here inspected => exact balanced.inspect here inspected
  | @drops now it here =>
      -- the worker's item is what keeps its key in the map
      have held : (state.workers w).handling it.task = 1 := by
        rw [here]
        exact if_pos rfl
      have listed : it.task ∈ state.mapItems := by
        have inHands := Threads.le_tally (Worker.handling it.task) state.workers w
        have counts := balanced.counts it.task
        simp only [Manager.inHands] at counts
        rw [← List.count_pos_iff]
        omega
      have erased := count_eraseItem state it listed
      refine balanced.moved rfl heap (fun id => ?_) fun id => ?_
      · have less := erased id
        rw [here]
        change (state.eraseItem it.task).mapItems.count id + state.inHeap id + it.forTask id =
          _ + state.inHeap id + 0
        omega
      · have once := balanced.once id
        have less := erased id
        change (state.eraseItem it.task).mapItems.count id ≤ 1
        omega
  | @givesBack now it here =>
      refine balanced.moved rfl heap (fun id => ?_) balanced.once
      have pushed := Manager.inHeap_pushHeap balanced.heap it id
      rw [here]
      change state.mapItems.count id + state.inHeap id + it.forTask id =
        _ + (state.pushHeap it).inHeap id + 0
      omega
  | rests here =>
      rw [rest_become]
      refine balanced.goesOn rfl rfl rfl fun id => ?_
      rw [here]
      split <;> rfl
  | loops here | skipsTimeout here | timesOut here | timedOut here | skipsExecute here
  | executes here | executed here | destroysItself here | findsDestroyed here | findsAlive here
  | wakes here => exact balanced.goesOn rfl rfl rfl fun id => by rw [here]; rfl

theorem Balanced.notifyOne (balanced : Balanced state) {woken : Option (Fin numWorker)}
    (notified : state.notifyOne woken = some next) : Balanced next := by
  rcases notifyOne_cases notified with rfl | ⟨w, deadline, here, rfl⟩
  · exact balanced
  · exact balanced.goesOn rfl rfl rfl fun id => by rw [here]; rfl

theorem Balanced.insert (balanced : Balanced state) (it : Item)
    (absent : it.task ∉ state.mapItems) : Balanced (state.insert it) where
  heap := (Manager.pushHeap_heap balanced.heap it).1
  counts := by
    intro id
    have pushed := Manager.inHeap_pushHeap balanced.heap it id
    have counts := balanced.counts id
    change (it.task :: state.mapItems).count id = (state.pushHeap it).inHeap id + state.inHands id
    rw [List.count_cons, pushed]
    simp only [Item.forTask, beq_iff_eq]
    omega
  once := by
    intro id
    have once := balanced.once id
    change (it.task :: state.mapItems).count id ≤ 1
    rw [List.count_cons]
    split
    · rename_i same
      rw [← beq_iff_eq.mp same, List.count_eq_zero.mpr absent]
    · omega

theorem Balanced.dispatch (balanced : Balanced state) {id : Nat}
    {executeAtTime maxStayAtTime : Int} {woken : Option (Fin numWorker)}
    (dispatched : state.dispatch id executeAtTime maxStayAtTime woken = some next) :
    Balanced next := by
  cases dispatch_cases dispatched with
  | known _ => exact balanced
  | goesIn absent _ => exact balanced.insert _ absent
  | goesFirst absent _ _ notified => exact (balanced.insert _ absent).notifyOne notified

theorem Balanced.step (balanced : Balanced state) {event : Event numWorker}
    (stepped : containerStep state event = some next) : Balanced next := by
  cases event with
  | tick elapsed =>
      cases stepped
      exact balanced.same rfl rfl rfl
  | build certificate =>
      cases stepped
      exact balanced.same rfl rfl rfl
  | dispatch id executeAtTime maxStayAtTime woken =>
      simp only [containerStep, Option.ite_none_left_eq_some] at stepped
      have handed : Balanced (state.handOver id) := balanced.same rfl rfl rfl
      exact handed.dispatch stepped.2
  | work w destroysItself => exact balanced.work stepped
  | lookUp id certificate =>
      cases stepped
      simp only [Manager.lookUp]
      split
      · exact balanced.same rfl rfl rfl
      · exact balanced
  | destroy id =>
      obtain ⟨-, ⟨-, rfl⟩ | ⟨-, rfl⟩⟩ := destroy_cases stepped
      · exact balanced.same rfl rfl rfl
      · exact balanced.same rfl rfl rfl

theorem initial_balanced (numWorker : Nat) : Balanced (initial numWorker) where
  heap := fun index _ inside => absurd inside (Nat.not_lt_zero index)
  counts := by
    intro id
    have hands : (initial numWorker).inHands id = 0 := Threads.tally_eq_zero fun _ => rfl
    rw [hands]
    rfl
  once := fun _ => Nat.zero_le _

/-! What was dispatched is not lost. -/

/-- The item that the worker took out for good, to let its task time out. -/
def Worker.expires : Worker → Option Item
  | .expiring _ it | .timingOut _ it => some it
  | _ => none

/-- The task is in the map, was destroyed, or is being timed out. -/
structure Accounted (state : Manager numWorker) (id : Nat) : Prop where
  known : state.tasks id ≠ none
  place : id ∈ state.mapItems ∨ state.destroyed id = true ∨
    ∃ w it, (state.workers w).expires = some it ∧ it.task = id

/-- Tasks that come have new ids, and a worker only drops the item of a destroyed task. -/
structure Tended (state : Manager numWorker) : Prop where
  unknown : ∀ id, state.nextId ≤ id → state.tasks id = none
  dropped : ∀ w now it, state.workers w = .dropping now it → state.destroyed it.task = true

/-- No task comes or goes, and none that was destroyed comes back. -/
structure Lasts (state next : Manager numWorker) : Prop where
  nextId : next.nextId = state.nextId
  known : ∀ id, next.tasks id = none ↔ state.tasks id = none
  destroyed : ∀ id, state.destroyed id = true → next.destroyed id = true

theorem Lasts.of_tasks (nextId : next.nextId = state.nextId) (tasks : next.tasks = state.tasks) :
    Lasts state next where
  nextId := nextId
  known id := by rw [tasks]
  destroyed id gone := by
    rw [Manager.destroyed, tasks]
    exact gone

theorem destroyTask_lasts (state : Manager numWorker) (id : Nat) :
    Lasts state (state.destroyTask id) where
  nextId := rfl
  known _ := Manager.setTask_none
  destroyed other gone := by
    by_cases known : state.tasks id = none
    · have same : (state.destroyTask id).tasks = state.tasks := by
        simp only [Manager.destroyTask, Manager.setTask, known, Option.map_none]
        exact Function.update_eq_self_iff.mpr known.symm
      rw [Manager.destroyed, same]
      exact gone
    · rw [Manager.destroyTask_destroyed known, gone, ite_self]

theorem handsOut_lasts (state : Manager numWorker) (id : Nat) (mark : Mark) :
    Lasts state ((state.destroyTask id).mark mark) :=
  ⟨rfl, (destroyTask_lasts state id).known, (destroyTask_lasts state id).destroyed⟩

theorem become_self (state : Manager numWorker) (w : Fin numWorker) (worker : Worker) :
    (state.become w worker).workers w = worker := by
  simp only [Manager.become, Function.update_self]

theorem work_lasts {w : Fin numWorker} {destroysItself : Bool}
    (worked : state.work w destroysItself = some next) : Lasts state next := by
  cases work_inversion worked with
  | inspects here inspected => cases inspected <;> exact .of_tasks rfl rfl
  | rests here =>
      rw [rest_become]
      exact .of_tasks rfl rfl
  | timesOut here | executes here =>
      exact ⟨rfl, fun _ => Manager.setTask_none,
        fun id gone => (Manager.lock_destroyed _ id).trans gone⟩
  | executed here =>
      exact ⟨rfl, fun _ => Manager.setTask_none,
        fun id gone => (Manager.unlock_destroyed _ id).trans gone⟩
  | timedOut here | destroysItself here =>
      refine ⟨rfl, fun _ => Manager.setTask_none.trans Manager.setTask_none, fun id gone => ?_⟩
      exact (Manager.unlock_destroyed _ id).trans ((destroyTask_lasts state _).destroyed id gone)
  | _ => exact .of_tasks rfl rfl

theorem dispatch_lasts {id : Nat} {executeAtTime maxStayAtTime : Int}
    {woken : Option (Fin numWorker)}
    (dispatched : state.dispatch id executeAtTime maxStayAtTime woken = some next) :
    Lasts state next := by
  cases dispatch_cases dispatched with
  | known _ => exact .of_tasks rfl rfl
  | goesIn _ _ => exact .of_tasks rfl rfl
  | goesFirst _ _ _ notified =>
      rcases notifyOne_cases notified with rfl | ⟨w, deadline, _, rfl⟩
      · exact .of_tasks rfl rfl
      · exact .of_tasks rfl rfl

theorem work_dropping {w : Fin numWorker} {destroysItself : Bool}
    (worked : state.work w destroysItself = some next) {now : Int} {it : Item}
    (dropping : next.workers w = .dropping now it) : state.destroyed it.task = true := by
  have moved : ∀ {worker : Worker}, Function.update state.workers w worker w = .dropping now it →
      worker = .dropping now it := fun same => (Function.update_self w _ _).symm.trans same
  cases work_inversion worked with
  | skipsExecute here free gone | findsDestroyed here gone =>
      cases moved dropping
      exact gone
  | inspects here inspected =>
      cases inspected <;> (have other := moved dropping; contradiction)
  | rests here =>
      rw [rest_become] at dropping
      have other := moved dropping
      split at other <;> contradiction
  | _ =>
      have other := moved dropping
      contradiction

theorem Tended.lasts (tended : Tended state) (lasts : Lasts state next)
    (workers : ∀ w now it, next.workers w = .dropping now it →
      state.workers w = .dropping now it) : Tended next where
  unknown id fresh := (lasts.known id).mpr (tended.unknown id (lasts.nextId ▸ fresh))
  dropped w now it dropping :=
    lasts.destroyed _ (tended.dropped w now it (workers w now it dropping))

theorem Tended.work (tended : Tended state) {w : Fin numWorker} {destroysItself : Bool}
    (worked : state.work w destroysItself = some next) : Tended next where
  unknown id fresh :=
    ((work_lasts worked).known id).mpr (tended.unknown id ((work_lasts worked).nextId ▸ fresh))
  dropped v now it dropping := by
    refine (work_lasts worked).destroyed _ ?_
    by_cases same : v = w
    · subst same
      exact work_dropping worked dropping
    · rw [(work_frame worked).2 v same] at dropping
      exact tended.dropped v now it dropping

theorem Tended.dispatch (tended : Tended state) {id : Nat} {executeAtTime maxStayAtTime : Int}
    {woken : Option (Fin numWorker)}
    (dispatched : state.dispatch id executeAtTime maxStayAtTime woken = some next) :
    Tended next := by
  refine tended.lasts (dispatch_lasts dispatched) fun w now it dropping => ?_
  cases dispatch_cases dispatched with
  | known _ => exact dropping
  | goesIn _ _ => exact dropping
  | goesFirst _ _ _ notified =>
      rcases notifyOne_cases notified with rfl | ⟨v, deadline, _, rfl⟩
      · exact dropping
      · by_cases same : w = v
        · subst same
          have other := (Function.update_self w _ _).symm.trans dropping
          contradiction
        · exact (Function.update_of_ne same _ _).symm.trans dropping

theorem Tended.step (tended : Tended state) {event : Event numWorker}
    (stepped : containerStep state event = some next) : Tended next := by
  cases event with
  | tick elapsed =>
      cases stepped
      exact tended.lasts (.of_tasks rfl rfl) fun _ _ _ dropping => dropping
  | build certificate =>
      cases stepped
      constructor
      · intro id fresh
        have later : state.nextId + 1 ≤ id := fresh
        have other : id ≠ state.nextId := by omega
        exact (Function.update_of_ne other _ _).trans (tended.unknown id (by omega))
      · intro w now it dropping
        have gone := tended.dropped w now it dropping
        have other : it.task ≠ state.nextId := by
          intro same
          rw [Manager.destroyed, same, tended.unknown _ (Nat.le_refl _)] at gone
          contradiction
        simp only [Manager.destroyed, Manager.build, Function.update_of_ne other]
        exact gone
  | dispatch id executeAtTime maxStayAtTime woken =>
      simp only [containerStep, Option.ite_none_left_eq_some] at stepped
      have handed : Tended (state.handOver id) := ⟨tended.unknown, tended.dropped⟩
      exact handed.dispatch stepped.2
  | work w destroysItself => exact tended.work stepped
  | lookUp id certificate =>
      cases stepped
      simp only [Manager.lookUp]
      split
      · exact ⟨tended.unknown, tended.dropped⟩
      · exact tended
  | destroy id =>
      obtain ⟨-, ⟨-, rfl⟩ | ⟨-, rfl⟩⟩ := destroy_cases stepped
      · exact ⟨tended.unknown, tended.dropped⟩
      · have left : Tended { state with destroying := state.destroying.erase id } :=
          ⟨tended.unknown, tended.dropped⟩
        exact left.lasts (handsOut_lasts _ id _) fun _ _ _ dropping => dropping

/-- The key of a task leaves the map when the worker finds it destroyed or lets it time out. -/
theorem work_listed (tended : Tended state) {w : Fin numWorker} {destroysItself : Bool}
    (worked : state.work w destroysItself = some next) {id : Nat} (listed : id ∈ state.mapItems) :
    id ∈ next.mapItems ∨ state.destroyed id = true ∨
      ∃ v it, (next.workers v).expires = some it ∧ it.task = id := by
  have erased : ∀ it : Item, id ∈ state.mapItems.erase it.task ∨ it.task = id := by
    intro it
    by_cases same : it.task = id
    · exact .inr same
    · exact .inl ((List.mem_erase_of_ne (Ne.symm same)).mpr listed)
  cases work_inversion worked with
  | inspects here inspected =>
      cases inspected with
      | rests _ | starts => exact .inl listed
      | @drops it front gone =>
          rcases erased it with still | rfl
          · exact .inl still
          · exact .inr (.inl gone)
      | @expires it front alive late =>
          rcases erased it with still | own
          · exact .inl still
          · exact .inr (.inr ⟨w, it, by rw [become_self]; rfl, own⟩)
  | @drops now it here =>
      rcases erased it with still | rfl
      · exact .inl still
      · exact .inr (.inl (tended.dropped w now it here))
  | rests here =>
      rw [rest_become]
      exact .inl listed
  | _ => exact .inl listed

theorem work_expiring {w : Fin numWorker} {destroysItself : Bool}
    (worked : state.work w destroysItself = some next) {it : Item}
    (known : state.tasks it.task ≠ none) {v : Fin numWorker}
    (expires : (state.workers v).expires = some it) :
    next.destroyed it.task = true ∨ (next.workers v).expires = some it := by
  by_cases own : v = w
  · subst own
    cases work_inversion worked with
    | skipsTimeout here free gone =>
        rw [here] at expires
        cases expires
        exact .inl gone
    | timesOut here =>
        rw [here] at expires
        cases expires
        rw [become_self]
        exact .inr rfl
    | timedOut here =>
        rw [here] at expires
        cases expires
        refine .inl ((Manager.unlock_destroyed _ _).trans ?_)
        exact (Manager.destroyTask_destroyed known it.task).trans (if_pos rfl)
    | loops here | inspects here _ | skipsExecute here | executes here | executed here
    | destroysItself here | findsDestroyed here | findsAlive here | drops here | givesBack here
    | rests here | wakes here =>
        rw [here] at expires
        contradiction
  · rw [(work_frame worked).2 v own]
    exact .inr expires

theorem Accounted.work (tended : Tended state) {w : Fin numWorker} {destroysItself : Bool}
    (worked : state.work w destroysItself = some next) {id : Nat}
    (accounted : Accounted state id) : Accounted next id := by
  have lasts := work_lasts worked
  refine ⟨fun missing => accounted.known ((lasts.known id).mp missing), ?_⟩
  rcases accounted.place with listed | gone | ⟨v, it, expires, rfl⟩
  · rcases work_listed tended worked listed with still | gone | expires
    · exact .inl still
    · exact .inr (.inl (lasts.destroyed id gone))
    · exact .inr (.inr expires)
  · exact .inr (.inl (lasts.destroyed id gone))
  · rcases work_expiring worked accounted.known expires with gone | still
    · exact .inr (.inl gone)
    · exact .inr (.inr ⟨v, it, still, rfl⟩)

theorem Accounted.kept {id : Nat} (accounted : Accounted state id) (lasts : Lasts state next)
    (listed : id ∈ state.mapItems → id ∈ next.mapItems)
    (workers : ∀ w it, (state.workers w).expires = some it →
      (next.workers w).expires = some it) : Accounted next id where
  known missing := accounted.known ((lasts.known id).mp missing)
  place := accounted.place.imp listed (Or.imp (lasts.destroyed id)
    fun ⟨w, it, expires, same⟩ => ⟨w, it, workers w it expires, same⟩)

theorem notifyOne_accounted {woken : Option (Fin numWorker)} {id : Nat}
    (accounted : Accounted state id) (notified : state.notifyOne woken = some next) :
    Accounted next id := by
  rcases notifyOne_cases notified with rfl | ⟨w, deadline, here, rfl⟩
  · exact accounted
  · refine accounted.kept (.of_tasks rfl rfl) (fun listed => listed) fun v it expires => ?_
    by_cases same : v = w
    · subst same
      rw [here] at expires
      contradiction
    · exact (congrArg Worker.expires (Function.update_of_ne same _ _)).trans expires

theorem Accounted.dispatch {id other : Nat} {executeAtTime maxStayAtTime : Int}
    {woken : Option (Fin numWorker)} (known : state.tasks id ≠ none)
    (before : Accounted state id ∨ id = other)
    (dispatched : state.dispatch other executeAtTime maxStayAtTime woken = some next) :
    Accounted next id := by
  have inserted : Accounted (state.insert (Item.waiting other executeAtTime maxStayAtTime)) id := by
    rcases before with accounted | rfl
    · exact accounted.kept (.of_tasks rfl rfl) (fun listed => List.mem_cons_of_mem _ listed)
        fun _ _ expires => expires
    · exact ⟨known, .inl List.mem_cons_self⟩
  cases dispatch_cases dispatched with
  | known listed =>
      rcases before with accounted | rfl
      · exact accounted
      · exact ⟨known, .inl listed⟩
  | goesIn _ _ => exact inserted
  | goesFirst _ _ _ notified => exact notifyOne_accounted inserted notified

theorem Accounted.step (tended : Tended state) {event : Event numWorker} {id : Nat}
    (accounted : Accounted state id) (stepped : containerStep state event = some next) :
    Accounted next id := by
  have same : ∀ {after : Manager numWorker}, after.nextId = state.nextId →
      after.tasks = state.tasks → after.mapItems = state.mapItems →
      after.workers = state.workers → Accounted after id := by
    intro after nextId tasks mapItems workers
    refine accounted.kept (.of_tasks nextId tasks) (fun listed => mapItems ▸ listed) ?_
    exact fun _ _ expires => workers ▸ expires
  cases event with
  | tick elapsed =>
      cases stepped
      exact same rfl rfl rfl rfl
  | build certificate =>
      cases stepped
      have other : id ≠ state.nextId := by
        rintro rfl
        exact accounted.known (tended.unknown _ (Nat.le_refl _))
      have task : (state.build certificate).tasks id = state.tasks id :=
        Function.update_of_ne other _ _
      refine ⟨task ▸ accounted.known, accounted.place.imp_right (Or.imp_left fun gone => ?_)⟩
      rw [Manager.destroyed, task]
      exact gone
  | dispatch other executeAtTime maxStayAtTime woken =>
      simp only [containerStep, Option.ite_none_left_eq_some] at stepped
      have handed : Accounted (state.handOver other) id := same rfl rfl rfl rfl
      exact .dispatch handed.known (.inl handed) stepped.2
  | work w destroysItself => exact accounted.work tended stepped
  | lookUp other certificate =>
      cases stepped
      simp only [Manager.lookUp]
      split
      · exact same rfl rfl rfl rfl
      · exact accounted
  | destroy other =>
      obtain ⟨-, ⟨-, rfl⟩ | ⟨-, rfl⟩⟩ := destroy_cases stepped
      · exact same rfl rfl rfl rfl
      · have left : Accounted { state with destroying := state.destroying.erase other } id :=
          same rfl rfl rfl rfl
        exact left.kept (handsOut_lasts _ other _) (fun listed => listed)
          fun _ _ expires => expires

/-- A task that a run dispatches is accounted for from then on. -/
theorem dispatched_accounted {before after : List (Event numWorker)} {id : Nat}
    {executeAtTime maxStayAtTime : Int} {woken : Option (Fin numWorker)}
    (ran : Transition.run containerStep (initial numWorker)
      (before ++ .dispatch id executeAtTime maxStayAtTime woken :: after) = some state) :
    Accounted state id := by
  obtain ⟨middle, ranBefore, rest⟩ := (Transition.run_append containerStep).mp ran
  obtain ⟨next, stepped, ranAfter⟩ := (Transition.run_cons containerStep).mp rest
  have tended : Tended middle := Transition.Reachable.invariant containerStep
    (fun _ _ _ tended stepped => tended.step stepped)
    ⟨fun _ _ => rfl, fun _ _ _ dropping => by contradiction⟩ ⟨before, ranBefore⟩
  have dispatched : Accounted next id := by
    have inside := stepped
    simp only [containerStep, Option.ite_none_left_eq_some] at inside
    exact @Accounted.dispatch _ (middle.handOver id) _ _ _ _ _ _ inside.1 (.inr rfl) inside.2
  have both : Tended state ∧ Accounted state id := by
    refine @Transition.Reachable.invariant _ _ containerStep
      (fun later => Tended later ∧ Accounted later id) ?_ _ _ ⟨tended.step stepped, dispatched⟩
      ⟨after, ranAfter⟩
    exact fun _ _ _ kept happened => ⟨kept.1.step happened, kept.2.step kept.1 happened⟩
  exact both.2

/-- The runs of the manager, in which its callers dispatch each task once. -/
theorem run_containerStep {events : List (Event numWorker)}
    (ran : Transition.run step (initial numWorker) events = some state) :
    Transition.run containerStep (initial numWorker) events = some state := by
  suffices general : ∀ start : Manager numWorker, Orderly start →
      Transition.run step start events = some state →
      Transition.run containerStep start events = some state from
    general _ (initial_orderly numWorker) ran
  clear ran
  induction events with
  | nil => exact fun _ _ ran => ran
  | cons event events ih =>
      intro start orderly ran
      obtain ⟨middle, stepped, rest⟩ := (Transition.run_cons step).mp ran
      exact (Transition.run_cons containerStep).mpr ⟨middle, containerStep_of_step orderly stepped,
        ih middle (step_orderly event orderly stepped) rest⟩

/-- In every run of dispatching threads, workers and destroying threads the containers agree
whenever the mutex is free, and what was dispatched is in them until it is destroyed or timed
out. -/
theorem containers_agree (numWorker : Nat) (events : List (Event numWorker)) :
    Transition.Throughout containerStep ContainersAgree (initial numWorker) events ∧
      ∀ before id executeAtTime maxStayAtTime woken after state,
        events = before ++ .dispatch id executeAtTime maxStayAtTime woken :: after →
        Transition.run containerStep (initial numWorker) events = some state →
        Accounted state id := by
  constructor
  · exact (Transition.Throughout.of_step containerStep
      (fun _ _ _ balanced stepped => balanced.step stepped)
      (initial_balanced numWorker)).mono containerStep fun _ balanced => balanced.agree
  · rintro before id executeAtTime maxStayAtTime woken after state rfl ran
    exact dispatched_accounted ran

end

end TaskManager

end EasyViewer
