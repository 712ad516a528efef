import EasyViewer.ManagerSteps

/-!
The life cycle of a task. An item that was not executed yet is a ticket for `execute`,
and each task ever has one; the task's lock is held by the one worker inside `execute`
or `timeout`; and whoever destroys the task finds it undestroyed under that lock.
-/

namespace EasyViewer

namespace TaskManager

namespace Mark

def executing (id : Nat) (mark : Mark) : Bool := mark = .executes id

def ending (id : Nat) (mark : Mark) : Bool :=
  mark = .timesOut id ∨ mark = .handsOut id ∨ mark = .destroysItself id

def starts (id : Nat) (mark : Mark) : Bool := mark = .executes id ∨ mark = .timesOut id

def destroys (id : Nat) (mark : Mark) : Bool :=
  mark = .timedOut id ∨ mark = .handsOut id ∨ mark = .destroysItself id

def task : Mark → Nat
  | .executes id | .destroysItself id | .timesOut id | .timedOut id | .handsOut id => id

theorem executing_other {mark : Mark} {id : Nat} (other : id ≠ mark.task) :
    mark.executing id = false := by
  cases mark <;> simp_all [executing, task, eq_comm]

theorem ending_other {mark : Mark} {id : Nat} (other : id ≠ mark.task) :
    mark.ending id = false := by
  cases mark <;> simp_all [ending, task, eq_comm]

theorem destroys_task {mark : Mark} {id : Nat} (destroys : mark.destroys id = true) :
    mark.task = id := by
  cases mark <;> simp_all [Mark.destroys, task]

theorem starts_task {mark : Mark} {id : Nat} (starts : mark.starts id = true) :
    mark.task = id := by
  cases mark <;> simp_all [Mark.starts, task]

end Mark

/-- No `execute` or `timeout` starts after the task was destroyed. -/
def Ordered (history : List Mark) : Prop :=
  ∀ id before mark after, history = before ++ mark :: after → mark.starts id →
    ∀ earlier ∈ before, ¬ earlier.destroys id

theorem Ordered.append {history : List Mark} {last : Mark} (ordered : Ordered history)
    (fresh : ∀ id, last.starts id → ∀ earlier ∈ history, ¬ earlier.destroys id) :
    Ordered (history ++ [last]) := by
  intro id before mark after split starts
  rcases List.eq_nil_or_concat after with rfl | ⟨rest, final, rfl⟩
  · obtain ⟨rfl, same⟩ := List.append_inj' split rfl
    rw [List.singleton_inj] at same
    subst same
    exact fresh id starts
  · rw [List.concat_eq_append, ← List.cons_append, ← List.append_assoc] at split
    obtain ⟨earlier, _⟩ := List.append_inj' split rfl
    exact ordered id before mark rest earlier starts

section

variable {numWorker : Nat} {state next : Manager numWorker}

namespace Manager

theorem setTask_none {id other : Nat} {change : ITask → ITask} :
    (state.setTask id change).tasks other = none ↔ state.tasks other = none := by
  by_cases same : other = id
  · subst same
    simp [setTask]
  · simp [setTask, Function.update_of_ne same]

@[simp] theorem lock_destroyed (id other : Nat) :
    (state.lock id).destroyed other = state.destroyed other := by
  by_cases same : other = id
  · subst same
    cases known : state.tasks other <;> simp [lock, setTask, destroyed, known]
  · simp [lock, setTask, destroyed, Function.update_of_ne same]

@[simp] theorem unlock_destroyed (id other : Nat) :
    (state.unlock id).destroyed other = state.destroyed other := by
  by_cases same : other = id
  · subst same
    cases known : state.tasks other <;> simp [unlock, setTask, destroyed, known]
  · simp [unlock, setTask, destroyed, Function.update_of_ne same]

@[simp] theorem destroyTask_locked (id other : Nat) :
    (state.destroyTask id).locked other = state.locked other := by
  by_cases same : other = id
  · subst same
    cases known : state.tasks other <;> simp [destroyTask, setTask, locked, known]
  · simp [destroyTask, setTask, locked, Function.update_of_ne same]

theorem lock_locked {id : Nat} (known : state.tasks id ≠ none) (other : Nat) :
    (state.lock id).locked other = if other = id then true else state.locked other := by
  obtain ⟨task, isTask⟩ := Option.ne_none_iff_exists'.mp known
  by_cases same : other = id
  · subst same
    simp [lock, setTask, locked, isTask]
  · simp [lock, setTask, locked, same]

theorem unlock_locked (id other : Nat) :
    (state.unlock id).locked other = if other = id then false else state.locked other := by
  by_cases same : other = id
  · subst same
    cases known : state.tasks other <;> simp [unlock, setTask, locked, known]
  · simp [unlock, setTask, locked, same]

theorem destroyTask_destroyed {id : Nat} (known : state.tasks id ≠ none) (other : Nat) :
    (state.destroyTask id).destroyed other =
      if other = id then true else state.destroyed other := by
  obtain ⟨task, isTask⟩ := Option.ne_none_iff_exists'.mp known
  by_cases same : other = id
  · subst same
    simp [destroyTask, setTask, destroyed, isTask]
  · simp [destroyTask, setTask, destroyed, same]

end Manager

structure Orderly (state : Manager numWorker) : Prop where
  heap : BinaryHeap.IsHeap compare state.heapItems
  unknown : ∀ id, state.nextId ≤ id → state.tasks id = none
  absent : ∀ id, state.tasks id = none →
    state.present id = 0 ∧ state.tickets id = 0 ∧ ∀ mark ∈ state.history, mark.task ≠ id
  lookedUp : ∀ id ∈ state.destroying, state.tasks id ≠ none
  executesOnce : ∀ id, state.history.countP (Mark.executing id) + state.tickets id ≤ 1
  lockHeld : ∀ id, state.running id = if state.locked id then 1 else 0
  endsOnce : ∀ id, state.history.countP (Mark.ending id) + (if state.destroyed id then 0 else 1) ≤
    1 + state.timing id
  runningAlive : ∀ id, 0 < state.running id → state.destroyed id = false
  destroyedSince : ∀ id, ∀ mark ∈ state.history, mark.destroys id → state.destroyed id = true
  ordered : Ordered state.history

structure Effect (state next : Manager numWorker) (left : Option Mark) : Prop where
  heap : BinaryHeap.IsHeap compare next.heapItems
  nextId : next.nextId = state.nextId
  tasks : ∀ id, next.tasks id = none ↔ state.tasks id = none
  history : next.history = state.history ++ left.toList
  known : ∀ mark ∈ left.toList, state.tasks mark.task ≠ none
  destroying : ∀ id ∈ next.destroying, id ∈ state.destroying ∨ state.tasks id ≠ none
  present : ∀ id, next.present id ≤ state.present id
  tickets : ∀ id, next.tickets id + left.toList.countP (Mark.executing id) ≤ state.tickets id
  locks : ∀ id, next.running id + (if state.locked id then 1 else 0) =
    state.running id + (if next.locked id then 1 else 0)
  ends : ∀ id, left.toList.countP (Mark.ending id) + (if next.destroyed id then 0 else 1) +
    state.timing id ≤ (if state.destroyed id then 0 else 1) + next.timing id
  lockedAlive : ∀ id, next.locked id = true → next.destroyed id = false
  stays : ∀ id, state.destroyed id = true → next.destroyed id = true
  destroys : ∀ id, ∀ mark ∈ left.toList, mark.destroys id → next.destroyed id = true
  starts : ∀ id, ∀ mark ∈ left.toList, mark.starts id → state.destroyed id = false

theorem Orderly.locked_alive (orderly : Orderly state) {id : Nat}
    (locked : state.locked id = true) :
    state.destroyed id = false := by
  apply orderly.runningAlive id
  rw [orderly.lockHeld id, if_pos locked]
  exact Nat.one_pos

theorem Orderly.step (orderly : Orderly state) {left : Option Mark}
    (effect : Effect state next left) : Orderly next := by
  have held : ∀ id, next.running id = if next.locked id then 1 else 0 := by
    intro id
    have before := orderly.lockHeld id
    have moved := effect.locks id
    omega
  constructor
  · exact effect.heap
  · intro id beyond
    rw [effect.nextId] at beyond
    exact (effect.tasks id).mpr (orderly.unknown id beyond)
  · intro id missing
    have missing := (effect.tasks id).mp missing
    obtain ⟨notPresent, noTicket, noMark⟩ := orderly.absent id missing
    have fewer := effect.present id
    have less := effect.tickets id
    refine ⟨by omega, by omega, ?_⟩
    rw [effect.history]
    intro mark listed
    rcases List.mem_append.mp listed with old | new
    · exact noMark mark old
    · rintro rfl
      exact effect.known mark new missing
  · intro id listed
    have known : state.tasks id ≠ none := by
      rcases effect.destroying id listed with before | known
      · exact orderly.lookedUp id before
      · exact known
    exact fun missing => known ((effect.tasks id).mp missing)
  · intro id
    have before := orderly.executesOnce id
    have less := effect.tickets id
    rw [effect.history, List.countP_append]
    omega
  · exact held
  · intro id
    have before := orderly.endsOnce id
    have moved := effect.ends id
    rw [effect.history, List.countP_append]
    omega
  · intro id inside
    rw [held id] at inside
    apply effect.lockedAlive id
    by_contra unlocked
    rw [if_neg unlocked] at inside
    omega
  · intro id mark listed ended
    rw [effect.history] at listed
    rcases List.mem_append.mp listed with old | new
    · exact effect.stays id (orderly.destroyedSince id mark old ended)
    · exact effect.destroys id mark new ended
  · rw [effect.history]
    cases left with
    | none =>
        rw [Option.toList_none, List.append_nil]
        exact orderly.ordered
    | some mark =>
        apply orderly.ordered.append
        intro id starts earlier listed ended
        have dead := orderly.destroyedSince id earlier listed ended
        rw [effect.starts id mark (by simp) starts] at dead
        contradiction

theorem Quiet.effect (quiet : Quiet state next) (orderly : Orderly state)
    (heap : BinaryHeap.IsHeap compare next.heapItems) : Effect state next none := by
  have locked : ∀ id, next.locked id = state.locked id := fun id => by
    simp only [Manager.locked, quiet.tasks]
  have destroyed : ∀ id, next.destroyed id = state.destroyed id := fun id => by
    simp only [Manager.destroyed, quiet.tasks]
  constructor
  · exact heap
  · exact quiet.nextId
  · intro id
    rw [quiet.tasks]
  · rw [quiet.history, Option.toList_none, List.append_nil]
  · simp
  · exact quiet.destroying
  · exact quiet.present
  · exact quiet.tickets
  · intro id
    rw [quiet.running, locked]
  · intro id
    rw [quiet.timing, destroyed]
    simp
  · intro id held
    rw [destroyed]
    exact orderly.locked_alive (locked id ▸ held)
  · intro id dead
    rw [destroyed]
    exact dead
  · simp
  · simp

theorem Orderly.known (orderly : Orderly state) {w : Fin numWorker} {it : Item}
    (carried : (state.workers w).item = some it) : state.tasks it.task ≠ none := by
  intro missing
  obtain ⟨notPresent, _, _⟩ := orderly.absent it.task missing
  have counted := Threads.le_tally (Worker.weigh (Item.forTask it.task)) state.workers w
  have worth : (state.workers w).weigh (Item.forTask it.task) = 1 := by
    simp [Worker.weigh, carried, Item.forTask]
  simp only [Manager.present, Manager.held] at notPresent
  omega

theorem become_counts {w : Fin numWorker} {before after : Worker} (here : state.workers w = before)
    (workers : next.workers = Function.update state.workers w after)
    (heapItems : next.heapItems = state.heapItems) (built : next.built = state.built) (id : Nat) :
    next.present id + before.weigh (Item.forTask id) =
        state.present id + after.weigh (Item.forTask id) ∧
      next.tickets id + before.weigh (Item.ticket id) =
        state.tickets id + after.weigh (Item.ticket id) ∧
      next.running id + before.running id = state.running id + after.running id ∧
      next.timing id + before.timing id = state.timing id + after.timing id := by
  have same : ∀ value, next.held value = (state.become w after).held value := fun value => by
    simp only [Manager.held, Manager.become, workers, heapItems]
  have forTask := Manager.held_become state w after (Item.forTask id)
  have ticket := Manager.held_become state w after (Item.ticket id)
  have runs := Threads.tally_update (Worker.running id) state.workers w after
  have times := Threads.tally_update (Worker.timing id) state.workers w after
  rw [here] at forTask ticket runs times
  simp only [Manager.present, Manager.tickets, Manager.running, Manager.timing, built, same,
    workers]
  omega

structure Turn (state next : Manager numWorker) (id : Nat) (w : Fin numWorker)
    (before after : Worker) (left : Option Mark) : Prop where
  here : state.workers w = before
  workers : next.workers = Function.update state.workers w after
  heapItems : next.heapItems = state.heapItems
  built : next.built = state.built
  nextId : next.nextId = state.nextId
  destroying : next.destroying = state.destroying
  tasks : ∀ id, next.tasks id = none ↔ state.tasks id = none
  history : next.history = state.history ++ left.toList
  about : before.About id ∧ after.About id
  marked : ∀ mark ∈ left.toList, mark.task = id
  others : ∀ other, other ≠ id →
    next.locked other = state.locked other ∧ next.destroyed other = state.destroyed other
  present : after.weigh (Item.forTask id) ≤ before.weigh (Item.forTask id)
  tickets : after.weigh (Item.ticket id) + left.toList.countP (Mark.executing id) ≤
    before.weigh (Item.ticket id)
  locks : after.running id + (if state.locked id then 1 else 0) =
    before.running id + (if next.locked id then 1 else 0)
  ends : left.toList.countP (Mark.ending id) + (if next.destroyed id then 0 else 1) +
    before.timing id ≤ (if state.destroyed id then 0 else 1) + after.timing id
  lockedAlive : next.locked id = true → next.destroyed id = false
  stays : state.destroyed id = true → next.destroyed id = true
  destroys : ∀ mark ∈ left.toList, mark.destroys id → next.destroyed id = true
  starts : ∀ mark ∈ left.toList, mark.starts id → state.destroyed id = false

theorem Turn.effect {id : Nat} {w : Fin numWorker} {before after : Worker} {left : Option Mark}
    (turn : Turn state next id w before after left) (orderly : Orderly state)
    (known : state.tasks id ≠ none) : Effect state next left := by
  have counts := become_counts turn.here turn.workers turn.heapItems turn.built
  have noMark : ∀ other, other ≠ id → left.toList.countP (Mark.executing other) = 0 ∧
      left.toList.countP (Mark.ending other) = 0 := by
    intro other apart
    simp only [List.countP_eq_zero, Bool.not_eq_true]
    constructor
    · exact fun mark listed => Mark.executing_other (turn.marked mark listed ▸ apart)
    · exact fun mark listed => Mark.ending_other (turn.marked mark listed ▸ apart)
  constructor
  · rw [turn.heapItems]
    exact orderly.heap
  · exact turn.nextId
  · exact turn.tasks
  · exact turn.history
  · intro mark listed
    rw [turn.marked mark listed]
    exact known
  · rw [turn.destroying]
    exact fun id listed => Or.inl listed
  · intro other
    have moved := (counts other).1
    have here := turn.present
    by_cases same : other = id
    · subst same
      omega
    · have was := turn.about.1.forTask_other same
      have is := turn.about.2.forTask_other same
      omega
  · intro other
    have moved := (counts other).2.1
    have here := turn.tickets
    by_cases same : other = id
    · subst same
      omega
    · have was := turn.about.1.ticket_other same
      have is := turn.about.2.ticket_other same
      have none := (noMark other same).1
      omega
  · intro other
    have moved := (counts other).2.2.1
    have here := turn.locks
    by_cases same : other = id
    · subst same
      omega
    · have was := turn.about.1.running_other same
      have is := turn.about.2.running_other same
      rw [(turn.others other same).1]
      omega
  · intro other
    have moved := (counts other).2.2.2
    have here := turn.ends
    by_cases same : other = id
    · subst same
      omega
    · have was := turn.about.1.timing_other same
      have is := turn.about.2.timing_other same
      have none := (noMark other same).2
      rw [(turn.others other same).2]
      omega
  · intro other held
    by_cases same : other = id
    · subst same
      exact turn.lockedAlive held
    · rw [(turn.others other same).1] at held
      rw [(turn.others other same).2]
      exact orderly.locked_alive held
  · intro other dead
    by_cases same : other = id
    · subst same
      exact turn.stays dead
    · rw [(turn.others other same).2]
      exact dead
  · intro other mark listed ends
    obtain rfl : id = other := (turn.marked mark listed).symm.trans (Mark.destroys_task ends)
    exact turn.destroys mark listed ends
  · intro other mark listed starts
    obtain rfl : id = other := (turn.marked mark listed).symm.trans (Mark.starts_task starts)
    exact turn.starts mark listed starts

theorem started_turn {id : Nat} {w : Fin numWorker} {before after : Worker} {mark : Mark}
    (here : state.workers w = before) (known : state.tasks id ≠ none)
    (free : state.locked id = false) (alive : state.destroyed id = false)
    (about : before.About id ∧ after.About id) (named : mark.task = id)
    (destroysNot : mark.destroys id = false)
    (present : after.weigh (Item.forTask id) ≤ before.weigh (Item.forTask id))
    (tickets : after.weigh (Item.ticket id) + (if mark.executing id then 1 else 0) ≤
      before.weigh (Item.ticket id))
    (inside : before.running id = 0 ∧ after.running id = 1)
    (ends : (if mark.ending id then 1 else 0) + before.timing id ≤ after.timing id) :
    Turn state (((state.lock id).mark mark).become w after) id w before after (some mark) := by
  have locked := Manager.lock_locked known
  have destroyed : ∀ other, (state.lock id).destroyed other = state.destroyed other :=
    Manager.lock_destroyed id
  constructor
  · exact here
  · rfl
  · rfl
  · rfl
  · rfl
  · rfl
  · exact fun other => Manager.setTask_none
  · rfl
  · exact about
  · simpa using named
  · intro other apart
    exact ⟨(locked other).trans (if_neg apart), destroyed other⟩
  · exact present
  · simpa [List.countP_cons] using tickets
  · change _ = _ + if (state.lock id).locked id then 1 else 0
    simp [locked, free, inside]
  · change _ + (if (state.lock id).destroyed id then 0 else 1) + _ ≤ _
    simp only [destroyed, alive, Option.toList_some, List.countP_cons, List.countP_nil]
    omega
  · exact fun _ => (destroyed id).trans alive
  · exact fun dead => (destroyed id).trans dead
  · simp [destroysNot]
  · exact fun _ _ _ => alive

theorem Orderly.inside (orderly : Orderly state) (w : Fin numWorker) (id : Nat)
    (runs : (state.workers w).running id = 1) :
    state.locked id = true ∧ state.destroyed id = false := by
  have counted := Threads.le_tally (Worker.running id) state.workers w
  have positive : 0 < state.running id := by
    simp only [Manager.running]
    omega
  refine ⟨?_, orderly.runningAlive id positive⟩
  have held := orderly.lockHeld id
  by_contra unlocked
  rw [if_neg unlocked] at held
  omega

theorem destroyed_unlocked {id : Nat} (known : state.tasks id ≠ none) (mark : Mark) (other : Nat) :
    (((state.destroyTask id).mark mark).unlock id).locked other =
        (if other = id then false else state.locked other) ∧
      (((state.destroyTask id).mark mark).unlock id).destroyed other =
        if other = id then true else state.destroyed other := by
  constructor
  · rw [Manager.unlock_locked]
    exact if_congr Iff.rfl rfl (Manager.destroyTask_locked id other)
  · rw [Manager.unlock_destroyed]
    exact Manager.destroyTask_destroyed known other

theorem destroyed_turn (orderly : Orderly state) {id : Nat} {w : Fin numWorker}
    {before after : Worker} {mark : Mark} (here : state.workers w = before)
    (known : state.tasks id ≠ none) (about : before.About id ∧ after.About id)
    (named : mark.task = id) (startsNot : mark.starts id = false)
    (present : after.weigh (Item.forTask id) ≤ before.weigh (Item.forTask id))
    (tickets : after.weigh (Item.ticket id) ≤ before.weigh (Item.ticket id))
    (inside : before.running id = 1 ∧ after.running id = 0)
    (ends : (if mark.ending id then 1 else 0) + before.timing id ≤ 1 + after.timing id) :
    Turn state ((((state.destroyTask id).mark mark).unlock id).become w after) id w before after
      (some mark) := by
  obtain ⟨held, alive⟩ := orderly.inside w id (here ▸ inside.1)
  have flags := destroyed_unlocked known mark
  have tasks : ∀ other, (((state.destroyTask id).mark mark).unlock id).tasks other = none ↔
      state.tasks other = none := fun other => Manager.setTask_none.trans Manager.setTask_none
  generalize made : ((state.destroyTask id).mark mark).unlock id = unlocked at flags tasks ⊢
  have facts : unlocked.locked id = false ∧ unlocked.destroyed id = true := by
    simpa using flags id
  constructor
  · exact here
  · rw [← made]
    rfl
  · rw [← made]
    rfl
  · rw [← made]
    rfl
  · rw [← made]
    rfl
  · rw [← made]
    rfl
  · exact tasks
  · rw [← made]
    rfl
  · exact about
  · simpa using named
  · intro other apart
    obtain ⟨locked, destroyed⟩ := flags other
    exact ⟨locked.trans (if_neg apart), destroyed.trans (if_neg apart)⟩
  · exact present
  · have notExecuting : mark.executing id = false := by
      cases mark <;> simp_all [Mark.executing, Mark.starts]
    simpa [List.countP_cons, notExecuting] using tickets
  · change _ = _ + if unlocked.locked id then 1 else 0
    simp [held, facts.1, inside]
  · change _ + (if unlocked.destroyed id then 0 else 1) + _ ≤ _
    simp only [alive, facts.2, Option.toList_some, List.countP_cons, List.countP_nil]
    simp only [if_true, Bool.false_eq_true, if_false]
    omega
  · exact fun locked => absurd (facts.1.symm.trans locked) (by decide)
  · exact fun _ => facts.2
  · exact fun _ _ _ => facts.2
  · simp [startsNot]

theorem executed_turn (orderly : Orderly state) {w : Fin numWorker} {now : Int} {it : Item}
    (here : state.workers w = .executing now it) :
    Turn state ((state.unlock it.task).become w (.checking now it)) it.task w (.executing now it)
      (.checking now it) none := by
  obtain ⟨held, alive⟩ := orderly.inside w it.task (by simp [here, Worker.running])
  have locked : ∀ other, (state.unlock it.task).locked other =
      if other = it.task then false else state.locked other := Manager.unlock_locked it.task
  have destroyed : ∀ other, (state.unlock it.task).destroyed other = state.destroyed other :=
    Manager.unlock_destroyed it.task
  constructor
  · exact here
  · rfl
  · rfl
  · rfl
  · rfl
  · rfl
  · exact fun id => Manager.setTask_none
  · exact (List.append_nil _).symm
  · constructor <;> (intro other carried; cases carried; rfl)
  · simp
  · intro other apart
    exact ⟨(locked other).trans (if_neg apart), destroyed other⟩
  · exact Nat.le_refl _
  · simp [Worker.weigh, Worker.item]
  · change _ = _ + if (state.unlock it.task).locked it.task then 1 else 0
    simp [locked, held, Worker.running]
  · change _ + (if (state.unlock it.task).destroyed it.task then 0 else 1) + _ ≤ _
    simp [alive, Worker.timing]
  · exact fun _ => (destroyed it.task).trans alive
  · exact fun dead => (destroyed it.task).trans dead
  · simp
  · simp

/-- `destroy` finds the task undestroyed under its lock, which nobody holds. -/
theorem handsOut_effect (orderly : Orderly state) {id : Nat} (lookedUp : id ∈ state.destroying)
    (free : state.locked id = false) (alive : state.destroyed id = false) :
    Effect state (({ state with destroying := state.destroying.erase id }.destroyTask id).mark
      (.handsOut id)) (some (.handsOut id)) := by
  have known := orderly.lookedUp id lookedUp
  have destroyed : ∀ other,
      ({ state with destroying := state.destroying.erase id }.destroyTask id).destroyed other =
        if other = id then true else state.destroyed other := Manager.destroyTask_destroyed known
  have locked : ∀ other,
      ({ state with destroying := state.destroying.erase id }.destroyTask id).locked other =
        state.locked other := Manager.destroyTask_locked id
  generalize made : { state with destroying := state.destroying.erase id }.destroyTask id = next
    at destroyed locked ⊢
  constructor
  · rw [← made]
    exact orderly.heap
  · rw [← made]
    rfl
  · rw [← made]
    exact fun other => Manager.setTask_none
  · rw [← made]
    rfl
  · simpa [Mark.task] using known
  · rw [← made]
    exact fun other listed => Or.inl (List.mem_of_mem_erase listed)
  · rw [← made]
    exact fun other => Nat.le_refl _
  · rw [← made]
    simp only [Option.toList_some, List.countP_cons, List.countP_nil, Mark.executing]
    exact fun other => Nat.le_refl _
  · intro other
    change _ = _ + if next.locked other then 1 else 0
    rw [locked, ← made]
    rfl
  · intro other
    have times : (next.mark (.handsOut id)).timing other = state.timing other := by
      rw [← made]
      rfl
    change _ + (if next.destroyed other then 0 else 1) + _ ≤ _
    rw [destroyed, times]
    by_cases same : other = id
    · subst same
      simp [alive, Mark.ending]
    · have apart : ¬ id = other := fun reversed => same reversed.symm
      simp [same, apart, Mark.ending]
  · intro other held
    have held : next.locked other = true := held
    change next.destroyed other = false
    rw [locked] at held
    rw [destroyed, if_neg (fun same => absurd (held.symm.trans (same ▸ free)) (by decide))]
    exact orderly.locked_alive held
  · intro other dead
    change next.destroyed other = true
    rw [destroyed]
    split
    · rfl
    · exact dead
  · intro other mark listed ends
    change next.destroyed other = true
    rw [destroyed, if_pos]
    have same := Mark.destroys_task ends
    rw [Option.toList_some, List.mem_singleton] at listed
    rw [← same, listed]
    rfl
  · simp [Mark.starts]

theorem Orderly.built (orderly : Orderly state) (certificate : UInt32) :
    Orderly (state.build certificate) := by
  have fresh := orderly.unknown state.nextId (Nat.le_refl _)
  obtain ⟨notPresent, noTicket, noMark⟩ := orderly.absent state.nextId fresh
  have tasks : ∀ id, id ≠ state.nextId → (state.build certificate).tasks id = state.tasks id :=
    fun id other => Function.update_of_ne other _ _
  have flags : ∀ id, (state.build certificate).locked id = state.locked id ∧
      (state.build certificate).destroyed id = state.destroyed id := by
    intro id
    by_cases isNew : id = state.nextId
    · subst isNew
      simp [Manager.build, Manager.locked, Manager.destroyed, fresh]
    · simp [Manager.locked, Manager.destroyed, tasks id isNew]
  have known : ∀ id, (state.build certificate).tasks id = none →
      id ≠ state.nextId ∧ state.tasks id = none := by
    intro id missing
    by_cases isNew : id = state.nextId
    · subst isNew
      simp [Manager.build] at missing
    · exact ⟨isNew, tasks id isNew ▸ missing⟩
  constructor
  · exact orderly.heap
  · intro id beyond
    have beyond : state.nextId + 1 ≤ id := beyond
    rw [tasks id (by omega)]
    exact orderly.unknown id (by omega)
  · intro id missing
    obtain ⟨isOld, missing⟩ := known id missing
    obtain ⟨notPresent, noTicket, noMark⟩ := orderly.absent id missing
    have same : (state.nextId :: state.built).count id = state.built.count id :=
      List.count_cons_of_ne isOld.symm
    refine ⟨?_, ?_, noMark⟩
    · exact (congrArg (· + state.held _) same).trans notPresent
    · exact (congrArg (· + state.held _) same).trans noTicket
  · intro id listed missing
    exact orderly.lookedUp id listed (known id missing).2
  · intro id
    change state.history.countP _ + ((state.nextId :: state.built).count id + state.held _) ≤ 1
    have before := orderly.executesOnce id
    simp only [Manager.tickets] at before noTicket
    by_cases isNew : id = state.nextId
    · subst isNew
      have unmarked : state.history.countP (Mark.executing state.nextId) = 0 := by
        rw [List.countP_eq_zero]
        intro mark listed executes
        refine noMark mark listed (Mark.starts_task ?_)
        simp_all [Mark.starts, Mark.executing]
      rw [List.count_cons_self]
      omega
    · rw [List.count_cons_of_ne (Ne.symm isNew)]
      omega
  · intro id
    rw [(flags id).1]
    exact orderly.lockHeld id
  · intro id
    rw [(flags id).2]
    exact orderly.endsOnce id
  · intro id inside
    rw [(flags id).2]
    exact orderly.runningAlive id inside
  · intro id mark listed ends
    rw [(flags id).2]
    exact orderly.destroyedSince id mark listed ends
  · exact orderly.ordered

theorem Loud.effect (loud : Loud state next) (orderly : Orderly state) :
    (∃ left, Effect state next left) ∨ ∃ certificate, next = state.build certificate := by
  have carried : ∀ {w : Fin numWorker} {worker : Worker} {it : Item}, state.workers w = worker →
      worker.item = some it → state.tasks it.task ≠ none :=
    fun here has => orderly.known (here ▸ has)
  cases loud with
  | built certificate => exact Or.inr ⟨certificate, rfl⟩
  | @timesOut w now it here free alive =>
      have known := carried here rfl
      refine Or.inl ⟨_, (started_turn here known free alive ?_ rfl ?_ ?_ ?_ ?_ ?_).effect
        orderly known⟩
      · constructor <;> (intro other carried; cases carried; rfl)
      · simp [Mark.destroys]
      · exact Nat.le_refl _
      · simp [Mark.executing, Worker.weigh, Worker.item]
      · simp [Worker.running]
      · simp [Mark.ending, Worker.timing]
  | @timedOut w now it here =>
      have known := carried here rfl
      refine Or.inl ⟨_, (destroyed_turn orderly here known ?_ rfl ?_ ?_ ?_ ?_ ?_).effect
        orderly known⟩
      · constructor <;> (intro other carried; cases carried; try rfl)
      · simp [Mark.starts]
      · exact Nat.zero_le _
      · exact Nat.zero_le _
      · simp [Worker.running]
      · simp [Mark.ending, Worker.timing]
  | @executes w now it ready here free alive =>
      have known := carried here rfl
      refine Or.inl ⟨_, (started_turn here known free alive ?_ rfl ?_ ?_ ?_ ?_ ?_).effect
        orderly known⟩
      · constructor <;> (intro other carried; cases carried; rfl)
      · simp [Mark.destroys]
      · exact Nat.le_refl _
      · simp [Mark.executing, Worker.weigh, Worker.item, Item.ticket, ready.1]
      · simp [Worker.running]
      · simp [Mark.ending, Worker.timing]
  | @executed w now it here =>
      exact Or.inl ⟨_, (executed_turn orderly here).effect orderly (carried here rfl)⟩
  | @destroysItself w now it here =>
      have known := carried here rfl
      refine Or.inl ⟨_, (destroyed_turn orderly here known ?_ rfl ?_ ?_ ?_ ?_ ?_).effect
        orderly known⟩
      · constructor <;> (intro other carried; cases carried; rfl)
      · simp [Mark.starts]
      · exact Nat.le_refl _
      · exact Nat.le_refl _
      · simp [Worker.running]
      · simp [Mark.ending, Worker.timing]
  | @handsOut id lookedUp free alive =>
      exact Or.inl ⟨_, handsOut_effect orderly lookedUp free alive⟩

theorem step_effect {event : Event numWorker} (orderly : Orderly state)
    (stepped : step state event = some next) :
    (∃ left, Effect state next left) ∨ ∃ certificate, next = state.build certificate := by
  rcases step_cases orderly.heap stepped with quiet | loud
  · exact Or.inl ⟨_, quiet.effect orderly (step_heap orderly.heap stepped)⟩
  · exact loud.effect orderly

theorem step_orderly (event : Event numWorker) (orderly : Orderly state)
    (stepped : step state event = some next) : Orderly next := by
  rcases step_effect orderly stepped with ⟨left, effect⟩ | ⟨certificate, rfl⟩
  · exact orderly.step effect
  · exact orderly.built certificate

theorem initial_orderly (numWorker : Nat) : Orderly (initial numWorker) := by
  have nothing : ∀ weight : Worker → Nat, weight .looping = 0 →
      Threads.tally weight (initial numWorker).workers = 0 :=
    fun weight empty => Threads.tally_eq_zero fun _ => empty
  have held : ∀ value, (initial numWorker).held value = 0 := fun value =>
    (Nat.zero_add _).trans (nothing (Worker.weigh value) rfl)
  have present : ∀ id, (initial numWorker).present id = 0 := fun id =>
    (Nat.zero_add _).trans (held _)
  have tickets : ∀ id, (initial numWorker).tickets id = 0 := fun id =>
    (Nat.zero_add _).trans (held _)
  constructor
  · intro index _ inside
    exact absurd inside (Nat.not_lt_zero index)
  · exact fun _ _ => rfl
  · exact fun id _ => ⟨present id, tickets id, by simp [initial]⟩
  · simp [initial]
  · intro id
    rw [tickets]
    simp [initial]
  · exact fun id => nothing (Worker.running id) rfl
  · simp [initial, Manager.destroyed]
  · exact fun _ _ => rfl
  · simp [initial]
  · intro id before mark after split
    simp [initial] at split

/-- Whatever the workers, the callers of `dispatch` and the callers of `destroy` do, and in
whatever order: a task is executed at most once, its life ends in at most one of three ways,
and neither `execute` nor `timeout` starts after it was destroyed. -/
theorem task_lives_once (numWorker : Nat) (events : List (Event numWorker))
    (state : Manager numWorker)
    (ran : Transition.run step (initial numWorker) events = some state) (id : Nat) :
    state.history.countP (Mark.executing id) ≤ 1 ∧
      state.history.countP (Mark.ending id) ≤ 1 ∧ Ordered state.history := by
  have orderly : Orderly state := Transition.Reachable.invariant step
    (fun _ event _ orderly stepped => step_orderly event orderly stepped)
    (initial_orderly numWorker) ⟨events, ran⟩
  have executes := orderly.executesOnce id
  have ends := orderly.endsOnce id
  have alive := orderly.runningAlive id
  have held := orderly.lockHeld id
  have inside : state.timing id ≤ state.running id :=
    Threads.tally_mono (fun worker => Worker.timing_le_running id worker) state.workers
  refine ⟨by omega, ?_, orderly.ordered⟩
  by_cases timing : 0 < state.timing id
  · rw [alive (by omega)] at ends
    split at held <;> simp at ends <;> omega
  · split at ends <;> omega

def answeredWhileExecuting : List (Event 1) := [
  .build 7, .dispatch 1 0 5000 none, .tick 10, .work 0 false, .work 0 false, .work 0 false,
  .lookUp 1 7, .work 0 false, .destroy 1, .work 0 false, .work 0 false]

theorem answeredWhileExecuting_runs :
    (Transition.run step (initial 1) answeredWhileExecuting).isSome = true := by decide +kernel

theorem answeredWhileExecuting_lives_once :
    ((Transition.run step (initial 1) answeredWhileExecuting).get
      answeredWhileExecuting_runs).history.countP (Mark.ending 1) ≤ 1 :=
  (task_lives_once 1 answeredWhileExecuting _ (Option.some_get _).symm 1).2.1

end

end TaskManager

end EasyViewer
