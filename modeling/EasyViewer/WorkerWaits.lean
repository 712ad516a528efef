import EasyViewer.ManagerSteps

/-!
Who watches the front of the heap. `dispatch` compares the new item with the front after
it was put in, when nothing in the heap is later than the front, and so wakes nobody; a
worker counts its wait from a time that has passed when it starts to wait.
-/

namespace EasyViewer

namespace TaskManager

section

variable {numWorker : Nat} {state next : Manager numWorker}

namespace Manager

def AllSleep (state : Manager numWorker) : Prop := ∀ w, (state.workers w).sleeping = true

def SleepsUntil (state : Manager numWorker) (w : Fin numWorker) (time : Int) : Prop :=
  ∃ deadline, state.workers w = .waiting deadline false ∧ deadline ≤ time

/-- If every worker waits with nothing to wake it, one of them wakes in time for the front. -/
def WatchesFront (state : Manager numWorker) : Prop :=
  ∀ front, state.heapItems[0]? = some front → state.AllSleep →
    ∃ w, state.SleepsUntil w front.dueTime

/-- An item is not put in while all workers sleep past its time, and a worker does not go to
sleep as the last one with the front's time gone by since it read the clock. -/
def KeepsWatch (state : Manager numWorker) : Event numWorker → Prop
  | .dispatch id executeAtTime _ _ =>
      id ∉ state.mapItems → state.AllSleep → ∃ w, state.SleepsUntil w executeAtTime
  | .work w _ =>
      ∀ now front, state.workers w = .resting now → state.heapItems[0]? = some front →
        now < front.dueTime → (∀ other, other ≠ w → (state.workers other).sleeping = true) →
          state.clock ≤ now ∨ ∃ other, other ≠ w ∧ state.SleepsUntil other front.dueTime
  | _ => True

theorem WatchesFront.of_awake {w : Fin numWorker} (awake : (state.workers w).sleeping = false) :
    state.WatchesFront := by
  intro front isFront asleep
  have sleeps := asleep w
  rw [awake] at sleeps
  contradiction

theorem become_awake {w : Fin numWorker} {worker : Worker} (awake : worker.sleeping = false) :
    ((state.become w worker).workers w).sleeping = false := by
  simp only [become, Function.update_self]
  exact awake

end Manager

theorem Inspected.awake {w : Fin numWorker} {now : Int}
    (inspected : Inspected state w now next) : (next.workers w).sleeping = false := by
  cases inspected with
  | rests _ | drops _ _ | expires _ _ _ | starts _ _ _ _ _ => exact Manager.become_awake rfl

theorem work_awake {w : Fin numWorker} {destroysItself : Bool}
    (worked : state.work w destroysItself = some next) :
    (∃ now, state.workers w = .resting now ∧ next = state.rest w now) ∨
      (∀ now, state.workers w ≠ .resting now) ∧ (next.workers w).sleeping = false := by
  cases work_inversion worked with
  | inspects here inspected => exact Or.inr ⟨by simp [here], inspected.awake⟩
  | rests here => exact Or.inl ⟨_, here, rfl⟩
  | loops here | skipsTimeout here | timesOut here | timedOut here | skipsExecute here
  | executes here | executed here | destroysItself here | findsDestroyed here | findsAlive here
  | drops here | givesBack here | wakes here =>
      exact Or.inr ⟨by simp [here], Manager.become_awake rfl⟩

/-- Going to sleep keeps the watch just when the worker does it at once, or another one
wakes in time. -/
theorem rest_watches {w : Fin numWorker} {now : Int} (here : state.workers w = .resting now)
    (destroysItself : Bool) :
    (state.rest w now).WatchesFront ↔ state.KeepsWatch (.work w destroysItself) := by
  have others : ∀ {worker other}, other ≠ w →
      (state.become w worker).workers other = state.workers other :=
    fun apart => Function.update_of_ne apart _ _
  by_cases waits : 0 < state.dif now
  · have asleep :
        state.rest w now = state.become w (.waiting (state.clock + state.dif now) false) :=
      if_pos waits
    have self : (state.rest w now).workers w = .waiting (state.clock + state.dif now) false := by
      rw [asleep]
      exact Function.update_self _ _ _
    have heapItems : (state.rest w now).heapItems = state.heapItems := by rw [asleep]; rfl
    have workers : ∀ other, other ≠ w → (state.rest w now).workers other = state.workers other := by
      rw [asleep]
      exact fun other apart => others apart
    constructor
    · intro watches read front rests isFront soon othersSleep
      rw [here] at rests
      cases rests
      have due : state.dif now = front.dueTime - now := by simp [Manager.dif, isFront]
      obtain ⟨other, deadline, sleeps, inTime⟩ := watches front (heapItems ▸ isFront) (by
        intro other
        by_cases same : other = w
        · rw [same, self]
          rfl
        · rw [workers other same]
          exact othersSleep other same)
      by_cases same : other = w
      · rw [same, self, due] at sleeps
        injection sleeps with same
        left
        omega
      · rw [workers other same] at sleeps
        exact Or.inr ⟨other, same, deadline, sleeps, inTime⟩
    · intro keeps front isFront sleep
      rw [heapItems] at isFront
      have due : state.dif now = front.dueTime - now := by simp [Manager.dif, isFront]
      have othersSleep : ∀ other, other ≠ w → (state.workers other).sleeping = true := by
        intro other apart
        have sleeps := sleep other
        rw [workers other apart] at sleeps
        exact sleeps
      rcases keeps now front here isFront (by omega) othersSleep with
        atOnce | ⟨other, apart, inTime⟩
      · exact ⟨w, _, self, by omega⟩
      · refine ⟨other, ?_⟩
        simp only [Manager.SleepsUntil, workers other apart]
        exact inTime
  · have awake : state.rest w now = state.become w .looping := if_neg waits
    constructor
    · intro _ read front rests isFront soon
      rw [here] at rests
      cases rests
      have due : state.dif now = front.dueTime - now := by simp [Manager.dif, isFront]
      omega
    · intro _
      rw [awake]
      exact Manager.WatchesFront.of_awake (Manager.become_awake rfl)

theorem front_first (heap : BinaryHeap.IsHeap compare state.heapItems) {front it : Item}
    (isFront : state.heapItems[0]? = some front) (listed : it ∈ state.heapItems) :
    front.dueTime ≤ it.dueTime := by
  obtain ⟨nonempty, rfl⟩ := Manager.front_exists isFront
  obtain ⟨index, bound, rfl⟩ := Array.mem_iff_getElem.mp listed
  have best := heap.front_best compare_weak index bound
  simpa [compare] using best

theorem insert_front (heap : BinaryHeap.IsHeap compare state.heapItems) (it : Item) {front : Item}
    (isFront : (state.insert it).heapItems[0]? = some front) :
    front.dueTime ≤ it.dueTime ∧
      (∀ old, state.heapItems[0]? = some old → front.dueTime ≤ old.dueTime) ∧
      (front = it ∨ ∃ old, state.heapItems[0]? = some old ∧ old.dueTime ≤ front.dueTime) := by
  obtain ⟨heapAfter, perm⟩ := Manager.pushHeap_heap heap it
  have listed : ∀ item,
      item ∈ (state.insert it).heapItems ↔ item ∈ state.heapItems ∨ item = it := by
    intro item
    exact perm.mem_iff.trans Array.mem_push
  have first : ∀ item, item ∈ (state.insert it).heapItems → front.dueTime ≤ item.dueTime :=
    fun item member => @front_first _ (state.insert it) heapAfter _ _ isFront member
  refine ⟨first it ((listed it).mpr (Or.inr rfl)), ?_, ?_⟩
  · intro old isOld
    exact first old ((listed old).mpr (Or.inl (Array.mem_of_getElem? isOld)))
  · rcases (listed front).mp (Array.mem_of_getElem? isFront) with before | isNew
    · right
      obtain ⟨index, bound, _⟩ := Array.mem_iff_getElem.mp before
      have nonempty : 0 < state.heapItems.size := by omega
      have isOld := Array.getElem?_eq_getElem nonempty
      exact ⟨_, isOld, front_first heap isOld before⟩
    · exact Or.inl isNew

theorem Item.executeAtTime_le_dueTime (it : Item) : it.executeAtTime ≤ it.dueTime := by
  simp only [dueTime]
  split
  · rename_i executed
    exact it.inTime executed
  · exact Int.le_refl _

/-- `dispatch` never notifies: the front it compares with is never later than the new item. -/
theorem dispatch_notifies_nobody {id : Nat} {executeAtTime maxStayAtTime : Int}
    {woken : Option (Fin numWorker)} (heap : BinaryHeap.IsHeap compare state.heapItems)
    (dispatched : state.dispatchBuilt id executeAtTime maxStayAtTime woken = some next) :
    next.workers = state.workers ∧
      next.heapItems = if id ∈ state.mapItems then state.heapItems
        else (state.insert (Item.waiting id executeAtTime maxStayAtTime)).heapItems := by
  cases dispatch_cases (dispatchBuilt_some.mp dispatched).2 with
  | known listed => exact ⟨rfl, (if_pos listed).symm⟩
  | goesIn absent _ => exact ⟨rfl, (if_neg absent).symm⟩
  | @goesFirst front _ _ isFront earlier _ =>
      have first := (insert_front heap (Item.waiting id executeAtTime maxStayAtTime) isFront).1
      have due : (Item.waiting id executeAtTime maxStayAtTime).dueTime =
        (Item.waiting id executeAtTime maxStayAtTime).executeAtTime := rfl
      have early := front.executeAtTime_le_dueTime
      omega

theorem dispatch_watches {id : Nat} {executeAtTime maxStayAtTime : Int}
    {woken : Option (Fin numWorker)} (heap : BinaryHeap.IsHeap compare state.heapItems)
    (watches : state.WatchesFront)
    (dispatched : state.dispatchBuilt id executeAtTime maxStayAtTime woken = some next) :
    next.WatchesFront ↔ state.KeepsWatch (.dispatch id executeAtTime maxStayAtTime woken) := by
  obtain ⟨workers, heapItems⟩ := dispatch_notifies_nobody heap dispatched
  have due : (Item.waiting id executeAtTime maxStayAtTime).dueTime = executeAtTime := rfl
  simp only [Manager.WatchesFront, Manager.KeepsWatch, Manager.AllSleep, Manager.SleepsUntil,
    workers, heapItems]
  by_cases taken : id ∈ state.mapItems
  · simp only [taken, not_true_eq_false, false_implies, iff_true]
    exact watches
  · simp only [taken, not_false_eq_true, true_implies]
    constructor
    · intro watches asleep
      have nonempty :
          0 < (state.insert (Item.waiting id executeAtTime maxStayAtTime)).heapItems.size := by
        have size :=
          (Manager.pushHeap_heap heap (Item.waiting id executeAtTime maxStayAtTime)).2.size_eq
        have grown : (state.heapItems.push (Item.waiting id executeAtTime maxStayAtTime)).size =
            state.heapItems.size + 1 := Array.size_push _
        simp only [Manager.insert]
        simp only [Manager.pushHeap] at size ⊢
        omega
      have isFront := Array.getElem?_eq_getElem nonempty
      obtain ⟨w, deadline, sleeps, inTime⟩ := watches _ isFront asleep
      have first := (insert_front heap _ isFront).1
      exact ⟨w, deadline, sleeps, by omega⟩
    · intro keeps front isFront asleep
      obtain ⟨w, deadline, sleeps, inTime⟩ := keeps asleep
      rcases (insert_front heap _ isFront).2.2 with isNew | ⟨old, isOld, later⟩
      · subst isNew
        exact ⟨w, deadline, sleeps, inTime⟩
      · obtain ⟨other, earlier, sleepsToo, inTimeToo⟩ := watches old isOld asleep
        exact ⟨other, earlier, sleepsToo, by omega⟩

theorem watches_iff {event : Event numWorker} (heap : BinaryHeap.IsHeap compare state.heapItems)
    (watches : state.WatchesFront) (stepped : step state event = some next) :
    next.WatchesFront ↔ state.KeepsWatch event := by
  cases event with
  | tick elapsed =>
      cases stepped
      exact iff_of_true watches trivial
  | build certificate =>
      cases stepped
      exact iff_of_true watches trivial
  | dispatch id executeAtTime maxStayAtTime woken => exact dispatch_watches heap watches stepped
  | work w destroysItself =>
      rcases work_awake stepped with ⟨now, here, rfl⟩ | ⟨notResting, awake⟩
      · exact rest_watches here destroysItself
      · refine iff_of_true (Manager.WatchesFront.of_awake awake) ?_
        intro now front here
        exact absurd here (notResting now)
  | lookUp id certificate =>
      cases stepped
      refine iff_of_true ?_ trivial
      simp only [Manager.lookUp]
      split
      · exact watches
      · exact watches
  | destroy id =>
      refine iff_of_true ?_ trivial
      obtain ⟨-, ⟨-, rfl⟩ | ⟨-, rfl⟩⟩ := destroy_cases stepped
      · exact watches
      · exact watches

/-- In every run: a sleeping worker wakes in time for the front in every state, just when
each step of the run keeps the watch. -/
theorem front_watched_iff (numWorker : Nat) (events : List (Event numWorker)) :
    Transition.Throughout step Manager.WatchesFront (initial numWorker) events ↔
      Transition.Happening step Manager.KeepsWatch (initial numWorker) events := by
  apply Transition.Throughout.iff_happening step
    (fun state : Manager numWorker => BinaryHeap.IsHeap compare state.heapItems)
  · intro state event next heap watches stepped
    exact ⟨step_heap heap stepped, watches_iff heap watches stepped⟩
  · intro index _ inside
    exact absurd inside (Nat.not_lt_zero index)
  · intro front isFront
    simp [initial] at isFront

def dispatchedWhileAsleep : List (Event 2) := [
  .work 0 false, .work 0 false, .work 0 false, .work 1 false, .work 1 false, .work 1 false,
  .build 7, .dispatch 1 0 5000 (some 0)]

/-- Both workers sleep on for fifty milliseconds, though the item is due since time zero. -/
theorem dispatchedWhileAsleep_unwatched : ∃ state,
    Transition.run step (initial 2) dispatchedWhileAsleep = some state ∧ ¬ state.WatchesFront := by
  have facts : (Transition.run step (initial 2) dispatchedWhileAsleep).map (fun state =>
      (state.heapItems[0]?.map Item.dueTime, state.workers 0, state.workers 1)) =
      some (some 0, .waiting 50 false, .waiting 50 false) := by decide +kernel
  obtain ⟨state, ran, shape⟩ := Option.map_eq_some_iff.mp facts
  simp only [Prod.mk.injEq, Option.map_eq_some_iff] at shape
  obtain ⟨⟨front, isFront, due⟩, first, second⟩ := shape
  refine ⟨state, ran, fun watches => ?_⟩
  obtain ⟨w, deadline, sleeps, inTime⟩ := watches front isFront (by
    intro w
    match w with
    | 0 => rw [first]; rfl
    | 1 => rw [second]; rfl)
  have late : deadline = 50 := by
    match w with
    | 0 =>
        rw [first] at sleeps
        injection sleeps with same
        exact same.symm
    | 1 =>
        rw [second] at sleeps
        injection sleeps with same
        exact same.symm
  omega

end

end TaskManager

end EasyViewer
