import EasyViewer.FileTask
import EasyViewer.Library.RecursiveLocks
import EasyViewer.Library.Run
import Mathlib.Logic.Function.Basic

/-!
The locks of `TaskScheduler`: `m_mutex` and the mutexes of the tasks. A step takes or gives back
one lock. How the tests of a function go, which task comes next, what a callback calls and which
lock `std::scoped_lock` tries first is left open.
-/

namespace EasyViewer

inductive SchedulerMutex where
  | scheduler
  | task (address : Nat)
  deriving DecidableEq, Repr

inductive FoundCall where
  | stopTask
  | resumeTask
  | remoteSuccessOpenFile
  | remoteFailureOpenFile
  | writeLocalFileBlock
  | readLocalFileBlock
  | failureReadRemoteFileBlock
  | successReadRemoteFileBlock
  | failureWriteRemoteFileBlock
  | successWriteRemoteFileBlock
  | getTask
  deriving DecidableEq, Repr

/-- What a callback may call, or a thread with no lock in hand. -/
inductive SchedulerCall where
  | addTask (id : String) (starter : Starter)
  | subscribeEvents
  | unsubscribeEvents
  | removeTask (id : String)
  | found (id : String) (call : FoundCall)
  deriving DecidableEq, Repr

/-- What is done under `m_mutex` and decides how a function goes on. -/
inductive SchedulerSection where
  | insert (id : String) (starter : Starter)
  | subscribe
  | remove (id : String)
  | find (id : String) (call : FoundCall)
  | pop
  | erase (address : Nat)
  deriving DecidableEq, Repr

/-- What a thread has yet to do. `plain` is a `lock_guard` under which nothing waits, `both` a
`scoped_lock`, with or without callbacks under it, `other` is one that has the first of its two
locks; `visit` and `removed` are the `lock_guard`s on a task in `subscribeEvents` and
`removeTask`. The last two give a lock back. -/
inductive LockAction where
  | plain (mutex : SchedulerMutex)
  | enter (inside : SchedulerSection)
  | visit (address : Nat)
  | removed (address : Nat)
  | both (address : Nat) (calls : Bool)
  | other (address : Nat) (taskFirst calls : Bool)
  | callbacks
  | inside (inside : SchedulerSection)
  | unlock (mutex : SchedulerMutex)
  deriving DecidableEq, Repr

/-- What is left open: whether the test under a task's mutex lets the function go on, whether
reading, writing or `initIO` fails, whether a flush or a time-out is due, whether the task reads,
the state that `exec` finds, the task that comes next, the calls of the callbacks. -/
structure Chances where
  passes : Bool := true
  fails : Bool := false
  due : Bool := true
  reads : Bool := false
  state : TaskState := .waitingForStart
  next : Option Nat := none
  calls : List SchedulerCall := []
  taskFirst : Bool := false

namespace TaskLocks

variable (address : Nat) (starter : Starter)

def flushTaskProgress : List LockAction := if starter ≠ .self then [] else [.plain .scheduler]

def persistNewTask : List LockAction := if starter ≠ .self then [] else [.both address false]

def unpersistTask : List LockAction := if starter ≠ .self then [] else [.plain .scheduler]

def notifyTaskAdded : List LockAction := persistNewTask address starter ++ [.both address true]

def notifyTaskRemoved : List LockAction := unpersistTask starter ++ [.both address true]

def notifyTaskRemoteOpenFile : List LockAction := [.both address true]

def notifyTaskRemoteCloseFile : List LockAction := [.both address true]

def notifyTaskStateChanged : List LockAction :=
  flushTaskProgress starter ++ [.both address true]

def notifyTaskProgressChanged (due : Bool) : List LockAction :=
  .plain (.task address) :: if due then flushTaskProgress starter ++ [.both address true] else []

def notifyTaskRemoteWriteFileBlock : List LockAction := [.both address true]

def notifyTaskRemoteReadFileBlock : List LockAction := [.both address true]

def writeLocalFileBlock (chances : Chances) : List LockAction :=
  .plain (.task address) ::
    if chances.passes then
      notifyTaskProgressChanged address starter chances.due ++
        if chances.fails then
          notifyTaskStateChanged address starter ++
            if starter = .self then notifyTaskRemoteCloseFile address else []
        else []
    else []

def readLocalFileBlock (chances : Chances) : List LockAction :=
  .plain (.task address) ::
    if chances.passes ∧ chances.fails ∧ starter = .self then
      notifyTaskStateChanged address starter ++ notifyTaskRemoteCloseFile address
    else []

def found (id : String) (chances : Chances) : FoundCall → List LockAction
  | .stopTask =>
      .plain (.task address) ::
        if chances.passes then
          notifyTaskRemoteCloseFile address ++ notifyTaskStateChanged address starter
        else []
  | .resumeTask =>
      .plain (.task address) ::
        if chances.passes then notifyTaskStateChanged address starter ++ [.plain .scheduler]
        else []
  | .remoteSuccessOpenFile =>
      .plain (.task address) ::
        if chances.passes then
          notifyTaskStateChanged address starter ++
            if starter = .self then
              if chances.reads then notifyTaskRemoteReadFileBlock address
              else [.enter (.find id .successWriteRemoteFileBlock)]
            else []
        else []
  | .remoteFailureOpenFile =>
      .plain (.task address) ::
        if chances.passes then notifyTaskStateChanged address starter else []
  | .writeLocalFileBlock => writeLocalFileBlock address starter chances
  | .readLocalFileBlock => readLocalFileBlock address starter chances
  | .failureReadRemoteFileBlock | .failureWriteRemoteFileBlock =>
      .plain (.task address) ::
        if chances.passes then
          notifyTaskStateChanged address starter ++ notifyTaskRemoteCloseFile address
        else []
  | .successReadRemoteFileBlock =>
      writeLocalFileBlock address starter chances ++
        if chances.passes ∧ ¬ chances.fails then notifyTaskRemoteReadFileBlock address else []
  | .successWriteRemoteFileBlock =>
      notifyTaskProgressChanged address starter chances.due ++
        readLocalFileBlock address starter chances ++
          if chances.passes ∧ ¬ chances.fails then notifyTaskRemoteWriteFileBlock address else []
  | .getTask => [.plain (.task address)]

def exec (chances : Chances) : List LockAction :=
  .plain (.task address) ::
    match chances.state with
    | .waitingForStart =>
        notifyTaskStateChanged address starter ++
          if chances.fails then [] else notifyTaskRemoteOpenFile address ++ [.plain .scheduler]
    | .preparing | .transmitting =>
        (if chances.due then notifyTaskStateChanged address starter else []) ++
          [.plain .scheduler]
    | .stoped | .finished | .failed =>
        if starter = .partner then [.enter (.erase address)] else []

end TaskLocks

/-- The lock that a `scoped_lock` waits for, and the one that it then only tries. -/
def firstTried (address : Nat) (taskFirst : Bool) : SchedulerMutex :=
  if taskFirst then .task address else .scheduler

def secondTried (address : Nat) (taskFirst : Bool) : SchedulerMutex :=
  if taskFirst then .scheduler else .task address

def SchedulerCall.begin : SchedulerCall → LockAction
  | .addTask id starter => .enter (.insert id starter)
  | .subscribeEvents => .enter .subscribe
  | .unsubscribeEvents => .plain .scheduler
  | .removeTask id => .enter (.remove id)
  | .found id call => .enter (.find id call)

/-- `objects` are the tasks ever made, by address, with id and starter. Who has taken a task out of
`m_tasks` in `removeTask` is a history. -/
structure LockingScheduler where
  locks : SchedulerMutex → RecursiveMutex := fun _ => .free
  pending : Nat → List LockAction := fun _ => []
  tasks : List (String × Nat) := []
  objects : Nat → String × Starter := fun _ => ("", .self)
  size : Nat := 0
  remover : Nat → Option Nat := fun _ => none

namespace LockingScheduler

def take (shared : LockingScheduler) (thread : Nat) (mutex : SchedulerMutex) :
    LockingScheduler :=
  { shared with
    locks := Function.update shared.locks mutex ((shared.locks mutex).lock thread) }

def giveBack (shared : LockingScheduler) (mutex : SchedulerMutex) : LockingScheduler :=
  { shared with locks := Function.update shared.locks mutex (shared.locks mutex).unlock }

def goOn (shared : LockingScheduler) (thread : Nat) (actions : List LockAction) :
    LockingScheduler :=
  { shared with pending := Function.update shared.pending thread actions }

def takes (shared : LockingScheduler) (thread : Nat) (mutex : SchedulerMutex)
    (actions : List LockAction) : Option LockingScheduler :=
  if (shared.locks mutex).isOpenTo thread then
    some ((shared.take thread mutex).goOn thread actions)
  else none

def starter (shared : LockingScheduler) (address : Nat) : Starter := (shared.objects address).2

def find (shared : LockingScheduler) (id : String) : Option Nat :=
  (shared.tasks.find? fun task => task.1 = id).map Prod.snd

def perform (shared : LockingScheduler) (thread : Nat) (chances : Chances) :
    SchedulerSection → LockingScheduler × List LockAction
  | .insert id starter =>
      match shared.find id with
      | some _ => (shared, [])
      | none =>
          ({ shared with
              tasks := (id, shared.size) :: shared.tasks
              objects := Function.update shared.objects shared.size (id, starter)
              size := shared.size + 1 },
            TaskLocks.notifyTaskAdded shared.size starter)
  | .subscribe => (shared, [])
  | .remove id =>
      match shared.find id with
      | none => (shared, [])
      | some address =>
          ({ shared with
              tasks := shared.tasks.filter fun task => task.1 ≠ id
              remover := Function.update shared.remover address (some thread) },
            [.removed address])
  | .find id call =>
      match shared.find id with
      | none => (shared, [])
      | some address =>
          (shared, TaskLocks.found address (shared.starter address) id chances call)
  | .pop =>
      match chances.next.filter fun address => address < shared.size with
      | none => (shared, [])
      | some address => (shared, TaskLocks.exec address (shared.starter address) chances)
  | .erase address =>
      ({ shared with
          tasks := shared.tasks.filter fun task => task.1 ≠ (shared.objects address).1 }, [])

/-- The next step of a thread. The loop of `subscribeEvents` comes to a registered task, or to
its end. -/
def advance (shared : LockingScheduler) (thread : Nat) (chances : Chances)
    (rest : List LockAction) : LockAction → Option LockingScheduler
  | .plain mutex => shared.takes thread mutex (.unlock mutex :: rest)
  | .enter inside => shared.takes thread .scheduler (.inside inside :: rest)
  | .visit address =>
      shared.takes thread (.task address) (.callbacks :: .unlock (.task address) :: rest)
  | .removed address =>
      shared.takes thread (.task address)
        (TaskLocks.notifyTaskRemoved address (shared.starter address) ++
          .unlock (.task address) :: rest)
  | .both address calls =>
      shared.takes thread (firstTried address chances.taskFirst)
        (.other address chances.taskFirst calls :: rest)
  | .other address taskFirst calls =>
      if (shared.locks (secondTried address taskFirst)).isOpenTo thread then
        some ((shared.take thread (secondTried address taskFirst)).goOn thread
          ((if calls then [.callbacks] else []) ++
            .unlock (.task address) :: .unlock .scheduler :: rest))
      else
        some ((shared.giveBack (firstTried address taskFirst)).goOn thread
          (.both address calls :: rest))
  | .callbacks => some (shared.goOn thread (chances.calls.map SchedulerCall.begin ++ rest))
  | .inside inside =>
      match inside, chances.next.filter fun address => shared.tasks.any (·.2 = address) with
      | .subscribe, some address =>
          some (shared.goOn thread (.visit address :: .inside .subscribe :: rest))
      | inside, _ =>
          let (after, more) := (shared.giveBack .scheduler).perform thread chances inside
          some (after.goOn thread (more ++ rest))
  | .unlock mutex => some ((shared.giveBack mutex).goOn thread rest)

end LockingScheduler

inductive LockEvent where
  | call (thread : Nat) (call : SchedulerCall)
  | exec (thread : Nat)
  | advance (thread : Nat) (chances : Chances)

def lockStep (shared : LockingScheduler) : LockEvent → Option LockingScheduler
  | .call thread call =>
      if (shared.pending thread).isEmpty then some (shared.goOn thread [call.begin]) else none
  | .exec thread =>
      if (shared.pending thread).isEmpty then some (shared.goOn thread [.enter .pop]) else none
  | .advance thread chances =>
      match shared.pending thread with
      | [] => none
      | action :: rest => shared.advance thread chances rest action

namespace LockAction

def asks : LockAction → List SchedulerMutex
  | .plain mutex => [mutex]
  | .enter _ => [.scheduler]
  | .visit address | .removed address => [.task address]
  | .both address _ | .other address _ _ => [.scheduler, .task address]
  | .callbacks | .inside _ | .unlock _ => []

def tried : LockAction → List SchedulerMutex
  | .other address taskFirst _ => [firstTried address taskFirst]
  | _ => []

end LockAction

namespace LockingScheduler

/-- The thread cannot go on: a lock that it asks for is another thread's. -/
def Stuck (shared : LockingScheduler) (thread : Nat) (mutex : SchedulerMutex) : Prop :=
  ∃ action rest, shared.pending thread = action :: rest ∧ mutex ∈ action.asks ∧
    (shared.locks mutex).isOpenTo thread = false

def Keeps (shared : LockingScheduler) (thread : Nat) (mutex : SchedulerMutex) : Prop :=
  (((shared.pending thread).head?.elim [] LockAction.tried).count mutex) <
    (shared.locks mutex).depth thread

/-- No threads, however many, are all stuck at a lock that another one of them keeps. -/
def NoLockRing (shared : LockingScheduler) : Prop :=
  ∀ ring : Nat → Prop, (∃ thread, ring thread) →
    ¬ ∀ thread, ring thread →
      ∃ other, ring other ∧ LockOrder.Waits shared.Keeps shared.Stuck thread other

end LockingScheduler

namespace LockAction

def holding : LockAction → List SchedulerMutex
  | .unlock mutex => [mutex]
  | .inside _ => [.scheduler]
  | action => action.tried

def taken (actions : List LockAction) : List SchedulerMutex := actions.flatMap holding

def Mine (remover : Nat → Option Nat) (thread address : Nat) : Prop :=
  remover address = none ∨ remover address = some thread

/-- When an action may come, for the locks that are kept meanwhile. -/
def Fits (remover : Nat → Option Nat) (thread : Nat) (kept : List SchedulerMutex) :
    LockAction → Prop
  | .plain .scheduler =>
      .scheduler ∈ kept ∨
        ∀ mutex ∈ kept, ∃ address, mutex = .task address ∧ remover address = some thread
  | .plain (.task address) => kept = [] ∨ .scheduler ∈ kept ∧ Mine remover thread address
  | .enter .pop | .inside .pop => kept = []
  | .enter _ | .inside _ => kept = [] ∨ .scheduler ∈ kept
  | .visit address => .scheduler ∈ kept ∧ Mine remover thread address
  | .removed address => (kept = [] ∨ .scheduler ∈ kept) ∧ remover address = some thread
  | .both address _ | .other address _ _ =>
      kept = [] ∨ (kept = [.task address] ∧ remover address = some thread) ∨
        .scheduler ∈ kept ∧ Mine remover thread address
  | .callbacks => .scheduler ∈ kept
  | .unlock _ => True

/-- Only the first action may be in the middle of a `scoped_lock`. -/
def Safe (remover : Nat → Option Nat) (thread : Nat) : List LockAction → Prop
  | [] => True
  | action :: rest =>
      action.Fits remover thread (taken rest) ∧ (∀ later ∈ rest, later.tried = []) ∧
        Safe remover thread rest

variable {remover later : Nat → Option Nat} {thread address : Nat} {kept : List SchedulerMutex}
  {action : LockAction} {more rest : List LockAction}

theorem tried_of_holding (holds : action.holding = []) : action.tried = [] := by
  cases action with
  | unlock mutex | inside inside => rfl
  | _ => exact holds

theorem taken_append : taken (more ++ rest) = taken more ++ taken rest := List.flatMap_append

theorem count_one (mutex any : SchedulerMutex) :
    [mutex].count any = if any = mutex then 1 else 0 := by
  by_cases same : any = mutex
  · simp [same]
  · simp [same, Ne.symm same]

theorem count_taken (action : LockAction) (rest : List LockAction) (any : SchedulerMutex) :
    (taken (action :: rest)).count any = (taken rest).count any + action.holding.count any := by
  rw [taken, List.flatMap_cons, List.count_append, Nat.add_comm, taken]

theorem tried_pair (address : Nat) (taskFirst : Bool) (any : SchedulerMutex) :
    [firstTried address taskFirst].count any + [secondTried address taskFirst].count any =
      [SchedulerMutex.scheduler].count any + [SchedulerMutex.task address].count any := by
  cases taskFirst with
  | false => rfl
  | true => exact Nat.add_comm _ _

theorem taken_empty (empty : ∀ action ∈ more, action.holding = []) :
    taken (more ++ rest) = taken rest := by
  rw [taken_append, show taken more = [] from List.flatMap_eq_nil_iff.mpr empty, List.nil_append]

theorem Safe.append (fits : ∀ action ∈ more, action.holding = [] ∧
      action.Fits remover thread (taken rest))
    (whole : ∀ later ∈ rest, later.tried = []) (safe : Safe remover thread rest) :
    Safe remover thread (more ++ rest) := by
  induction more with
  | nil => exact safe
  | cons action more ih =>
      have fitsMore := fun action member => fits action (List.mem_cons_of_mem _ member)
      have none : taken (more ++ rest) = taken rest :=
        taken_empty fun action member => (fitsMore action member).1
      refine ⟨none ▸ (fits action List.mem_cons_self).2, fun later member => ?_, ih fitsMore⟩
      rcases List.mem_append.mp member with isMore | isRest
      · exact tried_of_holding (fitsMore later isMore).1
      · exact whole later isRest

theorem Fits.carry (own : ∀ address, remover address = some thread → later address = some thread)
    (mine : .scheduler ∈ kept → ∀ address, Mine remover thread address → Mine later thread address)
    (fits : action.Fits remover thread kept) : action.Fits later thread kept := by
  cases action with
  | plain mutex =>
      cases mutex with
      | scheduler =>
          refine fits.imp_right fun quiet mutex member => ?_
          obtain ⟨address, isTask, removed⟩ := quiet mutex member
          exact ⟨address, isTask, own address removed⟩
      | task address =>
          exact fits.imp_right fun inside => ⟨inside.1, mine inside.1 address inside.2⟩
  | enter inside => cases inside <;> exact fits
  | inside inside => cases inside <;> exact fits
  | visit address => exact ⟨fits.1, mine fits.1 address fits.2⟩
  | removed address => exact ⟨fits.1, own address fits.2⟩
  | both address calls | other address taskFirst calls =>
      exact fits.imp_right (Or.imp (fun alone => ⟨alone.1, own address alone.2⟩)
        fun inside => ⟨inside.1, mine inside.1 address inside.2⟩)
  | callbacks | unlock mutex => exact fits

theorem Safe.mono (mine : ∀ address, Mine remover thread address → Mine later thread address)
    (own : ∀ address, remover address = some thread → later address = some thread)
    {actions : List LockAction} (safe : Safe remover thread actions) :
    Safe later thread actions := by
  induction actions with
  | nil => trivial
  | cons action rest ih => exact ⟨safe.1.carry own fun _ => mine, safe.2.1, ih safe.2.2⟩

theorem Safe.outside (own : ∀ address, remover address = some thread → later address = some thread)
    {actions : List LockAction} (without : .scheduler ∉ taken actions)
    (safe : Safe remover thread actions) : Safe later thread actions := by
  induction actions with
  | nil => trivial
  | cons action rest ih =>
      have withoutRest : .scheduler ∉ taken rest := fun member =>
        without (List.mem_append_right _ member)
      exact ⟨safe.1.carry own fun inside => absurd inside withoutRest, safe.2.1,
        ih withoutRest safe.2.2⟩

theorem Fits.inside (fits : action.Fits remover thread kept) (inside : .scheduler ∈ kept)
    (asks : .task address ∈ action.asks) : Mine remover thread address := by
  have some : kept ≠ [] := List.ne_nil_of_mem inside
  cases action with
  | plain mutex =>
      cases List.mem_singleton.mp asks
      exact (fits.resolve_left some).2
  | visit other =>
      cases List.mem_singleton.mp asks
      exact fits.2
  | removed other =>
      cases List.mem_singleton.mp asks
      exact .inr fits.2
  | both other calls | other other taskFirst calls =>
      have same : address = other := by simpa [LockAction.asks] using asks
      subst same
      refine ((fits.resolve_left some).resolve_left fun alone => ?_).2
      rw [alone.1] at inside
      simp at inside
  | enter entered => simp [LockAction.asks] at asks
  | callbacks | inside inside | unlock mutex => contradiction

theorem Fits.without (fits : action.Fits remover thread kept) (without : .scheduler ∉ kept)
    {mutex had : SchedulerMutex} (asks : mutex ∈ action.asks) (has : had ∈ kept) :
    (mutex = .scheduler ∨ mutex = had) ∧
      ∃ address, had = .task address ∧ remover address = some thread := by
  have some : kept ≠ [] := List.ne_nil_of_mem has
  cases action with
  | plain wanted =>
      cases wanted with
      | scheduler => exact ⟨.inl (List.mem_singleton.mp asks), fits.resolve_left without had has⟩
      | task address => exact absurd (fits.resolve_left some).1 without
  | enter entered =>
      cases entered with
      | pop => exact absurd fits some
      | _ => exact absurd (fits.resolve_left some) without
  | visit address => exact absurd fits.1 without
  | removed address => exact absurd (fits.1.resolve_left some) without
  | both address calls | other address taskFirst calls =>
      rcases fits.resolve_left some with ⟨alone, own⟩ | inside
      · rw [alone, List.mem_singleton] at has
        exact ⟨by simpa [LockAction.asks, has] using asks, address, has, own⟩
      · exact absurd inside.1 without
  | callbacks | inside inside | unlock mutex => contradiction

/-- What a function on a task takes, one after the other. -/
def Touches (address : Nat) (actions : List LockAction) : Prop :=
  ∀ action ∈ actions, action = .plain .scheduler ∨ action = .plain (.task address) ∨
    (∃ calls, action = .both address calls) ∨ ∃ inside, inside ≠ .pop ∧ action = .enter inside

theorem Touches.fits (touches : Touches address more)
    (context : kept = [] ∨ .scheduler ∈ kept ∧ Mine remover thread address) :
    ∀ action ∈ more, action.holding = [] ∧ action.Fits remover thread kept := by
  intro action member
  have inside : kept = [] ∨ .scheduler ∈ kept := context.imp_right And.left
  rcases touches action member with rfl | rfl | ⟨calls, rfl⟩ | ⟨entered, notPop, rfl⟩
  · refine ⟨rfl, inside.symm.imp_right fun none mutex member => ?_⟩
    rw [none] at member
    contradiction
  · exact ⟨rfl, context⟩
  · exact ⟨rfl, context.imp_right .inr⟩
  · refine ⟨rfl, ?_⟩
    cases entered with
    | pop => contradiction
    | _ => exact inside

theorem Touches.nil : Touches address [] := fun _ member => by contradiction

theorem Touches.cons (first : Touches address [action]) (then_ : Touches address more) :
    Touches address (action :: more) := by
  intro other member
  rcases List.mem_cons.mp member with rfl | isMore
  · exact first other (List.mem_singleton.mpr rfl)
  · exact then_ other isMore

theorem Touches.append (first : Touches address more) (second : Touches address rest) :
    Touches address (more ++ rest) := by
  intro other member
  exact (List.mem_append.mp member).elim (first other) (second other)

theorem Touches.ite {condition : Prop} [Decidable condition] (yes : Touches address more)
    (no : Touches address rest) : Touches address (if condition then more else rest) := by
  split
  · exact yes
  · exact no

theorem Touches.scheduler : Touches address [.plain .scheduler] := by
  intro action member
  exact .inl (List.mem_singleton.mp member)

theorem Touches.task : Touches address [.plain (.task address)] := by
  intro action member
  exact .inr (.inl (List.mem_singleton.mp member))

theorem Touches.both {calls : Bool} : Touches address [.both address calls] := by
  intro action member
  exact .inr (.inr (.inl ⟨calls, List.mem_singleton.mp member⟩))

theorem Touches.enter {inside : SchedulerSection} (notPop : inside ≠ .pop) :
    Touches address [.enter inside] := by
  intro action member
  exact .inr (.inr (.inr ⟨inside, notPop, List.mem_singleton.mp member⟩))

end LockAction

namespace TaskLocks

open LockAction

variable (address : Nat) (starter : Starter) (chances : Chances)

theorem stateChanged_touches : Touches address (notifyTaskStateChanged address starter) :=
  .append (.ite .nil .scheduler) .both

theorem progressChanged_touches (due : Bool) :
    Touches address (notifyTaskProgressChanged address starter due) :=
  .cons .task (.ite (.append (.ite .nil .scheduler) .both) .nil)

theorem added_touches : Touches address (notifyTaskAdded address starter) :=
  .append (.ite .nil .both) .both

theorem write_touches : Touches address (writeLocalFileBlock address starter chances) :=
  .cons .task (.ite (.append (progressChanged_touches address starter _)
    (.ite (.append (stateChanged_touches address starter) (.ite .both .nil)) .nil)) .nil)

theorem read_touches : Touches address (readLocalFileBlock address starter chances) :=
  .cons .task (.ite (.append (stateChanged_touches address starter) .both) .nil)

theorem found_touches (id : String) (call : FoundCall) :
    Touches address (found address starter id chances call) := by
  have changed := stateChanged_touches address starter
  cases call with
  | stopTask => exact .cons .task (.ite (.append .both changed) .nil)
  | resumeTask => exact .cons .task (.ite (.append changed .scheduler) .nil)
  | remoteSuccessOpenFile =>
      have follows : SchedulerSection.find id .successWriteRemoteFileBlock ≠ .pop :=
        fun same => by cases same
      exact .cons .task (.ite (.append changed (.ite (.ite .both (.enter follows)) .nil)) .nil)
  | remoteFailureOpenFile => exact .cons .task (.ite changed .nil)
  | writeLocalFileBlock => exact write_touches address starter chances
  | readLocalFileBlock => exact read_touches address starter chances
  | failureReadRemoteFileBlock | failureWriteRemoteFileBlock =>
      exact .cons .task (.ite (.append changed .both) .nil)
  | successReadRemoteFileBlock =>
      exact .append (write_touches address starter chances) (.ite .both .nil)
  | successWriteRemoteFileBlock =>
      exact .append (.append (progressChanged_touches address starter _)
        (read_touches address starter chances)) (.ite .both .nil)
  | getTask => exact .task

theorem removed_fits {remover : Nat → Option Nat} {thread : Nat} {kept : List SchedulerMutex}
    (context : kept = [] ∨ .scheduler ∈ kept) (own : remover address = some thread) :
    ∀ action ∈ notifyTaskRemoved address starter,
      action.holding = [] ∧ action.Fits remover thread (.task address :: kept) := by
  have notifies : (LockAction.both address true).Fits remover thread (.task address :: kept) := by
    rcases context with rfl | inside
    · exact .inr (.inl ⟨rfl, own⟩)
    · exact .inr (.inr ⟨List.mem_cons_of_mem _ inside, .inr own⟩)
  have deletes : (LockAction.plain .scheduler).Fits remover thread (.task address :: kept) := by
    rcases context with rfl | inside
    · refine .inr fun mutex member => ⟨address, List.mem_singleton.mp member, own⟩
    · exact .inl (List.mem_cons_of_mem _ inside)
  intro action member
  rcases List.mem_append.mp member with unpersists | both
  · rw [unpersistTask] at unpersists
    split at unpersists
    · contradiction
    · rw [List.mem_singleton.mp unpersists]
      exact ⟨rfl, deletes⟩
  · rw [List.mem_singleton.mp both]
    exact ⟨rfl, notifies⟩

theorem exec_touches : Touches address (exec address starter chances) := by
  have changed := stateChanged_touches address starter
  refine .cons .task ?_
  split
  · exact .append changed (.ite .nil (.append .both .scheduler))
  · exact .append (.ite changed .nil) .scheduler
  · exact .append (.ite changed .nil) .scheduler
  · exact .ite (.enter fun same => by cases same) .nil
  · exact .ite (.enter fun same => by cases same) .nil
  · exact .ite (.enter fun same => by cases same) .nil

end TaskLocks

namespace LockingScheduler

open LockAction

variable {shared next : LockingScheduler} {thread : Nat} {mutex : SchedulerMutex}
  {action : LockAction} {actions rest : List LockAction} {chances : Chances}

/-- No registered task has been taken out, and no address is used before it is given out. -/
structure Catalogued (shared : LockingScheduler) : Prop where
  registered : ∀ task ∈ shared.tasks, shared.remover task.2 = none ∧ task.2 < shared.size ∧
    (shared.objects task.2).1 = task.1
  removed : ∀ address, shared.remover address ≠ none → address < shared.size

theorem find_registered {id : String} {address : Nat} (found : shared.find id = some address) :
    (id, address) ∈ shared.tasks := by
  obtain ⟨task, isTask, isAddress⟩ := Option.map_eq_some_iff.mp found
  have same : task.1 = id := by simpa using List.find?_some isTask
  rw [← same, ← isAddress]
  exact List.mem_of_find?_eq_some isTask

structure Performs (before after : LockingScheduler) (thread : Nat) (more : List LockAction)
    (kept : List SchedulerMutex) : Prop where
  locks : after.locks = before.locks
  pending : after.pending = before.pending
  catalogued : after.Catalogued
  free : ∀ address, before.remover address = none → Mine after.remover thread address
  taken : ∀ address other, before.remover address = some other →
    after.remover address = some other
  fits : ∀ action ∈ more, action.holding = [] ∧ action.Fits after.remover thread kept

theorem Performs.same {more : List LockAction} {kept : List SchedulerMutex}
    (catalogued : shared.Catalogued)
    (fits : ∀ action ∈ more, action.holding = [] ∧ action.Fits shared.remover thread kept) :
    Performs shared shared thread more kept :=
  ⟨rfl, rfl, catalogued, fun _ => .inl, fun _ _ => id, fits⟩

theorem perform_performs (catalogued : shared.Catalogued) {inside : SchedulerSection}
    {kept : List SchedulerMutex}
    (fits : (LockAction.inside inside).Fits shared.remover thread kept) :
    Performs shared (shared.perform thread chances inside).1 thread
      (shared.perform thread chances inside).2 kept := by
  have nothing : ∀ remover : Nat → Option Nat, ∀ action ∈ ([] : List LockAction),
      action.holding = [] ∧ action.Fits remover thread kept := fun _ _ member => by contradiction
  cases inside with
  | subscribe => exact .same catalogued (nothing _)
  | insert id starter =>
      simp only [perform]
      split
      · exact .same catalogued (nothing _)
      · have fresh : shared.remover shared.size = none := by
          by_contra removed
          exact absurd (catalogued.removed shared.size removed) (Nat.lt_irrefl _)
        refine ⟨rfl, rfl, ⟨fun task member => ?_, fun address removed => ?_⟩, fun _ => .inl,
          fun _ _ before => before, (TaskLocks.added_touches _ _).fits (fits.imp_right fun inside =>
            ⟨inside, .inl fresh⟩)⟩
        · rcases List.mem_cons.mp member with rfl | before
          · exact ⟨fresh, Nat.lt_succ_self _, by simp⟩
          · obtain ⟨notRemoved, made, isId⟩ := catalogued.registered task before
            have old : Function.update shared.objects shared.size (id, starter) task.2 =
              shared.objects task.2 := Function.update_of_ne (Nat.ne_of_lt made) _ _
            exact ⟨notRemoved, Nat.lt_succ_of_lt made, (congrArg Prod.fst old).trans isId⟩
        · exact Nat.lt_succ_of_lt (catalogued.removed address removed)
  | remove id =>
      simp only [perform]
      split
      · exact .same catalogued (nothing _)
      · rename_i address found
        have registered := catalogued.registered _ (find_registered found)
        refine ⟨rfl, rfl, ⟨fun task member => ?_, fun other removed => ?_⟩, fun other free => ?_,
          fun other owner before => ?_, fun action member => ?_⟩
        · obtain ⟨before, different⟩ := List.mem_filter.mp member
          obtain ⟨notRemoved, made, isId⟩ := catalogued.registered task before
          have another : task.2 ≠ address := by
            intro same
            rw [same] at isId
            simp [← isId, registered.2.2] at different
          exact ⟨(Function.update_of_ne another _ _).trans notRemoved, made, isId⟩
        · by_cases same : other = address
          · exact same ▸ registered.2.1
          · exact catalogued.removed other fun free =>
              removed ((Function.update_of_ne same _ _).trans free)
        · by_cases same : other = address
          · subst same
            exact .inr (Function.update_self _ _ _)
          · exact .inl ((Function.update_of_ne same _ _).trans free)
        · have another : other ≠ address := by
            rintro rfl
            rw [registered.1] at before
            contradiction
          exact (Function.update_of_ne another _ _).trans before
        · rw [List.mem_singleton.mp member]
          exact ⟨rfl, fits, Function.update_self _ _ _⟩
  | find id call =>
      simp only [perform]
      split
      · exact .same catalogued (nothing _)
      · rename_i address found
        have registered := catalogued.registered _ (find_registered found)
        exact .same catalogued ((TaskLocks.found_touches _ _ _ _ _).fits
          (fits.imp_right fun inside => ⟨inside, .inl registered.1⟩))
  | pop =>
      simp only [perform]
      split
      · exact .same catalogued (nothing _)
      · exact .same catalogued ((TaskLocks.exec_touches _ _ _).fits (.inl fits))
  | erase address =>
      refine ⟨rfl, rfl, ⟨fun task member => ?_, catalogued.removed⟩, fun _ => .inl,
        fun _ _ before => before, nothing _⟩
      exact catalogued.registered task (List.mem_filter.mp member).1

structure Disciplined (shared : LockingScheduler) : Prop where
  depth : ∀ thread mutex, (shared.locks mutex).depth thread =
    (taken (shared.pending thread)).count mutex
  safe : ∀ thread, Safe shared.remover thread (shared.pending thread)
  catalogued : shared.Catalogued

theorem depth_take (isOpen : (shared.locks mutex).isOpenTo thread = true) (other : Nat)
    (any : SchedulerMutex) :
    ((shared.take thread mutex).locks any).depth other =
      (shared.locks any).depth other + if any = mutex ∧ other = thread then 1 else 0 := by
  by_cases same : any = mutex
  · subst same
    simpa [take] using RecursiveMutex.depth_lock isOpen other
  · simp [take, same]

theorem depth_giveBack (owns : 0 < (shared.locks mutex).depth thread) (other : Nat)
    (any : SchedulerMutex) :
    (shared.locks any).depth other =
      ((shared.giveBack mutex).locks any).depth other +
        if any = mutex ∧ other = thread then 1 else 0 := by
  by_cases same : any = mutex
  · subst same
    simpa [giveBack] using RecursiveMutex.depth_unlock owns other
  · simp [giveBack, same]

theorem Disciplined.goOn {after : LockingScheduler} (disciplined : shared.Disciplined)
    (pending : after.pending = shared.pending) (remover : after.remover = shared.remover)
    (catalogued : after.Catalogued)
    (own : ∀ any, (after.locks any).depth thread = (taken actions).count any)
    (others : ∀ other, other ≠ thread → ∀ any,
      (after.locks any).depth other = (shared.locks any).depth other)
    (safe : Safe shared.remover thread actions) : (after.goOn thread actions).Disciplined := by
  refine ⟨fun other any => ?_, fun other => ?_, catalogued.registered, catalogued.removed⟩
  · by_cases same : other = thread
    · subst same
      simpa [LockingScheduler.goOn] using own any
    · simpa [LockingScheduler.goOn, same, pending] using
        (others other same any).trans (disciplined.depth other any)
  · by_cases same : other = thread
    · subst same
      simpa [LockingScheduler.goOn, remover] using safe
    · simpa [LockingScheduler.goOn, same, remover, pending] using disciplined.safe other

theorem Disciplined.takes (disciplined : shared.Disciplined)
    (isOpen : (shared.locks mutex).isOpenTo thread = true)
    (more : ∀ any, (taken actions).count any =
      (taken (shared.pending thread)).count any + if any = mutex then 1 else 0)
    (safe : Safe shared.remover thread actions) :
    ((shared.take thread mutex).goOn thread actions).Disciplined := by
  refine disciplined.goOn rfl rfl
    ⟨disciplined.catalogued.registered, disciplined.catalogued.removed⟩ (fun any => ?_)
    (fun other different any => ?_) safe
  · rw [depth_take isOpen, more, disciplined.depth]
    simp
  · rw [depth_take isOpen]
    simp [different]

theorem Disciplined.givesBack (disciplined : shared.Disciplined)
    (fewer : ∀ any, (taken (shared.pending thread)).count any =
      (taken actions).count any + if any = mutex then 1 else 0)
    (safe : Safe shared.remover thread actions) :
    ((shared.giveBack mutex).goOn thread actions).Disciplined := by
  have owns : 0 < (shared.locks mutex).depth thread := by
    rw [disciplined.depth, fewer]
    simp
  refine disciplined.goOn rfl rfl
    ⟨disciplined.catalogued.registered, disciplined.catalogued.removed⟩ (fun any => ?_)
    (fun other different any => ?_) safe
  · have before := depth_giveBack owns thread any
    rw [disciplined.depth, fewer] at before
    simpa using before.symm
  · have before := depth_giveBack owns other any
    simpa [different] using before.symm

theorem Disciplined.outside (disciplined : shared.Disciplined) {other : Nat}
    (different : other ≠ thread) (holds : mutex ∈ taken (shared.pending thread)) :
    mutex ∉ taken (shared.pending other) := by
  intro holdsToo
  rw [← List.count_pos_iff, ← disciplined.depth] at holds holdsToo
  exact different (RecursiveMutex.owner_unique holdsToo holds)

theorem Disciplined.section {inside : SchedulerSection} (disciplined : shared.Disciplined)
    (first : shared.pending thread = .inside inside :: rest) :
    (((shared.giveBack .scheduler).perform thread chances inside).1.goOn thread
      (((shared.giveBack .scheduler).perform thread chances inside).2 ++ rest)).Disciplined := by
  have safe := disciplined.safe thread
  rw [first] at safe
  obtain ⟨fits, whole, safeRest⟩ := safe
  have given : ((shared.giveBack .scheduler).goOn thread rest).Disciplined := by
    refine disciplined.givesBack (fun any => ?_) safeRest
    rw [first, count_taken, holding, count_one]
  have holds : SchedulerMutex.scheduler ∈ taken (shared.pending thread) := by
    rw [first]
    exact List.mem_cons_self
  have performs := @perform_performs (shared.giveBack .scheduler) thread chances
    ⟨disciplined.catalogued.registered, disciplined.catalogued.removed⟩ inside _ fits
  generalize (shared.giveBack .scheduler).perform thread chances inside = result at performs ⊢
  obtain ⟨after, more⟩ := result
  have locks : after.locks = (shared.giveBack .scheduler).locks := performs.locks
  have pending : after.pending = shared.pending := performs.pending
  have mine : ∀ address, Mine shared.remover thread address → Mine after.remover thread address :=
    fun address => Or.rec (performs.free address) fun own => .inr (performs.taken _ _ own)
  refine ⟨fun other any => ?_, fun other => ?_,
    performs.catalogued.registered, performs.catalogued.removed⟩
  · have depth := given.depth other any
    by_cases same : other = thread
    · subst same
      have empty : taken (more ++ rest) = taken rest :=
        taken_empty fun action member => (performs.fits action member).1
      simpa [LockingScheduler.goOn, locks, empty] using depth
    · simpa [LockingScheduler.goOn, locks, pending, same, giveBack] using depth
  · by_cases same : other = thread
    · subst same
      have safeAfter := safeRest.mono mine fun address own => performs.taken _ _ own
      simpa [LockingScheduler.goOn] using Safe.append performs.fits whole safeAfter
    · have safeOther := (disciplined.safe other).outside
        (fun address own => performs.taken _ _ own) (disciplined.outside same holds)
      simpa [LockingScheduler.goOn, pending, same] using safeOther

theorem Disciplined.advance (disciplined : shared.Disciplined)
    (first : shared.pending thread = action :: rest)
    (advanced : shared.advance thread chances rest action = some next) : next.Disciplined := by
  have safe := disciplined.safe thread
  rw [first] at safe
  obtain ⟨fits, whole, safeRest⟩ := safe
  have takes : ∀ {mutex : SchedulerMutex} {actions : List LockAction},
      shared.takes thread mutex actions = some next → action.holding = [] →
      (∀ any, (taken actions).count any = (taken rest).count any + [mutex].count any) →
      Safe shared.remover thread actions → next.Disciplined := by
    intro mutex actions took none more safe
    rw [LockingScheduler.takes] at took
    split at took
    · rename_i isOpen
      cases took
      refine disciplined.takes isOpen (fun any => ?_) safe
      rw [first, count_taken, none, more, count_one]
      simp
    · contradiction
  cases action with
  | plain mutex =>
      exact takes advanced rfl (fun any => count_taken _ _ any) ⟨trivial, whole, safeRest⟩
  | enter inside =>
      refine takes advanced rfl (fun any => count_taken _ _ any) ⟨?_, whole, safeRest⟩
      cases inside <;> exact fits
  | visit address =>
      refine takes advanced rfl (fun any => ?_) ⟨List.mem_cons_of_mem _ fits.1, ?_, trivial, whole,
        safeRest⟩
      · rw [count_taken, count_taken]
        simp [holding, tried]
      · exact List.forall_mem_cons.mpr ⟨rfl, whole⟩
  | removed address =>
      have more := TaskLocks.removed_fits address (shared.starter address) fits.1 fits.2
      refine takes advanced rfl (fun any => ?_) (.append more ?_ ⟨trivial, whole, safeRest⟩)
      · rw [taken_empty fun action member => (more action member).1, count_taken]
        rfl
      · exact List.forall_mem_cons.mpr ⟨rfl, whole⟩
  | both address calls =>
      exact takes advanced rfl (fun any => count_taken _ _ any) ⟨fits, whole, safeRest⟩
  | other address taskFirst calls =>
      simp only [LockingScheduler.advance] at advanced
      split at advanced
      · rename_i isOpen
        cases advanced
        have called : ∀ action ∈ if calls then [LockAction.callbacks] else [],
            action.holding = [] ∧ action.Fits shared.remover thread
              (taken (.unlock (.task address) :: .unlock .scheduler :: rest)) := by
          intro action member
          split at member
          · rw [List.mem_singleton.mp member]
            exact ⟨rfl, List.mem_cons_of_mem _ List.mem_cons_self⟩
          · contradiction
        refine disciplined.takes isOpen (fun any => ?_) (.append called ?_
          ⟨trivial, List.forall_mem_cons.mpr ⟨rfl, whole⟩, trivial, whole, safeRest⟩)
        · have pair := tried_pair address taskFirst any
          rw [taken_empty fun action member => (called action member).1, first, count_taken,
            count_taken, count_taken, ← count_one]
          simp only [holding, tried]
          omega
        · exact List.forall_mem_cons.mpr ⟨rfl, List.forall_mem_cons.mpr ⟨rfl, whole⟩⟩
      · cases advanced
        refine disciplined.givesBack (fun any => ?_) ⟨fits, whole, safeRest⟩
        rw [first, count_taken, count_taken, ← count_one]
        rfl
  | callbacks =>
      cases advanced
      have calls : ∀ action ∈ chances.calls.map SchedulerCall.begin,
          action.holding = [] ∧ action.Fits shared.remover thread (taken rest) := by
        intro action member
        obtain ⟨call, _, rfl⟩ := List.mem_map.mp member
        cases call with
        | unsubscribeEvents => exact ⟨rfl, .inl fits⟩
        | _ => exact ⟨rfl, .inr fits⟩
      refine disciplined.goOn rfl rfl disciplined.catalogued (fun any => ?_) (fun _ _ _ => rfl)
        (.append calls whole safeRest)
      rw [taken_empty fun action member => (calls action member).1, disciplined.depth, first,
        count_taken]
      rfl
  | inside inside =>
      simp only [LockingScheduler.advance] at advanced
      split at advanced
      · rename_i address listed
        cases advanced
        have registered := (Option.filter_eq_some_iff.mp listed).2
        obtain ⟨task, member, isAddress⟩ := List.any_eq_true.mp registered
        have free : shared.remover address = none := by
          rw [← of_decide_eq_true isAddress]
          exact (disciplined.catalogued.registered task member).1
        refine disciplined.goOn rfl rfl disciplined.catalogued (fun any => ?_) (fun _ _ _ => rfl)
          ⟨⟨List.mem_cons_self, .inl free⟩, List.forall_mem_cons.mpr ⟨rfl, whole⟩, fits, whole,
            safeRest⟩
        rw [disciplined.depth, first, count_taken (.visit address)]
        rfl
      · cases advanced
        exact disciplined.section first
  | unlock mutex =>
      cases advanced
      refine disciplined.givesBack (fun any => ?_) safeRest
      rw [first, count_taken, holding, count_one]

theorem Disciplined.step (disciplined : shared.Disciplined) {event : LockEvent}
    (stepped : lockStep shared event = some next) : next.Disciplined := by
  have begins : ∀ {thread : Nat} {action : LockAction}, (shared.pending thread).isEmpty = true →
      action.holding = [] → action.Fits shared.remover thread [] →
      (shared.goOn thread [action]).Disciplined := by
    intro thread action idle none fits
    refine disciplined.goOn rfl rfl disciplined.catalogued (fun any => ?_) (fun _ _ _ => rfl)
      ⟨fits, fun _ member => by contradiction, trivial⟩
    rw [disciplined.depth, List.isEmpty_iff.mp idle, count_taken, none]
    rfl
  cases event with
  | call thread call =>
      simp only [lockStep] at stepped
      split at stepped
      · rename_i idle
        cases stepped
        cases call with
        | unsubscribeEvents => exact begins idle rfl (.inr fun _ member => by contradiction)
        | _ => exact begins idle rfl (.inl rfl)
      · contradiction
  | exec thread =>
      simp only [lockStep] at stepped
      split at stepped
      · rename_i idle
        cases stepped
        exact begins idle rfl rfl
      · contradiction
  | advance thread chances =>
      simp only [lockStep] at stepped
      split at stepped
      · contradiction
      · rename_i first
        exact disciplined.advance first stepped

theorem initial_disciplined : ({} : LockingScheduler).Disciplined where
  depth _ _ := rfl
  safe _ := trivial
  catalogued := ⟨fun _ member => by contradiction, fun _ removed => absurd rfl removed⟩

theorem Disciplined.keeps_iff (disciplined : shared.Disciplined)
    (first : shared.pending thread = action :: rest) (waits : action.asks ≠ []) :
    shared.Keeps thread mutex ↔ mutex ∈ taken rest := by
  have same : action.holding = action.tried := by
    cases action with
    | inside inside | unlock mutex => exact absurd rfl waits
    | _ => rfl
  rw [Keeps, disciplined.depth, first, count_taken, same, List.head?_cons, Option.elim_some,
    ← List.count_pos_iff]
  omega

/-- `m_mutex` is the hub, and the tasks that a thread has itself taken out are exempt. -/
theorem Disciplined.hub (disciplined : shared.Disciplined) :
    LockOrder.Hub shared.Keeps shared.Stuck
      (fun thread mutex => ∃ address, mutex = .task address ∧ shared.remover address = some thread)
      .scheduler := by
  have owns : ∀ {thread : Nat} {mutex : SchedulerMutex}, shared.Keeps thread mutex →
      0 < (shared.locks mutex).depth thread := fun keeps => Nat.zero_lt_of_lt keeps
  have elsewhere : ∀ thread mutex, shared.Stuck thread mutex → ¬ shared.Keeps thread mutex := by
    rintro thread mutex ⟨_, _, _, _, closed⟩ keeps
    obtain ⟨other, different, ownsToo⟩ := RecursiveMutex.closed_iff.mp closed
    exact different (RecursiveMutex.owner_unique ownsToo (owns keeps))
  refine ⟨fun thread other mutex keeps keepsToo =>
    RecursiveMutex.owner_unique (owns keeps) (owns keepsToo), elsewhere, ?_, ?_⟩
  · rintro thread other mutex inside stuck keeps ⟨address, rfl, taken⟩
    obtain ⟨action, rest, first, asks, _⟩ := id stuck
    have fits := disciplined.safe thread
    rw [first] at fits
    have isInside := (disciplined.keeps_iff first (List.ne_nil_of_mem asks)).mp inside
    rcases fits.1.inside isInside asks with free | own
    · exact absurd (taken.symm.trans free) (Option.some_ne_none _)
    · cases own.symm.trans taken
      exact elsewhere thread _ stuck keeps
  · intro thread mutex had stuck outside keeps
    obtain ⟨action, rest, first, asks, _⟩ := id stuck
    have fits := disciplined.safe thread
    rw [first] at fits
    have keepsIff : ∀ {any : SchedulerMutex}, shared.Keeps thread any ↔ any ∈ taken rest :=
      disciplined.keeps_iff first (List.ne_nil_of_mem asks)
    obtain ⟨isHub | same, exempt⟩ := fits.1.without (fun inside => outside (keepsIff.mpr inside))
      asks (keepsIff.mp keeps)
    · exact ⟨isHub, exempt⟩
    · exact absurd keeps (same ▸ elsewhere thread mutex stuck)

/-- However the threads take turns: no threads wait in a ring for the locks of the scheduler and of
its tasks. -/
theorem scheduler_without_ring (events : List LockEvent) :
    Transition.Throughout lockStep NoLockRing {} events := by
  refine .mono lockStep (fun shared disciplined ring => ?_)
    (Transition.Throughout.of_step lockStep
      (fun _ _ _ disciplined stepped => Disciplined.step disciplined stepped) initial_disciplined)
  rintro ⟨thread, member⟩
  exact disciplined.hub.no_ring member

end LockingScheduler

end EasyViewer
