import EasyViewer.Library.Run
import Mathlib.Logic.Function.Basic

/-!
Threads over a shared state. Each has a list of actions before it; an action is done in
one go, like a section under a lock, and may put further actions in its place.
-/

namespace Threads

structure Pool (Shared Action : Type) where
  shared : Shared
  pending : Nat → List Action

namespace Pool

variable {Shared Action : Type}

/-- Only a thread that has nothing left to do takes up new actions. -/
def start (pool : Pool Shared Action) (thread : Nat) (shared : Shared) (actions : List Action) :
    Option (Pool Shared Action) :=
  if (pool.pending thread).isEmpty then
    some { shared := shared, pending := Function.update pool.pending thread actions }
  else none

/-- The first action of a thread; `perform` says what it leaves and what follows it. -/
def advance (perform : Shared → Action → Shared × List Action) (pool : Pool Shared Action)
    (thread : Nat) : Option (Pool Shared Action) :=
  match pool.pending thread with
  | [] => none
  | action :: rest =>
      let (shared, more) := perform pool.shared action
      some { shared := shared, pending := Function.update pool.pending thread (more ++ rest) }

variable {perform : Shared → Action → Shared × List Action} {pool next : Pool Shared Action}
  {thread : Nat}

theorem start_eq_some {shared : Shared} {actions : List Action} :
    pool.start thread shared actions = some next ↔
      pool.pending thread = [] ∧
        next = { shared := shared, pending := Function.update pool.pending thread actions } := by
  rw [start]
  split
  · rename_i free
    rw [Option.some.injEq, List.isEmpty_iff.mp free]
    exact ⟨fun same => ⟨rfl, same.symm⟩, fun both => both.2.symm⟩
  · rename_i busy
    rw [List.isEmpty_iff] at busy
    exact ⟨fun started => (by cases started), fun both => absurd both.1 busy⟩

theorem advance_eq_some :
    pool.advance perform thread = some next ↔
      ∃ action rest, pool.pending thread = action :: rest ∧
        next = {
          shared := (perform pool.shared action).1
          pending := Function.update pool.pending thread
            ((perform pool.shared action).2 ++ rest) } := by
  rw [advance]
  split
  · rename_i idle
    rw [idle]
    constructor
    · intro advanced
      cases advanced
    · rintro ⟨_, _, busy, _⟩
      cases busy
  · rename_i action rest busy
    rw [busy, Option.some.injEq]
    constructor
    · exact fun same => ⟨action, rest, rfl, same.symm⟩
    · rintro ⟨_, _, same, advanced⟩
      cases same
      exact advanced.symm

section

variable {pending : Nat → List Action} {actions more rest : List Action} {action waiting : Action}
  {other : Nat}

theorem mem_update : waiting ∈ Function.update pending thread actions other ↔
    (other = thread ∧ waiting ∈ actions) ∨ (other ≠ thread ∧ waiting ∈ pending other) := by
  by_cases same : other = thread
  · subst same
    simp
  · simp [same]

theorem first_mem (first : pool.pending thread = action :: rest) :
    action ∈ pool.pending thread := by
  rw [first]
  exact List.mem_cons_self

theorem mem_of_advanced (first : pool.pending thread = action :: rest)
    (member : waiting ∈ Function.update pool.pending thread (more ++ rest) other) :
    (other = thread ∧ waiting ∈ more) ∨ waiting ∈ pool.pending other := by
  rcases mem_update.mp member with ⟨rfl, added⟩ | ⟨_, before⟩
  · rcases List.mem_append.mp added with new | later
    · exact .inl ⟨rfl, new⟩
    · right
      rw [first]
      exact List.mem_cons_of_mem _ later
  · exact .inr before

theorem mem_advanced (first : pool.pending thread = action :: rest)
    (member : waiting ∈ pool.pending other) :
    (other = thread ∧ waiting = action) ∨
      waiting ∈ Function.update pool.pending thread (more ++ rest) other := by
  by_cases same : other = thread
  · subst same
    rw [first] at member
    rcases List.mem_cons.mp member with isFirst | later
    · exact .inl ⟨rfl, isFirst⟩
    · exact .inr (mem_update.mpr (.inl ⟨rfl, List.mem_append_right _ later⟩))
  · exact .inr (mem_update.mpr (.inr ⟨same, member⟩))

theorem mem_started (idle : pool.pending thread = []) (member : waiting ∈ pool.pending other) :
    waiting ∈ Function.update pool.pending thread actions other := by
  refine mem_update.mpr (.inr ⟨?_, member⟩)
  rintro rfl
  rw [idle] at member
  contradiction

end

/-- A property of the shared state, and one of every action that some thread has before it. -/
structure Holds (keeps : Shared → Prop) (ready : Shared → Action → Prop)
    (pool : Pool Shared Action) : Prop where
  shared : keeps pool.shared
  pending : ∀ thread, ∀ action ∈ pool.pending thread, ready pool.shared action

variable {keeps : Shared → Prop} {ready : Shared → Action → Prop}

theorem Holds.start {shared : Shared} {actions : List Action} (holds : Holds keeps ready pool)
    (started : pool.start thread shared actions = some next) (kept : keeps shared)
    (fresh : ∀ action ∈ actions, ready shared action)
    (stable : ∀ action, ready pool.shared action → ready shared action) :
    Holds keeps ready next := by
  obtain ⟨_, rfl⟩ := start_eq_some.mp started
  refine ⟨kept, fun other action member => ?_⟩
  rcases mem_update.mp member with ⟨_, new⟩ | ⟨_, before⟩
  · exact fresh action new
  · exact stable action (holds.pending other action before)

/-- What an action keeps of the shared state, of what follows it and of all that waits. -/
theorem Holds.advance {action : Action} {rest : List Action} (holds : Holds keeps ready pool)
    (first : pool.pending thread = action :: rest)
    (advanced : pool.advance perform thread = some next)
    (kept : keeps (perform pool.shared action).1)
    (fresh : ∀ after ∈ (perform pool.shared action).2, ready (perform pool.shared action).1 after)
    (stable : ∀ other, ∀ after ∈ Function.update pool.pending thread rest other,
      ready pool.shared after → ready (perform pool.shared action).1 after) :
    Holds keeps ready next := by
  obtain ⟨_, _, again, rfl⟩ := advance_eq_some.mp advanced
  rw [first] at again
  cases again
  refine ⟨kept, fun other after member => ?_⟩
  rcases mem_update.mp member with ⟨rfl, added⟩ | ⟨different, before⟩
  · rcases List.mem_append.mp added with follows | waits
    · exact fresh after follows
    · refine stable other after (mem_update.mpr (.inl ⟨rfl, waits⟩))
        (holds.pending other after ?_)
      rw [first]
      exact List.mem_cons_of_mem _ waits
  · exact stable other after (mem_update.mpr (.inr ⟨different, before⟩))
      (holds.pending other after before)

/-- Each thread has at most one action before it, and only thread 0 those of a loop. -/
structure OneByOne (inLoop : Action → Bool) (pool : Pool Shared Action) : Prop where
  single : ∀ thread, (pool.pending thread).length ≤ 1
  loop : ∀ thread, ∀ action ∈ pool.pending thread, inLoop action = true → thread = 0

variable {inLoop : Action → Bool}

theorem OneByOne.start {shared : Shared} {actions : List Action} (paced : OneByOne inLoop pool)
    (started : pool.start thread shared actions = some next) (single : actions.length ≤ 1)
    (loop : thread ≠ 0 → ∀ action ∈ actions, inLoop action = false) : OneByOne inLoop next := by
  obtain ⟨_, rfl⟩ := start_eq_some.mp started
  refine ⟨fun other => ?_, fun other action member isLoop => ?_⟩
  · simp only [Function.update_apply]
    split
    · exact single
    · exact paced.single other
  · rcases mem_update.mp member with ⟨same, new⟩ | ⟨_, before⟩
    · by_contra apart
      have outside := loop (same ▸ apart) action new
      rw [isLoop] at outside
      contradiction
    · exact paced.loop other action before isLoop

theorem OneByOne.alone {action : Action} {rest : List Action} (paced : OneByOne inLoop pool)
    (first : pool.pending thread = action :: rest) : rest = [] := by
  have single := paced.single thread
  rw [first, List.length_cons] at single
  exact List.eq_nil_of_length_eq_zero (by omega)

theorem OneByOne.apart {action waiting : Action} {rest : List Action} {other : Nat}
    (paced : OneByOne inLoop pool) (first : pool.pending thread = action :: rest)
    (different : other ≠ thread) (member : waiting ∈ pool.pending other) :
    inLoop waiting = false ∨ inLoop action = false := by
  by_cases zero : thread = 0
  · left
    by_contra isLoop
    have also := paced.loop other waiting member (by simpa using isLoop)
    exact different (also.trans zero.symm)
  · right
    by_contra isLoop
    exact zero (paced.loop thread action (first_mem first) (by simpa using isLoop))

theorem OneByOne.advance {action : Action} {rest : List Action} (paced : OneByOne inLoop pool)
    (first : pool.pending thread = action :: rest)
    (advanced : pool.advance perform thread = some next)
    (single : (perform pool.shared action).2.length ≤ 1)
    (outside : inLoop action = false → ∀ after ∈ (perform pool.shared action).2,
      inLoop after = false) : OneByOne inLoop next := by
  have alone := paced.alone first
  obtain ⟨_, _, again, rfl⟩ := advance_eq_some.mp advanced
  rw [first] at again
  cases again
  rw [alone, List.append_nil]
  refine ⟨fun other => ?_, fun other waiting member isLoop => ?_⟩
  · simp only [Function.update_apply]
    split
    · exact single
    · exact paced.single other
  · rcases mem_update.mp member with ⟨same, new⟩ | ⟨_, before⟩
    · by_contra apart
      have notLoop : inLoop action = false := by
        by_contra isLoop
        exact apart (same.trans (paced.loop thread action (first_mem first) (by simpa using isLoop)))
      rw [outside notLoop waiting new] at isLoop
      contradiction
    · exact paced.loop other waiting before isLoop

end Pool

end Threads
