import Mathlib.Logic.Basic

/-!
Recursive mutexes, and threads that wait for one another. With one lock in the middle, the hub,
no threads wait in a ring if whoever is stuck outside of it is stuck at the hub, with nothing in
hand but locks that nobody inside of the hub is ever stuck at.
-/

inductive RecursiveMutex where
  | free
  | taken (owner again : Nat)
  deriving DecidableEq, Repr

namespace RecursiveMutex

def depth (mutex : RecursiveMutex) (thread : Nat) : Nat :=
  match mutex with
  | .free => 0
  | .taken owner again => if owner = thread then again + 1 else 0

def isOpenTo (mutex : RecursiveMutex) (thread : Nat) : Bool :=
  match mutex with
  | .free => true
  | .taken owner _ => owner = thread

def lock (mutex : RecursiveMutex) (thread : Nat) : RecursiveMutex :=
  match mutex with
  | .free => .taken thread 0
  | .taken owner again => .taken owner (again + 1)

def unlock : RecursiveMutex → RecursiveMutex
  | .free | .taken _ 0 => .free
  | .taken owner (again + 1) => .taken owner again

variable {mutex : RecursiveMutex} {thread other : Nat}

theorem owner_eq {owner again : Nat} (owns : 0 < (taken owner again).depth thread) :
    owner = thread := by
  by_cases same : owner = thread
  · exact same
  · simp [depth, same] at owns

theorem depth_lock (isOpen : mutex.isOpenTo thread = true) (other : Nat) :
    (mutex.lock thread).depth other = mutex.depth other + if other = thread then 1 else 0 := by
  cases mutex with
  | free => simp [lock, depth, eq_comm]
  | taken owner again =>
      have same : thread = owner := by simpa [isOpenTo, eq_comm] using isOpen
      subst same
      by_cases isOwner : thread = other
      · simp [lock, depth, isOwner]
      · simp [lock, depth, isOwner, Ne.symm isOwner]

theorem depth_unlock (owns : 0 < mutex.depth thread) (other : Nat) :
    mutex.depth other = mutex.unlock.depth other + if other = thread then 1 else 0 := by
  cases mutex with
  | free => contradiction
  | taken owner again =>
      cases owner_eq owns
      by_cases isOwner : thread = other
      · cases again with
        | zero => simp [unlock, depth, isOwner]
        | succ again => simp [unlock, depth, isOwner]
      · cases again with
        | zero => simp [unlock, depth, isOwner, Ne.symm isOwner]
        | succ again => simp [unlock, depth, isOwner, Ne.symm isOwner]

theorem owner_unique (owns : 0 < mutex.depth thread) (ownsToo : 0 < mutex.depth other) :
    thread = other := by
  cases mutex with
  | free => contradiction
  | taken owner again => exact (owner_eq owns).symm.trans (owner_eq ownsToo)

theorem closed_iff : mutex.isOpenTo thread = false ↔
    ∃ other, other ≠ thread ∧ 0 < mutex.depth other := by
  cases mutex with
  | free => simp [isOpenTo, depth]
  | taken owner again =>
      constructor
      · intro closed
        have different : owner ≠ thread := by simpa [isOpenTo] using closed
        exact ⟨owner, different, by simp [depth]⟩
      · rintro ⟨other, different, owns⟩
        simpa [isOpenTo, owner_eq owns] using different

end RecursiveMutex

namespace LockOrder

variable {Thread Mutex : Type} (holds stuck : Thread → Mutex → Prop)

def Waits (thread other : Thread) : Prop := ∃ mutex, stuck thread mutex ∧ holds other mutex

structure Hub (exempt : Thread → Mutex → Prop) (hub : Mutex) : Prop where
  alone : ∀ thread other mutex, holds thread mutex → holds other mutex → thread = other
  elsewhere : ∀ thread mutex, stuck thread mutex → ¬ holds thread mutex
  inside : ∀ thread other mutex, holds thread hub → stuck thread mutex → holds other mutex →
    ¬ exempt other mutex
  outside : ∀ thread mutex kept, stuck thread mutex → ¬ holds thread hub → holds thread kept →
    mutex = hub ∧ exempt thread kept

variable {holds stuck} {exempt : Thread → Mutex → Prop} {hub : Mutex}

theorem Hub.inside_ends (order : Hub holds stuck exempt hub) {first second third : Thread}
    (inside : holds first hub) (waits : Waits holds stuck first second) :
    ¬ Waits holds stuck second third := by
  rintro ⟨next, stuckNext, _⟩
  obtain ⟨mutex, stuckHere, held⟩ := waits
  have outsideHub : ¬ holds second hub := fun holdsHub => by
    have same := order.alone first second hub inside holdsHub
    exact order.elsewhere first mutex stuckHere (same ▸ held)
  exact order.inside first second mutex inside stuckHere held
    (order.outside second next mutex stuckNext outsideHub held).2

/-- No threads wait in a ring: among any threads, one waits for none of them. -/
theorem Hub.no_ring (order : Hub holds stuck exempt hub) {ring : Thread → Prop} {first : Thread}
    (member : ring first) :
    ¬ ∀ thread, ring thread → ∃ other, ring other ∧ Waits holds stuck thread other := by
  intro closed
  obtain ⟨second, isSecond, mutex, _, held⟩ := closed first member
  obtain ⟨third, isThird, waits⟩ := closed second isSecond
  obtain ⟨fourth, isFourth, waitsOn⟩ := closed third isThird
  by_cases inside : holds second hub
  · exact order.inside_ends inside waits waitsOn
  · obtain ⟨awaited, stuckHere, heldByThird⟩ := waits
    have isHub := (order.outside second awaited mutex stuckHere inside held).1
    obtain ⟨fifth, _, waitsLast⟩ := closed fourth isFourth
    exact order.inside_ends (isHub ▸ heldByThird) waitsOn waitsLast

end LockOrder
