import EasyViewer.Library.Run
import EasyViewer.Library.Tally

/-!
`ReadWriteLock` and `RecursiveReadWriteLock`, cut between all accesses to their members. A thread
that spins keeps its place. The counters are words of 32 bits; what they count is the
sections that are held and the attempts that are under way.
-/

namespace EasyViewer

inductive LockKind where
  | plain
  | recursive
  deriving DecidableEq, Repr

/-- What the read side is taken for: by `readLock`, `tryReadLock` or `writeUnlock`. -/
inductive ReadPurpose where
  | lock
  | tryLock
  | unlock
  deriving DecidableEq, Repr

inductive LockPlace where
  | outside
  | readEnters (purpose : ReadPurpose)
  | readNests (purpose : ReadPurpose)
  | readWaits (purpose : ReadPurpose)
  | readAdds (purpose : ReadPurpose)
  | readChecks (purpose : ReadPurpose)
  | readBacksOff (purpose : ReadPurpose)
  | readLeaves
  | writeEnters (tries : Bool)
  | writeNests
  | writeSwaps (tries : Bool)
  | writeDrains
  | writeChecks
  | writeBacksOff
  | writeOwns
  | writeLeaves
  | unlockAsserts
  | unlockLowers
  | unlockDisowns
  | unlockLeaves
  | aborted
  deriving DecidableEq, Repr

inductive LockCall where
  | readLock
  | tryReadLock
  | readUnlock
  | writeLock
  | tryWriteLock
  | writeUnlock
  deriving DecidableEq, Repr

/-- The sections that a thread is in: a lock adds one when it returns, an unlock takes one away
when it is called. -/
structure LockThread where
  place : LockPlace := .outside
  reads : Nat := 0
  writes : Nat := 0
  deriving DecidableEq, Repr

structure ReadWriteLock (Thread : Type) where
  read : UInt32 := 0
  write : UInt32 := 0
  lockedBy : Option Thread := none
  deriving DecidableEq, Repr

structure LockThreads (Thread : Type) where
  lock : ReadWriteLock Thread := {}
  threads : Thread → LockThread := fun _ => {}

inductive ReadWriteEvent (Thread : Type) where
  | call (thread : Thread) (call : LockCall)
  | advance (thread : Thread)
  deriving DecidableEq, Repr

namespace LockThread

/-- Use is balanced: who unlocks is in a section. -/
def call (kind : LockKind) (thread : LockThread) : LockCall → Option LockThread
  | .readLock => some { thread with
      place := if kind = .plain then .readWaits .lock else .readEnters .lock }
  | .tryReadLock => some { thread with
      place := if kind = .plain then .readAdds .tryLock else .readEnters .tryLock }
  | .readUnlock =>
      if thread.reads = 0 then none
      else some { thread with place := .readLeaves, reads := thread.reads - 1 }
  | .writeLock => some { thread with
      place := if kind = .plain then .writeSwaps false else .writeEnters false }
  | .tryWriteLock => some { thread with
      place := if kind = .plain then .writeSwaps true else .writeEnters true }
  | .writeUnlock =>
      if thread.writes = 0 then none
      else some { thread with
        place := if kind = .plain then .writeLeaves else .unlockAsserts
        writes := thread.writes - 1 }

def goesTo (thread : LockThread) (place : LockPlace) : LockThread := { thread with place := place }

def readLocked (thread : LockThread) (purpose : ReadPurpose) : LockThread :=
  if purpose = .unlock then thread.goesTo .unlockLowers
  else { thread with place := .outside, reads := thread.reads + 1 }

def writeLocked (thread : LockThread) : LockThread :=
  { thread with place := .outside, writes := thread.writes + 1 }

def drained (kind : LockKind) (thread : LockThread) : LockThread :=
  if kind = .plain then thread.writeLocked else thread.goesTo .writeOwns

end LockThread

section

variable {Thread : Type} [DecidableEq Thread]

def ReadWriteLock.perform (kind : LockKind) (lock : ReadWriteLock Thread) (self : Thread)
    (thread : LockThread) : Option (ReadWriteLock Thread × LockThread) :=
  match thread.place with
  | .outside | .aborted => none
  | .readEnters purpose =>
      some (lock, thread.goesTo
        (if lock.lockedBy = some self then .readNests purpose
        else if purpose = .tryLock then .readAdds purpose
        else .readWaits purpose))
  | .readNests purpose => some ({ lock with read := lock.read + 1 }, thread.readLocked purpose)
  | .readWaits purpose =>
      some (lock, if lock.write = 0 then thread.goesTo (.readAdds purpose) else thread)
  | .readAdds purpose =>
      some ({ lock with read := lock.read + 1 }, thread.goesTo (.readChecks purpose))
  | .readChecks purpose =>
      some (lock, if lock.write = 0 then thread.readLocked purpose
        else thread.goesTo (.readBacksOff purpose))
  | .readBacksOff purpose =>
      some ({ lock with read := lock.read - 1 },
        thread.goesTo (if purpose = .tryLock then .outside else .readWaits purpose))
  | .readLeaves => some ({ lock with read := lock.read - 1 }, thread.goesTo .outside)
  | .writeEnters tries =>
      some (lock, thread.goesTo
        (if lock.lockedBy = some self then .writeNests else .writeSwaps tries))
  | .writeNests => some ({ lock with write := lock.write + 1 }, thread.writeLocked)
  | .writeSwaps tries =>
      if lock.write = 0 then
        some ({ lock with write := 1 },
          thread.goesTo (if tries then .writeChecks else .writeDrains))
      else some (lock, if tries then thread.goesTo .outside else thread)
  | .writeDrains => some (lock, if lock.read = 0 then thread.drained kind else thread)
  | .writeChecks =>
      some (lock, if lock.read = 0 then thread.drained kind else thread.goesTo .writeBacksOff)
  | .writeBacksOff => some ({ lock with write := 0 }, thread.goesTo .outside)
  | .writeOwns => some ({ lock with lockedBy := some self }, thread.writeLocked)
  | .writeLeaves => some ({ lock with write := lock.write - 1 }, thread.goesTo .outside)
  | .unlockAsserts =>
      some (lock, thread.goesTo
        (if lock.lockedBy = some self then .readEnters .unlock else .aborted))
  | .unlockLowers =>
      some ({ lock with write := lock.write - 1 },
        thread.goesTo (if lock.write - 1 = 0 then .unlockDisowns else .unlockLeaves))
  | .unlockDisowns => some ({ lock with lockedBy := none }, thread.goesTo .unlockLeaves)
  | .unlockLeaves => some ({ lock with read := lock.read - 1 }, thread.goesTo .outside)

def LockThreads.moved (state : LockThreads Thread) (self : Thread) (lock : ReadWriteLock Thread)
    (thread : LockThread) : LockThreads Thread :=
  { lock := lock, threads := Function.update state.threads self thread }

def readWriteStep (kind : LockKind) (state : LockThreads Thread) :
    ReadWriteEvent Thread → Option (LockThreads Thread)
  | .call self call =>
      if (state.threads self).place = .outside then
        ((state.threads self).call kind call).map fun thread => state.moved self state.lock thread
      else none
  | .advance self =>
      (state.lock.perform kind self (state.threads self)).map fun result =>
        state.moved self result.1 result.2

def ReadWriteLock.step : LockThreads Thread → ReadWriteEvent Thread → Option (LockThreads Thread) :=
  readWriteStep .plain

def RecursiveReadWriteLock.step :
    LockThreads Thread → ReadWriteEvent Thread → Option (LockThreads Thread) :=
  readWriteStep .recursive

end

namespace LockPlace

/-- Whether the thread is counted by `m_read` beyond the sections it is in. -/
def readUnit : LockPlace → Nat
  | .readChecks _ | .readBacksOff _ | .readLeaves | .unlockLowers | .unlockDisowns
  | .unlockLeaves => 1
  | _ => 0

/-- Whether the thread is counted by `m_write` beyond the sections it is in. -/
def writeUnit : LockPlace → Nat
  | .writeDrains | .writeChecks | .writeBacksOff | .writeOwns | .writeLeaves | .unlockAsserts
  | .readEnters .unlock | .readNests .unlock | .unlockLowers => 1
  | _ => 0

def keeps : LockPlace → Bool
  | .writeOwns | .writeLeaves | .unlockAsserts | .readEnters .unlock | .readNests .unlock
  | .unlockLowers => true
  | _ => false

def lowered : LockPlace → Bool
  | .unlockDisowns | .unlockLeaves => true
  | _ => false

def inUnlock : LockPlace → Bool
  | .unlockAsserts | .readEnters .unlock | .readNests .unlock | .readWaits .unlock
  | .readAdds .unlock | .readChecks .unlock | .readBacksOff .unlock | .unlockLowers
  | .unlockDisowns | .unlockLeaves => true
  | _ => false

def owning : LockPlace → Bool
  | .unlockAsserts | .readEnters .unlock | .readNests .unlock | .unlockLowers
  | .unlockDisowns => true
  | _ => false

end LockPlace

namespace LockThread

def readWeight (thread : LockThread) : Nat := thread.reads + thread.place.readUnit

def writeWeight (thread : LockThread) : Nat := thread.writes + thread.place.writeUnit

def Writes (thread : LockThread) : Prop := 0 < thread.writes ∨ thread.place.keeps = true

/-- What no other thread may be doing while one writes. -/
def Blocks (thread : LockThread) : Prop := 0 < thread.reads ∨ thread.place.lowered = true

def Owns (thread : LockThread) : Prop := 0 < thread.writes ∨ thread.place.owning = true

def Formed (kind : LockKind) (thread : LockThread) : Prop :=
  match thread.place with
  | .outside | .readLeaves | .writeSwaps _ => True
  | .readNests .lock | .readNests .tryLock | .writeNests => kind = .recursive ∧ 0 < thread.writes
  | .readWaits purpose | .readAdds purpose | .readChecks purpose | .readBacksOff purpose =>
      purpose ≠ .unlock
  | .readEnters _ | .readNests .unlock | .writeEnters _ | .unlockAsserts | .unlockLowers
  | .unlockLeaves => kind = .recursive
  | .writeDrains | .writeChecks | .writeBacksOff => thread.writes = 0
  | .writeOwns | .unlockDisowns => kind = .recursive ∧ thread.writes = 0
  | .writeLeaves => kind = .plain
  | .aborted => False

end LockThread

namespace LockThreads

variable {Thread : Type}

/-- While one thread is in a writer section, no other one is in any section. -/
def Excludes (state : LockThreads Thread) : Prop :=
  ∀ writer other, writer ≠ other → 0 < (state.threads writer).writes →
    (state.threads other).reads = 0 ∧ (state.threads other).writes = 0

/-- `m_lockedBy` names a thread only in its writer section or inside of its unlock. -/
def Names (state : LockThreads Thread) : Prop :=
  ∀ owner, state.lock.lockedBy = some owner →
    0 < (state.threads owner).writes ∨ (state.threads owner).place.inUnlock = true

variable [Fintype Thread]

def readUnits (state : LockThreads Thread) : Nat :=
  Threads.tally LockThread.readWeight state.threads

def writeUnits (state : LockThreads Thread) : Nat :=
  Threads.tally LockThread.writeWeight state.threads

def Few (state : LockThreads Thread) : Prop :=
  state.readUnits < 2 ^ 32 ∧ state.writeUnits < 2 ^ 32

instance (state : LockThreads Thread) : Decidable state.Few :=
  inferInstanceAs (Decidable (_ ∧ _))

/-- One thread at a time has raised `m_write`, and what one that writes has seen of `m_read`
goes on to hold of the others. -/
structure Sound (kind : LockKind) (state : LockThreads Thread) : Prop where
  read : state.lock.read = UInt32.ofNat state.readUnits
  write : state.lock.write = UInt32.ofNat state.writeUnits
  alone : ∀ first second, first ≠ second → 0 < (state.threads first).writeWeight →
    (state.threads second).writeWeight = 0
  excludes : ∀ writer other, writer ≠ other → (state.threads writer).Writes →
    ¬ (state.threads other).Blocks
  owns : kind = .recursive → ∀ thread, state.lock.lockedBy = some thread ↔
    (state.threads thread).Owns
  formed : ∀ thread, (state.threads thread).Formed kind

end LockThreads

structure LockMoves {Thread : Type} (kind : LockKind) (old : ReadWriteLock Thread)
    (thread : Thread) (before : LockThread) (lock : ReadWriteLock Thread) (after : LockThread) :
    Prop where
  read : lock.read + UInt32.ofNat before.readWeight = old.read + UInt32.ofNat after.readWeight
  write : lock.write + UInt32.ofNat before.writeWeight = old.write + UInt32.ofNat after.writeWeight
  raises : 0 < after.writeWeight → 0 < before.writeWeight ∨ old.write = 0
  writes : after.Writes → before.Writes ∨ old.read = 0
  blocks : after.Blocks → before.Blocks ∨ old.write = 0 ∨ before.Writes
  owns : kind = .recursive →
    lock.lockedBy = old.lockedBy ∧ (after.Owns ↔ before.Owns) ∨
    lock.lockedBy = some thread ∧ after.Owns ∧ before.place = .writeOwns ∨
    lock.lockedBy = none ∧ ¬ after.Owns ∧ before.place = .unlockDisowns
  formed : after.Formed kind

namespace LockThread

variable {thread : LockThread}

theorem Writes.weight (writes : thread.Writes) : 0 < thread.writeWeight := by
  rcases writes with holds | keeps
  · exact Nat.lt_of_lt_of_le holds (Nat.le_add_right _ _)
  · have raised : thread.place.writeUnit = 1 := by
      revert keeps
      cases thread.place with
      | readEnters purpose => cases purpose <;> simp [LockPlace.keeps, LockPlace.writeUnit]
      | readNests purpose => cases purpose <;> simp [LockPlace.keeps, LockPlace.writeUnit]
      | _ => simp [LockPlace.keeps, LockPlace.writeUnit]
    rw [writeWeight, raised]
    exact Nat.succ_pos _

theorem Blocks.weight (blocks : thread.Blocks) : 0 < thread.readWeight := by
  rcases blocks with holds | lowered
  · exact Nat.lt_of_lt_of_le holds (Nat.le_add_right _ _)
  · have raised : thread.place.readUnit = 1 := by
      revert lowered
      cases thread.place <;> simp [LockPlace.lowered, LockPlace.readUnit]
    rw [readWeight, raised]
    exact Nat.succ_pos _

theorem Owns.writes_or_blocks (owns : thread.Owns) : thread.Writes ∨ thread.Blocks := by
  rcases owns with holds | owning
  · exact .inl (.inl holds)
  · by_cases keeps : thread.place.keeps = true
    · exact .inl (.inr keeps)
    · refine .inr (.inr ?_)
      revert owning keeps
      cases thread.place with
      | readEnters purpose => cases purpose <;> simp [LockPlace.owning, LockPlace.keeps]
      | readNests purpose => cases purpose <;> simp [LockPlace.owning, LockPlace.keeps]
      | _ => simp [LockPlace.owning, LockPlace.keeps, LockPlace.lowered]

end LockThread

theorem ofNat_eq_zero_iff {count : Nat} (few : count < 2 ^ 32) :
    UInt32.ofNat count = 0 ↔ count = 0 := by
  constructor
  · intro zero
    have same := congrArg UInt32.toNat zero
    rw [UInt32.toNat_ofNat', Nat.mod_eq_of_lt few] at same
    exact same
  · rintro rfl
    rfl

namespace LockThreads.Sound

variable {Thread : Type} [Fintype Thread] {kind : LockKind} {state : LockThreads Thread}
  {self : Thread} {lock : ReadWriteLock Thread} {after : LockThread}

theorem no_reader (sound : state.Sound kind) (few : state.Few) (zero : state.lock.read = 0)
    (other : Thread) : (state.threads other).readWeight = 0 := by
  rw [sound.read, ofNat_eq_zero_iff few.1] at zero
  have atMost := Threads.le_tally LockThread.readWeight state.threads other
  exact Nat.eq_zero_of_le_zero (Nat.le_trans atMost (Nat.le_of_eq zero))

theorem no_writer (sound : state.Sound kind) (few : state.Few) (zero : state.lock.write = 0)
    (other : Thread) : (state.threads other).writeWeight = 0 := by
  rw [sound.write, ofNat_eq_zero_iff few.2] at zero
  have atMost := Threads.le_tally LockThread.writeWeight state.threads other
  exact Nat.eq_zero_of_le_zero (Nat.le_trans atMost (Nat.le_of_eq zero))

theorem write_eq (sound : state.Sound kind) (raised : 0 < (state.threads self).writeWeight) :
    state.lock.write = UInt32.ofNat (state.threads self).writeWeight ∧
      state.writeUnits = (state.threads self).writeWeight := by
  have units : state.writeUnits = (state.threads self).writeWeight :=
    Threads.tally_single fun other apart => sound.alone self other apart.symm raised
  exact ⟨units ▸ sound.write, units⟩

theorem counted [DecidableEq Thread] (weight : LockThread → Nat) {before word : UInt32}
    (counts : before = UInt32.ofNat (Threads.tally weight state.threads))
    (follows : word + UInt32.ofNat (weight (state.threads self)) =
      before + UInt32.ofNat (weight after)) :
    word = UInt32.ofNat (Threads.tally weight (Function.update state.threads self after)) := by
  have units := congrArg UInt32.ofNat (Threads.tally_update weight state.threads self after)
  rw [UInt32.ofNat_add, UInt32.ofNat_add, ← counts, ← follows] at units
  exact ((UInt32.add_left_inj _).mp units).symm

theorem moved [DecidableEq Thread] (sound : state.Sound kind) (few : state.Few)
    (moves : LockMoves kind state.lock self (state.threads self) lock after) :
    (state.moved self lock after).Sound kind := by
  have others : ∀ other, other ≠ self →
      (state.moved self lock after).threads other = state.threads other :=
    fun other apart => Function.update_of_ne apart _ _
  have own : (state.moved self lock after).threads self = after := Function.update_self _ _ _
  have alone : ∀ other, other ≠ self → 0 < after.writeWeight →
      (state.threads other).writeWeight = 0 := by
    intro other apart raised
    rcases moves.raises raised with before | zero
    · exact sound.alone self other apart.symm before
    · exact sound.no_writer few zero other
  refine ⟨?_, ?_, ?_, ?_, ?_, ?_⟩
  · exact counted LockThread.readWeight sound.read moves.read
  · exact counted LockThread.writeWeight sound.write moves.write
  · intro first second apart raised
    by_cases isFirst : first = self
    · subst isFirst
      rw [own] at raised
      rw [others second apart.symm]
      exact alone second apart.symm raised
    · rw [others first isFirst] at raised
      by_cases isSecond : second = self
      · subst isSecond
        rw [own]
        by_contra also
        have none := alone first apart (Nat.pos_of_ne_zero also)
        omega
      · rw [others second isSecond]
        exact sound.alone first second apart raised
  · intro writer other apart writes
    by_cases isWriter : writer = self
    · subst isWriter
      rw [own] at writes
      rw [others other apart.symm]
      rcases moves.writes writes with before | zero
      · exact sound.excludes writer other apart before
      · intro blocks
        have none := sound.no_reader few zero other
        have some := blocks.weight
        omega
    · rw [others writer isWriter] at writes
      by_cases isOther : other = self
      · subst isOther
        rw [own]
        intro blocks
        have some := writes.weight
        rcases moves.blocks blocks with before | zero | before
        · exact sound.excludes writer other apart writes before
        · have none := sound.no_writer few zero writer
          omega
        · have none := sound.alone other writer apart.symm before.weight
          omega
      · rw [others other isOther]
        exact sound.excludes writer other apart writes
  · intro recursive thread
    have named := sound.owns recursive
    show lock.lockedBy = some thread ↔ _
    rcases moves.owns recursive with ⟨same, owns⟩ | ⟨taken, owns, place⟩ | ⟨given, owns, place⟩
    · rw [same, named]
      by_cases isSelf : thread = self
      · rw [isSelf, own, owns]
      · rw [others thread isSelf]
    · rw [taken, Option.some.injEq]
      by_cases isSelf : thread = self
      · rw [isSelf, own]
        exact iff_of_true rfl owns
      · rw [others thread isSelf]
        refine iff_of_false (Ne.symm isSelf) fun also => ?_
        have writes : (state.threads self).Writes := .inr (by rw [place]; rfl)
        rcases also.writes_or_blocks with second | blocks
        · have none := sound.alone self thread (Ne.symm isSelf) writes.weight
          have some := second.weight
          omega
        · exact sound.excludes self thread (Ne.symm isSelf) writes blocks
    · rw [given]
      have before : state.lock.lockedBy = some self := by
        rw [named]
        exact .inr (by rw [place]; rfl)
      by_cases isSelf : thread = self
      · rw [isSelf, own]
        exact iff_of_false (by simp) owns
      · rw [others thread isSelf, ← named, before, Option.some.injEq]
        exact iff_of_false (by simp) (Ne.symm isSelf)
  · intro thread
    by_cases isSelf : thread = self
    · rw [isSelf, own]
      exact moves.formed
    · rw [others thread isSelf]
      exact sound.formed thread

end LockThreads.Sound

structure LockFits {Thread : Type} (kind : LockKind) (lock : ReadWriteLock Thread)
    (thread : Thread) (before : LockThread) : Prop where
  empty : lock.write = 0 → before.writeWeight = 0
  only : 0 < before.writeWeight → lock.write = UInt32.ofNat before.writeWeight
  bounded : before.writeWeight < 2 ^ 32
  owns : kind = .recursive → (lock.lockedBy = some thread ↔ before.Owns)
  formed : before.Formed kind

theorem LockThreads.Sound.fits {Thread : Type} [Fintype Thread] {kind : LockKind}
    {state : LockThreads Thread} (sound : state.Sound kind) (few : state.Few) (thread : Thread) :
    LockFits kind state.lock thread (state.threads thread) where
  empty zero := sound.no_writer few zero thread
  only raised := (sound.write_eq raised).1
  bounded := Nat.lt_of_le_of_lt
    (Threads.le_tally LockThread.writeWeight state.threads thread) few.2
  owns recursive := sound.owns recursive thread
  formed := sound.formed thread

theorem word_raise (word : UInt32) (count : Nat) :
    word + 1 + UInt32.ofNat count = word + UInt32.ofNat (count + 1) := by
  rw [UInt32.ofNat_add, UInt32.add_assoc, UInt32.add_comm 1]
  rfl

theorem word_lower (word : UInt32) (count : Nat) :
    word - 1 + UInt32.ofNat (count + 1) = word + UInt32.ofNat count := by
  rw [← word_raise, UInt32.sub_add_cancel]

namespace LockMoves

variable {Thread : Type} {kind : LockKind} {lock : ReadWriteLock Thread} {self : Thread}
  {before after : LockThread}

theorem reading {word : UInt32} (writes : after.writes = before.writes)
    (write : after.place.writeUnit = before.place.writeUnit)
    (keeps : after.place.keeps = before.place.keeps)
    (owning : after.place.owning = before.place.owning)
    (read : word + UInt32.ofNat before.readWeight = lock.read + UInt32.ofNat after.readWeight)
    (blocks : after.Blocks → before.Blocks ∨ lock.write = 0 ∨ before.Writes)
    (formed : after.Formed kind) :
    LockMoves kind lock self before { lock with read := word } after where
  read := read
  write := by simp only [LockThread.writeWeight, writes, write]
  raises raised := .inl (by
    simpa only [LockThread.writeWeight, writes, write] using raised)
  writes isWriter := .inl (by simpa only [LockThread.Writes, writes, keeps] using isWriter)
  blocks := blocks
  owns _ := .inl ⟨rfl, by simp only [LockThread.Owns, writes, owning]⟩
  formed := formed

theorem writing {word : UInt32} (reads : after.reads = before.reads)
    (read : after.place.readUnit = before.place.readUnit)
    (blocks : after.Blocks → before.Blocks ∨ before.Writes)
    (write : word + UInt32.ofNat before.writeWeight = lock.write + UInt32.ofNat after.writeWeight)
    (raises : 0 < after.writeWeight → 0 < before.writeWeight ∨ lock.write = 0)
    (writes : after.Writes → before.Writes ∨ lock.read = 0)
    (owns : kind = .recursive → (after.Owns ↔ before.Owns)) (formed : after.Formed kind) :
    LockMoves kind lock self before { lock with write := word } after where
  read := by simp only [LockThread.readWeight, reads, read]
  write := write
  raises := raises
  writes := writes
  blocks isReader := (blocks isReader).elim .inl fun isWriter => .inr (.inr isWriter)
  owns recursive := .inl ⟨rfl, owns recursive⟩
  formed := formed

theorem goesTo {place : LockPlace} (read : place.readUnit = before.place.readUnit)
    (write : place.writeUnit = before.place.writeUnit) (keeps : place.keeps = before.place.keeps)
    (lowered : place.lowered = before.place.lowered)
    (owning : place.owning = before.place.owning) (formed : (before.goesTo place).Formed kind) :
    LockMoves kind lock self before lock (before.goesTo place) :=
  reading rfl write keeps owning
    (by simp only [LockThread.readWeight, LockThread.goesTo, read])
    (fun blocks => .inl (by
      simpa only [LockThread.Blocks, LockThread.goesTo, lowered] using blocks)) formed

theorem refl (formed : before.Formed kind) : LockMoves kind lock self before lock before :=
  goesTo rfl rfl rfl rfl rfl formed

variable {place : LockPlace} {purpose : ReadPurpose} {tries : Bool} {reads writes : Nat}

theorem readEnters [DecidableEq Thread]
    (fits : LockFits kind lock self ⟨.readEnters purpose, reads, writes⟩) :
    LockMoves kind lock self ⟨.readEnters purpose, reads, writes⟩ lock
      (LockThread.goesTo ⟨.readEnters purpose, reads, writes⟩
        (if lock.lockedBy = some self then .readNests purpose
        else if purpose = .tryLock then .readAdds purpose
        else .readWaits purpose)) := by
  have recursive : kind = .recursive := fits.formed
  have owns := fits.owns recursive
  split
  · rename_i named
    have isOwner := owns.mp named
    cases purpose with
    | unlock => exact goesTo rfl rfl rfl rfl rfl recursive
    | lock | tryLock =>
        have inside : 0 < writes := isOwner.resolve_right Bool.false_ne_true
        exact goesTo rfl rfl rfl rfl rfl ⟨recursive, inside⟩
  · rename_i other
    rw [owns] at other
    cases purpose with
    | unlock => exact absurd (.inr rfl) other
    | lock | tryLock => exact goesTo rfl rfl rfl rfl rfl (ReadPurpose.noConfusion : _ ≠ _)

theorem readNests (fits : LockFits kind lock self ⟨.readNests purpose, reads, writes⟩) :
    LockMoves kind lock self ⟨.readNests purpose, reads, writes⟩
      { lock with read := lock.read + 1 }
      (LockThread.readLocked ⟨.readNests purpose, reads, writes⟩ purpose) := by
  have formed := fits.formed
  cases purpose with
  | unlock => exact reading rfl rfl rfl rfl (word_raise _ _) .inl formed
  | lock | tryLock =>
      exact reading rfl rfl rfl rfl (word_raise _ _) (fun _ => .inr (.inr (.inl formed.2))) trivial

theorem readWaits (fits : LockFits kind lock self ⟨.readWaits purpose, reads, writes⟩) :
    LockMoves kind lock self ⟨.readWaits purpose, reads, writes⟩ lock
      (if lock.write = 0 then LockThread.goesTo ⟨.readWaits purpose, reads, writes⟩
        (.readAdds purpose)
      else ⟨.readWaits purpose, reads, writes⟩) := by
  split
  · exact goesTo rfl rfl rfl rfl rfl fits.formed
  · exact refl fits.formed

theorem readAdds (fits : LockFits kind lock self ⟨.readAdds purpose, reads, writes⟩) :
    LockMoves kind lock self ⟨.readAdds purpose, reads, writes⟩
      { lock with read := lock.read + 1 }
      (LockThread.goesTo ⟨.readAdds purpose, reads, writes⟩ (.readChecks purpose)) :=
  reading rfl rfl rfl rfl (word_raise _ _) .inl fits.formed

theorem readChecks (fits : LockFits kind lock self ⟨.readChecks purpose, reads, writes⟩) :
    LockMoves kind lock self ⟨.readChecks purpose, reads, writes⟩ lock
      (if lock.write = 0 then
        LockThread.readLocked ⟨.readChecks purpose, reads, writes⟩ purpose
      else LockThread.goesTo ⟨.readChecks purpose, reads, writes⟩ (.readBacksOff purpose)) := by
  have notUnlock : purpose ≠ .unlock := fits.formed
  split
  · rename_i zero
    rw [LockThread.readLocked, if_neg notUnlock]
    exact reading rfl rfl rfl rfl rfl (fun _ => .inr (.inl zero)) trivial
  · exact goesTo rfl rfl rfl rfl rfl notUnlock

theorem readBacksOff (fits : LockFits kind lock self ⟨.readBacksOff purpose, reads, writes⟩) :
    LockMoves kind lock self ⟨.readBacksOff purpose, reads, writes⟩
      { lock with read := lock.read - 1 }
      (LockThread.goesTo ⟨.readBacksOff purpose, reads, writes⟩
        (if purpose = .tryLock then .outside else .readWaits purpose)) := by
  have notUnlock : purpose ≠ .unlock := fits.formed
  cases purpose with
  | unlock => contradiction
  | lock => exact reading rfl rfl rfl rfl (word_lower _ _) .inl notUnlock
  | tryLock => exact reading rfl rfl rfl rfl (word_lower _ _) .inl trivial

theorem readLeaves : LockMoves kind lock self ⟨.readLeaves, reads, writes⟩
    { lock with read := lock.read - 1 }
    (LockThread.goesTo ⟨.readLeaves, reads, writes⟩ .outside) :=
  reading rfl rfl rfl rfl (word_lower _ _) .inl trivial

theorem unlockLeaves : LockMoves kind lock self ⟨.unlockLeaves, reads, writes⟩
    { lock with read := lock.read - 1 }
    (LockThread.goesTo ⟨.unlockLeaves, reads, writes⟩ .outside) :=
  reading rfl rfl rfl rfl (word_lower _ _)
    (fun blocks => .inl (.inl (blocks.resolve_right Bool.false_ne_true))) trivial

theorem writeEnters [DecidableEq Thread]
    (fits : LockFits kind lock self ⟨.writeEnters tries, reads, writes⟩) :
    LockMoves kind lock self ⟨.writeEnters tries, reads, writes⟩ lock
      (LockThread.goesTo ⟨.writeEnters tries, reads, writes⟩
        (if lock.lockedBy = some self then .writeNests else .writeSwaps tries)) := by
  have recursive : kind = .recursive := fits.formed
  split
  · rename_i named
    have inside : 0 < writes :=
      ((fits.owns recursive).mp named).resolve_right Bool.false_ne_true
    exact goesTo rfl rfl rfl rfl rfl ⟨recursive, inside⟩
  · exact goesTo rfl rfl rfl rfl rfl trivial

theorem writeNests (fits : LockFits kind lock self ⟨.writeNests, reads, writes⟩) :
    LockMoves kind lock self ⟨.writeNests, reads, writes⟩
      { lock with write := lock.write + 1 }
      (LockThread.writeLocked ⟨.writeNests, reads, writes⟩) := by
  have inside : 0 < writes := fits.formed.2
  exact writing rfl rfl .inl (word_raise _ _) (fun _ => .inl inside)
    (fun _ => .inl (.inl inside))
    (fun _ => iff_of_true (.inl (Nat.succ_pos _)) (.inl inside)) trivial

theorem writeSwaps (fits : LockFits kind lock self ⟨.writeSwaps tries, reads, writes⟩)
    (zero : lock.write = 0) :
    LockMoves kind lock self ⟨.writeSwaps tries, reads, writes⟩ { lock with write := 1 }
      (LockThread.goesTo ⟨.writeSwaps tries, reads, writes⟩
        (if tries then .writeChecks else .writeDrains)) := by
  have none : writes = 0 := fits.empty zero
  subst none
  have one : 1 + UInt32.ofNat 0 = lock.write + UInt32.ofNat 1 := by
    rw [zero]
    rfl
  cases tries with
  | false => exact writing rfl rfl .inl one (fun _ => .inr zero) .inl (fun _ => Iff.rfl) rfl
  | true => exact writing rfl rfl .inl one (fun _ => .inr zero) .inl (fun _ => Iff.rfl) rfl

theorem drained (writer : place = .writeDrains ∨ place = .writeChecks) (none : writes = 0)
    (zero : lock.read = 0) :
    LockMoves kind lock self ⟨place, reads, writes⟩ lock
      (LockThread.drained kind ⟨place, reads, writes⟩) := by
  subst none
  rcases writer with rfl | rfl
  all_goals
    cases kind with
    | plain =>
        exact writing rfl rfl .inl rfl (fun _ => .inl (Nat.succ_pos _)) (fun _ => .inr zero)
          LockKind.noConfusion trivial
    | recursive =>
        exact writing rfl rfl .inl rfl .inl (fun _ => .inr zero) (fun _ => Iff.rfl) ⟨rfl, rfl⟩

theorem writeBacksOff (fits : LockFits kind lock self ⟨.writeBacksOff, reads, writes⟩) :
    LockMoves kind lock self ⟨.writeBacksOff, reads, writes⟩ { lock with write := 0 }
      (LockThread.goesTo ⟨.writeBacksOff, reads, writes⟩ .outside) := by
  have none : writes = 0 := fits.formed
  subst none
  have one : 0 + UInt32.ofNat 1 = lock.write + UInt32.ofNat 0 := by
    rw [fits.only (Nat.succ_pos _)]
    rfl
  exact writing rfl rfl .inl one (fun raised => absurd raised (Nat.lt_irrefl 0)) .inl
    (fun _ => Iff.rfl) trivial

theorem writeOwns : LockMoves kind lock self ⟨.writeOwns, reads, writes⟩
    { lock with lockedBy := some self }
    (LockThread.writeLocked ⟨.writeOwns, reads, writes⟩) where
  read := rfl
  write := rfl
  raises := .inl
  writes _ := .inl (.inr rfl)
  blocks := .inl
  owns _ := .inr (.inl ⟨rfl, .inl (Nat.succ_pos _), rfl⟩)
  formed := trivial

theorem writeLeaves (fits : LockFits kind lock self ⟨.writeLeaves, reads, writes⟩) :
    LockMoves kind lock self ⟨.writeLeaves, reads, writes⟩
      { lock with write := lock.write - 1 }
      (LockThread.goesTo ⟨.writeLeaves, reads, writes⟩ .outside) := by
  have plain : kind = .plain := fits.formed
  subst plain
  exact writing rfl rfl .inl (word_lower _ _) (fun _ => .inl (Nat.succ_pos _))
    (fun _ => .inl (.inr rfl)) LockKind.noConfusion trivial

theorem unlockAsserts [DecidableEq Thread]
    (fits : LockFits kind lock self ⟨.unlockAsserts, reads, writes⟩) :
    LockMoves kind lock self ⟨.unlockAsserts, reads, writes⟩ lock
      (LockThread.goesTo ⟨.unlockAsserts, reads, writes⟩
        (if lock.lockedBy = some self then .readEnters .unlock else .aborted)) := by
  have recursive : kind = .recursive := fits.formed
  rw [if_pos ((fits.owns recursive).mpr (.inr rfl))]
  exact goesTo rfl rfl rfl rfl rfl recursive

theorem unlockLowers (fits : LockFits kind lock self ⟨.unlockLowers, reads, writes⟩) :
    LockMoves kind lock self ⟨.unlockLowers, reads, writes⟩
      { lock with write := lock.write - 1 }
      (LockThread.goesTo ⟨.unlockLowers, reads, writes⟩
        (if lock.write - 1 = 0 then .unlockDisowns else .unlockLeaves)) := by
  have recursive : kind = .recursive := fits.formed
  have counts : lock.write = UInt32.ofNat (writes + 1) := fits.only (Nat.succ_pos _)
  have bounded : writes + 1 < 2 ^ 32 := fits.bounded
  have lowered : lock.write - 1 = UInt32.ofNat writes := by
    have cancel := word_lower lock.write writes
    rw [← counts, UInt32.add_comm lock.write] at cancel
    exact (UInt32.add_left_inj _).mp cancel
  have last : lock.write - 1 = 0 ↔ writes = 0 := by
    rw [lowered]
    exact ofNat_eq_zero_iff (by omega)
  by_cases none : writes = 0
  · rw [if_pos (last.mpr none)]
    exact writing rfl rfl (fun _ => .inr (.inr rfl)) (word_lower _ _)
      (fun _ => .inl (Nat.succ_pos _)) (fun _ => .inl (.inr rfl))
      (fun _ => iff_of_true (.inr rfl) (.inr rfl)) ⟨recursive, none⟩
  · rw [if_neg fun zero => none (last.mp zero)]
    exact writing rfl rfl (fun _ => .inr (.inr rfl)) (word_lower _ _)
      (fun _ => .inl (Nat.succ_pos _)) (fun _ => .inl (.inr rfl))
      (fun _ => iff_of_true (.inl (Nat.pos_of_ne_zero none)) (.inr rfl)) recursive

theorem unlockDisowns (fits : LockFits kind lock self ⟨.unlockDisowns, reads, writes⟩) :
    LockMoves kind lock self ⟨.unlockDisowns, reads, writes⟩ { lock with lockedBy := none }
      (LockThread.goesTo ⟨.unlockDisowns, reads, writes⟩ .unlockLeaves) := by
  obtain ⟨recursive, none⟩ : kind = .recursive ∧ writes = 0 := fits.formed
  subst none
  exact ⟨rfl, rfl, .inl, .inl, .inl, fun _ => .inr (.inr ⟨rfl, by simp [LockThread.Owns,
    LockThread.goesTo, LockPlace.owning], rfl⟩), recursive⟩

end LockMoves

section

variable {Thread : Type} [DecidableEq Thread] {kind : LockKind} {lock next : ReadWriteLock Thread}
  {self : Thread} {before after : LockThread}

/-- One access after another: each does only what the invariant allows. -/
theorem ReadWriteLock.perform_moves (fits : LockFits kind lock self before)
    (performed : lock.perform kind self before = some (next, after)) :
    LockMoves kind lock self before next after := by
  obtain ⟨place, reads, writes⟩ := before
  cases place with
  | outside | aborted => contradiction
  | readEnters purpose => cases performed; exact .readEnters fits
  | readNests purpose => cases performed; exact .readNests fits
  | readWaits purpose => cases performed; exact .readWaits fits
  | readAdds purpose => cases performed; exact .readAdds fits
  | readChecks purpose => cases performed; exact .readChecks fits
  | readBacksOff purpose => cases performed; exact .readBacksOff fits
  | readLeaves => cases performed; exact .readLeaves
  | writeEnters tries => cases performed; exact .writeEnters fits
  | writeNests => cases performed; exact .writeNests fits
  | writeSwaps tries =>
      simp only [ReadWriteLock.perform] at performed
      split at performed
      · rename_i zero
        cases performed
        exact .writeSwaps fits zero
      · cases performed
        cases tries with
        | false => exact .refl fits.formed
        | true => exact .goesTo rfl rfl rfl rfl rfl trivial
  | writeDrains =>
      cases performed
      split
      · rename_i zero
        exact .drained (.inl rfl) fits.formed zero
      · exact .refl fits.formed
  | writeChecks =>
      cases performed
      split
      · rename_i zero
        exact .drained (.inr rfl) fits.formed zero
      · exact .goesTo rfl rfl rfl rfl rfl fits.formed
  | writeBacksOff => cases performed; exact .writeBacksOff fits
  | writeOwns => cases performed; exact .writeOwns
  | writeLeaves => cases performed; exact .writeLeaves fits
  | unlockAsserts => cases performed; exact .unlockAsserts fits
  | unlockLowers => cases performed; exact .unlockLowers fits
  | unlockDisowns => cases performed; exact .unlockDisowns fits
  | unlockLeaves => cases performed; exact .unlockLeaves

omit [DecidableEq Thread] in
theorem LockThread.call_moves {call : LockCall} (outside : before.place = .outside)
    (called : before.call kind call = some after) :
    LockMoves kind lock self before lock after := by
  obtain ⟨place, reads, writes⟩ := before
  cases outside
  cases call with
  | readLock | tryReadLock | writeLock | tryWriteLock =>
      cases kind <;> cases called <;>
        exact .goesTo rfl rfl rfl rfl rfl (by simp [LockThread.Formed, LockThread.goesTo])
  | readUnlock =>
      simp only [LockThread.call] at called
      split at called
      · contradiction
      · rename_i some
        cases called
        have holds : reads - 1 + 1 = reads := Nat.succ_pred_eq_of_ne_zero some
        refine .reading rfl rfl rfl rfl ?_ (fun _ => .inl (.inl (Nat.pos_of_ne_zero some))) trivial
        simp only [LockThread.readWeight, LockPlace.readUnit, holds, Nat.add_zero]
  | writeUnlock =>
      simp only [LockThread.call] at called
      split at called
      · contradiction
      · rename_i some
        have inside : 0 < writes := Nat.pos_of_ne_zero some
        have holds : writes - 1 + 1 = writes := Nat.succ_pred_eq_of_ne_zero some
        cases kind with
        | plain =>
            cases called
            refine .writing rfl rfl .inl ?_ (fun _ => .inl inside) (fun _ => .inl (.inl inside))
              LockKind.noConfusion rfl
            simp [LockThread.writeWeight, LockPlace.writeUnit, holds]
        | recursive =>
            cases called
            refine .writing rfl rfl .inl ?_ (fun _ => .inl inside) (fun _ => .inl (.inl inside))
              (fun _ => iff_of_true (.inr rfl) (.inl inside)) rfl
            simp [LockThread.writeWeight, LockPlace.writeUnit, holds]

variable [Fintype Thread] {state : LockThreads Thread}

theorem LockThreads.Sound.step {next : LockThreads Thread} {event : ReadWriteEvent Thread}
    (sound : state.Sound kind) (few : state.Few)
    (stepped : readWriteStep kind state event = some next) : next.Sound kind := by
  cases event with
  | call self call =>
      simp only [readWriteStep] at stepped
      split at stepped
      · rename_i outside
        obtain ⟨after, called, rfl⟩ := Option.map_eq_some_iff.mp stepped
        exact sound.moved few (LockThread.call_moves outside called)
      · contradiction
  | advance self =>
      obtain ⟨⟨lock, after⟩, performed, rfl⟩ := Option.map_eq_some_iff.mp stepped
      exact sound.moved few (ReadWriteLock.perform_moves (sound.fits few self) performed)

omit [DecidableEq Thread] in
theorem LockThreads.Sound.initial (kind : LockKind) : ({} : LockThreads Thread).Sound kind where
  read := by
    have none : LockThreads.readUnits ({} : LockThreads Thread) = 0 :=
      Threads.tally_eq_zero fun _ => rfl
    rw [none]
    rfl
  write := by
    have none : LockThreads.writeUnits ({} : LockThreads Thread) = 0 :=
      Threads.tally_eq_zero fun _ => rfl
    rw [none]
    rfl
  alone _ _ _ raised := absurd raised (Nat.lt_irrefl 0)
  excludes _ _ _ writes := absurd writes.weight (Nat.lt_irrefl 0)
  owns _ _ := iff_of_false nofun fun owns => owns.elim (absurd · (Nat.lt_irrefl 0)) nofun
  formed _ := trivial

theorem LockThreads.Sound.throughout {events : List (ReadWriteEvent Thread)}
    (few : Transition.Throughout (readWriteStep kind) LockThreads.Few {} events) :
    Transition.Throughout (readWriteStep kind) (LockThreads.Sound kind) {} events :=
  few.assuming (readWriteStep kind)
    (fun _ _ _ below sound stepped => LockThreads.Sound.step sound below stepped)
    (LockThreads.Sound.initial kind)

omit [DecidableEq Thread] in
theorem LockThreads.Sound.exclusion (sound : state.Sound kind) : state.Excludes := by
  intro writer other apart inside
  have writes : (state.threads writer).Writes := .inl inside
  refine ⟨?_, ?_⟩
  · by_contra reads
    exact sound.excludes writer other apart writes (.inl (Nat.pos_of_ne_zero reads))
  · have none := sound.alone writer other apart writes.weight
    simp only [LockThread.writeWeight] at none
    omega

omit [DecidableEq Thread] in
theorem LockThreads.Sound.names (sound : state.Sound .recursive) : state.Names := by
  intro owner named
  refine ((sound.owns rfl owner).mp named).imp id fun owning => ?_
  revert owning
  cases (state.threads owner).place with
  | readEnters purpose => cases purpose <;> simp [LockPlace.owning, LockPlace.inUnlock]
  | readNests purpose => cases purpose <;> simp [LockPlace.owning, LockPlace.inUnlock]
  | _ => simp [LockPlace.owning, LockPlace.inUnlock]

end

/-- Both kinds of locks exclude, and the owner of a recursive one is inside, in every order of
the accesses of all threads in which neither counter goes once round. -/
theorem readWriteLocks_exclude {Thread : Type} [Fintype Thread] [DecidableEq Thread]
    (events : List (ReadWriteEvent Thread)) :
    (Transition.Throughout ReadWriteLock.step LockThreads.Few {} events →
      Transition.Throughout ReadWriteLock.step LockThreads.Excludes {} events) ∧
    (Transition.Throughout RecursiveReadWriteLock.step LockThreads.Few {} events →
      Transition.Throughout RecursiveReadWriteLock.step
        (fun state => state.Excludes ∧ state.Names) {} events) := by
  constructor
  · intro few
    exact (LockThreads.Sound.throughout few).mono _ fun _ sound => sound.exclusion
  · intro few
    exact (LockThreads.Sound.throughout few).mono _ fun _ sound => ⟨sound.exclusion, sound.names⟩

def triedWrites : List (ReadWriteEvent Bool) :=
  [.call false .writeLock, .call true .tryReadLock, .advance false, .advance true,
    .advance false, .advance true, .advance true, .advance false, .call true .tryWriteLock,
    .advance true, .call false .writeUnlock, .advance false]

/-- One takes the write side twice, and gives it back, while another tries to read. -/
def nestedWrites : List (ReadWriteEvent Bool) :=
  [.call false .writeLock, .call true .tryReadLock, .advance false, .advance true,
    .advance false, .advance true, .advance true, .advance false, .advance true, .advance false,
    .advance false, .call false .tryWriteLock, .advance false, .advance false,
    .call false .writeUnlock, .advance false, .advance false, .advance false, .advance false,
    .advance false, .call false .writeUnlock, .advance false, .advance false, .advance false,
    .advance false, .advance false, .advance false]

theorem readWriteLocks_exclude_nested :
    ((Transition.run ReadWriteLock.step {} triedWrites).isSome ∧
      Transition.Throughout ReadWriteLock.step LockThreads.Few {} triedWrites ∧
      Transition.Throughout ReadWriteLock.step LockThreads.Excludes {} triedWrites) ∧
    ((Transition.run RecursiveReadWriteLock.step {} nestedWrites).isSome ∧
      Transition.Throughout RecursiveReadWriteLock.step LockThreads.Few {} nestedWrites ∧
      Transition.Throughout RecursiveReadWriteLock.step
        (fun state => state.Excludes ∧ state.Names) {} nestedWrites) := by
  have plain : Transition.Throughout ReadWriteLock.step LockThreads.Few {} triedWrites := by
    decide +kernel
  have recursive :
      Transition.Throughout RecursiveReadWriteLock.step LockThreads.Few {} nestedWrites := by
    decide +kernel
  exact ⟨⟨by decide +kernel, plain, (readWriteLocks_exclude triedWrites).1 plain⟩,
    by decide +kernel, recursive, (readWriteLocks_exclude nestedWrites).2 recursive⟩

namespace RecursiveReadWriteLock

def round : List (ReadWriteEvent Bool) :=
  [.call false .readLock, .advance false, .advance false, .advance false, .advance false]

def nested (count : Nat) : LockThreads Bool where
  lock := { read := UInt32.ofNat count }
  threads thread := if thread then {} else { reads := count }

def nestedReads (count : Nat) : List (ReadWriteEvent Bool) :=
  (List.replicate count round).flatten ++
    [.call true .writeLock, .advance true, .advance true, .advance true, .advance true]

theorem run_round (count : Nat) :
    Transition.run step (nested count) round = some (nested (count + 1)) := by
  have raised : UInt32.ofNat count + 1 = UInt32.ofNat (count + 1) := by
    rw [UInt32.ofNat_add]
    rfl
  have final : Transition.run step (nested count) round = some {
      lock := { read := UInt32.ofNat count + 1 }
      threads := Function.update (Function.update (Function.update (Function.update
        (Function.update (nested count).threads false { place := .readEnters .lock, reads := count })
        false { place := .readWaits .lock, reads := count })
        false { place := .readAdds .lock, reads := count })
        false { place := .readChecks .lock, reads := count })
        false { reads := count + 1 } } := rfl
  rw [final, nested, raised]
  congr 2
  funext thread
  cases thread <;> rfl

theorem run_rounds (first count : Nat) :
    Transition.run step (nested first) (List.replicate count round).flatten =
      some (nested (first + count)) := by
  induction count generalizing first with
  | zero => rfl
  | succ count ih =>
      rw [List.replicate_succ, List.flatten_cons]
      refine (Transition.run_append step).mpr ⟨nested (first + 1), run_round first, ?_⟩
      rw [ih (first + 1), Nat.add_assoc, Nat.add_comm 1]

theorem run_writer {count : Nat} (zero : UInt32.ofNat count = 0) :
    ∃ final, Transition.run step (nested count)
        [.call true .writeLock, .advance true, .advance true, .advance true, .advance true] =
          some final ∧
      (final.threads true).writes = 1 ∧ (final.threads false).reads = count := by
  rw [nested, zero]
  exact ⟨_, rfl, rfl, rfl⟩

/-- After `2 ^ 32` locks of the read side `m_read` is zero again, and a writer gets in. -/
theorem nestedReads_not_excluded :
    ¬ Transition.Throughout step LockThreads.Excludes {} (nestedReads (2 ^ 32)) := by
  intro excludes
  have wraps : UInt32.ofNat (2 ^ 32) = 0 := by decide
  have start : ({} : LockThreads Bool) = nested 0 := by
    rw [nested]
    congr 1
    funext thread
    cases thread <;> rfl
  have reads := run_rounds 0 (2 ^ 32)
  rw [Nat.zero_add] at reads
  obtain ⟨final, ran, writer, reader⟩ := run_writer wraps
  rw [start] at excludes
  have both := excludes.final step ((Transition.run_append step).mpr ⟨_, reads, ran⟩)
  have none := (both true false Bool.noConfusion (by rw [writer]; exact Nat.one_pos)).1
  rw [reader] at none
  exact absurd none (by decide)

end RecursiveReadWriteLock

end EasyViewer
