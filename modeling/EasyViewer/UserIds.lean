import EasyViewer.Define
import EasyViewer.Library.BitField
import EasyViewer.Library.Calendar
import EasyViewer.Library.Run
import Mathlib.Algebra.Ring.Int.Defs
import Mathlib.Data.List.Basic

/-!
`AccountManager::generateUserID`: the calendar fields of a millisecond and a counter
packed into one number. The counter borrows the next millisecond when it wraps, and
the saved time keeps no trace of the loan.
-/

namespace EasyViewer

open BitField Calendar

structure UserIdClock where
  lastTime : Int := 0
  counter : Nat := 0
  deriving DecidableEq, Repr

def packUserId (now : DateTime) (counter : Nat) : UserId :=
  let v := 0 &&& 255
  let v := push v 6 (now.date.year % 64).toNat
  let v := push v 4 now.date.month.toNat
  let v := push v 5 now.date.day.toNat
  let v := push v 5 now.hour.toNat
  let v := push v 6 now.minute.toNat
  let v := push v 6 now.second.toNat
  let v := push v 10 now.msec.toNat
  (push v 13 (counter &&& 8191) : Nat)

def UserIdClock.tick (clock : UserIdClock) (reading : Int) : Int :=
  if reading ≤ clock.lastTime then clock.lastTime else reading

/-- `reading` is the clock's milliseconds since the epoch, `offset` the zone's. -/
def generateUserID (offset : Int) (clock : UserIdClock) (reading : Int) : UserId × UserIdClock :=
  if reading ≤ clock.lastTime then
    if 8191 < clock.counter + 1 then
      (packUserId (DateTime.ofMSecs offset (clock.lastTime + 1)) 0, { clock with counter := 0 })
    else
      (packUserId (DateTime.ofMSecs offset clock.lastTime) (clock.counter + 1),
        { clock with counter := clock.counter + 1 })
  else
    (packUserId (DateTime.ofMSecs offset reading) 0, { lastTime := reading, counter := 0 })

/-- The same fields but for the years, which are told apart modulo 64. -/
def Alike (offset first second : Int) : Prop :=
  let left := DateTime.ofMSecs offset first
  let right := DateTime.ofMSecs offset second
  left = { right with date := { right.date with year := left.date.year } } ∧
    left.date.year % 64 = right.date.year % 64

instance (offset first second : Int) : Decidable (Alike offset first second) :=
  inferInstanceAs (Decidable (_ ∧ _))

theorem Alike.symm {offset first second : Int} (alike : Alike offset first second) :
    Alike offset second first := by
  obtain ⟨fields, years⟩ := alike
  refine ⟨?_, years.symm⟩
  rw [fields]

theorem Alike.eq_of_year {offset first second : Int} (alike : Alike offset first second)
    (year : (DateTime.ofMSecs offset first).date.year =
      (DateTime.ofMSecs offset second).date.year) : first = second := by
  obtain ⟨fields, _⟩ := alike
  rw [year] at fields
  exact DateTime.ofMSecs_inj fields

structure Packable (now : DateTime) : Prop where
  month : 1 ≤ now.date.month ∧ now.date.month < 2 ^ 4
  day : 0 ≤ now.date.day ∧ now.date.day < 2 ^ 5
  hour : 0 ≤ now.hour ∧ now.hour < 2 ^ 5
  minute : 0 ≤ now.minute ∧ now.minute < 2 ^ 6
  second : 0 ≤ now.second ∧ now.second < 2 ^ 6
  msec : 0 ≤ now.msec ∧ now.msec < 2 ^ 10

theorem ofMSecs_packable (offset time : Int) : Packable (DateTime.ofMSecs offset time) := by
  have month := Date.month_bounds (2440588 + (time + offset) / 86400000)
  have day := Date.day_bounds (2440588 + (time + offset) / 86400000)
  constructor
  all_goals
    simp only [DateTime.ofMSecs]
    omega

theorem push_toNat_inj {first second width : Nat} {left right : Int}
    (leftFits : 0 ≤ left ∧ left < 2 ^ width) (rightFits : 0 ≤ right ∧ right < 2 ^ width) :
    push first width left.toNat = push second width right.toNat ↔
      first = second ∧ left = right := by
  have fits : ∀ {field : Int}, 0 ≤ field ∧ field < 2 ^ width → field.toNat < 2 ^ width := by
    intro field bounds
    have lifted : ((2 ^ width : Nat) : Int) = 2 ^ width := Int.natCast_pow 2 width
    omega
  rw [push_inj (fits leftFits) (fits rightFits)]
  exact and_congr_right fun _ => by omega

theorem counter_mask {counter : Nat} (small : counter < 8192) : counter &&& 8191 = counter := by
  rw [show 8191 = 2 ^ 13 - 1 from rfl, Nat.and_two_pow_sub_one_eq_mod]
  exact Nat.mod_eq_of_lt small

theorem packUserId_inj {offset first second : Int} {left right : Nat} (leftSmall : left < 8192)
    (rightSmall : right < 8192) :
    packUserId (DateTime.ofMSecs offset first) left =
        packUserId (DateTime.ofMSecs offset second) right ↔
      Alike offset first second ∧ left = right := by
  have before := ofMSecs_packable offset first
  have after := ofMSecs_packable offset second
  have firstMonth : 0 ≤ (DateTime.ofMSecs offset first).date.month := by
    have month := before.month
    omega
  have secondMonth : 0 ≤ (DateTime.ofMSecs offset second).date.month := by
    have month := after.month
    omega
  have year : ∀ now : DateTime, 0 ≤ now.date.year % 64 ∧ now.date.year % 64 < 2 ^ 6 :=
    fun now => by omega
  simp only [packUserId, Int.natCast_inj, counter_mask leftSmall, counter_mask rightSmall]
  rw [push_inj leftSmall rightSmall, push_toNat_inj before.msec after.msec,
    push_toNat_inj before.second after.second, push_toNat_inj before.minute after.minute,
    push_toNat_inj before.hour after.hour, push_toNat_inj before.day after.day,
    push_toNat_inj ⟨firstMonth, before.month.2⟩ ⟨secondMonth, after.month.2⟩,
    push_toNat_inj (year _) (year _)]
  simp only [Alike]
  generalize DateTime.ofMSecs offset first = early
  generalize DateTime.ofMSecs offset second = late
  obtain ⟨⟨_, _, _⟩, _, _, _, _⟩ := early
  obtain ⟨⟨_, _, _⟩, _, _, _, _⟩ := late
  simp only [DateTime.mk.injEq, Date.mk.injEq]
  constructor
  · rintro ⟨⟨⟨⟨⟨⟨⟨⟨_, years⟩, months⟩, days⟩, hours⟩, minutes⟩, seconds⟩, msecs⟩, counters⟩
    exact ⟨⟨⟨⟨trivial, months, days⟩, hours, minutes, seconds, msecs⟩, years⟩, counters⟩
  · rintro ⟨⟨⟨⟨_, months, days⟩, hours, minutes, seconds, msecs⟩, years⟩, counters⟩
    exact ⟨⟨⟨⟨⟨⟨⟨⟨trivial, years⟩, months⟩, days⟩, hours⟩, minutes⟩, seconds⟩, msecs⟩, counters⟩

theorem packUserId_pos (offset time : Int) (counter : Nat) :
    0 < packUserId (DateTime.ofMSecs offset time) counter := by
  have month := (ofMSecs_packable offset time).month
  refine Int.natCast_pos.mpr ?_
  iterate 6 apply push_pos; left
  apply push_pos
  right
  omega

/-- The generator with what it has returned and, for each call, the latest reading by then. -/
structure IssuedIds where
  clock : UserIdClock := {}
  ids : List UserId := []
  ticks : List Int := []
  deriving DecidableEq, Repr

def idStep (offset : Int) (issued : IssuedIds) (reading : Int) : Option IssuedIds :=
  let (id, clock) := generateUserID offset issued.clock reading
  some { clock := clock, ids := id :: issued.ids
         ticks := issued.clock.tick reading :: issued.ticks }

def DistinctIds (issued : IssuedIds) : Prop := issued.ids.Nodup ∧ ∀ id ∈ issued.ids, id ≠ 0

/-- How many counters the calls of a tick have used up. The epoch starts at counter 1, as the
saved time is 0 before the first call. -/
def used (ticks : List Int) (tick : Int) : Nat :=
  ticks.count tick + if tick = 0 then 1 else 0

def Started (offset : Int) (ticks : List Int) (tick : Int) : Prop :=
  ∃ earlier ∈ ticks, (earlier ≠ 0 ∧ Alike offset earlier tick) ∨
    (8192 < used ticks earlier ∧ Alike offset (earlier + 1) tick)

/-- The next call is within the 8192 counters of its tick or borrows for the first time, and
no earlier calls have started the tick, or the millisecond it borrows. -/
def FreshTick (offset : Int) (issued : IssuedIds) (reading : Int) : Prop :=
  let tick := issued.clock.tick reading
  let spent := used issued.ticks tick
  (spent = 0 ∧ ¬ Started offset issued.ticks tick) ∨
    (0 < spent ∧ spent < 8192 ∧
      ¬ (tick ≠ 0 ∧ Alike offset 0 tick ∧ spent < used issued.ticks 0)) ∨
    (spent = 8192 ∧ ¬ Started offset issued.ticks (tick + 1))

def Issued (ticks : List Int) (time : Int) (counter : Nat) : Prop :=
  (counter < 8192 ∧ counter < used ticks time ∧ ¬ (time = 0 ∧ counter = 0)) ∨
    (counter = 0 ∧ 8192 < used ticks (time - 1))

structure Follows (offset : Int) (issued : IssuedIds) : Prop where
  epoch : 0 ≤ issued.clock.lastTime
  latest : ∀ tick ∈ issued.ticks, 0 ≤ tick ∧ tick ≤ issued.clock.lastTime
  current : issued.clock.lastTime = 0 ∨ issued.clock.lastTime ∈ issued.ticks
  bounded : ∀ tick, used issued.ticks tick ≤ 8193
  counter : issued.clock.counter =
    if used issued.ticks issued.clock.lastTime = 8193 then 0
    else used issued.ticks issued.clock.lastTime - 1
  ids : ∀ id, id ∈ issued.ids ↔ ∃ time counter, Issued issued.ticks time counter ∧
    id = packUserId (DateTime.ofMSecs offset time) counter
  separate : ∀ first second counter, Issued issued.ticks first counter →
    Issued issued.ticks second counter → Alike offset first second → first = second

theorem used_cons (ticks : List Int) (tick other : Int) :
    used (tick :: ticks) other = used ticks other + if tick = other then 1 else 0 := by
  simp only [used, List.count_cons, beq_iff_eq]
  omega

theorem used_pos_iff {ticks : List Int} {tick : Int} :
    0 < used ticks tick ↔ tick = 0 ∨ tick ∈ ticks := by
  rw [used, ← List.count_pos_iff]
  split <;> omega

def nextStamp (ticks : List Int) (tick : Int) : Int × Nat :=
  if used ticks tick < 8192 then (tick, used ticks tick) else (tick + 1, 0)

theorem issued_cons {ticks : List Int} {tick time : Int} {counter : Nat} (epoch : 0 ≤ tick)
    (fits : used ticks tick ≤ 8192) :
    Issued (tick :: ticks) time counter ↔
      Issued ticks time counter ∨ (time, counter) = nextStamp ticks tick := by
  have atEpoch : tick = 0 → 0 < used ticks tick := fun zero => used_pos_iff.mpr (Or.inl zero)
  simp only [Issued, nextStamp, used_cons]
  by_cases same : tick = time
  · subst same
    grind
  · by_cases after : tick = time - 1
    · grind
    · grind

theorem Follows.generates {offset : Int} {issued : IssuedIds} (follows : Follows offset issued)
    {reading : Int} (fits : used issued.ticks (issued.clock.tick reading) ≤ 8192) :
    let tick := issued.clock.tick reading
    let stamp := nextStamp issued.ticks tick
    generateUserID offset issued.clock reading =
      (packUserId (DateTime.ofMSecs offset stamp.1) stamp.2,
        { lastTime := tick, counter := stamp.2 }) := by
  obtain ⟨epoch, latest, current, bounded, counter, ids, separate⟩ := follows
  by_cases stalled : reading ≤ issued.clock.lastTime
  · have tick : issued.clock.tick reading = issued.clock.lastTime := if_pos stalled
    rw [tick] at fits
    have started : 0 < used issued.ticks issued.clock.lastTime := used_pos_iff.mpr current
    rw [if_neg (by omega)] at counter
    simp only [generateUserID, if_pos stalled, tick, nextStamp]
    by_cases wraps : used issued.ticks issued.clock.lastTime < 8192
    · have next : issued.clock.counter + 1 = used issued.ticks issued.clock.lastTime := by omega
      rw [if_neg (by omega), if_pos wraps, next]
    · rw [if_pos (by omega), if_neg wraps]
  · have later := Int.lt_of_not_ge stalled
    have fresh : used issued.ticks reading = 0 := by
      have unseen : ¬ 0 < used issued.ticks reading := by
        rw [used_pos_iff]
        rintro (zero | seen)
        · omega
        · exact stalled (latest reading seen).2
      omega
    have tick : issued.clock.tick reading = reading := if_neg stalled
    simp only [generateUserID, if_neg stalled, tick, nextStamp, fresh]
    simp

theorem Issued.counter_lt {ticks : List Int} {time : Int} {counter : Nat}
    (given : Issued ticks time counter) : counter < 8192 := by
  rcases given with ⟨small, _⟩ | ⟨rfl, _⟩
  · exact small
  · decide

theorem nextStamp_lt (ticks : List Int) (tick : Int) : (nextStamp ticks tick).2 < 8192 := by
  simp only [nextStamp]
  split
  · assumption
  · exact Nat.succ_pos _

theorem Follows.notMem_iff {offset : Int} {issued : IssuedIds} (follows : Follows offset issued)
    {time : Int} {counter : Nat} (small : counter < 8192) :
    packUserId (DateTime.ofMSecs offset time) counter ∉ issued.ids ↔
      ¬ ∃ other, Issued issued.ticks other counter ∧ Alike offset other time := by
  rw [follows.ids, not_iff_not]
  constructor
  · rintro ⟨other, same, given, packed⟩
    obtain ⟨alike, rfl⟩ := (packUserId_inj given.counter_lt small).mp packed.symm
    exact ⟨other, given, alike⟩
  · rintro ⟨other, given, alike⟩
    exact ⟨other, counter, given, ((packUserId_inj small small).mpr ⟨alike, rfl⟩).symm⟩

theorem Follows.step {offset : Int} {issued next : IssuedIds} (follows : Follows offset issued)
    {reading : Int} (fits : used issued.ticks (issued.clock.tick reading) ≤ 8192)
    (fresh : ¬ ∃ other, Issued issued.ticks other
        (nextStamp issued.ticks (issued.clock.tick reading)).2 ∧
      Alike offset other (nextStamp issued.ticks (issued.clock.tick reading)).1)
    (stepped : idStep offset issued reading = some next) : Follows offset next := by
  have called := follows.generates fits
  simp only [idStep, called, Option.some.injEq] at stepped
  subst stepped
  obtain ⟨epoch, latest, current, bounded, counter, ids, separate⟩ := follows
  have notBefore : issued.clock.lastTime ≤ issued.clock.tick reading := by
    simp only [UserIdClock.tick]
    split <;> omega
  have epochTick : 0 ≤ issued.clock.tick reading := Int.le_trans epoch notBefore
  refine ⟨epochTick, ?_, Or.inr (List.mem_cons_self ..), ?_, ?_, ?_, ?_⟩
  · intro tick member
    rcases List.mem_cons.mp member with rfl | earlier
    · exact ⟨epochTick, Int.le_refl _⟩
    · exact ⟨(latest tick earlier).1, Int.le_trans (latest tick earlier).2 notBefore⟩
  · intro tick
    have before := bounded tick
    rw [used_cons]
    split
    · rename_i same
      rw [← same]
      omega
    · omega
  · simp only [nextStamp, used_cons, if_true]
    split <;> split <;> omega
  · intro id
    rw [List.mem_cons, ids]
    simp only [issued_cons epochTick fits]
    constructor
    · rintro (rfl | ⟨time, counter, given, rfl⟩)
      · exact ⟨_, _, Or.inr rfl, rfl⟩
      · exact ⟨time, counter, Or.inl given, rfl⟩
    · rintro ⟨time, counter, given | stamp, rfl⟩
      · exact Or.inr ⟨time, counter, given, rfl⟩
      · rw [← stamp]
        exact Or.inl rfl
  · intro first second counter left right alike
    rw [issued_cons epochTick fits] at left right
    rcases left with left | left <;> rcases right with right | right
    · exact separate first second counter left right alike
    · rw [← right] at fresh
      exact absurd ⟨first, left, alike⟩ fresh
    · rw [← left] at fresh
      exact absurd ⟨second, right, alike.symm⟩ fresh
    · rw [← right] at left
      exact congrArg Prod.fst left

theorem started_iff {offset : Int} {ticks : List Int} {tick : Int} :
    Started offset ticks tick ↔
      ∃ other, Issued ticks other 0 ∧ Alike offset other tick := by
  constructor
  · rintro ⟨earlier, member, ⟨late, alike⟩ | ⟨overfull, alike⟩⟩
    · have counted : 0 < used ticks earlier := used_pos_iff.mpr (Or.inr member)
      exact ⟨earlier, Or.inl ⟨by decide, counted, fun both => late both.1⟩, alike⟩
    · refine ⟨earlier + 1, Or.inr ⟨rfl, ?_⟩, alike⟩
      rwa [Int.add_sub_cancel]
  · rintro ⟨other, ⟨_, counted, late⟩ | ⟨_, overfull⟩, alike⟩
    · have nonzero : other ≠ 0 := fun zero => late ⟨zero, rfl⟩
      exact ⟨other, (used_pos_iff.mp counted).resolve_left nonzero, Or.inl ⟨nonzero, alike⟩⟩
    · have member : other - 1 ∈ ticks := by
        rw [← List.count_pos_iff]
        simp only [used] at overfull
        split at overfull <;> omega
      refine ⟨other - 1, member, Or.inr ⟨overfull, ?_⟩⟩
      rwa [Int.sub_add_cancel]

/-- Among the stamps given away with a counter in the middle of a tick, only the epoch's can be
alike it. -/
theorem Follows.middle_iff {offset : Int} {issued : IssuedIds} (follows : Follows offset issued)
    {tick : Int} (after : issued.clock.lastTime ≤ tick) (positive : 0 < used issued.ticks tick)
    (small : used issued.ticks tick < 8192) :
    (∃ other, Issued issued.ticks other (used issued.ticks tick) ∧ Alike offset other tick) ↔
      tick ≠ 0 ∧ Alike offset 0 tick ∧ used issued.ticks tick < used issued.ticks 0 := by
  constructor
  · rintro ⟨other, ⟨_, fewer, _⟩ | ⟨zero, _⟩, alike⟩
    · by_cases epoch : other = 0
      · subst epoch
        refine ⟨?_, alike, fewer⟩
        rintro rfl
        omega
      · have member := (used_pos_iff.mp (Nat.zero_lt_of_lt fewer)).resolve_left epoch
        have between := follows.latest other member
        have late : tick ≠ 0 := by omega
        have same := follows.separate other tick 0
          (Or.inl ⟨by decide, Nat.zero_lt_of_lt fewer, fun both => epoch both.1⟩)
          (Or.inl ⟨by decide, positive, fun both => late both.1⟩) alike
        subst same
        omega
    · omega
  · rintro ⟨_, alike, fewer⟩
    exact ⟨0, Or.inl ⟨small, fewer, by omega⟩, alike⟩

theorem Follows.freshTick_iff {offset : Int} {issued : IssuedIds} (follows : Follows offset issued)
    {reading : Int} :
    FreshTick offset issued reading ↔
      used issued.ticks (issued.clock.tick reading) ≤ 8192 ∧
        ¬ ∃ other, Issued issued.ticks other
            (nextStamp issued.ticks (issued.clock.tick reading)).2 ∧
          Alike offset other (nextStamp issued.ticks (issued.clock.tick reading)).1 := by
  have after : issued.clock.lastTime ≤ issued.clock.tick reading := by
    simp only [UserIdClock.tick]
    split <;> omega
  simp only [FreshTick]
  generalize issued.clock.tick reading = tick at *
  rcases Nat.lt_trichotomy (used issued.ticks tick) 8192 with fewer | full | many
  · simp only [nextStamp, if_pos fewer]
    by_cases first : used issued.ticks tick = 0
    · rw [first, started_iff]
      simp
    · have positive : 0 < used issued.ticks tick := by omega
      rw [follows.middle_iff after positive fewer]
      constructor
      · rintro (⟨zero, _⟩ | ⟨_, _, fresh⟩ | ⟨full, _⟩)
        · exact absurd zero first
        · exact ⟨Nat.le_of_lt fewer, fresh⟩
        · omega
      · rintro ⟨_, fresh⟩
        exact Or.inr (Or.inl ⟨positive, fewer, fresh⟩)
  · simp only [nextStamp, full, started_iff]
    simp
  · constructor
    · rintro (⟨zero, _⟩ | ⟨_, small, _⟩ | ⟨full, _⟩) <;> omega
    · omega

theorem follows_start (offset : Int) : Follows offset {} := by
  have unused : ∀ time counter, ¬ Issued [] time counter := by
    intro time counter given
    simp only [Issued, used, List.count_nil] at given
    split at given <;> split at given <;> omega
  refine ⟨Int.le_refl _, by simp, Or.inl rfl, ?_, rfl, ?_, ?_⟩
  · intro tick
    simp only [used, List.count_nil]
    split <;> omega
  · intro id
    constructor
    · intro member
      exact absurd member List.not_mem_nil
    · rintro ⟨time, counter, given, _⟩
      exact absurd given (unused time counter)
  · intro first second counter given
    exact absurd given (unused first counter)

theorem Follows.repeats {offset : Int} {issued next : IssuedIds} (follows : Follows offset issued)
    {reading : Int} (many : 8192 < used issued.ticks (issued.clock.tick reading))
    (stepped : idStep offset issued reading = some next) : ¬ next.ids.Nodup := by
  have full : used issued.ticks (issued.clock.tick reading) = 8193 := by
    have := follows.bounded (issued.clock.tick reading)
    omega
  have stalled : reading ≤ issued.clock.lastTime := by
    by_contra later
    rw [UserIdClock.tick, if_neg later] at full
    have seen := used_pos_iff.mp (show 0 < used issued.ticks reading by omega)
    have epoch := follows.epoch
    rcases seen with zero | member
    · omega
    · exact later (follows.latest reading member).2
  have tick : issued.clock.tick reading = issued.clock.lastTime := if_pos stalled
  rw [tick] at full
  have counter := follows.counter
  rw [if_pos full] at counter
  have repeated : packUserId (DateTime.ofMSecs offset issued.clock.lastTime) 1 ∈ issued.ids :=
    (follows.ids _).mpr ⟨issued.clock.lastTime, 1, Or.inl ⟨by decide, by omega, by omega⟩, rfl⟩
  simp only [idStep, generateUserID, if_pos stalled, counter, Option.some.injEq] at stepped
  subst stepped
  intro distinct
  exact (List.nodup_cons.mp distinct).1 repeated

theorem Follows.exact {offset : Int} {issued next : IssuedIds} (follows : Follows offset issued)
    (distinct : DistinctIds issued) {reading : Int}
    (stepped : idStep offset issued reading = some next) :
    (DistinctIds next → Follows offset next) ∧
      (DistinctIds next ↔ FreshTick offset issued reading) := by
  by_cases fits : used issued.ticks (issued.clock.tick reading) ≤ 8192
  · have called := follows.generates fits
    have result := stepped
    simp only [idStep, called, Option.some.injEq] at result
    have new : DistinctIds next ↔ FreshTick offset issued reading := by
      rw [follows.freshTick_iff, ← follows.notMem_iff (nextStamp_lt _ _), ← result]
      constructor
      · rintro ⟨nodup, _⟩
        exact ⟨fits, (List.nodup_cons.mp nodup).1⟩
      · rintro ⟨_, fresh⟩
        refine ⟨List.nodup_cons.mpr ⟨fresh, distinct.1⟩, fun id member => ?_⟩
        rcases List.mem_cons.mp member with rfl | earlier
        · exact Int.ne_of_gt (packUserId_pos _ _ _)
        · exact distinct.2 id earlier
    exact ⟨fun still => follows.step fits (follows.freshTick_iff.mp (new.mp still)).2 stepped, new⟩
  · have repeated := follows.repeats (by omega) stepped
    refine ⟨fun still => absurd still.1 repeated, fun still => absurd still.1 repeated, ?_⟩
    intro fresh
    exact absurd (follows.freshTick_iff.mp fresh).1 fits

/-- In every run of readings, the ids are distinct and nonzero in every state just when every
call comes on a fresh tick. -/
theorem userIds_distinct_iff (offset : Int) (readings : List Int) :
    Transition.Throughout (idStep offset) DistinctIds {} readings ↔
      Transition.Happening (idStep offset) (FreshTick offset) {} readings := by
  refine Transition.Throughout.iff_happening (idStep offset)
    (fun issued => DistinctIds issued → Follows offset issued) ?_ (fun _ => follows_start offset) ?_
  · intro issued reading next good distinct stepped
    exact (good distinct).exact distinct stepped
  · exact ⟨List.nodup_nil, fun id member => absurd member List.not_mem_nil⟩

theorem stalled_run (offset : Int) (issued : IssuedIds) (calls : Nat)
    (fits : issued.clock.counter + calls ≤ 8191) :
    ∃ final, Transition.run (idStep offset) issued
        (List.replicate calls issued.clock.lastTime) = some final ∧
      final.clock = { issued.clock with counter := issued.clock.counter + calls } := by
  induction calls generalizing issued with
  | zero => exact ⟨issued, rfl, rfl⟩
  | succ calls ih =>
      have called : generateUserID offset issued.clock issued.clock.lastTime =
          (packUserId (DateTime.ofMSecs offset issued.clock.lastTime) (issued.clock.counter + 1),
            { issued.clock with counter := issued.clock.counter + 1 }) := by
        rw [generateUserID, if_pos (Int.le_refl _), if_neg (by omega)]
      let next : IssuedIds := {
        clock := { issued.clock with counter := issued.clock.counter + 1 }
        ids := packUserId (DateTime.ofMSecs offset issued.clock.lastTime)
          (issued.clock.counter + 1) :: issued.ids
        ticks := issued.clock.tick issued.clock.lastTime :: issued.ticks }
      have stepped : idStep offset issued issued.clock.lastTime = some next := by
        rw [idStep, called]
      have nextFits : next.clock.counter + calls ≤ 8191 := by
        simp only [next]
        omega
      obtain ⟨final, ran, clock⟩ := ih next nextFits
      refine ⟨final, ?_, ?_⟩
      · rw [List.replicate_succ, Transition.run_cons]
        exact ⟨next, stepped, ran⟩
      · rw [clock]
        simp only [next, UserIdClock.mk.injEq, true_and]
        omega

/-- 8193 calls within the first millisecond and one in the next: the last two return the
same id. -/
theorem burst_repeats_id : ¬ Transition.Throughout (idStep 0) DistinctIds {}
    (1 :: List.replicate 8191 1 ++ [1, 2]) := by
  let first : IssuedIds := {
    clock := { lastTime := 1, counter := 0 }
    ids := [packUserId (DateTime.ofMSecs 0 1) 0], ticks := [1] }
  obtain ⟨full, ran, clock⟩ := stalled_run 0 first 8191 (by decide)
  have ended : Transition.run (idStep 0) full [1, 2] = some {
      clock := { lastTime := 2, counter := 0 }
      ids := packUserId (DateTime.ofMSecs 0 2) 0 :: packUserId (DateTime.ofMSecs 0 2) 0 :: full.ids
      ticks := 2 :: 1 :: full.ticks } := by
    simp [Transition.run, idStep, generateUserID, UserIdClock.tick, clock, first]
  intro distinct
  have started : idStep 0 {} 1 = some first := rfl
  have whole := (Transition.run_append (idStep 0)).mpr
    ⟨full, (Transition.run_cons (idStep 0)).mpr ⟨first, started, ran⟩, ended⟩
  have nodup := (distinct.final (idStep 0) whole).1
  exact (List.nodup_cons.mp nodup).1 (List.mem_cons_self ..)

/-- The call is one of the first 8192 of its tick, and the ticks so far lie within 64 years. -/
def FewInSpan (offset : Int) (issued : IssuedIds) (reading : Int) : Prop :=
  let tick := issued.clock.tick reading
  used issued.ticks tick < 8192 ∧ ∀ earlier ∈ 0 :: issued.ticks,
    (DateTime.ofMSecs offset tick).date.year - (DateTime.ofMSecs offset earlier).date.year < 64 ∧
      (DateTime.ofMSecs offset earlier).date.year - (DateTime.ofMSecs offset tick).date.year < 64

theorem FewInSpan.eq_of_alike {offset : Int} {issued : IssuedIds} {reading earlier : Int}
    (few : FewInSpan offset issued reading) (member : earlier ∈ 0 :: issued.ticks)
    (alike : Alike offset earlier (issued.clock.tick reading)) :
    earlier = issued.clock.tick reading := by
  have span := few.2 earlier member
  have years := alike.2
  exact alike.eq_of_year (by omega)

theorem FewInSpan.freshTick {offset : Int} {issued : IssuedIds} {reading : Int}
    (few : FewInSpan offset issued reading) (noLoan : ∀ tick, used issued.ticks tick ≤ 8192) :
    FreshTick offset issued reading := by
  have small := few.1
  simp only [FreshTick]
  by_cases first : used issued.ticks (issued.clock.tick reading) = 0
  · refine Or.inl ⟨first, ?_⟩
    rintro ⟨earlier, member, ⟨_, alike⟩ | ⟨loan, _⟩⟩
    · have same := few.eq_of_alike (List.mem_cons_of_mem _ member) alike
      have counted := used_pos_iff.mpr (Or.inr (same ▸ member))
      omega
    · exact absurd loan (Nat.not_lt_of_le (noLoan earlier))
  · refine Or.inr (Or.inl ⟨by omega, small, ?_⟩)
    rintro ⟨late, alike, _⟩
    exact late (few.eq_of_alike (List.mem_cons_self ..) alike).symm

/-- Within 64 years and with at most 8191 or 8192 calls a millisecond, ids are distinct. -/
theorem userIds_distinct_of_few (offset : Int) (readings : List Int)
    (few : Transition.Happening (idStep offset) (FewInSpan offset) {} readings) :
    Transition.Throughout (idStep offset) DistinctIds {} readings := by
  have kept : Transition.Throughout (idStep offset) (fun issued =>
      (DistinctIds issued ∧ Follows offset issued) ∧
        ∀ tick, used issued.ticks tick ≤ 8192) {} readings := by
    refine few.throughout (idStep offset) ?_ ?_
    · rintro issued reading next ⟨⟨distinct, follows⟩, noLoan⟩ allowed stepped
      obtain ⟨goesOn, exactly⟩ := follows.exact distinct stepped
      have distinctNext := exactly.mpr (allowed.freshTick noLoan)
      refine ⟨⟨distinctNext, goesOn distinctNext⟩, fun tick => ?_⟩
      have small := allowed.1
      simp only [idStep, Option.some.injEq] at stepped
      rw [← stepped, used_cons]
      split
      · rename_i same
        rw [← same]
        omega
      · exact noLoan tick
    · refine ⟨⟨⟨List.nodup_nil, fun id member => absurd member List.not_mem_nil⟩,
        follows_start offset⟩, fun tick => ?_⟩
      simp only [used, List.count_nil]
      split <;> omega
  exact kept.mono (idStep offset) fun _ holds => holds.1.1

end EasyViewer
