import EasyViewer.BlackListBlocks
import EasyViewer.Library.WindowCount
import Mathlib

/-!
What the two counters of a black list record count: the failures since the key was last
removed, and the manual addition that made the record, in the five minutes and in the
hour of the last of them.
-/

namespace EasyViewer

namespace BlackList

/-- The five minutes and the hour of the clock in which `t` lies, as their numbers. They are the
same in every zone that is whole hours from UTC. -/
def fiveMinutes (t : Int) : Int := t / 300

def hour (t : Int) : Int := t / 3600

/-- `fillForTime` by the fields of local time, in a zone `offset` seconds from UTC. -/
def localFillForTime (offset t : Int) : Int × Int :=
  let zoned := t + offset
  let day := zoned / 86400
  let hour := zoned / 3600 % 24
  let minute := zoned / 60 % 60
  (day * 86400 + hour * 3600 + minute / 5 * 5 * 60 - offset, day * 86400 + hour * 3600 - offset)

theorem localFillForTime_eq (hours t : Int) :
    localFillForTime (hours * 3600) t = fillForTime t := by
  simp only [localFillForTime, fillForTime, Prod.mk.injEq]
  omega

theorem fiveMinutes_monotone : Monotone fiveMinutes := by
  intro first second order
  exact Int.ediv_le_ediv (by decide) order

theorem hour_monotone : Monotone hour := by
  intro first second order
  exact Int.ediv_le_ediv (by decide) order

theorem fiveMinutes_start (first second : Int) :
    (fillForTime first).1 = (fillForTime second).1 ↔ fiveMinutes first = fiveMinutes second := by
  simp only [fillForTime, fiveMinutes]
  omega

theorem hour_start (first second : Int) :
    (fillForTime first).2 = (fillForTime second).2 ↔ hour first = hour second := by
  simp only [fillForTime, hour]
  omega

theorem hour_of_fiveMinutes (first second : Int) (same : fiveMinutes first = fiveMinutes second) :
    hour first = hour second := by
  simp only [fiveMinutes, hour] at *
  omega

end BlackList

/-- A black list with, for each key since it was last removed, the times of its failures and of
the manual addition that made its record, the latest first, and whether it was added by hand. -/
structure CountHistory where
  blackList : BlackList := {}
  now : Int
  counted : String → List Int := fun _ => []
  added : String → Bool := fun _ => false

/-- A call with the time it is made at, which is never before the last one. -/
def countStep (history : CountHistory) (event : BlackListCall × Int) : Option CountHistory :=
  let (request, t) := event
  if t < history.now then none
  else
    some {
      blackList := history.blackList.call request t
      now := t
      counted := fun key =>
        if request.removes = some key then []
        else if request.increases = some key ∨
            request.adds.map Prod.fst = some key ∧ history.blackList.find key = none then
          t :: history.counted key
        else history.counted key
      added := fun key =>
        if request.removes = some key then false
        else history.added key || request.adds.map Prod.fst = some key }

/-- The counters of a key count its windows, which they know by their beginning in local time. A
fifth failure within an hour blocks the key for an hour, and a key never added by hand with fewer
of them in every hour is not blocked. -/
structure CountsWindows (history : CountHistory) (key : String) : Prop where
  counts : ∀ status, history.blackList.find key = some status →
    ∃ last earlier, history.counted key = last :: earlier ∧
      (∀ hours, (status.m.forTime, status.h.forTime) =
        BlackList.localFillForTime (hours * 3600) last) ∧
      status.m.count = WindowCount.inWindow BlackList.fiveMinutes last (history.counted key) ∧
      status.h.count = WindowCount.inWindow BlackList.hour last (history.counted key) ∧
      status.m.count ≤ status.h.count
  blocks : ∀ request t next, request.increases = some key →
    countStep history (request, t) = some next →
      5 ≤ WindowCount.inWindow BlackList.hour t (next.counted key) →
        next.blackList.expiry key = some (t + 3600) ∧
          ∀ later final, (∀ event ∈ later, ¬Resets event.1 key) →
            Transition.run countStep next later = some final →
              ∀ check, check ≤ t + 3600 → final.blackList.check key check = false
  spares : history.added key = false →
    (∀ t, WindowCount.inWindow BlackList.hour t (history.counted key) < 5) →
      ∀ check, history.blackList.check key check = true

namespace BlackList

/-- A counter that counts the times in the window of the latest of them, known by the beginning
`start` of that window. -/
def Counts (count : Count) (window start : Int → Int) (times : List Int) : Prop :=
  ∃ last earlier, times = last :: earlier ∧ (∀ time ∈ earlier, time ≤ last) ∧
    count.forTime = start last ∧ count.count = WindowCount.inWindow window last times

theorem Counts.first (window start : Int → Int) (t : Int) :
    Counts ⟨1, start t⟩ window start [t] :=
  ⟨t, [], rfl, List.forall_mem_nil _, rfl, by simp [WindowCount.inWindow]⟩

theorem Counts.increase {count : Count} {window start : Int → Int} {times : List Int}
    (counts : Counts count window start times) (monotone : Monotone window)
    (starts : ∀ first second, start first = start second ↔ window first = window second) {t : Int}
    (latest : ∀ time ∈ times, time ≤ t) :
    Counts (increaseCount count (start t)).1 window start (t :: times) ∧
      ((increaseCount count (start t)).2 = true ↔
        5 ≤ WindowCount.inWindow window t (t :: times)) := by
  obtain ⟨last, earlier, rfl, before, opened, counted⟩ := counts
  simp only [increaseCount, WindowCount.inWindow_cons window t]
  split
  · rename_i same
    have sameWindow := (starts last t).mp (opened.symm.trans same)
    have more : WindowCount.inWindow window t (last :: earlier) = count.count := by
      rw [counted, WindowCount.inWindow_congr sameWindow]
    refine ⟨⟨t, last :: earlier, rfl, latest, same, ?_⟩, ?_⟩
    · rw [WindowCount.inWindow_cons, more]
    · rw [more, decide_eq_true_eq]
  · rename_i moved
    rw [opened, starts] at moved
    have none : WindowCount.inWindow window t (last :: earlier) = 0 :=
      WindowCount.inWindow_new monotone
        (List.forall_mem_cons.mpr ⟨le_rfl, before⟩) (latest last List.mem_cons_self) moved
    refine ⟨⟨t, last :: earlier, rfl, latest, rfl, ?_⟩, ?_⟩
    · rw [WindowCount.inWindow_cons, none]
    · simp [none]

theorem call_increases {request : BlackListCall} {key : String}
    (increases : request.increases = some key) (blackList : BlackList) (t : Int) :
    ∃ first : Status, first.m = ⟨1, (fillForTime t).1⟩ ∧ first.h = ⟨1, (fillForTime t).2⟩ ∧
      first.blocked = false ∧ ∀ other, (blackList.call request t).find other =
        if other = key then
          some (((blackList.find key).map fun before => counted before t).getD first)
        else blackList.find other := by
  cases request with
  | increaseIPAddress ip =>
      cases increases
      exact ⟨firstStatus .ipAddress (.inl key) t, rfl, rfl, rfl,
        fun other => find_increase blackList key other _ t⟩
  | increaseAccount account =>
      cases increases
      exact ⟨firstStatus .account (.inr account) t, rfl, rfl, rfl,
        fun other => find_increase blackList _ other _ t⟩
  | _ => contradiction

theorem call_adds {request : BlackListCall} {key : String} {duration : Nat}
    (adds : request.adds = some (key, duration)) (blackList : BlackList) (t : Int) :
    ∃ first : Status, first.m = ⟨1, (fillForTime t).1⟩ ∧ first.h = ⟨1, (fillForTime t).2⟩ ∧
      ∀ other, (blackList.call request t).find other =
        if other = key then
          some { (blackList.find key).getD first with
            blocked := true, blockUntil := t + duration }
        else blackList.find other := by
  cases request with
  | addIPAddress ip duration =>
      cases adds
      exact ⟨_, rfl, rfl, fun other => find_put blackList _ other _⟩
  | addAccount account duration =>
      cases adds
      exact ⟨_, rfl, rfl, fun other => find_put blackList _ other _⟩
  | _ => contradiction

theorem call_removes {request : BlackListCall} {key : String} (removes : request.removes = some key)
    (blackList : BlackList) (t : Int) (other : String) :
    (blackList.call request t).find other =
      if other = key then none else blackList.find other := by
  cases request with
  | removeIPAddress ip =>
      cases removes
      exact find_remove blackList _ other
  | removeAccount id =>
      cases removes
      exact find_remove blackList _ other
  | _ => contradiction

theorem call_other {request : BlackListCall} {key : String}
    (increases : request.increases ≠ some key) (adds : request.adds.map Prod.fst ≠ some key)
    (removes : request.removes ≠ some key) (blackList : BlackList) (t : Int) :
    (blackList.call request t).find key = blackList.find key := by
  cases request with
  | increaseIPAddress ip =>
      have different : key ≠ ip := fun same => increases (congrArg some same.symm)
      exact (find_increase blackList ip key _ t).trans (if_neg different)
  | increaseAccount account =>
      have different : key ≠ toKey2 account.id := fun same => increases (congrArg some same.symm)
      exact (find_increase blackList _ key _ t).trans (if_neg different)
  | addIPAddress ip duration =>
      have different : key ≠ ip := fun same => adds (congrArg some same.symm)
      exact (find_put blackList _ key _).trans (if_neg different)
  | addAccount account duration =>
      have different : key ≠ toKey2 account.id := fun same => adds (congrArg some same.symm)
      exact (find_put blackList _ key _).trans (if_neg different)
  | removeIPAddress ip =>
      have different : key ≠ ip := fun same => removes (congrArg some same.symm)
      exact (find_remove blackList _ key).trans (if_neg different)
  | removeAccount id =>
      have different : key ≠ toKey2 id := fun same => removes (congrArg some same.symm)
      exact (find_remove blackList _ key).trans (if_neg different)
  | checkIPAddress _ | checkAccount _ | listIPAddresses | listAccounts => rfl

theorem kinds (request : BlackListCall) (key : String) :
    (request.increases = some key ∧ request.adds = none ∧ request.removes = none) ∨
      (∃ duration, request.adds = some (key, duration) ∧ request.increases = none ∧
        request.removes = none) ∨
      (request.removes = some key ∧ request.increases = none ∧ request.adds = none) ∨
      (request.increases ≠ some key ∧ request.adds.map Prod.fst ≠ some key ∧
        request.removes ≠ some key) := by
  cases request with
  | increaseIPAddress ip | increaseAccount account =>
      simp only [BlackListCall.increases, BlackListCall.adds, BlackListCall.removes]
      tauto
  | addIPAddress ip duration | addAccount account duration =>
      simp [BlackListCall.increases, BlackListCall.adds, BlackListCall.removes]
      tauto
  | removeIPAddress ip | removeAccount id =>
      simp only [BlackListCall.increases, BlackListCall.adds, BlackListCall.removes]
      tauto
  | checkIPAddress _ | checkAccount _ | listIPAddresses | listAccounts =>
      simp [BlackListCall.increases, BlackListCall.adds, BlackListCall.removes]

end BlackList

structure RecordCounts (status : BlackList.Status) (times : List Int) (added : Bool) : Prop where
  m : BlackList.Counts status.m BlackList.fiveMinutes (fun t => (BlackList.fillForTime t).1) times
  h : BlackList.Counts status.h BlackList.hour (fun t => (BlackList.fillForTime t).2) times
  blocked : status.blocked = true → added = false →
    ∃ t, 5 ≤ WindowCount.inWindow BlackList.hour t times

structure Counted (history : CountHistory) : Prop where
  past : ∀ key, ∀ t ∈ history.counted key, t ≤ history.now
  absent : ∀ key, history.blackList.find key = none → history.counted key = []
  records : ∀ key status, history.blackList.find key = some status →
    RecordCounts status (history.counted key) (history.added key)

section

variable {history next : CountHistory} {request : BlackListCall} {t : Int}

theorem RecordCounts.first {status : BlackList.Status} {added : Bool}
    (m : status.m = ⟨1, (BlackList.fillForTime t).1⟩)
    (h : status.h = ⟨1, (BlackList.fillForTime t).2⟩)
    (unblocked : status.blocked = true → added ≠ false) : RecordCounts status [t] added where
  m := by
    rw [m]
    exact BlackList.Counts.first _ (fun t => (BlackList.fillForTime t).1) t
  h := by
    rw [h]
    exact BlackList.Counts.first _ (fun t => (BlackList.fillForTime t).2) t
  blocked := fun blocked unadded => absurd unadded (unblocked blocked)

theorem RecordCounts.fiveMinutes_le {status : BlackList.Status} {times : List Int} {added : Bool}
    (counts : RecordCounts status times added) : status.m.count ≤ status.h.count := by
  obtain ⟨last, earlier, rfl, _, _, m⟩ := counts.m
  obtain ⟨_, _, same, _, _, h⟩ := counts.h
  cases same
  rw [m, h]
  exact WindowCount.inWindow_le BlackList.hour_of_fiveMinutes _ _

/-- Another failure: the hour rule fires at the fifth within the hour, and the rule of the five
minutes only with it. -/
theorem RecordCounts.increase {status : BlackList.Status} {times : List Int} {added : Bool}
    (counts : RecordCounts status times added) (latest : ∀ time ∈ times, time ≤ t) :
    RecordCounts (BlackList.counted status t) (t :: times) added ∧
      (BlackList.hourFull status t = true ↔
        5 ≤ WindowCount.inWindow BlackList.hour t (t :: times)) ∧
      (BlackList.minuteFull status t = true → BlackList.hourFull status t = true) := by
  obtain ⟨m, minuteFull⟩ := counts.m.increase BlackList.fiveMinutes_monotone
    BlackList.fiveMinutes_start latest
  obtain ⟨h, hourFull⟩ := counts.h.increase BlackList.hour_monotone BlackList.hour_start latest
  have wider : BlackList.minuteFull status t = true → BlackList.hourFull status t = true := by
    intro full
    exact hourFull.mpr (Nat.le_trans (minuteFull.mp full)
      (WindowCount.inWindow_le BlackList.hour_of_fiveMinutes _ _))
  refine ⟨⟨m, h, fun blocked unadded => ?_⟩, hourFull, wider⟩
  simp only [BlackList.counted, Bool.or_eq_true] at blocked
  rcases blocked with (before | full) | full
  · obtain ⟨time, many⟩ := counts.blocked before unadded
    exact ⟨time, Nat.le_trans many (WindowCount.inWindow_le_cons _ _ _ _)⟩
  · exact ⟨t, hourFull.mp (wider full)⟩
  · exact ⟨t, hourFull.mp full⟩

theorem countStep_eq (stepped : countStep history (request, t) = some next) :
    history.now ≤ t ∧ next.now = t ∧ next.blackList = history.blackList.call request t := by
  simp only [countStep] at stepped
  split at stepped
  · contradiction
  · cases stepped
    exact ⟨by omega, rfl, rfl⟩

theorem countStep_ghost (stepped : countStep history (request, t) = some next) (key : String) :
    next.counted key = (if request.removes = some key then []
        else if request.increases = some key ∨
            request.adds.map Prod.fst = some key ∧ history.blackList.find key = none then
          t :: history.counted key
        else history.counted key) ∧
      next.added key = (if request.removes = some key then false
        else history.added key || decide (request.adds.map Prod.fst = some key)) := by
  simp only [countStep] at stepped
  split at stepped
  · contradiction
  · cases stepped
    exact ⟨rfl, rfl⟩

theorem Counted.past_step (counted : Counted history)
    (stepped : countStep history (request, t) = some next) (key : String) :
    ∀ time ∈ next.counted key, time ≤ next.now := by
  obtain ⟨order, now, _⟩ := countStep_eq stepped
  have before : ∀ time ∈ history.counted key, time ≤ t :=
    fun time member => (counted.past key time member).trans order
  rw [(countStep_ghost stepped key).1, now]
  split
  · exact List.forall_mem_nil _
  · split
    · exact List.forall_mem_cons.mpr ⟨le_rfl, before⟩
    · exact before

theorem Counted.record_step (counted : Counted history)
    (stepped : countStep history (request, t) = some next) (key : String) :
    (next.blackList.find key = none → next.counted key = []) ∧
      ∀ status, next.blackList.find key = some status →
        RecordCounts status (next.counted key) (next.added key) := by
  obtain ⟨order, _, called⟩ := countStep_eq stepped
  obtain ⟨times, added⟩ := countStep_ghost stepped key
  have latest : ∀ time ∈ history.counted key, time ≤ t :=
    fun time member => (counted.past key time member).trans order
  rw [times, added, called]
  rcases BlackList.kinds request key with ⟨increases, noAdd, noRemoval⟩ |
    ⟨duration, adds, noIncrease, noRemoval⟩ | ⟨removes, _, _⟩ | ⟨other, notAdded, notRemoved⟩
  · obtain ⟨first, m, h, unblocked, find⟩ :=
      BlackList.call_increases increases history.blackList t
    simp only [find, if_true, noRemoval, increases, noAdd, Option.map_none, reduceCtorEq,
      if_false, true_or, decide_false, Bool.or_false, Option.some.injEq, forall_eq',
      false_implies, true_and]
    cases found : history.blackList.find key with
    | none =>
        rw [counted.absent key found]
        exact .first m h fun blocked => by simp [unblocked] at blocked
    | some before => exact ((counted.records key before found).increase latest).1
  · obtain ⟨first, m, h, find⟩ := BlackList.call_adds adds history.blackList t
    simp only [find, if_true, noRemoval, noIncrease, adds, Option.map_some, reduceCtorEq, if_false,
      false_or, true_and, decide_true, Bool.or_true, Option.some.injEq, forall_eq', false_implies]
    cases found : history.blackList.find key with
    | none =>
        simp only [if_true, counted.absent key found]
        exact .first m h fun _ unadded => by contradiction
    | some before =>
        have counts := counted.records key before found
        exact ⟨counts.m, counts.h, fun _ unadded => by contradiction⟩
  · simp only [BlackList.call_removes removes history.blackList t key, if_pos removes, if_true,
      implies_true, reduceCtorEq, false_implies, and_self]
  · rw [BlackList.call_other other notAdded notRemoved, if_neg notRemoved, if_neg notRemoved,
      if_neg (by simp [other, notAdded])]
    refine ⟨counted.absent key, fun status found => ?_⟩
    simpa [notAdded] using counted.records key status found

theorem Counted.step (counted : Counted history)
    (stepped : countStep history (request, t) = some next) : Counted next where
  past := counted.past_step stepped
  absent := fun key => (counted.record_step stepped key).1
  records := fun key => (counted.record_step stepped key).2

/-- A key blocked up to some time that is at most an hour ahead. -/
def BlockedUpTo (key : String) (limit : Int) (history : CountHistory) : Prop :=
  limit ≤ history.now + 3600 ∧ ∃ status, history.blackList.find key = some status ∧
    status.blocked = true ∧ limit ≤ status.blockUntil

theorem BlockedUpTo.step {key : String} {limit : Int} (blocked : BlockedUpTo key limit history)
    (counted : Counted history) (stepped : countStep history (request, t) = some next)
    (stays : ¬Resets request key) : BlockedUpTo key limit next := by
  obtain ⟨near, status, found, isBlocked, late⟩ := blocked
  obtain ⟨order, now, called⟩ := countStep_eq stepped
  refine ⟨by omega, ?_⟩
  rw [called]
  simp only [Resets, not_or] at stays
  by_cases increases : request.increases = some key
  · obtain ⟨first, _, _, _, find⟩ := BlackList.call_increases increases history.blackList t
    have latest : ∀ time ∈ history.counted key, time ≤ t :=
      fun time member => (counted.past key time member).trans order
    obtain ⟨_, _, wider⟩ := (counted.records key status found).increase latest
    refine ⟨BlackList.counted status t, by rw [find, if_pos rfl, found]; rfl, ?_, ?_⟩
    · simp [BlackList.counted, isBlocked]
    · simp only [BlackList.counted]
      split
      · omega
      · rename_i notHour
        rw [if_neg fun full => notHour (wider full)]
        exact late
  · exact ⟨status, by rw [BlackList.call_other increases stays.1 stays.2, found], isBlocked, late⟩

theorem BlockedUpTo.run {key : String} {limit : Int} {later : List (BlackListCall × Int)}
    {final : CountHistory} (blocked : BlockedUpTo key limit history) (counted : Counted history)
    (stays : ∀ event ∈ later, ¬Resets event.1 key)
    (ran : Transition.run countStep history later = some final) :
    BlockedUpTo key limit final := by
  induction later generalizing history with
  | nil =>
      cases ran
      exact blocked
  | cons event later ih =>
      obtain ⟨here, rest⟩ := List.forall_mem_cons.mp stays
      obtain ⟨after, stepped, ranLater⟩ := (Transition.run_cons countStep).mp ran
      exact ih (blocked.step counted stepped here) (counted.step stepped) rest ranLater

theorem Counted.fifth (counted : Counted history) {key : String}
    (increases : request.increases = some key)
    (stepped : countStep history (request, t) = some next)
    (many : 5 ≤ WindowCount.inWindow BlackList.hour t (next.counted key)) :
    ∃ status, next.blackList.find key = some status ∧ status.blocked = true ∧
      status.blockUntil = t + 3600 := by
  obtain ⟨order, _, called⟩ := countStep_eq stepped
  have latest : ∀ time ∈ history.counted key, time ≤ t :=
    fun time member => (counted.past key time member).trans order
  have noRemoval : request.removes ≠ some key := fun removes =>
    not_resets_of_increases increases (Or.inr removes)
  have times : next.counted key = t :: history.counted key := by
    rw [(countStep_ghost stepped key).1, if_neg noRemoval, if_pos (Or.inl increases)]
  obtain ⟨first, _, _, _, find⟩ := BlackList.call_increases increases history.blackList t
  rw [times] at many
  rw [called]
  cases found : history.blackList.find key with
  | none =>
      rw [counted.absent key found] at many
      simp [WindowCount.inWindow] at many
  | some before =>
      obtain ⟨_, full, _⟩ := (counted.records key before found).increase latest
      refine ⟨BlackList.counted before t, by rw [find, if_pos rfl, found]; rfl, ?_, ?_⟩
      · simp [BlackList.counted, full.mpr many]
      · simp [BlackList.counted, full.mpr many]

theorem Counted.windows (counted : Counted history) (key : String) :
    CountsWindows history key where
  counts := by
    intro status found
    have record := counted.records key status found
    obtain ⟨last, earlier, times, _, start, m⟩ := record.m
    obtain ⟨_, _, same, _, startHour, h⟩ := record.h
    obtain ⟨rfl, rfl⟩ := List.cons.inj (times.symm.trans same)
    refine ⟨last, earlier, times, fun hours => ?_, m, h, record.fiveMinutes_le⟩
    rw [BlackList.localFillForTime_eq, start, startHour]
  blocks := by
    intro request t next increases stepped many
    obtain ⟨status, found, blocked, ends⟩ := counted.fifth increases stepped many
    obtain ⟨_, now, _⟩ := countStep_eq stepped
    refine ⟨by simp [BlackList.expiry, found, blocked, ends],
      fun later final stays ran check early => ?_⟩
    have upTo : BlockedUpTo key (t + 3600) next := ⟨by omega, status, found, blocked, ends.ge⟩
    obtain ⟨_, after, foundAfter, blockedAfter, late⟩ := upTo.run (counted.step stepped) stays ran
    have expires : final.blackList.expiry key = some after.blockUntil := by
      simp [BlackList.expiry, foundAfter, blockedAfter]
    exact BlackList.check_of_expiry expires (by omega)
  spares := by
    intro unadded few t
    cases found : history.blackList.find key with
    | none => simp [BlackList.check, found]
    | some status =>
        have unblocked : status.blocked = false := by
          by_contra blocked
          obtain ⟨time, many⟩ :=
            (counted.records key status found).blocked (by simpa using blocked) unadded
          exact absurd many (Nat.not_le.mpr (few time))
        simp [BlackList.check, found, unblocked]

end

/-- In every run from an empty black list the counters of every key count their windows. -/
theorem failureCounts_exact (start : Int) (events : List (BlackListCall × Int)) :
    Transition.Throughout countStep (fun history => ∀ key, CountsWindows history key)
      { now := start } events := by
  have initially : Counted { now := start } :=
    ⟨fun _ => List.forall_mem_nil _, fun _ _ => rfl, fun key status found => by cases found⟩
  have kept : Transition.Throughout countStep Counted { now := start } events :=
    Transition.Throughout.of_step countStep
      (fun history event next counted stepped => counted.step stepped) initially
  exact kept.mono countStep fun history counted key => counted.windows key

end EasyViewer
