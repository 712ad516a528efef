import EasyViewer.BlackList
import EasyViewer.Library.Run
import Mathlib.Data.List.Basic

/-!
Blocks over runs of `BlackList`. Manual additions and both failure rules write the one
expiry of a record: a failure can bring the expiry of a manual block forward.
-/

namespace EasyViewer

inductive BlackListCall where
  | addIPAddress (ip : String) (duration : Nat)
  | addAccount (account : Account) (duration : Nat)
  | increaseIPAddress (ip : String)
  | increaseAccount (account : Account)
  | checkIPAddress (ip : String)
  | checkAccount (id : UserId)
  | removeIPAddress (ip : String)
  | removeAccount (id : UserId)
  | listIPAddresses
  | listAccounts

namespace BlackListCall

def adds : BlackListCall → Option (String × Nat)
  | .addIPAddress ip duration => some (ip, duration)
  | .addAccount account duration => some (BlackList.toKey2 account.id, duration)
  | _ => none

def increases : BlackListCall → Option String
  | .increaseIPAddress ip => some ip
  | .increaseAccount account => some (BlackList.toKey2 account.id)
  | _ => none

def removes : BlackListCall → Option String
  | .removeIPAddress ip => some ip
  | .removeAccount id => some (BlackList.toKey2 id)
  | _ => none

end BlackListCall

namespace BlackList

def call (blackList : BlackList) (request : BlackListCall) (t : Int) : BlackList :=
  match request with
  | .addIPAddress ip duration => blackList.addIPAddress ip duration t
  | .addAccount account duration => blackList.addAccount account duration t
  | .increaseIPAddress ip => blackList.increaseIPAddress ip t
  | .increaseAccount account => blackList.increaseAccount account t
  | .removeIPAddress ip => blackList.removeIPAddress ip
  | .removeAccount id => blackList.removeAccount id
  | .checkIPAddress _ | .checkAccount _ | .listIPAddresses | .listAccounts => blackList

def expiry (blackList : BlackList) (key : String) : Option Int :=
  (blackList.find key).bind fun status =>
    if status.blocked then some status.blockUntil else none

def minuteFull (status : Status) (t : Int) : Bool := (increaseCount status.m (fillForTime t).1).2

def hourFull (status : Status) (t : Int) : Bool := (increaseCount status.h (fillForTime t).2).2

def counted (before : Status) (t : Int) : Status where
  type := before.type
  target := before.target
  m := (increaseCount before.m (fillForTime t).1).1
  h := (increaseCount before.h (fillForTime t).2).1
  blocked := before.blocked || minuteFull before t || hourFull before t
  blockUntil :=
    if hourFull before t then t + 3600
    else if minuteFull before t then t + 300
    else before.blockUntil

end BlackList

/-- A black list with, for each key, the expiry of its last manual addition and the latest
expiry it has had, both since it was last removed or manually added. -/
structure BlockHistory where
  blackList : BlackList := {}
  now : Int
  manual : String → Option Int := fun _ => none
  peak : String → Option Int := fun _ => none

def latest : Option Int → Option Int → Option Int
  | some first, some second => some (if first ≤ second then second else first)
  | some first, none => some first
  | none, second => second

/-- A call with the time it is made at, which is never before the last one. -/
def blockStep (history : BlockHistory) (event : BlackListCall × Int) : Option BlockHistory :=
  let (request, t) := event
  if t < history.now then none
  else
    let next := history.blackList.call request t
    some {
      blackList := next
      now := t
      manual := fun key =>
        match request.adds with
        | some (added, duration) => if added = key then some (t + duration) else history.manual key
        | none => if request.removes = some key then none else history.manual key
      peak := fun key =>
        if request.adds.map Prod.fst = some key ∨ request.removes = some key then next.expiry key
        else latest (history.peak key) (next.expiry key) }

/-- No expiry is before the latest one the key has had, and the key is refused up to the
expiry of its manual addition. -/
def BlocksKept (history : BlockHistory) : Prop :=
  ∀ key, (∀ peak, history.peak key = some peak →
      ∃ expiry, history.blackList.expiry key = some expiry ∧ peak ≤ expiry) ∧
    ∀ expiry t, history.manual key = some expiry → t ≤ expiry →
      history.blackList.check key t = false

/-- A failure whose rule fires does not find the key blocked for longer than the rule does. -/
def ExtendsBlock (history : BlockHistory) (event : BlackListCall × Int) : Prop :=
  ∀ key status, event.1.increases = some key → history.blackList.find key = some status →
    status.blocked = true →
      if BlackList.hourFull status event.2 then status.blockUntil ≤ event.2 + 3600
      else BlackList.minuteFull status event.2 = true → status.blockUntil ≤ event.2 + 300

namespace BlackList

theorem lookup_entry (first other : String) (status : Status) (statuses : List (String × Status)) :
    ((first, status) :: statuses).lookup other =
      if other = first then some status else statuses.lookup other := by
  by_cases same : other = first
  · simp [same]
  · simp [List.lookup_cons, same, beq_eq_false_iff_ne.mpr same]

theorem lookup_place (key other : String) (status : Status) (statuses : List (String × Status)) :
    (place key status statuses).lookup other =
      if other = key then some status else statuses.lookup other := by
  induction statuses with
  | nil => rw [place, lookup_entry]
  | cons entry statuses ih =>
      obtain ⟨first, before⟩ := entry
      simp only [place]
      split
      · rename_i same
        subst same
        simp only [lookup_entry]
        split <;> rfl
      · split
        · rw [lookup_entry]
        · rename_i different _
          simp only [lookup_entry, ih]
          by_cases found : other = first
          · have notKey : first ≠ key := fun same => different same.symm
            rw [found, if_pos rfl, if_neg notKey, if_pos rfl]
          · simp only [if_neg found]

theorem find_put (blackList : BlackList) (key other : String) (status : Status) :
    (blackList.put key status).find other =
      if other = key then some status else blackList.find other :=
  lookup_place key other status blackList.statuses

theorem increase_eq (blackList : BlackList) (key : String) (status : Status) (t : Int) :
    blackList.increase key status t =
      blackList.put key (((blackList.find key).map fun before => counted before t).getD status) := by
  simp only [increase]
  cases blackList.find key with
  | none => rfl
  | some before =>
      simp only [counted, minuteFull, hourFull, Option.map_some, Option.getD_some]
      by_cases hour : (increaseCount before.h (fillForTime t).2).2 = true
      · by_cases minute : (increaseCount before.m (fillForTime t).1).2 = true
        · simp [hour, minute]
        · simp [hour, minute]
      · by_cases minute : (increaseCount before.m (fillForTime t).1).2 = true
        · simp [hour, minute]
        · simp [hour, minute]

theorem find_increase (blackList : BlackList) (key other : String) (status : Status) (t : Int) :
    (blackList.increase key status t).find other =
      if other = key then
        some (((blackList.find key).map fun before => counted before t).getD status)
      else blackList.find other := by
  rw [increase_eq, find_put]

theorem find_remove (blackList : BlackList) (key other : String) :
    (blackList.remove key).find other = if other = key then none else blackList.find other := by
  simp only [find, remove]
  induction blackList.statuses with
  | nil => simp
  | cons entry statuses ih =>
      obtain ⟨first, before⟩ := entry
      by_cases removed : first = key
      · rw [List.filter_cons_of_neg (by simpa using removed), ih, lookup_entry, removed]
        split <;> rfl
      · rw [List.filter_cons_of_pos (by simpa using removed), lookup_entry, ih, lookup_entry]
        by_cases same : other = first
        · rw [same, if_pos rfl, if_neg removed, if_pos rfl]
        · simp only [if_neg same]

theorem expiry_add (blackList : BlackList) (key other : String) (status : Status) (until_ : Int) :
    (blackList.add key status until_).expiry other =
      if other = key then some until_ else blackList.expiry other := by
  simp only [expiry, add, find_put]
  split <;> simp

theorem expiry_remove (blackList : BlackList) (key other : String) :
    (blackList.remove key).expiry other = if other = key then none else blackList.expiry other := by
  simp only [expiry, find_remove]
  split <;> simp

theorem expiry_increase (blackList : BlackList) (key other : String) (first : Status) (t : Int)
    (unblocked : first.blocked = false) :
    (blackList.increase key first t).expiry other =
      if other = key then
        (blackList.find key).bind fun status =>
          if hourFull status t then some (t + 3600)
          else if minuteFull status t then some (t + 300)
          else if status.blocked then some status.blockUntil
          else none
      else blackList.expiry other := by
  simp only [expiry, find_increase]
  by_cases same : other = key
  · simp only [if_pos same, Option.bind_some]
    cases blackList.find key with
    | none => simp [unblocked]
    | some before =>
        simp only [Option.map_some, Option.getD_some, Option.bind_some, counted]
        by_cases hour : hourFull before t = true
        · simp [hour]
        · by_cases minute : minuteFull before t = true
          · simp [hour, minute]
          · simp [hour, minute]
  · simp only [if_neg same]

theorem check_of_expiry {blackList : BlackList} {key : String} {expiry t : Int}
    (blocked : blackList.expiry key = some expiry) (early : t ≤ expiry) :
    blackList.check key t = false := by
  simp only [BlackList.expiry, Option.bind_eq_some_iff] at blocked
  obtain ⟨status, found, until_⟩ := blocked
  split at until_
  · rename_i isBlocked
    cases until_
    simp [check, found, isBlocked, early]
  · contradiction

theorem expiry_call (blackList : BlackList) (request : BlackListCall) (t : Int) (key : String) :
    (blackList.call request t).expiry key =
      if request.removes = some key then none
      else
        match request.adds with
        | some (added, duration) =>
            if key = added then some (t + duration) else blackList.expiry key
        | none =>
            if request.increases = some key then
              (blackList.find key).bind fun status =>
                if hourFull status t then some (t + 3600)
                else if minuteFull status t then some (t + 300)
                else if status.blocked then some status.blockUntil
                else none
            else blackList.expiry key := by
  cases request with
  | addIPAddress ip duration =>
      simp [call, addIPAddress, expiry_add, BlackListCall.removes, BlackListCall.adds]
  | addAccount account duration =>
      simp [call, addAccount, expiry_add, BlackListCall.removes, BlackListCall.adds]
  | increaseIPAddress ip =>
      simp only [call, increaseIPAddress, BlackListCall.removes, BlackListCall.adds,
        BlackListCall.increases]
      rw [expiry_increase _ _ _ _ _ rfl]
      by_cases same : key = ip
      · simp [same]
      · simp [same, Ne.symm same]
  | increaseAccount account =>
      simp only [call, increaseAccount, BlackListCall.removes, BlackListCall.adds,
        BlackListCall.increases]
      rw [expiry_increase _ _ _ _ _ rfl]
      by_cases same : key = toKey2 account.id
      · simp [same]
      · simp [same, Ne.symm same]
  | removeIPAddress ip =>
      simp only [call, removeIPAddress, expiry_remove, BlackListCall.removes, BlackListCall.adds,
        BlackListCall.increases, Option.some.injEq, eq_comm]
      simp
  | removeAccount id =>
      simp only [call, removeAccount, expiry_remove, BlackListCall.removes, BlackListCall.adds,
        BlackListCall.increases, Option.some.injEq, eq_comm]
      simp
  | checkIPAddress ip =>
      simp [call, BlackListCall.removes, BlackListCall.adds, BlackListCall.increases]
  | checkAccount id =>
      simp [call, BlackListCall.removes, BlackListCall.adds, BlackListCall.increases]
  | listIPAddresses =>
      simp [call, BlackListCall.removes, BlackListCall.adds, BlackListCall.increases]
  | listAccounts =>
      simp [call, BlackListCall.removes, BlackListCall.adds, BlackListCall.increases]

end BlackList

def Covers (after before : Option Int) : Prop :=
  ∀ early, before = some early → ∃ late, after = some late ∧ early ≤ late

theorem Covers.refl (expiry : Option Int) : Covers expiry expiry :=
  fun early blocked => ⟨early, blocked, Int.le_refl _⟩

theorem Covers.trans {first second third : Option Int} (upper : Covers first second)
    (lower : Covers second third) : Covers first third := by
  intro early blocked
  obtain ⟨middle, isMiddle, before⟩ := lower early blocked
  obtain ⟨late, isLate, after⟩ := upper middle isMiddle
  exact ⟨late, isLate, Int.le_trans before after⟩

theorem latest_covers (first second : Option Int) :
    Covers (latest first second) first ∧ Covers (latest first second) second := by
  constructor <;> intro early blocked <;> subst blocked
  · cases second with
    | none => exact ⟨early, rfl, Int.le_refl _⟩
    | some later =>
        refine ⟨_, rfl, ?_⟩
        split <;> omega
  · cases first with
    | none => exact ⟨early, rfl, Int.le_refl _⟩
    | some later =>
        refine ⟨_, rfl, ?_⟩
        split <;> omega

theorem covers_latest {first second : Option Int} :
    Covers second (latest first second) ↔ Covers second first := by
  constructor
  · exact fun covers => covers.trans (latest_covers first second).1
  · intro covers early blocked
    cases first with
    | none => exact ⟨early, blocked, Int.le_refl _⟩
    | some former =>
        obtain ⟨late, rfl, before⟩ := covers former rfl
        refine ⟨late, rfl, ?_⟩
        simp only [latest, if_pos before, Option.some.injEq] at blocked
        omega

def PeaksCover (history : BlockHistory) : Prop :=
  ∀ key, Covers (history.peak key) (history.blackList.expiry key) ∧
    Covers (history.peak key) (history.manual key)

theorem PeaksCover.kept_iff {history : BlockHistory} (cover : PeaksCover history) :
    BlocksKept history ↔ ∀ key, Covers (history.blackList.expiry key) (history.peak key) := by
  constructor
  · exact fun kept key => (kept key).1
  · refine fun covers key => ⟨covers key, fun expiry t added early => ?_⟩
    obtain ⟨late, blocked, after⟩ := (covers key).trans (cover key).2 expiry added
    exact BlackList.check_of_expiry blocked (Int.le_trans early after)

section

variable {history next : BlockHistory} {event : BlackListCall × Int}

def Resets (request : BlackListCall) (key : String) : Prop :=
  request.adds.map Prod.fst = some key ∨ request.removes = some key

theorem blockStep_blackList (stepped : blockStep history event = some next) :
    next.blackList = history.blackList.call event.1 event.2 := by
  simp only [blockStep] at stepped
  split at stepped
  · contradiction
  · cases stepped
    rfl

theorem blockStep_peak (stepped : blockStep history event = some next) (key : String) :
    (Resets event.1 key → next.peak key = next.blackList.expiry key) ∧
      (¬ Resets event.1 key → next.manual key = history.manual key ∧
        next.peak key = latest (history.peak key) (next.blackList.expiry key)) := by
  simp only [blockStep] at stepped
  split at stepped
  · contradiction
  · cases stepped
    refine ⟨fun resets => if_pos resets, fun stays => ⟨?_, if_neg stays⟩⟩
    simp only [Resets, not_or] at stays
    obtain ⟨notAdded, notRemoved⟩ := stays
    cases added : event.1.adds with
    | none => simp only [if_neg notRemoved]
    | some entry =>
        rw [added, Option.map_some, Option.some.injEq] at notAdded
        simp only [if_neg notAdded]

theorem blockStep_reset (stepped : blockStep history event = some next) {key : String}
    (resets : Resets event.1 key) :
    Covers (next.blackList.expiry key) (next.manual key) := by
  have called := blockStep_blackList stepped
  have expiry := BlackList.expiry_call history.blackList event.1 event.2 key
  rw [← called] at expiry
  simp only [blockStep] at stepped
  split at stepped
  · contradiction
  · cases stepped
    obtain ⟨request, t⟩ := event
    simp only [Resets] at resets
    intro early added
    cases request <;> simp_all [BlackListCall.adds, BlackListCall.removes]

theorem PeaksCover.step (cover : PeaksCover history)
    (stepped : blockStep history event = some next) : PeaksCover next := by
  intro key
  obtain ⟨reset, stays⟩ := blockStep_peak stepped key
  by_cases resets : Resets event.1 key
  · rw [reset resets]
    exact ⟨Covers.refl _, blockStep_reset stepped resets⟩
  · obtain ⟨manual, peak⟩ := stays resets
    rw [manual, peak]
    exact ⟨(latest_covers _ _).2, (latest_covers _ _).1.trans (cover key).2⟩

theorem not_resets_of_increases {request : BlackListCall} {key other : String}
    (increases : request.increases = some key) : ¬ Resets request other := by
  cases request <;> simp_all [BlackListCall.increases, Resets, BlackListCall.adds,
    BlackListCall.removes]

theorem expiry_call_increases {key : String} (increases : event.1.increases = some key)
    {status : BlackList.Status} (found : history.blackList.find key = some status)
    (blocked : status.blocked = true) :
    (history.blackList.call event.1 event.2).expiry key = some (
      if BlackList.hourFull status event.2 then event.2 + 3600
      else if BlackList.minuteFull status event.2 then event.2 + 300
      else status.blockUntil) := by
  have stays := @not_resets_of_increases _ _ key increases
  simp only [Resets, not_or] at stays
  have noAdd : event.1.adds = none := by
    cases request : event.1 <;> simp_all [BlackListCall.increases, BlackListCall.adds]
  rw [BlackList.expiry_call, if_neg stays.2, noAdd]
  simp only [if_pos increases, found, Option.bind_some, if_pos blocked]
  split
  · rfl
  · split <;> rfl

theorem extendsBlock_iff (history : BlockHistory) (event : BlackListCall × Int) :
    ExtendsBlock history event ↔ ∀ key, ¬ Resets event.1 key →
      Covers ((history.blackList.call event.1 event.2).expiry key)
        (history.blackList.expiry key) := by
  constructor
  · intro extends_ key stays early blocked
    by_cases increases : event.1.increases = some key
    · have record := blocked
      simp only [BlackList.expiry, Option.bind_eq_some_iff] at record
      obtain ⟨status, found, ends⟩ := record
      split at ends
      · rename_i isBlocked
        cases ends
        refine ⟨_, expiry_call_increases increases found isBlocked, ?_⟩
        have longer := extends_ key status increases found isBlocked
        split
        · rename_i hour
          rwa [if_pos hour] at longer
        · rename_i hour
          rw [if_neg hour] at longer
          split
          · exact longer ‹_›
          · exact Int.le_refl _
      · contradiction
    · refine ⟨early, ?_, Int.le_refl _⟩
      simp only [Resets, not_or] at stays
      rw [BlackList.expiry_call, if_neg stays.2, ← blocked]
      cases added : event.1.adds with
      | none => exact if_neg increases
      | some entry =>
          have other : key ≠ entry.1 := by
            rintro rfl
            exact stays.1 (by rw [added, Option.map_some])
          exact if_neg other
  · intro covers key status increases found blocked
    have before : history.blackList.expiry key = some status.blockUntil := by
      simp [BlackList.expiry, found, blocked]
    obtain ⟨late, after, longer⟩ :=
      covers key (not_resets_of_increases increases) status.blockUntil before
    rw [expiry_call_increases increases found blocked, Option.some.injEq] at after
    subst after
    split
    · rename_i hour
      rwa [if_pos hour] at longer
    · rename_i hour
      intro minute
      rwa [if_neg hour, if_pos minute] at longer

theorem blocksKept_step_iff (cover : PeaksCover history) (kept : BlocksKept history)
    (stepped : blockStep history event = some next) :
    BlocksKept next ↔ ExtendsBlock history event := by
  rw [(cover.step stepped).kept_iff, extendsBlock_iff, ← blockStep_blackList stepped]
  have before := cover.kept_iff.mp kept
  constructor
  · intro covers key stays
    have now := covers key
    rw [((blockStep_peak stepped key).2 stays).2, covers_latest] at now
    exact now.trans (cover key).1
  · intro grows key
    obtain ⟨reset, stays⟩ := blockStep_peak stepped key
    by_cases resets : Resets event.1 key
    · rw [reset resets]
      exact Covers.refl _
    · rw [(stays resets).2, covers_latest]
      exact (grows key resets).trans (before key)

end

/-- In every run from an empty black list no block is ever shortened just when no failure's
rule fires on a key that is blocked for longer. -/
theorem blocks_kept_iff (start : Int) (events : List (BlackListCall × Int)) :
    Transition.Throughout blockStep BlocksKept { now := start } events ↔
      Transition.Happening blockStep ExtendsBlock { now := start } events := by
  refine Transition.Throughout.iff_happening blockStep PeaksCover ?_ ?_ ?_
  · intro history event next cover kept stepped
    exact ⟨cover.step stepped, blocksKept_step_iff cover kept stepped⟩
  · intro key
    exact ⟨fun early blocked => (by cases blocked), fun early added => (by cases added)⟩
  · intro key
    exact ⟨fun early blocked => (by cases blocked), fun early t added => (by cases added)⟩

/-- Four failures are counted when the address is blocked for a day; the failure that was on
its way ends the block after an hour. -/
theorem fifthFailure_shortens : ¬ Transition.Throughout blockStep BlocksKept { now := 0 }
    [(.increaseIPAddress "a", 0), (.increaseIPAddress "a", 1), (.increaseIPAddress "a", 2),
      (.increaseIPAddress "a", 3), (.addIPAddress "a" 86400, 10),
      (.increaseIPAddress "a", 11)] := by
  intro kept
  have last := (kept.final blockStep rfl "a").2 86410 86410 rfl (Int.le_refl _)
  revert last
  decide

end EasyViewer
